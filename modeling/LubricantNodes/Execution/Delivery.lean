import LubricantNodes.Transition.Channel
import LubricantNodes.Execution.Places
import LubricantNodes.Execution.Output

/-!
# Delivery of inputs

What reaches the stdin of the runtimes, and in what order.

`pendingInputs` with the drain loop behind it is a channel that may lose
inputs, to reported failures, but keeps them in order.  The dedupe key of an
input is released when the input is reported failed, whatever its kind; if only
user turns release keys, no message is written twice.

The drain loop writes as soon as the executor has its stdin.  If it takes
inputs only once the start frame is written, every process reads its start
frame first and sequence numbers that increase.
-/

namespace LubricantNodes.Execution

open Transition List

/-- The input whose dedupe key a goroutine has released and whose failure it has
not emitted yet. -/
def Reporter.unkeyed (reporter : Reporter) : Option Nat :=
  if reporter.released then reporter.todo.head?.map Prod.fst else none

namespace Inbox

variable {inbox inbox' : Inbox} {event : Event}

/-! ## In order -/

/-- The inbox as a channel of inputs. -/
def channel (inbox : Inbox) : Channel Nat where
  sent := inbox.appended
  transit := inbox.drainer.held ++ inbox.pending
  received := inbox.log.filterMap Entry.writing

theorem channel_eq (appended : inbox'.appended = inbox.appended)
    (drainer : inbox'.drainer = inbox.drainer) (pending : inbox'.pending = inbox.pending)
    (log : inbox'.log = inbox.log) : inbox'.channel = inbox.channel := by
  simp only [channel, appended, drainer, pending, log]

/-- A step of the inbox does at most one thing to the channel. -/
theorem channel_step (step : inbox.step event = some inbox') : inbox'.channel = inbox.channel ∨
      ∃ taken, inbox.channel.step taken = some inbox'.channel := by
  cases moves step with
  | @enqueue ticket =>
    exact .inr ⟨.send ticket, by simp [Channel.step, channel, move]⟩
  | write held =>
    refine .inr ⟨.receive, ?_⟩
    simp [Channel.step, channel, held, Drainer.held, Entry.writing, move, setExecutor]
  | deliverUnknown held | writeClosed held | writeFailed held =>
    refine .inr ⟨.lose inbox.pending, ?_⟩
    simp [Channel.step, channel, guarded, held, Drainer.held, fail, move]
  | checkClosed top =>
    refine .inr ⟨.lose [], ?_⟩
    simp [Channel.step, channel, guarded, Drainer.held, failPending, fail, move]
  | sweep =>
    refine .inr ⟨.lose inbox.drainer.held, ?_⟩
    simp [Channel.step, channel, guarded, failPending, fail, move]
  | checkPop top _ pending => exact .inl (by simp [channel, top, pending, Drainer.held, move])
  | writeDetached held => exact .inl (by simp [channel, held, Drainer.held, move])
  | deliver before | lockDispatch before | lockRun before | checkEmpty before
  | checkNoStream before | checkDetached before | closeRacing before | reported before
  | failed before =>
    exact .inl (by simp [channel, before, Drainer.held, setExecutor])
  | replay | emit => exact .inl (by simp [channel, Entry.writing, move])
  | ack =>
    refine .inl ?_
    simp only [channel]
    split_ifs <;> simp [Entry.writing]
  | _ => exact .inl (channel_eq rfl rfl rfl rfl)

variable {ok : Discipline Inbox Event} {reason : FailReason} {rest : List (Nat × FailReason)}

theorem reaches_channel (reached : Reaches Inbox.step ok new inbox) :
    Reaches Channel.step unrestricted Channel.new inbox.channel := by
  refine reached.project channel fun _ step => ?_
  rcases channel_step step with same | ⟨taken, moved⟩
  · rw [same]
    exact .refl
  · exact .single moved trivial

/-- Tickets join the queue in the order of their arrival. -/
structure InOrder (inbox : Inbox) : Prop where
  increasing : inbox.appended.Pairwise (· < ·)
  arrived : ∀ ticket ∈ inbox.appended, ticket < inbox.arrivals
  next : ∀ ticket, inbox.delivery = .arrived ticket ∨ inbox.delivery = .reserved ticket →
    ticket < inbox.arrivals ∧ ∀ earlier ∈ inbox.appended, earlier < ticket

theorem inOrder_step (inOrder : InOrder inbox) (step : inbox.step event = some inbox') :
    InOrder inbox' := by
  obtain ⟨increasing, arrived, next⟩ := inOrder
  cases moves step with
  | arrive =>
    refine ⟨increasing, fun ticket mem => Nat.lt_succ_of_lt (arrived ticket mem), ?_⟩
    rintro _ (⟨⟨⟩⟩ | ⟨⟨⟩⟩)
    exact ⟨Nat.lt_succ_self _, arrived⟩
  | reserve before | forward before =>
    refine ⟨increasing, arrived, ?_⟩
    rintro _ (⟨⟨⟩⟩ | ⟨⟨⟩⟩)
    exact next _ (.inl before)
  | enqueue before =>
    obtain ⟨below, above⟩ := next _ (.inr before)
    refine ⟨?_, fun earlier mem => ?_, by rintro _ (⟨⟨⟩⟩ | ⟨⟨⟩⟩)⟩
    · exact pairwise_append.mpr ⟨increasing, pairwise_singleton _ _, by simpa using above⟩
    · rcases mem_append.mp mem with old | new
      · exact arrived earlier old
      · rw [mem_singleton.mp new]
        exact below
  | replay | reject | ack | finishRejecting | finishDraining | lockDispatch =>
    exact ⟨increasing, arrived, by rintro _ (⟨⟨⟩⟩ | ⟨⟨⟩⟩)⟩
  | _ => exact ⟨increasing, arrived, next⟩

theorem inOrder_of_reaches (reached : Reaches Inbox.step ok new inbox) : InOrder inbox := by
  refine reached.invariant ⟨List.Pairwise.nil, nofun, ?_⟩ fun _ inOrder _ step =>
    inOrder_step inOrder step
  rintro _ (⟨⟨⟩⟩ | ⟨⟨⟩⟩)

/-! ## At most once -/

/-- The input is on its way to a runtime or has got there. -/
def outstanding : Place → Bool
  | .reserved => true
  | .queued => true
  | .popped => true
  | .written => true
  | _ => false

/-- The input is a user turn with a message id whose dedupe key is taken: it is
outstanding, or it has failed and its key is not released yet. -/
def Holds (inbox : Inbox) (ticket : Nat) : Prop :=
  (inbox.input ticket).dedupes = true ∧
    (outstanding (inbox.place ticket) = true ∨
      ∃ goroutine, inbox.place ticket = .failing goroutine ∧
        (inbox.reporter goroutine).unkeyed ≠ some ticket)

variable {goroutine : Goroutine} {ticket : Nat}

/-- A key is released for good: an input whose key is taken after a step had it
before. -/
theorem unkeyed_of_step (placed : Placed inbox) (step : inbox.step event = some inbox')
    (before : inbox.place ticket = .failing goroutine)
    (after : inbox'.place ticket = .failing goroutine)
    (keyed : (inbox'.reporter goroutine).unkeyed ≠ some ticket) :
    (inbox.reporter goroutine).unkeyed ≠ some ticket := by
  have listed : ticket ∈ (inbox.reporter goroutine).todo.map Prod.fst :=
    ((placed.agrees (.failing goroutine) _ rfl).2 ticket).mp before
  have grows {reporting : Goroutine} {tickets : List Nat} {reason : FailReason}
      (keyed : ((inbox.fail reporting tickets reason).reporter goroutine).unkeyed ≠ some ticket) :
      (inbox.reporter goroutine).unkeyed ≠ some ticket := by
    by_cases same : goroutine = reporting
    · subst same
      obtain ⟨first, rest, todo⟩ : ∃ first rest, (inbox.reporter goroutine).todo = first :: rest :=
        exists_cons_of_ne_nil (by rintro empty; simp [empty] at listed)
      simpa [fail, Reporter.unkeyed, todo] using keyed
    · simpa [fail, Function.update_of_ne same] using keyed
  cases moves step with
  | reject | checkClosed | deliverUnknown | writeClosed | writeFailed | sweep => exact grows keyed
  | @skip reporting _ _ _ held | @release reporting _ _ _ held =>
    by_cases same : goroutine = reporting
    · subst same
      simp [held, Reporter.unkeyed]
    · simpa [Function.update_of_ne same] using keyed
  | @emit reporting first _ _ held =>
    by_cases same : goroutine = reporting
    · subst same
      rintro unkeyed
      obtain rfl : first = ticket := by simpa [held, Reporter.unkeyed] using unkeyed
      simp [move] at after
    · simpa [Function.update_of_ne same] using keyed
  | _ => exact keyed

/-- What a step does to the dedupe keys. -/
inductive KeyChange (inbox : Inbox) (event : Event) (seen : String → Bool) : Prop
  | kept : seen = inbox.seen → KeyChange inbox event seen
  | taken {ticket : Nat} : inbox.delivery = .arrived ticket →
      inbox.seen (inbox.input ticket).messageKey = false →
      seen = mark inbox.seen (inbox.input ticket).messageKey true →
      KeyChange inbox event seen
  | released {goroutine : Goroutine} {ticket : Nat} {reason : FailReason}
      {rest : List (Nat × FailReason)} : event = .release goroutine →
      inbox.reporter goroutine = ⟨(ticket, reason) :: rest, false⟩ →
      (inbox.input ticket).messageId ≠ "" →
      seen = mark inbox.seen (inbox.input ticket).messageKey false →
      KeyChange inbox event seen

theorem keyChange_of_step (step : inbox.step event = some inbox') :
    KeyChange inbox event inbox'.seen := by
  cases moves step with
  | reserve arrived _ unseen =>
    dsimp only
    exact .taken arrived unseen rfl
  | release held identified =>
    dsimp only
    exact .released rfl held identified rfl
  | _ => exact .kept rfl

/-- Only an input that is being checked for a replay becomes outstanding. -/
theorem Passes.outstanding_cases {source target : Place}
    (passes : Passes inbox event ticket source target)
    (live : outstanding target = true ∨ ∃ goroutine, target = .failing goroutine) :
    outstanding source = true ∨ source = .arrived ∧ event = .dedupe ∧
        ((inbox.input ticket).dedupes = true →
          inbox.seen (inbox.input ticket).messageKey = false) := by
  cases passes with
  | reserve dedupe unseen => exact .inr ⟨rfl, dedupe, unseen⟩
  | arrive | replay | skip | emit => simp [outstanding] at live
  | _ => exact .inl rfl

/-- A user turn that gets past the check with a free key takes it. -/
theorem seen_of_dedupe (step : inbox.step .dedupe = some inbox')
    (arrived : inbox.delivery = .arrived ticket) (dedupes : (inbox.input ticket).dedupes = true)
    (unseen : inbox.seen (inbox.input ticket).messageKey = false) :
    inbox'.seen = mark inbox.seen (inbox.input ticket).messageKey true := by
  simp only [Inbox.step, Inbox.dedupe, arrived, dedupes, unseen, if_true, Bool.false_eq_true,
    if_false, Option.some.injEq] at step
  rw [← step]

/-- A key is taken by an input that arrives while it is free. -/
theorem holds_of_step (placed : Placed inbox) (step : inbox.step event = some inbox')
    (holds : Holds inbox' ticket) :
    inbox'.input ticket = inbox.input ticket ∧ (Holds inbox ticket ∨
        inbox.delivery = .arrived ticket ∧ inbox.seen (inbox.input ticket).messageKey = false ∧
          inbox'.seen = mark inbox.seen (inbox.input ticket).messageKey true) := by
  obtain ⟨dedupes, held⟩ := holds
  have live : outstanding (inbox'.place ticket) = true ∨
      ∃ goroutine, inbox'.place ticket = .failing goroutine :=
    held.imp_right fun ⟨goroutine, failing, _⟩ => ⟨goroutine, failing⟩
  have passes := passes_of_step placed step ticket
  have present : inbox.place ticket ≠ .absent := by
    intro absent
    rw [absent] at passes
    rcases passes with same | passes
    · simp [same, outstanding] at live
    · simp [passes.of_absent.2.2, outstanding] at live
  have same := input_of_step step (placed.lt_arrivals present)
  rw [same] at dedupes
  refine ⟨same, ?_⟩
  rcases passes with stays | passes
  · refine .inl ⟨dedupes, ?_⟩
    rw [← stays]
    refine held.imp_right fun ⟨goroutine, failing, keyed⟩ => ⟨goroutine, failing, ?_⟩
    exact unkeyed_of_step placed step (stays.symm.trans failing) failing keyed
  rcases passes.outstanding_cases live with outstanding | ⟨arrived, rfl, unseen⟩
  · exact .inl ⟨dedupes, .inl outstanding⟩
  · have delivery := placed.delivery_of_arrived arrived
    have free := unseen dedupes
    exact .inr ⟨delivery, free, seen_of_dedupe step delivery dedupes free⟩

/-- Dedupe keys are deleted only for user turns. -/
def releasesHuman (inbox : Inbox) : Event → Bool
  | .release goroutine =>
    (inbox.reporter goroutine).todo.head?.all fun failing =>
      (inbox.input failing.1).messageId = "" || (inbox.input failing.1).human
  | _ => true

/-- An input that holds its key has it entered, and no other input holds it. -/
structure Keyed (inbox : Inbox) : Prop where
  seen : ∀ ticket, Holds inbox ticket → inbox.seen (inbox.input ticket).messageKey = true
  unique : ∀ first second, Holds inbox first → Holds inbox second →
    (inbox.input first).messageKey = (inbox.input second).messageKey → first = second

section Release

variable (placed : Placed inbox)
  (held : inbox.reporter goroutine = ⟨(ticket, reason) :: rest, false⟩)
  (identified : (inbox.input ticket).messageId ≠ "")

include placed held identified

/-- The input whose key is about to be released holds it. -/
theorem holds_of_release
    (allowed : releasesHuman inbox (.release goroutine) = true) : Holds inbox ticket := by
  have human : (inbox.input ticket).human = true := by
    simpa [releasesHuman, held, identified] using allowed
  have failing : inbox.place ticket = .failing goroutine :=
    ((placed.agrees (.failing goroutine) _ rfl).2 ticket).mpr (by simp [held])
  exact ⟨by simp [SessionInput.dedupes, identified, human],
    .inr ⟨goroutine, failing, by simp [held, Reporter.unkeyed]⟩⟩

/-- It does not hold it any more afterwards. -/
theorem not_holds_of_release
    (step : inbox.step (.release goroutine) = some inbox') : ¬Holds inbox' ticket := by
  have failing : inbox.place ticket = .failing goroutine :=
    ((placed.agrees (.failing goroutine) _ rfl).2 ticket).mpr (by simp [held])
  rintro ⟨-, holds⟩
  cases moves step with
  | skip before blank =>
    cases held.symm.trans before
    exact identified blank
  | release before =>
    cases held.symm.trans before
    rcases holds with live | ⟨reporting, there, keyed⟩
    · dsimp only at live
      rw [failing] at live
      cases live
    · cases failing.symm.trans there
      simp [Reporter.unkeyed] at keyed

end Release

theorem keyed_step (placed : Placed inbox) (keyed : Keyed inbox)
    (allowed : releasesHuman inbox event = true) (step : inbox.step event = some inbox') :
    Keyed inbox' where
  seen := by
    intro ticket holds
    obtain ⟨same, old | ⟨-, -, taken⟩⟩ := holds_of_step placed step holds
    · have before := keyed.seen ticket old
      rw [same]
      cases keyChange_of_step step with
      | kept equal => rw [equal, before]
      | taken _ _ equal =>
        rw [equal, mark_apply, before]
        exact ite_self _
      | @released goroutine head _ _ isRelease held identified equal =>
        subst isRelease
        have different : (inbox.input ticket).messageKey ≠ (inbox.input head).messageKey := by
          intro sameKey
          have holder := holds_of_release placed held identified allowed
          cases keyed.unique ticket head old holder sameKey
          exact not_holds_of_release placed held identified step holds
        rw [equal, mark_apply, if_neg different, before]
    · rw [same, taken, mark_apply, if_pos rfl]
  unique := by
    intro first second firstHolds secondHolds sameKey
    obtain ⟨firstSame, firstCase⟩ := holds_of_step placed step firstHolds
    obtain ⟨secondSame, secondCase⟩ := holds_of_step placed step secondHolds
    rw [firstSame, secondSame] at sameKey
    rcases firstCase with firstOld | ⟨firstArrived, firstFree, -⟩ <;>
      rcases secondCase with secondOld | ⟨secondArrived, secondFree, -⟩
    · exact keyed.unique first second firstOld secondOld sameKey
    · rw [← sameKey, keyed.seen first firstOld] at secondFree
      cases secondFree
    · rw [sameKey, keyed.seen second secondOld] at firstFree
      cases firstFree
    · exact Delivery.arrived.inj (firstArrived.symm.trans secondArrived)

theorem keyed_of_reaches (reached : Reaches Inbox.step (checked releasesHuman) new inbox) :
    Keyed inbox := by
  have nothing : ∀ ticket, ¬Holds new ticket := by
    rintro ticket ⟨-, live | ⟨_, failing, -⟩⟩
    · cases live
    · cases failing
  refine reached.invariant ⟨fun ticket holds => absurd holds (nothing ticket),
    fun first _ holds => absurd holds (nothing first)⟩ ?_
  intro inbox event inbox' before keyed allowed step
  exact keyed_step (placed_of_reaches before) keyed allowed step

/-- Frames are written in the order their inputs were appended, and two writes
of one message are separated by a report of its failure. -/
structure FifoOnce (inbox : Inbox) : Prop where
  increasing : inbox.appended.Pairwise (· < ·)
  inOrder : (inbox.log.filterMap Entry.writing).Sublist inbox.appended
  separated : ∀ before between after firstExecutor secondExecutor first second,
    inbox.log = before ++ .wrote firstExecutor first :: between ++
      .wrote secondExecutor second :: after →
    (inbox.input first).dedupes = true → (inbox.input second).dedupes = true →
    (inbox.input first).message = (inbox.input second).message →
    ∃ ticket reason, .failed ticket reason ∈ between ∧
      (inbox.input ticket).message = (inbox.input first).message

/-- If only user turns release keys, no message is even written twice. -/
theorem fifoOnce_of_reaches (reached : Reaches Inbox.step (checked releasesHuman) new inbox) :
    FifoOnce inbox where
  increasing := (inOrder_of_reaches reached).increasing
  inOrder := (sublist_append_left _ _).trans
      (Channel.received_append_transit_sublist (reaches_channel reached))
  separated := by
    intro before between after firstExecutor secondExecutor first second log firstDedupes
      secondDedupes sameMessage
    obtain ⟨once, written⟩ := (placed_of_reaches reached).agrees .written _ rfl
    have holds {ticket : Nat} (dedupes : (inbox.input ticket).dedupes = true)
        (mem : ticket ∈ inbox.log.filterMap Entry.writing) : Holds inbox ticket :=
      ⟨dedupes, .inl (by rw [(written ticket).mpr mem]; rfl)⟩
    have same : first = second := by
      refine (keyed_of_reaches reached).unique first second (holds firstDedupes ?_)
        (holds secondDedupes ?_) (SessionInput.messageKey_eq_of_message_eq sameMessage)
      · simp [log, Entry.writing]
      · simp [log, Entry.writing]
    rw [log] at once
    simp [same, Entry.writing, nodup_append] at once

end Inbox

namespace Node

/-- An interactive session. -/
def streamSpec : CreateSession :=
  { sessionId := "s", provider := "claude", interactive := true }

variable (object : Nat)

/-- A stream run starts its process and sends the start frame. -/
def booted (index : Nat) : List Event :=
  [.startQueue, .prepare true none, .spawn none, .attach, .sequence, .greet none].map
    fun action => .act object (.run index action)

/-- The drain after the spawn finds the queue empty, and the pumps start. -/
def handed (index : Nat) : List Event :=
  [.act object (.run index .lock), .act object (.drain .check), .act object (.run index .resume)]

/-- `deliverInput` buffers an input, acknowledges it and locks `drainMu`. -/
def buffered (input : SessionInput) : List Event :=
  [.deliver input, .serve .dedupe, .serve .enqueue, .serve .ack, .serve .lock]

/-- The drain loop takes an input off the queue and writes its frame. -/
def wroteNext : List Event :=
  [.drain .check, .drain .deliver, .drain (.write none)].map fun event => .act object event

/-- The drain loop has nothing more to do, and `deliverInput` returns. -/
def returned : List Event :=
  [.act object (.drain .check), .serve .finish, .serve .delivered, .complete]

/-- A user turn with a message id. -/
def greeting : SessionInput :=
  { sessionId := "s", kind := "human_message", text := "hello", clientMessageId := "m" }

/-- The session `streamSpec` is created and its first process has its start
frame. -/
def streamStarted : List Event :=
  created streamSpec ++ prepared 0 ++ autoStarted 0 ++ booted 0 0 ++ handed 0 0

/-- If dedupe keys are deleted only for user turns, inputs are written in order
and at most once; keys of different messages differ in any case. -/
theorem input_fifo_once {opts : SessionOptions} {node : Node}
    (reached : Reaches step (checked (meets (Session.onInput Inbox.releasesHuman))) (new opts) node)
    {object : Nat} (existing : object < node.count) :
    (node.objects object).inbox.FifoOnce ∧
      ∀ first second : SessionInput, first.messageId ≠ "" → second.messageId ≠ "" →
        first.message ≠ second.message → first.messageKey ≠ second.messageKey := by
  obtain ⟨spec, reached⟩ := reaches_object reached existing
  refine ⟨Inbox.fifoOnce_of_reaches (Session.reaches_inbox_checked reached), ?_⟩
  intro first second firstId secondId different sameKey
  exact different (SessionInput.message_eq_of_messageKey_eq firstId secondId sameKey)

/-- The frame of an input is not written, and the failure is reported. -/
def failedNext : List Event :=
  [.drain .check, .drain .deliver, .drain (.write (some "broken pipe")),
    .report .dispatch .release, .report .dispatch .emit, .drain .proceed].map
      fun event => .act object event

/-- A user turn fails and is sent again, and another one follows. -/
theorem input_fifo_once_greeting :
    ∃ node, Reaches step (checked (meets (Session.onInput Inbox.releasesHuman)))
        (new claudeOptions) node ∧
      (node.objects 0).inbox.log = [.received 0, .failed 0 (.write "broken pipe"), .received 1,
        .wrote 0 1, .received 2, .wrote 0 2] ∧
      (node.objects 0).inbox.FifoOnce := by
  refine exists_reaches_imp_of_run (fun node => 0 < node.count ∧
        (node.objects 0).inbox.log = [.received 0, .failed 0 (.write "broken pipe"), .received 1,
          .wrote 0 1, .received 2, .wrote 0 2])
      (streamStarted ++ buffered greeting ++ failedNext 0 ++ returned 0 ++
        buffered greeting ++ wroteNext 0 ++ returned 0 ++
        buffered { greeting with clientMessageId := "n" } ++ wroteNext 0 ++ returned 0)
      (by decide +kernel) ?_
  rintro node reached ⟨existing, log⟩
  exact ⟨log, (input_fifo_once reached existing).1⟩

/-- An input of an unknown kind that carries the id of a buffered user turn
fails and releases the user turn's key, so the user turn is written again when
it is replayed. -/
theorem input_not_fifo_once : ¬∀ (opts : SessionOptions) (node : Node) (object : Nat),
      Reaches step unrestricted (new opts) node → object < node.count →
        (node.objects object).inbox.FifoOnce := by
  intro fifoOnce
  obtain ⟨node, reached, existing, log, first, second, sameMessage⟩ :
      ∃ node, Reaches step unrestricted (new claudeOptions) node ∧ 0 < node.count ∧
        (node.objects 0).inbox.log =
          [.received 0, .received 1, .failed 0 (.unknownKind "bogus"), .wrote 0 1, .received 2,
            .wrote 0 2] ∧
        ((node.objects 0).inbox.input 1).dedupes = true ∧
        ((node.objects 0).inbox.input 2).dedupes = true ∧
        ((node.objects 0).inbox.input 1).message = ((node.objects 0).inbox.input 2).message :=
    exists_reaches_of_run
      (created streamSpec ++ buffered { greeting with kind := "bogus" } ++ returned 0 ++
        buffered greeting ++ returned 0 ++ prepared 0 ++ autoStarted 0 ++ booted 0 0 ++
        [.act 0 (.run 0 .lock), .act 0 (.drain .check), .act 0 (.drain .deliver),
          .act 0 (.report (.run 0) .release), .act 0 (.report (.run 0) .emit),
          .act 0 (.drain .proceed)] ++
        wroteNext 0 ++ [.act 0 (.drain .check), .act 0 (.run 0 .resume)] ++
        buffered greeting ++ wroteNext 0)
      (by decide +kernel)
  obtain ⟨ticket, reason, failed, -⟩ := (fifoOnce _ node 0 reached existing).separated
    [.received 0, .received 1, .failed 0 (.unknownKind "bogus")] [.received 2] [] 0 0 1 2 log
    first second sameMessage
  simp at failed

end Node

end LubricantNodes.Execution
