import LubricantNodes.Execution.Coherence
import LubricantNodes.Execution.Frames
import LubricantNodes.Execution.Registry

/-!
# Accounting for acknowledged inputs

An input that was acknowledged is to be written to a runtime or reported
failed.  The queue is emptied by the drain loop and by the sweeps of `run` and
`delete`; `removeFailedSession` does not sweep, and a run whose spawn failed has
swept before the session stops taking inputs.

If `removeFailedSession` leaves nothing behind and `deliverInput` buffers an
input only where somebody will see to it, every acknowledged input is accounted
for once the session is at rest.
-/

namespace LubricantNodes.Execution

open Transition List Lifecycle

/-- An input is appended and not drained yet. -/
def Delivery.pushes : Delivery → Bool
  | queued _ => true
  | acked => true
  | _ => false

/-- The goroutine that will be at the head of the drain loop again. -/
def Drainer.loops : Drainer → Option Goroutine
  | top owner => some owner
  | deliver owner .. => some owner
  | write owner .. => some owner
  | reporting owner => some owner
  | _ => none

variable {drainer : Drainer} {pc : RunPc} {life : Lifecycle}

theorem Drainer.owner_of_loops {goroutine : Goroutine}
    (loops : drainer.loops = some goroutine) : drainer.owner = some goroutine := by
  cases drainer <;> first | exact loops | cases loops

namespace Inbox

variable {inbox inbox' : Inbox} {event : Event}

/-! ## Acknowledged inputs -/

/-- The input got past the check for replays. -/
def admitted : Place → Bool
  | .absent => false
  | .arrived => false
  | .replayed => false
  | _ => true

variable {ticket : Nat} {source target : Place} {ok : Discipline Inbox Event}

theorem Passes.admitted_of (passes : Passes inbox event ticket source target)
    (before : admitted source = true) : admitted target = true := by
  cases passes <;> first | rfl | cases before

theorem admitted_of_step (placed : Placed inbox) (step : inbox.step event = some inbox')
    (before : admitted (inbox.place ticket) = true) :
    admitted (inbox'.place ticket) = true ∧ inbox'.input ticket = inbox.input ticket := by
  have present : inbox.place ticket ≠ .absent := fun absent => by
    rw [absent] at before
    cases before
  refine ⟨?_, input_of_step step (placed.lt_arrivals present)⟩
  rcases passes_of_step placed step ticket with same | passes
  · rw [same, before]
  · exact passes.admitted_of before

/-- What the log and the dedupe keys tell about the inputs. -/
structure Tracked (inbox : Inbox) : Prop where
  queued : ∀ ticket, inbox.delivery = .queued ticket → admitted (inbox.place ticket) = true
  received : ∀ ticket, .received ticket ∈ inbox.log →
    (inbox.input ticket).messageId ≠ "" ∧ admitted (inbox.place ticket) = true
  silent : ∀ ticket, inbox.place ticket = .silent → (inbox.input ticket).messageId = ""
  seen : ∀ key, inbox.seen key = true → ∃ ticket, (inbox.input ticket).dedupes = true ∧
    (inbox.input ticket).messageKey = key ∧ admitted (inbox.place ticket) = true
  replayed : ∀ ticket, .replayed ticket ∈ inbox.log → (inbox.input ticket).dedupes = true ∧
    ∃ original, (inbox.input original).dedupes = true ∧
      (inbox.input original).messageKey = (inbox.input ticket).messageKey ∧
      admitted (inbox.place original) = true

/-- The entries a step adds to the log. -/
theorem log_of_step (step : inbox.step event = some inbox') {entry : Entry}
    (mem : entry ∈ inbox'.log) :
    entry ∈ inbox.log ∨ (∃ ticket, entry = .received ticket ∧ inbox.delivery = .queued ticket ∧
        (inbox.input ticket).messageId ≠ "") ∨
      (∃ ticket, entry = .replayed ticket ∧ inbox.delivery = .arrived ticket ∧
        (inbox.input ticket).dedupes = true ∧
        inbox.seen (inbox.input ticket).messageKey = true) ∨
      (∃ ticket reason, entry = .failed ticket reason) ∨
      ∃ executor ticket, entry = .wrote executor ticket := by
  cases moves step with
  | replay arrived dedupes seen =>
    refine (mem_append.mp mem).imp_right fun added => .inr (.inl ?_)
    exact ⟨_, mem_singleton.mp added, arrived, dedupes, seen⟩
  | ack queued =>
    split_ifs at mem with blank
    · exact .inl mem
    · refine (mem_append.mp mem).imp_right fun added => .inl ?_
      exact ⟨_, mem_singleton.mp added, queued, blank⟩
  | emit =>
    refine (mem_append.mp mem).imp_right fun added => .inr (.inr (.inl ?_))
    exact ⟨_, _, mem_singleton.mp added⟩
  | write =>
    refine (mem_append.mp mem).imp_right fun added => .inr (.inr (.inr ?_))
    exact ⟨_, _, mem_singleton.mp added⟩
  | _ => exact .inl mem

theorem delivery_of_queued (step : inbox.step event = some inbox')
    (queued : inbox'.delivery = .queued ticket) :
    inbox.delivery = .queued ticket ∨ inbox'.place ticket = .queued := by
  cases moves step with
  | enqueue =>
    cases queued
    exact .inr (by simp [move])
  | arrive | replay | reserve | forward | reject | ack | finishRejecting | finishDraining
  | lockDispatch => cases queued
  | _ => exact .inl queued

theorem seen_of_step (step : inbox.step event = some inbox') {key : String}
    (seen : inbox'.seen key = true) :
    inbox.seen key = true ∨
      ∃ ticket, inbox.delivery = .arrived ticket ∧ (inbox.input ticket).dedupes = true ∧
        (inbox.input ticket).messageKey = key ∧ inbox'.input = inbox.input ∧
        inbox'.place ticket = .reserved := by
  cases moves step with
  | reserve arrived dedupes =>
    dsimp only at seen
    rw [mark_apply] at seen
    split_ifs at seen with same
    · exact .inr ⟨_, arrived, dedupes, same.symm, rfl, by simp [move]⟩
    · exact .inl seen
  | release =>
    dsimp only at seen
    rw [mark_apply] at seen
    split_ifs at seen
    exact .inl seen
  | _ => exact .inl seen

theorem Passes.blank_of_silent (passes : Passes inbox event ticket source target)
    (silent : target = .silent) : source ≠ .absent ∧ (inbox.input ticket).messageId = "" := by
  cases passes with
  | skip blank => exact ⟨nofun, blank⟩
  | _ => cases silent

theorem tracked_step (placed : Placed inbox) (tracked : Tracked inbox)
    (step : inbox.step event = some inbox') : Tracked inbox' where
  queued := by
    intro ticket queued
    rcases delivery_of_queued step queued with before | joined
    · exact (admitted_of_step placed step (tracked.queued ticket before)).1
    · rw [joined]
      rfl
  received := by
    intro ticket mem
    have kept (past : (inbox.input ticket).messageId ≠ "" ∧ admitted (inbox.place ticket) = true) :
        (inbox'.input ticket).messageId ≠ "" ∧ admitted (inbox'.place ticket) = true := by
      obtain ⟨after, same⟩ := admitted_of_step placed step past.2
      exact ⟨same ▸ past.1, after⟩
    rcases log_of_step step mem with old | ⟨_, entry, queued, named⟩ | ⟨_, entry, -⟩ |
      ⟨_, _, entry⟩ | ⟨_, _, entry⟩
    · exact kept (tracked.received ticket old)
    · cases entry
      exact kept ⟨named, tracked.queued ticket queued⟩
    all_goals cases entry
  silent := by
    intro ticket silent
    rcases passes_of_step placed step ticket with same | passes
    · have before := same.symm.trans silent
      rw [input_of_step step (placed.lt_arrivals (by simp [before]))]
      exact tracked.silent ticket before
    · obtain ⟨present, blank⟩ := passes.blank_of_silent silent
      rwa [input_of_step step (placed.lt_arrivals present)]
  seen := by
    intro key seen
    rcases seen_of_step step seen with before | ⟨ticket, -, dedupes, named, same, reserved⟩
    · obtain ⟨ticket, dedupes, named, past⟩ := tracked.seen key before
      obtain ⟨after, same⟩ := admitted_of_step placed step past
      exact ⟨ticket, same ▸ dedupes, same ▸ named, after⟩
    · exact ⟨ticket, same ▸ dedupes, same ▸ named, by rw [reserved]; rfl⟩
  replayed := by
    intro ticket mem
    have kept (present : inbox.place ticket ≠ .absent)
        (dedupes : (inbox.input ticket).dedupes = true)
        (first : ∃ original, (inbox.input original).dedupes = true ∧
          (inbox.input original).messageKey = (inbox.input ticket).messageKey ∧
          admitted (inbox.place original) = true) :
        (inbox'.input ticket).dedupes = true ∧ ∃ original, (inbox'.input original).dedupes = true ∧
            (inbox'.input original).messageKey = (inbox'.input ticket).messageKey ∧
            admitted (inbox'.place original) = true := by
      obtain ⟨original, originalDedupes, sameKey, past⟩ := first
      obtain ⟨after, same⟩ := admitted_of_step placed step past
      rw [input_of_step step (placed.lt_arrivals present)]
      exact ⟨dedupes, original, same ▸ originalDedupes, same ▸ sameKey, after⟩
    rcases log_of_step step mem with old | ⟨_, entry, -⟩ | ⟨_, entry, arrived, dedupes, seen⟩ |
      ⟨_, _, entry⟩ | ⟨_, _, entry⟩
    · obtain ⟨dedupes, first⟩ := tracked.replayed ticket old
      have there : inbox.place ticket = .replayed :=
        ((placed.agrees .replayed _ rfl).2 ticket).mpr (mem_filterMap.mpr ⟨_, old, rfl⟩)
      exact kept (by simp [there]) dedupes first
    · cases entry
    · cases entry
      have there : inbox.place ticket = .arrived :=
        ((placed.agrees .arrived _ rfl).2 ticket).mpr (by simp [arrived, Delivery.arrivals])
      exact kept (by simp [there]) dedupes (tracked.seen _ seen)
    all_goals cases entry

theorem tracked_of_reaches (reached : Reaches Inbox.step ok new inbox) : Tracked inbox := by
  refine reached.invariant ⟨nofun, nofun, nofun, nofun, nofun⟩ ?_
  intro inbox event inbox' before tracked _ step
  exact tracked_step (placed_of_reaches before) tracked step

/-- The input was written to a runtime or reported failed. -/
def Settles (inbox : Inbox) (ticket : Nat) : Prop :=
  (∃ executor, .wrote executor ticket ∈ inbox.log) ∨ ∃ reason, .failed ticket reason ∈ inbox.log

/-- Nothing is pending, and every acknowledged input or, for a replay, an
earlier input with its message was written to a runtime or reported failed. -/
structure Accounted (inbox : Inbox) : Prop where
  emptied : inbox.pending = []
  received : ∀ ticket, .received ticket ∈ inbox.log → inbox.Settles ticket
  replayed : ∀ ticket, .replayed ticket ∈ inbox.log →
    ∃ original, (inbox.input original).dedupes = true ∧
      (inbox.input original).message = (inbox.input ticket).message ∧ inbox.Settles original

/-- Nobody has an input in hand. -/
structure Resting (inbox : Inbox) : Prop where
  delivery : inbox.delivery = .idle
  pending : inbox.pending = []
  drainer : inbox.drainer = .idle
  reporter : ∀ goroutine, (inbox.reporter goroutine).todo = []

theorem Resting.settles (resting : Resting inbox) (placed : Placed inbox) (tracked : Tracked inbox)
    (named : (inbox.input ticket).messageId ≠ "")
    (past : admitted (inbox.place ticket) = true) : inbox.Settles ticket := by
  cases place : inbox.place ticket with
  | absent | arrived | replayed =>
    rw [place] at past
    cases past
  | reserved =>
    have mem := ((placed.agrees .reserved _ rfl).2 ticket).mp place
    simp [resting.delivery, Delivery.reservations] at mem
  | queued =>
    have mem := ((placed.agrees .queued _ rfl).2 ticket).mp place
    simp [resting.pending] at mem
  | popped =>
    have mem := ((placed.agrees .popped _ rfl).2 ticket).mp place
    simp [resting.drainer, Drainer.held] at mem
  | failing goroutine =>
    have mem := ((placed.agrees (.failing goroutine) _ rfl).2 ticket).mp place
    simp [resting.reporter] at mem
  | failed =>
    have mem := ((placed.agrees .failed _ rfl).2 ticket).mp place
    obtain ⟨entry, logged, failed⟩ := mem_filterMap.mp mem
    cases entry with
    | failed other reason =>
      cases failed
      exact .inr ⟨reason, logged⟩
    | _ => cases failed
  | silent => exact absurd (tracked.silent ticket place) named
  | written =>
    have mem := ((placed.agrees .written _ rfl).2 ticket).mp place
    obtain ⟨entry, logged, written⟩ := mem_filterMap.mp mem
    cases entry with
    | wrote executor other =>
      cases written
      exact .inl ⟨executor, logged⟩
    | _ => cases written

theorem named_of_dedupes {input : SessionInput} (dedupes : input.dedupes = true) :
    input.messageId ≠ "" := by
  simp only [SessionInput.dedupes, Bool.and_eq_true, decide_eq_true_eq] at dedupes
  exact dedupes.1

theorem Resting.accounted (resting : Resting inbox) (placed : Placed inbox)
    (tracked : Tracked inbox) : Accounted inbox where
  emptied := resting.pending
  received := fun ticket logged =>
    have ⟨named, past⟩ := tracked.received ticket logged
    resting.settles placed tracked named past
  replayed := by
    intro ticket logged
    obtain ⟨dedupes, original, originalDedupes, sameKey, past⟩ := tracked.replayed ticket logged
    have named := named_of_dedupes originalDedupes
    exact ⟨original, originalDedupes,
      SessionInput.message_eq_of_messageKey_eq named (named_of_dedupes dedupes) sameKey,
      resting.settles placed tracked named past⟩

/-! ## Who empties the queue -/

/-- The drain loop is at a place for which a stream is attached. -/
def Attached (inbox : Inbox) : Prop :=
  ∀ owner index ticket, (inbox.drainer = .deliver owner index ticket ∨
      ∃ frame, inbox.drainer = .write owner index ticket frame) →
    index < inbox.installed ∧ (inbox.executors index).attached = true

/-- An executor that is attached stays so. -/
theorem attached_of_step (step : inbox.step event = some inbox') {index : Nat}
    (below : index < inbox.installed) (attached : (inbox.executors index).attached = true) :
    index < inbox'.installed ∧ (inbox'.executors index).attached = true := by
  constructor
  · rcases installed_of_step step with ⟨-, same⟩ | ⟨-, -, more⟩ <;> omega
  · cases executorChange_of_step step index with
    | kept same | closed same | numbered _ _ same | wrote _ same => rw [same]; exact attached
    | installed last _ => omega
    | attached _ same | sequenced _ same | greeted _ same | refused _ same => rw [same]; rfl

theorem attached_step (attached : Attached inbox) (step : inbox.step event = some inbox') :
    Attached inbox' := by
  intro owner index ticket holds
  have kept (before : inbox.drainer = .deliver owner index ticket ∨
      ∃ frame, inbox.drainer = .write owner index ticket frame) :
      index < inbox'.installed ∧ (inbox'.executors index).attached = true := by
    obtain ⟨below, isAttached⟩ := attached owner index ticket before
    exact attached_of_step step below isAttached
  rcases holds with delivering | ⟨frame, writing⟩
  · rcases deliver_of_step step delivering with before | ⟨-, current, -, -, isAttached⟩
    · exact kept (.inl before)
    · exact attached_of_step step (lt_installed_of_currentStream current) isAttached
  · rcases write_of_step step writing with before | ⟨before, -⟩
    · exact kept (.inr ⟨frame, before⟩)
    · exact kept (.inl before)

theorem attached_of_reaches (reached : Reaches Inbox.step ok new inbox) : Attached inbox := by
  refine reached.invariant ?_ fun _ attached _ step => attached_step attached step
  rintro _ _ _ (⟨⟨⟩⟩ | ⟨_, ⟨⟩⟩)

/-- The session's executor is a stream the drain loop does not pass over. -/
def listens (inbox : Inbox) : Bool :=
  inbox.currentStream.any fun index =>
    (inbox.executors index).closed || (inbox.executors index).attached

/-- `deliverInput` has yet to drain the queue, or is at it. -/
def Pushing (delivery : Delivery) (drainer : Drainer) : Prop :=
  delivery.pushes = true ∨ delivery = .draining ∧ drainer.loops = some .dispatch

theorem currentStream_of_step (step : inbox.step event = some inbox')
    (kept : ∀ kind, event ≠ .install kind) : inbox'.currentStream = inbox.currentStream := by
  rcases installed_of_step step with ⟨-, same⟩ | ⟨kind, taken, -⟩
  · have kinds : ∀ index, index < inbox.installed →
        (inbox'.executors index).kind = (inbox.executors index).kind := by
      intro index below
      cases executorChange_of_step step index with
      | installed last _ => omega
      | kept changed | attached _ changed | sequenced _ changed | greeted _ changed
      | refused _ changed | closed changed | numbered _ _ changed | wrote _ changed => rw [changed]
    unfold currentStream current
    rw [same]
    split_ifs with none
    · rfl
    · simp only [Option.filter_some]
      rw [kinds _ (by omega)]
  · exact absurd taken (kept kind)

theorem listens_iff : inbox.listens = true ↔ ∃ index, inbox.currentStream = some index ∧
      ((inbox.executors index).closed = true ∨ (inbox.executors index).attached = true) := by
  simp [listens, Option.any_eq_true]

/-- A stream the drain loop does not pass over remains one until it is replaced. -/
theorem listens_step (listens : inbox.listens = true) (step : inbox.step event = some inbox')
    (kept : ∀ kind, event ≠ .install kind) : inbox'.listens = true := by
  obtain ⟨index, current, open_⟩ := listens_iff.mp listens
  have below := lt_installed_of_currentStream current
  refine listens_iff.mpr ⟨index, (currentStream_of_step step kept).trans current, ?_⟩
  rcases open_ with closed | attached
  · cases executorChange_of_step step index with
    | installed last _ => omega
    | closed changed => exact .inl (by rw [changed])
    | kept changed | attached _ changed | sequenced _ changed | greeted _ changed
    | refused _ changed | numbered _ _ changed | wrote _ changed =>
      exact .inl (by rw [changed]; exact closed)
  · exact .inr (attached_of_step step below attached).2

/-- As long as the stream is one the drain loop does not pass over, `deliverInput`
goes on until the queue is empty. -/
theorem pushing_step (attached : Attached inbox) (listens : inbox.listens = true)
    (pushing : Pushing inbox.delivery inbox.drainer) (step : inbox.step event = some inbox')
    (waiting : inbox'.pending ≠ []) :
    Pushing inbox'.delivery inbox'.drainer ∨ (∃ kind, event = .install kind) ∨
      ∃ index, event = .close index true := by
  obtain ⟨stream, current, open_⟩ := listens_iff.mp listens
  have loops {drainer : Drainer} (held : inbox.drainer = drainer) :
      Pushing inbox.delivery drainer := held ▸ pushing
  cases moves step with
  | install => exact .inr (.inl ⟨_, rfl⟩)
  | closeRacing => exact .inr (.inr ⟨_, rfl⟩)
  | arrive before | replay before | reserve before | forward before | reject before
  | enqueue before | finishRejecting before =>
    rcases pushing with pushes | ⟨draining, -⟩
    · rw [before] at pushes
      cases pushes
    · cases before.symm.trans draining
  | ack => exact .inl (.inl rfl)
  | finishDraining before released =>
    rcases pushing with pushes | ⟨-, loops⟩
    · rw [before] at pushes
      cases pushes
    · exact absurd (Drainer.owner_of_loops loops) released
  | lockDispatch => exact .inl (.inr ⟨rfl, rfl⟩)
  | lockRun held | failed held =>
    rcases loops held with pushes | ⟨-, other⟩
    · exact .inl (.inl pushes)
    · cases other
  | checkEmpty _ empty => exact absurd empty waiting
  | checkNoStream _ none => cases none.symm.trans current
  | checkDetached _ stream' isOpen detached =>
    cases stream'.symm.trans current
    simp [isOpen, detached] at open_
  | checkClosed | sweep => exact absurd rfl waiting
  | checkPop held | deliver held | deliverUnknown held | writeClosed held | write held
  | writeFailed held | reported held =>
    have looping := loops held
    exact .inl looping
  | writeDetached held _ detached =>
    obtain ⟨-, isAttached⟩ := attached _ _ _ (.inr ⟨_, held⟩)
    cases detached.symm.trans isAttached
  | attach | sequence | greet | refuse | close | skip | release | emit => exact .inl pushing

/-- Inputs come to be pending by `deliverInput` only. -/
theorem pending_of_step (attached : Attached inbox) (step : inbox.step event = some inbox')
    (waiting : inbox'.pending ≠ []) :
    inbox.pending ≠ [] ∨ event = .enqueue ∧ inbox.oneShot = false ∧
      Pushing inbox'.delivery inbox'.drainer := by
  cases moves step with
  | enqueue _ interactive => exact .inr ⟨rfl, interactive, .inl rfl⟩
  | checkClosed | sweep => exact absurd rfl waiting
  | checkPop _ _ pending => exact .inl (by simp [pending])
  | writeDetached held _ detached =>
    obtain ⟨-, isAttached⟩ := attached _ _ _ (.inr ⟨_, held⟩)
    cases detached.symm.trans isAttached
  | _ => exact .inl waiting

end Inbox

/-- The run has yet to sweep the queue. -/
def RunPc.unswept (pc : RunPc) : Bool :=
  7 ≤ pc.distance

/-- `delete` has yet to sweep the queue. -/
def Command.sweeps : Command → Bool
  | delete => true
  | deleteCancel _ => true
  | deleteWait _ => true
  | deleteSweep => true
  | _ => false

theorem Run.Flow.unswept_of {pc' : RunPc} {action : Run.Action} (flow : Run.Flow pc action pc')
    (before : pc.unswept = true) : pc'.unswept = true ∨ action = .sweep := by
  cases flow <;> first | exact .inl rfl | exact .inr rfl | exact .inl before

theorem Run.Flow.of_wait {pc' : RunPc} {exitCode : Int} {error : Option String} {racing : Bool}
    (flow : Run.Flow pc (.wait exitCode error racing) pc') : pc' = .draining := by
  cases flow
  rfl

theorem Drainer.eq_idle_of_owner (free : drainer.owner = none) : drainer = .idle := by
  cases drainer <;> first | rfl | cases free

/-- A session runs or has stopped only if a run was launched, and a session whose
provisioning failed is not in the map. -/
structure Lifecycle.Consistent (life : Lifecycle) : Prop where
  launched : life.state = .running ∨ life.state = .stopped → life.launched ≠ 0
  failed : life.provision = .failed → life.registered = false

theorem Lifecycle.consistent_step {life' : Lifecycle} {spec : CreateSession} {event : SessionEvent}
    (consistent : life.Consistent)
    (step : life.step spec event = some life') : life'.Consistent := by
  obtain ⟨launched, failed⟩ := consistent
  cases changes step with
  | launch => exact ⟨fun _ => Nat.succ_ne_zero _, failed⟩
  | evict => exact ⟨launched, fun _ => rfl⟩
  | run =>
    refine ⟨fun started => launched ?_, failed⟩
    simp only [setRun, runEffect] at started
    split_ifs at started with marks
    · exact .inl marks.2
    · exact started
  | provision provision =>
    cases provision with
    | flip =>
      refine ⟨fun started => launched ?_, fun failed => ?_⟩
      · dsimp only at started
        split_ifs at started
        · rcases started with ⟨⟨⟩⟩ | ⟨⟨⟩⟩
        · exact started
      · dsimp only at failed
        split_ifs at failed
    | removed _ unregistered => exact ⟨launched, fun _ => unregistered⟩
    | checkout | serve =>
      refine ⟨launched, fun failed => ?_⟩
      split_ifs at failed
    | associate | assign | configure | finish =>
      refine ⟨launched, ?_⟩
      rintro ⟨⟩
  | command command =>
    cases command with
    | restartReset =>
      refine ⟨?_, failed⟩
      rintro (⟨⟨⟩⟩ | ⟨⟨⟩⟩)
    | delete => exact ⟨launched, fun _ => rfl⟩
    | stop =>
      refine ⟨fun started => launched ?_, failed⟩
      split_ifs at started with running
      · exact .inl running
      · exact started
    | _ => exact ⟨launched, failed⟩
  | _ => exact ⟨launched, failed⟩

/-- `delete` sweeps the queue. -/
theorem Lifecycle.sweeps_of_step {life' : Lifecycle} {spec : CreateSession} {event : SessionEvent}
    (step : life.step spec event = some life') (before : life.command.sweeps = true) :
    life'.command.sweeps = true ∨ event = .command .deleteSweep := by
  rcases command_of_step step with same | ⟨action, rfl⟩
  · exact .inl (same ▸ before)
  · cases commands step with
    | deleteSweep => exact .inr rfl
    | deleteRead | deleteCancel | deleteWait => exact .inl rfl
    | delivering => exact .inl before
    | _ command =>
      rw [command] at before
      cases before

namespace Session

variable {session session' : Session} {event : SessionEvent}

/-- Some run has yet to sweep the queue. -/
def awaited (session : Session) : Bool :=
  (List.range session.life.launched).any fun index => (session.life.run index).pc.unswept

/-- `removeFailedSession` leaves no input behind that no run will sweep, and
`deliverInput` buffers an input only if the session has yet to be started, a run
will sweep it or the stream is one the drain loop does not pass over. -/
def accounts (session : Session) : SessionEvent → Bool
  | .evict => session.inbox.pending = [] || session.awaited
  | .command .enqueue =>
    session.inbox.oneShot || (session.life.launched = 0 && session.life.registered) ||
      session.awaited || session.inbox.listens
  | _ => true

/-- Who will see to the inputs that are pending. -/
inductive Attended (session : Session) : Prop
  | unstarted : session.life.launched = 0 → session.life.registered = true → Attended session
  | run (index : Nat) : (session.life.run index).pc.unswept = true → Attended session
  | push : session.inbox.listens = true →
      Inbox.Pushing session.inbox.delivery session.inbox.drainer → Attended session
  | delete : session.life.command.sweeps = true → Attended session

theorem exists_unswept_of_awaited (awaited : session.awaited = true) :
    ∃ index, (session.life.run index).pc.unswept = true := by
  obtain ⟨index, -, unswept⟩ := any_eq_true.mp awaited
  exact ⟨index, unswept⟩

section AccountedSteps

variable (step : session.step event = some session')

include step

theorem emptied_of_sweep {goroutine : Goroutine}
    {reason : FailReason} (fires : session.input event = some (.sweep goroutine reason)) :
    session'.inbox.pending = [] := by
  have moved := (stepped step).inbox
  rw [fires, optional_some] at moved
  rw [← Option.some.inj moved]
  rfl

theorem attended_of_unswept (indexed : Indexed session)
    (waiting : session'.inbox.pending ≠ []) {index : Nat}
    (unswept : (session.life.run index).pc.unswept = true) : Attended session' := by
  cases indexed.pc_change step index with
  | kept _ same => exact .run index (same ▸ unswept)
  | flow taken flow =>
    rcases flow.unswept_of unswept with after | rfl
    · exact .run index after
    · subst taken
      exact absurd (emptied_of_sweep step rfl) waiting
  | launched _ _ halted _ =>
    rw [halted] at unswept
    cases unswept

/-- A run that is launched will sweep the queue. -/
theorem attended_of_launching {kind : ExecutorKind}
    (launches : session.life.launching event = some kind) : Attended session' := by
  refine .run session.life.launched ?_
  cases run_change (stepped step).life session.life.launched with
  | kept _ fresh _ =>
    rcases fresh with quiet | other
    · cases quiet.symm.trans launches
    · exact absurd rfl other
  | cancelled _ quiet _ => cases quiet.symm.trans launches
  | moved taken _ =>
    subst taken
    cases launches
  | launched _ _ fresh =>
    rw [fresh]
    rfl

theorem attended_of_unstarted (allowed : session.accounts event = true)
    (waiting : session.inbox.pending ≠ []) (unstarted : session.life.launched = 0)
    (registered : session.life.registered = true) : Attended session' := by
  have parts := stepped step
  cases launches : session.life.launching event with
  | some kind => exact attended_of_launching step launches
  | none =>
    have launched := launched_of_step parts.life
    rw [launches] at launched
    rcases registered_of_step parts.life with same | rfl | rfl
    · exact .unstarted (launched.trans unstarted) (same ▸ registered)
    · simp [accounts, waiting, awaited, unstarted] at allowed
    · obtain ⟨-, changed⟩ := guarded_eq_some_iff.mp parts.life
      exact .delete (by rw [← changed]; rfl)

theorem attended_of_pushing (attached : session.inbox.Attached)
    (waiting : session'.inbox.pending ≠ []) (listens : session.inbox.listens = true)
    (pushing : Inbox.Pushing session.inbox.delivery session.inbox.drainer) : Attended session' := by
  rcases (stepped step).inbox_cases with same | ⟨taken, fires, moved⟩
  · exact .push (same ▸ listens) (same ▸ pushing)
  by_cases installs : ∃ kind, taken = .install kind
  · obtain ⟨kind, rfl⟩ := installs
    exact attended_of_launching step (input_eq_install_iff.mp fires)
  rcases Inbox.pushing_step attached listens pushing moved waiting with
    after | installed | ⟨index, rfl⟩
  · exact .push (Inbox.listens_step listens moved fun kind same => installs ⟨kind, same⟩) after
  · exact absurd installed installs
  · obtain ⟨exitCode, error, rfl⟩ := origin_of_input fires
    refine .run index ?_
    rw [(flow_of_run_step step).of_wait]
    rfl

theorem attended_of_deleting
    (waiting : session'.inbox.pending ≠ []) (sweeps : session.life.command.sweeps = true) :
    Attended session' := by
  rcases sweeps_of_step (stepped step).life sweeps with after | rfl
  · exact .delete after
  · exact absurd (emptied_of_sweep step rfl) waiting

end AccountedSteps

/-- An input that is buffered is attended to. -/
theorem attended_of_enqueue (allowed : session.accounts (.command .enqueue) = true)
    (step : session.step (.command .enqueue) = some session')
    (moved : session.inbox.step .enqueue = some session'.inbox)
    (interactive : session.inbox.oneShot = false)
    (pushing : Inbox.Pushing session'.inbox.delivery session'.inbox.drainer) :
    Attended session' := by
  obtain ⟨-, same⟩ := guarded_eq_some_iff.mp (stepped step).life
  simp only [accounts, interactive, Bool.false_or, Bool.or_eq_true, Bool.and_eq_true,
    decide_eq_true_eq] at allowed
  rcases allowed with (⟨unstarted, registered⟩ | awaited) | listens
  · exact .unstarted (same ▸ unstarted) (same ▸ registered)
  · obtain ⟨index, unswept⟩ := exists_unswept_of_awaited awaited
    exact .run index (same ▸ unswept)
  · exact .push (Inbox.listens_step listens moved fun _ => nofun) pushing

theorem attended_step (indexed : Indexed session) (attached : session.inbox.Attached)
    (attended : session.inbox.pending ≠ [] → Attended session)
    (allowed : session.accounts event = true) (step : session.step event = some session')
    (waiting : session'.inbox.pending ≠ []) : Attended session' := by
  have kept (before : session.inbox.pending ≠ []) : Attended session' := by
    cases attended before with
    | unstarted none registered =>
      exact attended_of_unstarted step allowed before none registered
    | run index unswept => exact attended_of_unswept step indexed waiting unswept
    | push listens pushing =>
      exact attended_of_pushing step attached waiting listens pushing
    | delete sweeps => exact attended_of_deleting step waiting sweeps
  rcases (stepped step).inbox_cases with same | ⟨taken, fires, moved⟩
  · exact kept (same ▸ waiting)
  · rcases Inbox.pending_of_step attached moved waiting with before | ⟨rfl, interactive, pushing⟩
    · exact kept before
    · obtain rfl : event = .command .enqueue := origin_of_input fires
      exact attended_of_enqueue allowed step moved interactive pushing

variable {spec : CreateSession}

theorem attended_of_reaches (reached : Reaches step (checked accounts) (new spec) session)
    (waiting : session.inbox.pending ≠ []) : Attended session := by
  refine reached.invariant (P := fun session => session.inbox.pending ≠ [] → Attended session)
    (fun waiting => absurd rfl waiting) ?_ waiting
  intro session event session' before attended allowed step
  exact attended_step (indexed_of_reaches before)
    (Inbox.attached_of_reaches (reaches_inbox_unrestricted before)) attended allowed step

theorem consistent_of_reaches {ok : Discipline Session SessionEvent}
    (reached : Reaches step ok (new spec) session) : session.life.Consistent := by
  refine reached.invariant (P := fun session => session.life.Consistent) ?_ ?_
  · refine ⟨?_, nofun⟩
    rintro (⟨⟨⟩⟩ | ⟨⟨⟩⟩)
  · exact fun _ consistent _ step => consistent_step consistent (stepped step).life

/-- Nobody has an input in hand when no command is served and no run is in
progress. -/
theorem Coherent.hands (coherent : Coherent session) (idle : session.life.command = .idle)
    (halted : ∀ index, (session.life.run index).pc = .done) :
    session.inbox.delivery = .idle ∧ session.inbox.drainer = .idle ∧
      ∀ goroutine, (session.inbox.reporter goroutine).todo = [] := by
  have delivery : session.inbox.delivery = .idle := by
    by_contra busy
    cases idle.symm.trans (coherent.delivering busy)
  have free : session.inbox.drainer.owner = none := by
    cases owner : session.inbox.drainer.owner with
    | none => rfl
    | some goroutine =>
      cases goroutine with
      | dispatch => cases delivery.symm.trans (coherent.locked owner)
      | run index => cases (halted index).symm.trans (coherent.draining index owner)
  have unreported (goroutine : Goroutine) : session.inbox.drainer.reports ≠ some goroutine :=
    fun reports => by cases free.symm.trans (Drainer.owner_of_reports reports)
  refine ⟨delivery, Drainer.eq_idle_of_owner free, fun goroutine => ?_⟩
  by_contra busy
  cases goroutine with
  | dispatch =>
    rcases coherent.dispatchReports busy with rejecting | deleting | reports
    · cases delivery.symm.trans rejecting
    · cases idle.symm.trans deleting
    · exact unreported _ reports
  | run index =>
    rcases coherent.runReports index busy with failing | reports
    · cases (halted index).symm.trans failing
    · exact unreported _ reports

theorem resting_of_reaches (reached : Reaches step (checked accounts) (new spec) session)
    (idle : session.life.command = .idle)
    (halted : ∀ index < session.life.launched, (session.life.run index).pc = .done)
    (ended : session.life.state = .stopped ∨ session.life.provision = .failed ∨
      session.life.registered = false) : session.inbox.Resting := by
  have done : ∀ index, (session.life.run index).pc = .done := fun index => by
    by_cases beyond : session.life.launched ≤ index
    · exact ((indexed_of_reaches reached).unlaunched index beyond).1
    · exact halted index (Nat.lt_of_not_le beyond)
  obtain ⟨delivery, drainer, reporter⟩ := (coherent_of_reaches reached).hands idle done
  refine ⟨delivery, ?_, drainer, reporter⟩
  by_contra waiting
  cases attended_of_reaches reached waiting with
  | unstarted none registered =>
    have consistent := consistent_of_reaches reached
    rcases ended with stopped | failed | unregistered
    · exact consistent.launched (.inr stopped) none
    · cases registered.symm.trans (consistent.failed failed)
    · cases registered.symm.trans unregistered
  | run index unswept =>
    rw [done index] at unswept
    cases unswept
  | push _ pushing =>
    rw [delivery] at pushing
    obtain pushes | ⟨draining, -⟩ := pushing
    · cases pushes
    · cases draining
  | delete sweeps =>
    rw [idle] at sweeps
    cases sweeps

end Session

namespace Node

/-- No command, provisioning or run of the session is in progress, and it is
stopped, failed or removed. -/
def AtRest (node : Node) (object : Nat) : Prop :=
  (node.objects object).life.command = .idle ∧
    (node.objects object).life.provision.returned = true ∧
    (∀ index < (node.objects object).life.launched,
      ((node.objects object).life.run index).pc = .done) ∧
    ((node.objects object).life.state = .stopped ∨
      (node.objects object).life.provision = .failed ∨ node.entry object ≠ some object)

instance (node : Node) (object : Nat) : Decidable (node.AtRest object) :=
  inferInstanceAs (Decidable (_ ∧ _ ∧ _ ∧ _))

/-- If no input is buffered or left behind that nobody will see to, every
acknowledged input of a session at rest is accounted for. -/
theorem input_accounted {opts : SessionOptions} {node : Node}
    (reached : Reaches step (checked (meets Session.accounts)) (new opts) node) {object : Nat}
    (existing : object < node.count) (rest : node.AtRest object) :
    (node.objects object).inbox.Accounted := by
  obtain ⟨idle, -, halted, ended⟩ := rest
  have registered := registered_of_reaches reached object existing
  obtain ⟨spec, reached⟩ := reaches_object reached existing
  have resting := Session.resting_of_reaches reached idle halted (by
    refine ended.imp_right (Or.imp_right fun absent => eq_false_of_ne_true fun present => ?_)
    exact absent (registered.mp present))
  have inbox := Session.reaches_inbox_unrestricted reached
  exact resting.accounted (Inbox.placed_of_reaches inbox) (Inbox.tracked_of_reaches inbox)

theorem input_accounted_greeting :
    ∃ node, Reaches step (checked (meets Session.accounts)) (new claudeOptions) node ∧
      (node.objects 0).inbox.log = [.received 0, .wrote 0 0] ∧ node.AtRest 0 ∧
      (node.objects 0).inbox.Accounted := by
  refine exists_reaches_imp_of_run (fun node => 0 < node.count ∧
        (node.objects 0).inbox.log = [.received 0, .wrote 0 0] ∧ node.AtRest 0)
      (streamStarted ++ buffered greeting ++ wroteNext 0 ++ returned 0 ++ exited 0 0 ++
        tornDown 0 0)
      (by decide +kernel) ?_
  rintro node reached ⟨existing, log, rest⟩
  exact ⟨log, rest, input_accounted reached existing rest⟩

/-- An input is acknowledged during the checkout; the checkout fails, and
`removeFailedSession` removes the session without reporting the input. -/
theorem input_not_accounted : ¬∀ (opts : SessionOptions) (node : Node) (object : Nat),
      Reaches step unrestricted (new opts) node → object < node.count → node.AtRest object →
        (node.objects object).inbox.Accounted := by
  intro accounted
  obtain ⟨node, reached, existing, rest, pending⟩ :
      ∃ node, Reaches step unrestricted (new claudeOptions) node ∧ 0 < node.count ∧
        node.AtRest 0 ∧ (node.objects 0).inbox.pending = [0] :=
    exists_reaches_of_run
      (created { streamSpec with git := some "repo" } ++ buffered greeting ++ returned 0 ++
        [.act 0 (.provision (.checkout false)), .removeFailed 0, .removeReturn 0])
      (by decide +kernel)
  have emptied := (accounted _ node 0 reached existing rest).emptied
  rw [pending] at emptied
  cases emptied

/-! ## In whatever order things happen -/

/-- A state that the node can get into. -/
def Reachable (opts : SessionOptions) : Type :=
  { node : Node // Reaches step unrestricted (new opts) node }

section Reachable

variable {opts : SessionOptions} (node : Reachable opts) (object : Fin node.1.count)

/-- The session of an object. -/
def Reachable.session : Session :=
  node.1.objects object

theorem Reachable.reaches_session :
    ∃ spec, Reaches Session.step (checked fun _ _ => true) (.new spec) (node.session object) :=
  reaches_object (node.2.mono fun _ _ _ => by simp [checked, meets]) object.2

/-- Each input is in one place, inputs queue up as they arrive, the log and the dedupe keys
tell of no others, and all of it is a channel that keeps what it does not lose in order. -/
theorem inputs_kept : (node.session object).inbox.Placed ∧ (node.session object).inbox.InOrder ∧
    (node.session object).inbox.Tracked ∧
      Reaches Channel.step unrestricted .new (node.session object).inbox.channel := by
  obtain ⟨spec, reached⟩ := node.reaches_session object
  have inbox := Session.reaches_inbox_unrestricted reached
  exact ⟨Inbox.placed_of_reaches inbox, Inbox.inOrder_of_reaches inbox,
    Inbox.tracked_of_reaches inbox, Inbox.reaches_channel inbox⟩

/-- The drain loop writes only to a stdin that is there. -/
theorem writes_attached : (node.session object).inbox.Attached := by
  obtain ⟨spec, reached⟩ := node.reaches_session object
  exact Inbox.attached_of_reaches (Session.reaches_inbox_unrestricted reached)

/-- Chunks of output tell where they belong. -/
theorem outputs_placed : (node.session object).queue.Offsets := by
  obtain ⟨spec, reached⟩ := node.reaches_session object
  have free : Reaches Session.step (Session.OnOutput unrestricted) (.new spec) _ :=
    reached.mono fun _ _ _ _ _ => trivial
  exact OutputQueue.offsets_of_reaches (Session.reaches_queue free)

/-- The goroutines of a session agree on where they are. -/
theorem goroutines_agree : (node.session object).Indexed ∧ (node.session object).Coherent ∧
    (node.session object).life.Consistent := by
  obtain ⟨spec, reached⟩ := node.reaches_session object
  exact ⟨Session.indexed_of_reaches reached, Session.coherent_of_reaches reached,
    Session.consistent_of_reaches reached⟩

/-- The map has the latest session of each of its ids, and a session knows whether it is
there. -/
theorem sessions_listed : Listed node.1 ∧ Registered node.1 :=
  ⟨listed_of_reaches node.2, registered_of_reaches node.2⟩

end Reachable

end Node

end LubricantNodes.Execution
