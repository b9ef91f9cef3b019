import LubricantNodes.Execution.Delivery

/-!
# Frames on a runtime's stdin

What a stream process reads.  The stdin of a new process becomes visible to the
drain loop before the start frame is written, and the two take their sequence
numbers from one counter.  If the drain loop takes an input off the queue only
once the start frame is written, the start frame comes first and sequence
numbers increase.
-/

namespace LubricantNodes.Execution

open Transition

/-- The first frame a process was written is its start frame, and its frames
have increasing sequence numbers. -/
structure Executor.StartsFirst (executor : Executor) : Prop where
  first : ∀ frame, executor.written.head? = some frame → frame.isStart = true
  increasing : (executor.written.map Frame.seq).Pairwise (· < ·)

/-- What is known of an executor that is not being written to. -/
structure Executor.Sequenced (executor : Executor) : Prop extends executor.StartsFirst where
  silent : executor.boot ≠ .started → executor.written = []
  greeted : executor.boot = .started → executor.written ≠ []
  greeting : ∀ seq, executor.boot = .greeting seq → seq < executor.seq
  below : ∀ frame ∈ executor.written, frame.seq < executor.seq

namespace Inbox

variable {inbox inbox' : Inbox} {event : Event}

/-- What a step does to one executor. -/
inductive ExecutorChange (inbox inbox' : Inbox) (index : Nat) : Prop
  | kept : inbox'.executors index = inbox.executors index → ExecutorChange inbox inbox' index
  | installed {kind : ExecutorKind} : index = inbox.installed →
      inbox'.executors index = .new kind → ExecutorChange inbox inbox' index
  | attached : (inbox.executors index).boot = .detached →
      inbox'.executors index = { inbox.executors index with boot := .attached } →
      ExecutorChange inbox inbox' index
  | sequenced : (inbox.executors index).boot = .attached →
      inbox'.executors index = { inbox.executors index with
        boot := .greeting (inbox.executors index).seq
        seq := (inbox.executors index).seq + 1 } →
      ExecutorChange inbox inbox' index
  | greeted {seq : Nat} {provider sessionId taskId : String} :
      (inbox.executors index).boot = .greeting seq →
      inbox'.executors index = { inbox.executors index with
        boot := .started
        written := (inbox.executors index).written ++ [.start seq provider sessionId taskId] } →
      ExecutorChange inbox inbox' index
  | refused {seq : Nat} : (inbox.executors index).boot = .greeting seq →
      inbox'.executors index = { inbox.executors index with boot := .refused } →
      ExecutorChange inbox inbox' index
  | closed : inbox'.executors index = { inbox.executors index with closed := true } →
      ExecutorChange inbox inbox' index
  | numbered {owner : Goroutine} {ticket : Nat} {frame : Frame} :
      inbox.drainer = .deliver owner index ticket →
      (inbox.input ticket).frame (inbox.executors index).seq = .ok frame →
      inbox'.executors index =
        { inbox.executors index with seq := (inbox.executors index).seq + 1 } →
      inbox'.drainer = .write owner index ticket frame → ExecutorChange inbox inbox' index
  | wrote {owner : Goroutine} {ticket : Nat} {frame : Frame} :
      inbox.drainer = .write owner index ticket frame →
      inbox'.executors index = { inbox.executors index with
        written := (inbox.executors index).written ++ [frame] } →
      inbox'.drainer = .top owner → ExecutorChange inbox inbox' index

variable {index : Nat}

theorem executorChange_of_set {changed : Nat} {executor : Executor}
    (executors : inbox'.executors = (inbox.setExecutor changed executor).executors)
    (change : index = changed → inbox'.executors index = executor →
      ExecutorChange inbox inbox' index) : ExecutorChange inbox inbox' index := by
  have applied := congrFun executors index
  rw [setExecutor_executors] at applied
  split_ifs at applied with same
  · exact change same applied
  · exact .kept applied

theorem executorChange_of_step (step : inbox.step event = some inbox') (index : Nat) :
    ExecutorChange inbox inbox' index := by
  cases moves step with
  | install => exact executorChange_of_set rfl fun same equal => .installed same equal
  | attach _ detached =>
    refine executorChange_of_set rfl fun same equal => ?_
    subst same
    exact .attached detached equal
  | sequence attached =>
    refine executorChange_of_set rfl fun same equal => ?_
    subst same
    exact .sequenced attached equal
  | greet greeting =>
    refine executorChange_of_set rfl fun same equal => ?_
    subst same
    exact .greeted greeting equal
  | refuse greeting =>
    refine executorChange_of_set rfl fun same equal => ?_
    subst same
    exact .refused greeting equal
  | close | closeRacing =>
    refine executorChange_of_set rfl fun same equal => ?_
    subst same
    exact .closed equal
  | deliver held built =>
    refine executorChange_of_set rfl fun same equal => ?_
    subst same
    exact .numbered held built equal rfl
  | write held =>
    refine executorChange_of_set rfl fun same equal => ?_
    subst same
    exact .wrote held equal rfl
  | _ => exact .kept rfl

/-- The drain loop takes an input off the queue only for an executor whose start
frame is written. -/
def popsStarted (inbox : Inbox) : Event → Bool
  | .check =>
    inbox.currentStream.all fun index =>
      inbox.pending = [] || (inbox.executors index).closed ||
        !(inbox.executors index).attached || (inbox.executors index).boot = .started
  | _ => true

theorem lt_installed_of_currentStream (current : inbox.currentStream = some index) :
    index < inbox.installed := by
  have found := (Option.filter_eq_some_iff.mp current).1
  unfold Inbox.current at found
  split_ifs at found with none
  cases found
  omega

variable {owner : Goroutine} {ticket : Nat}

section FrameSteps

variable (step : inbox.step event = some inbox')

include step

/-- Where the drain loop has an input it has just taken off the queue. -/
theorem deliver_of_step (held : inbox'.drainer = .deliver owner index ticket) :
    inbox.drainer = .deliver owner index ticket ∨
      event = .check ∧ inbox.currentStream = some index ∧ inbox.pending ≠ [] ∧
        (inbox.executors index).closed = false ∧ (inbox.executors index).attached = true := by
  cases moves step with
  | checkPop _ current pending isOpen attached =>
    cases held
    exact .inr ⟨rfl, current, by simp [pending], isOpen, attached⟩
  | closeRacing | lockDispatch | lockRun | checkEmpty | checkNoStream | checkClosed
  | checkDetached | deliver | deliverUnknown | writeClosed | write | writeFailed
  | writeDetached | reported | failed => cases held
  | _ => exact .inl held

/-- Where the drain loop has a frame to write. -/
theorem write_of_step {frame : Frame} (held : inbox'.drainer = .write owner index ticket frame) :
    inbox.drainer = .write owner index ticket frame ∨ inbox.drainer = .deliver owner index ticket ∧
        (inbox.input ticket).frame (inbox.executors index).seq = .ok frame ∧
        inbox'.executors index =
          { inbox.executors index with seq := (inbox.executors index).seq + 1 } := by
  cases moves step with
  | deliver before built =>
    cases held
    exact .inr ⟨before, built, by simp⟩
  | closeRacing | lockDispatch | lockRun | checkEmpty | checkNoStream | checkClosed | checkPop
  | checkDetached | deliverUnknown | writeClosed | write | writeFailed | writeDetached
  | reported | failed => cases held
  | _ => exact .inl held

/-- The executors are sequenced, and an input the drain loop has taken off the
queue is for an executor whose start frame is written. -/
structure Framed (inbox : Inbox) : Prop where
  sequenced : ∀ index, (inbox.executors index).Sequenced
  delivering : ∀ owner index ticket, inbox.drainer = .deliver owner index ticket →
    index < inbox.installed ∧ (inbox.executors index).boot = .started
  writing : ∀ owner index ticket frame, inbox.drainer = .write owner index ticket frame →
    index < inbox.installed ∧ (inbox.executors index).boot = .started ∧
      frame.seq < (inbox.executors index).seq ∧
      ∀ earlier ∈ (inbox.executors index).written, earlier.seq < frame.seq

theorem sequenced_step (framed : Framed inbox)
    (index : Nat) : (inbox'.executors index).Sequenced := by
  have before := framed.sequenced index
  cases executorChange_of_step step index with
  | kept same => rwa [same]
  | installed _ fresh =>
    rw [fresh]
    exact ⟨⟨nofun, List.Pairwise.nil⟩, fun _ => rfl, nofun, nofun, nofun⟩
  | attached detached same =>
    have silent := before.silent (by simp [detached])
    rw [same]
    exact ⟨⟨before.first, before.increasing⟩, fun _ => silent, nofun, nofun, before.below⟩
  | sequenced attached same =>
    have silent := before.silent (by simp [attached])
    rw [same]
    refine ⟨⟨before.first, before.increasing⟩, fun _ => silent, nofun, ?_, ?_⟩
    · rintro _ ⟨⟩
      exact Nat.lt_succ_self _
    · exact fun frame mem => Nat.lt_succ_of_lt (before.below frame mem)
  | @greeted seq _ _ _ greeting same =>
    have silent := before.silent (by simp [greeting])
    have number := before.greeting seq greeting
    rw [same]
    refine ⟨⟨?_, ?_⟩, ?_, ?_, nofun, ?_⟩ <;> simp [silent, Frame.isStart, Frame.seq, number]
  | refused greeting same =>
    have silent := before.silent (by simp [greeting])
    rw [same]
    exact ⟨⟨before.first, before.increasing⟩, fun _ => silent, nofun, nofun, before.below⟩
  | closed same =>
    rw [same]
    exact ⟨⟨before.first, before.increasing⟩, before.silent, before.greeted, before.greeting,
      before.below⟩
  | numbered _ _ same _ =>
    rw [same]
    exact ⟨⟨before.first, before.increasing⟩, before.silent, before.greeted,
      fun seq greeting => Nat.lt_succ_of_lt (before.greeting seq greeting),
      fun frame mem => Nat.lt_succ_of_lt (before.below frame mem)⟩
  | wrote held same _ =>
    obtain ⟨-, started, below, above⟩ := framed.writing _ _ _ _ held
    have greeted := before.greeted started
    rw [same]
    refine ⟨⟨?_, ?_⟩, ?_, ?_, ?_, ?_⟩
    · intro frame first
      rw [List.head?_append_of_ne_nil _ greeted] at first
      exact before.first frame first
    · rw [List.map_append]
      refine List.pairwise_append.mpr ⟨before.increasing, List.pairwise_singleton _ _, ?_⟩
      simpa using above
    · exact fun other => absurd started other
    · exact fun _ => by simp
    · exact before.greeting
    · exact List.forall_mem_append.mpr ⟨before.below, List.forall_mem_singleton.mpr below⟩

/-- A started executor stays one. -/
theorem started_of_step (exists_ : index < inbox.installed)
    (started : (inbox.executors index).boot = .started) :
    index < inbox'.installed ∧ (inbox'.executors index).boot = .started := by
  constructor
  · rcases installed_of_step step with ⟨-, same⟩ | ⟨-, -, more⟩ <;> omega
  · cases executorChange_of_step step index with
    | kept same | closed same | numbered _ _ same | wrote _ same => rw [same]; exact started
    | installed last _ => omega
    | attached before | sequenced before | greeted before | refused before =>
      cases started.symm.trans before

theorem framed_step (framed : Framed inbox) (allowed : popsStarted inbox event = true) :
    Framed inbox' where
  sequenced := sequenced_step step framed
  delivering := by
    intro owner index ticket held
    rcases deliver_of_step step held with before | ⟨rfl, current, busy, isOpen, attached⟩
    · obtain ⟨below, started⟩ := framed.delivering owner index ticket before
      exact started_of_step step below started
    · have started : (inbox.executors index).boot = .started := by
        simpa [popsStarted, current, busy, isOpen, attached] using allowed
      exact started_of_step step (lt_installed_of_currentStream current) started
  writing := by
    intro owner index ticket frame held
    rcases write_of_step step held with before | ⟨before, built, executor⟩
    · obtain ⟨below, started, less, above⟩ := framed.writing owner index ticket frame before
      obtain ⟨below', started'⟩ := started_of_step step below started
      refine ⟨below', started', ?_⟩
      cases executorChange_of_step step index with
      | kept same | closed same =>
        rw [same]
        exact ⟨less, above⟩
      | installed last _ => omega
      | attached other | sequenced other | greeted other | refused other =>
        cases started.symm.trans other
      | numbered other => cases before.symm.trans other
      | wrote _ _ top => cases held.symm.trans top
    · obtain ⟨below, started⟩ := framed.delivering owner index ticket before
      obtain ⟨below', started'⟩ := started_of_step step below started
      have number := (SessionInput.frame_seq built).1
      refine ⟨below', started', ?_⟩
      rw [executor, number]
      exact ⟨Nat.lt_succ_self _, (framed.sequenced index).below⟩

end FrameSteps

theorem framed_of_reaches (reached : Reaches Inbox.step (checked popsStarted) new inbox) :
    Framed inbox := by
  refine reached.invariant ⟨fun _ => ?_, nofun, nofun⟩ fun _ framed allowed step =>
    framed_step step framed allowed
  exact ⟨⟨nofun, List.Pairwise.nil⟩, fun _ => rfl, nofun, nofun, nofun⟩

end Inbox

namespace Node

/-- If the drain loop takes inputs only once the start frame is written, every
process reads its start frame first and increasing sequence numbers. -/
theorem frames_startFirst {opts : SessionOptions} {node : Node}
    (reached : Reaches step (checked (meets (Session.onInput Inbox.popsStarted))) (new opts) node)
    {object : Nat} (existing : object < node.count) (index : Nat) :
    ((node.objects object).inbox.executors index).StartsFirst := by
  obtain ⟨spec, reached⟩ := reaches_object reached existing
  have framed := Inbox.framed_of_reaches (Session.reaches_inbox_checked reached)
  exact (framed.sequenced index).toStartsFirst

theorem frames_startFirst_greeting :
    ∃ node, Reaches step (checked (meets (Session.onInput Inbox.popsStarted)))
        (new claudeOptions) node ∧
      (((node.objects 0).inbox.executors 0).written.map Frame.seq = [0, 1]) ∧
      ((node.objects 0).inbox.executors 0).StartsFirst := by
  refine exists_reaches_imp_of_run (fun node => 0 < node.count ∧
        ((node.objects 0).inbox.executors 0).written.map Frame.seq = [0, 1])
      (streamStarted ++ buffered greeting ++ wroteNext 0 ++ returned 0) (by decide +kernel) ?_
  rintro node reached ⟨existing, written⟩
  exact ⟨written, frames_startFirst reached existing 0⟩

/-- The drain of a `deliverInput` that comes between the attachment of stdin and
the start frame writes first. -/
theorem frames_not_startFirst : ¬∀ (opts : SessionOptions) (node : Node) (object index : Nat),
      Reaches step unrestricted (new opts) node → object < node.count →
        ((node.objects object).inbox.executors index).StartsFirst := by
  intro startsFirst
  obtain ⟨node, reached, existing, first⟩ :
      ∃ node, Reaches step unrestricted (new claudeOptions) node ∧ 0 < node.count ∧
        ((node.objects 0).inbox.executors 0).written.head?.map Frame.isStart = some false :=
    exists_reaches_of_run (created streamSpec ++ prepared 0 ++ autoStarted 0 ++
        ([.startQueue, .prepare true none, .spawn none, .attach].map
          fun action => .act 0 (.run 0 action)) ++
        buffered greeting ++ wroteNext 0)
      (by decide +kernel)
  obtain ⟨frame, first, other⟩ := Option.map_eq_some_iff.mp first
  have isStart := (startsFirst _ node 0 0 reached existing).first frame first
  rw [other] at isStart
  contradiction

end Node

end LubricantNodes.Execution
