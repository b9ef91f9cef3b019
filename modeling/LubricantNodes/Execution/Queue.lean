import Mathlib.Logic.Function.Basic
import LubricantNodes.Transition.Core

/-!
# The output queue

`outputQueue` is the in-order buffer between a session's editor and the
upstream stream.  Producers append under the lock; a flusher goroutine, one for
every run of the editor, reads the head under the lock, releases it to emit,
and takes it again to pop.  Every action below is one critical section of the
queue's mutex or one emit outside it; `cond.Wait` is an action that is not
enabled until its predicate holds.

The queue belongs to the session and outlives its runs.  Flushers are indexed
by the run that started them.
-/

namespace LubricantNodes.Execution

open Transition

/-- `StdioStream`. -/
inductive StdioStream
  | stdout
  | stderr
  deriving DecidableEq

/-- `queuedChunk`; `time` is the clock reading taken when it was appended.  The
frame a flusher emits for it carries exactly these fields. -/
structure QueuedChunk where
  data : List UInt8
  stream : StdioStream
  offset : UInt64
  time : Nat
  deriving DecidableEq

/-- The program counter of a goroutine running `flush`. -/
inductive Flusher
  /-- The run has not started it. -/
  | absent
  /-- At the head of the loop, possibly in `cond.Wait`. -/
  | top
  /-- The lock is released and the frame of this chunk is about to be emitted. -/
  | holding (chunk : QueuedChunk)
  /-- The emit failed; in the `select` of the back-off. -/
  | backoff (chunk : QueuedChunk)
  /-- The emit succeeded; the head is about to be popped. -/
  | delivered
  /-- `flush` has returned. -/
  | exited
  deriving DecidableEq

/-- The goroutine exists and has not returned. -/
def Flusher.alive : Flusher → Bool
  | absent => false
  | exited => false
  | _ => true

/-- `outputQueue`, with its flushers.  `appended` and `emitted` are the history
of the queue: the chunks ever appended and the frames successfully emitted, in
order.  `panicked` records that a flusher sliced an empty `items`. -/
structure OutputQueue where
  items : List QueuedChunk
  offset : UInt64
  closed : Bool
  flusher : Nat → Flusher
  appended : List QueuedChunk
  emitted : List QueuedChunk
  panicked : Bool

namespace OutputQueue

/-- `newOutputQueue`. -/
def new : OutputQueue where
  items := []
  offset := 0
  closed := false
  flusher := fun _ => .absent
  appended := []
  emitted := []
  panicked := false

/-- The steps of `flush`, each a critical section or a blocking operation. -/
inductive FlushAction
  /-- The first critical section of an iteration: wait for a chunk and copy it. -/
  | peek
  /-- `q.emit(frame)` returns: `ok` when it returned no error. -/
  | emit (ok : Bool)
  /-- `<-time.After(500 * time.Millisecond)`. -/
  | retry
  /-- `<-ctx.Done()`. -/
  | giveUp
  /-- The second critical section of an iteration: drop the head. -/
  | pop
  deriving DecidableEq

/-- The atomic actions on a queue. -/
inductive Event
  /-- `start`: launch the flusher of run `index`. -/
  | start (index : Nat)
  /-- `append`. -/
  | append (data : List UInt8) (stream : StdioStream) (time : Nat)
  /-- A step of the flusher of run `index`. -/
  | flush (index : Nat) (action : FlushAction)
  /-- The function `start` returned. -/
  | stop
  deriving DecidableEq

variable (queue : OutputQueue)

variable (index : Nat) (flusher : Flusher)

/-- Move the flusher of run `index`. -/
def setFlusher : OutputQueue :=
  { queue with flusher := Function.update queue.flusher index flusher }

/-- `append`. -/
def append (data : List UInt8) (stream : StdioStream) (time : Nat) : OutputQueue :=
  let chunk : QueuedChunk := ⟨data, stream, queue.offset, time⟩
  { queue with
    items := queue.items ++ [chunk]
    offset := queue.offset + UInt64.ofNat data.length
    appended := queue.appended ++ [chunk] }

/-- The loop of `drain` exits. -/
def drained : Bool :=
  queue.items = [] || queue.closed

/-- One step of `flush`.  Whether the flusher's context is done is not the
queue's to know: the session guards `giveUp`. -/
def flush : FlushAction → Option OutputQueue
  | .peek =>
    match queue.flusher index, queue.items with
    | .top, [] => guarded (queue.closed = true) (queue.setFlusher index .exited)
    | .top, chunk :: _ => some (queue.setFlusher index (.holding chunk))
    | _, _ => none
  | .emit ok =>
    match queue.flusher index with
    | .holding chunk =>
      if ok then
        some { queue.setFlusher index .delivered with emitted := queue.emitted ++ [chunk] }
      else some (queue.setFlusher index (.backoff chunk))
    | _ => none
  | .retry =>
    match queue.flusher index with
    | .backoff _ => some (queue.setFlusher index .top)
    | _ => none
  | .giveUp =>
    match queue.flusher index with
    | .backoff _ => some (queue.setFlusher index .exited)
    | _ => none
  | .pop =>
    match queue.flusher index, queue.items with
    | .delivered, [] => some { queue with panicked := true }
    | .delivered, _ :: rest => some { queue.setFlusher index .top with items := rest }
    | _, _ => none

/-- One atomic action on the queue. -/
def step : Step OutputQueue Event
  | queue, .start index => guarded (queue.flusher index = .absent) (queue.setFlusher index .top)
  | queue, .append data stream time => some (queue.append data stream time)
  | queue, .flush index action => queue.flush index action
  | queue, .stop => some { queue with closed := true }

@[simp]
theorem setFlusher_flusher (other : Nat) (flusher : Flusher) :
    (queue.setFlusher index flusher).flusher other =
      if other = index then flusher else queue.flusher other :=
  Function.update_apply ..

@[simp]
theorem setFlusher_items : (queue.setFlusher index flusher).items = queue.items :=
  rfl

@[simp]
theorem setFlusher_closed : (queue.setFlusher index flusher).closed = queue.closed :=
  rfl

@[simp]
theorem setFlusher_appended : (queue.setFlusher index flusher).appended = queue.appended :=
  rfl

/-! ## What a step of `flush` does -/

/-- The steps of `flush`, one constructor for each way it can go. -/
inductive Flushes (queue : OutputQueue) (index : Nat) : FlushAction → OutputQueue → Prop
  | exit : queue.flusher index = .top → queue.items = [] → queue.closed = true →
      Flushes queue index .peek (queue.setFlusher index .exited)
  | hold {chunk rest} : queue.flusher index = .top →
      queue.items = chunk :: rest →
      Flushes queue index .peek (queue.setFlusher index (.holding chunk))
  | deliver {chunk} : queue.flusher index = .holding chunk →
      Flushes queue index (.emit true)
        { queue.setFlusher index .delivered with emitted := queue.emitted ++ [chunk] }
  | fail {chunk} : queue.flusher index = .holding chunk →
      Flushes queue index (.emit false) (queue.setFlusher index (.backoff chunk))
  | retry {chunk} : queue.flusher index = .backoff chunk →
      Flushes queue index .retry (queue.setFlusher index .top)
  | giveUp {chunk} : queue.flusher index = .backoff chunk →
      Flushes queue index .giveUp (queue.setFlusher index .exited)
  | panic : queue.flusher index = .delivered → queue.items = [] →
      Flushes queue index .pop { queue with panicked := true }
  | pop {chunk rest} : queue.flusher index = .delivered →
      queue.items = chunk :: rest →
      Flushes queue index .pop { queue.setFlusher index .top with items := rest }

theorem flushes {queue queue' : OutputQueue} {index : Nat} {action : FlushAction}
    (step : queue.flush index action = some queue') : Flushes queue index action queue' := by
  cases action with
  | peek =>
    simp only [flush] at step
    split at step
    next top empty =>
      obtain ⟨closed, rfl⟩ := guarded_eq_some_iff.mp step
      exact .exit top empty closed
    next top items =>
      cases step
      exact .hold top items
    next => contradiction
  | emit ok =>
    simp only [flush] at step
    split at step
    next chunk holding =>
      cases ok with
      | true =>
        cases step
        exact .deliver holding
      | false =>
        cases step
        exact .fail holding
    next => contradiction
  | retry =>
    simp only [flush] at step
    split at step
    next chunk waiting =>
      cases step
      exact .retry waiting
    next => contradiction
  | giveUp =>
    simp only [flush] at step
    split at step
    next chunk waiting =>
      cases step
      exact .giveUp waiting
    next => contradiction
  | pop =>
    simp only [flush] at step
    split at step
    next delivered empty =>
      cases step
      exact .panic delivered empty
    next delivered items =>
      cases step
      exact .pop delivered items
    next => contradiction

/-- A flusher comes to exist by `start` only. -/
theorem flusher_absent_iff_of_step {queue queue' : OutputQueue} {event : Event}
    (step : queue.step event = some queue') (index : Nat) :
    queue'.flusher index = .absent ↔ queue.flusher index = .absent ∧ event ≠ .start index := by
  cases event with
  | start started =>
    obtain ⟨absent, rfl⟩ := guarded_eq_some_iff.mp step
    by_cases same : index = started
    · subst same
      simp
    · simp [same, Ne.symm same]
  | append data stream time =>
    cases step
    simp [append]
  | stop =>
    cases step
    simp
  | flush moved action =>
    by_cases same : index = moved
    · subst same
      cases flushes step <;> simp_all
    · cases flushes step <;> simp [same]

end OutputQueue

end LubricantNodes.Execution
