import Mathlib.Logic.Function.Basic
import LubricantNodes.Transition.Core
import LubricantNodes.Execution.Input

/-!
# The inbox

What a session does with the inputs it is sent: the FIFO `pendingInputs`, the
dedupe keys, the drain loop that is the only writer of user frames, the stream
executors it writes to and the failures it reports.

Inputs are pointers, so a buffered input is identified by a ticket, its number
in order of arrival.  `appended`, `log` and `place` are history: the tickets in
the order they joined the FIFO, the statuses emitted and frames written in
order, and where every ticket is.
-/

namespace LubricantNodes.Execution

open Transition

/-- The goroutines that touch the inbox: the dispatch loop and the runs. -/
inductive Goroutine
  | dispatch
  | run (index : Nat)
  deriving DecidableEq

/-! ## Executors -/

/-- How far `streamExecutor.start` has come since the process was started. -/
inductive Boot
  /-- `stdin` is nil. -/
  | detached
  | attached
  /-- `nextSeq` has been called for the start frame. -/
  | greeting (seq : Nat)
  /-- The start frame is written. -/
  | started
  /-- Writing the start frame failed. -/
  | refused
  deriving DecidableEq

/-- The fields of `streamExecutor`, with the frames its process has been
written.  An executor of another kind never leaves its initial value. -/
structure Executor where
  kind : ExecutorKind
  boot : Boot
  seq : Nat
  closed : Bool
  written : List Frame

namespace Executor

/-- A new executor. -/
def new (kind : ExecutorKind) : Executor where
  kind := kind
  boot := .detached
  seq := 0
  closed := false
  written := []

/-- `e.stdin != nil`. -/
def attached (executor : Executor) : Bool :=
  executor.boot ≠ .detached

end Executor

/-! ## Program counters -/

/-- Where `deliverInput` is. -/
inductive Delivery
  | idle
  /-- The session is found and the input stamped. -/
  | arrived (ticket : Nat)
  /-- Past the critical section of the dedupe check. -/
  | reserved (ticket : Nat)
  /-- In `reportInputFailure`. -/
  | rejecting
  /-- Appended, not yet acknowledged. -/
  | queued (ticket : Nat)
  /-- About to call `drainPending`. -/
  | acked
  /-- In `drainPending`. -/
  | draining
  deriving DecidableEq

/-- Where the goroutine that holds `drainMu` is in `drainPending`. -/
inductive Drainer
  /-- `drainMu` is free. -/
  | idle
  /-- At the head of the loop. -/
  | top (owner : Goroutine)
  /-- In `stream.deliver`, before the sequence number is taken. -/
  | deliver (owner : Goroutine) (executor ticket : Nat)
  /-- In `writeFrame`. -/
  | write (owner : Goroutine) (executor ticket : Nat) (frame : Frame)
  /-- Reporting one frame; the loop goes on. -/
  | reporting (owner : Goroutine)
  /-- Reporting the whole queue; the loop returns. -/
  | failing (owner : Goroutine)
  deriving DecidableEq

/-- The goroutine in `drainPending`. -/
def Drainer.owner : Drainer → Option Goroutine
  | idle => none
  | top owner => some owner
  | deliver owner .. => some owner
  | write owner .. => some owner
  | reporting owner => some owner
  | failing owner => some owner

/-- The goroutine reporting failures in `drainPending`. -/
def Drainer.reports : Drainer → Option Goroutine
  | reporting owner => some owner
  | failing owner => some owner
  | _ => none

/-- The inputs a goroutine has yet to pass to `reportInputFailure`, and whether
the call on the first of them has released its key. -/
structure Reporter where
  todo : List (Nat × FailReason)
  released : Bool

/-! ## History -/

/-- What the node has told its peers about inputs. -/
inductive Entry
  /-- `input_status(received)` for an input that joined the FIFO. -/
  | received (ticket : Nat)
  /-- `input_status(received)` for a replay that was dropped. -/
  | replayed (ticket : Nat)
  /-- `input_status(failed)`. -/
  | failed (ticket : Nat) (reason : FailReason)
  /-- The input's frame was written to the stdin of this executor's process. -/
  | wrote (executor ticket : Nat)
  deriving DecidableEq

/-- Where an input is. -/
inductive Place
  | absent
  | arrived
  | reserved
  | replayed
  | queued
  | popped
  | failing (goroutine : Goroutine)
  | failed
  /-- Failed without a message id, so not reported. -/
  | silent
  | written
  deriving DecidableEq

/-- The input side of a session. -/
structure Inbox where
  input : Nat → SessionInput
  arrivals : Nat
  pending : List Nat
  seen : String → Bool
  executors : Nat → Executor
  /-- How many executors `startRuntime` has installed. -/
  installed : Nat
  delivery : Delivery
  drainer : Drainer
  reporter : Goroutine → Reporter
  appended : List Nat
  log : List Entry
  place : Nat → Place

namespace Inbox

/-- The inbox of a new session. -/
def new : Inbox where
  input := fun _ => {}
  arrivals := 0
  pending := []
  seen := fun _ => false
  executors := fun _ => .new .localProcess
  installed := 0
  delivery := .idle
  drainer := .idle
  reporter := fun _ => ⟨[], false⟩
  appended := []
  log := []
  place := fun _ => .absent

/-- The atomic actions on an inbox. -/
inductive Event
  /-- `startRuntime` sets `session.executor`. -/
  | install (kind : ExecutorKind)
  /-- `e.stdin = stdin`. -/
  | attach (index : Nat)
  /-- `nextSeq` for the start frame. -/
  | sequence (index : Nat)
  /-- `writeFrame` of the start frame returns: `ok` when without error. -/
  | greet (index : Nat) (provider sessionId taskId : String) (ok : Bool)
  /-- `wait` sets `e.closed`.  When `racing`, it does so while the drain loop is
  between `isClosed` and `ready`. -/
  | close (index : Nat) (racing : Bool)
  /-- `deliverInput` has found the session and stamped the input. -/
  | arrive (input : SessionInput)
  | dedupe
  | enqueue
  | ack
  /-- `deliverInput` returns. -/
  | finish
  /-- `drainMu.Lock()`. -/
  | lock (goroutine : Goroutine)
  /-- The critical section at the head of the drain loop. -/
  | check
  /-- The part of `deliver` before the write. -/
  | deliver
  /-- `writeFrame`; `error` is what the pipe answers when it is written to. -/
  | write (error : Option String)
  /-- The drain loop is done reporting. -/
  | proceed
  /-- `failPendingInputs` swaps the queue. -/
  | sweep (goroutine : Goroutine) (reason : FailReason)
  /-- `reportInputFailure` deletes the dedupe key. -/
  | release (goroutine : Goroutine)
  /-- `reportInputFailure` emits the status. -/
  | emit (goroutine : Goroutine)
  deriving DecidableEq

variable (inbox : Inbox)

/-- `session.executor`: the executor installed last. -/
def current : Option Nat :=
  if inbox.installed = 0 then none else some (inbox.installed - 1)

/-- `session.executor.(*streamExecutor)`. -/
def currentStream : Option Nat :=
  inbox.current.filter fun index => (inbox.executors index).kind = .stream

/-- The executor exists and is not a stream. -/
def oneShot : Bool :=
  inbox.current.any fun index => (inbox.executors index).kind ≠ .stream

/-- Replace an executor. -/
def setExecutor (index : Nat) (executor : Executor) : Inbox :=
  { inbox with executors := Function.update inbox.executors index executor }

/-- Enter a dedupe key as taken or as free. -/
def mark (seen : String → Bool) (key : String) (taken : Bool) : String → Bool :=
  Function.update seen key taken

/-- Move tickets to a place. -/
def move (tickets : List Nat) (place : Place) : Inbox :=
  { inbox with place := fun ticket => if ticket ∈ tickets then place else inbox.place ticket }

/-- Hand tickets to a goroutine's `reportInputFailure`. -/
def fail (goroutine : Goroutine) (tickets : List Nat) (reason : FailReason) : Inbox :=
  let reporter := inbox.reporter goroutine
  let todo := reporter.todo ++ tickets.map fun ticket => (ticket, reason)
  { inbox.move tickets (.failing goroutine) with
    reporter := Function.update inbox.reporter goroutine { reporter with todo := todo } }

/-- Fail everything pending. -/
def failPending (goroutine : Goroutine) (reason : FailReason) : Inbox :=
  { inbox.fail goroutine inbox.pending reason with pending := [] }

/-! ## Executor actions -/

/-- The actions of `streamExecutor.start` and of the `wait` it returns. -/
def attach (index : Nat) : Option Inbox :=
  let executor := inbox.executors index
  guarded (executor.kind = .stream ∧ executor.boot = .detached)
    (inbox.setExecutor index { executor with boot := .attached })

/-- `nextSeq` for the start frame. -/
def sequence (index : Nat) : Option Inbox :=
  let executor := inbox.executors index
  guarded (executor.boot = .attached)
    (inbox.setExecutor index
      { executor with boot := .greeting executor.seq, seq := executor.seq + 1 })

/-- `writeFrame` of the start frame: it fails or the process gets the frame. -/
def greet (index : Nat) (provider sessionId taskId : String) (ok : Bool) : Option Inbox :=
  let executor := inbox.executors index
  match executor.boot with
  | .greeting seq =>
    if ok then
      guarded (executor.closed = false)
        (inbox.setExecutor index
          { executor with
            boot := .started
            written := executor.written ++ [.start seq provider sessionId taskId] })
    else some (inbox.setExecutor index { executor with boot := .refused })
  | _ => none

/-- `wait` marks the stream as closed.  A drain loop that has just seen it open finds
it not ready and returns. -/
def close (index : Nat) (racing : Bool) : Option Inbox :=
  let executor := inbox.executors index
  let closed := inbox.setExecutor index { executor with closed := true }
  if racing then
    match inbox.drainer with
    | .top _ =>
      guarded (inbox.pending ≠ [] ∧ inbox.currentStream = some index ∧ executor.closed = false)
        { closed with drainer := .idle }
    | _ => none
  else some closed

/-! ## `deliverInput` -/

/-- A new input, for a session that exists. -/
def arrive (input : SessionInput) : Option Inbox :=
  guarded (inbox.delivery = .idle)
    { inbox.move [inbox.arrivals] .arrived with
      input := Function.update inbox.input inbox.arrivals input
      arrivals := inbox.arrivals + 1
      delivery := .arrived inbox.arrivals }

/-- The critical section of the dedupe check: a replay is acknowledged and dropped, any
other input takes its key. -/
def dedupe : Option Inbox :=
  match inbox.delivery with
  | .arrived ticket =>
    let input := inbox.input ticket
    if input.dedupes then
      if inbox.seen input.messageKey then
        some { inbox.move [ticket] .replayed with
          log := inbox.log ++ [.replayed ticket]
          delivery := .idle }
      else
        some { inbox.move [ticket] .reserved with
          seen := mark inbox.seen input.messageKey true
          delivery := .reserved ticket }
    else some { inbox.move [ticket] .reserved with delivery := .reserved ticket }
  | _ => none

/-- Append to the FIFO, unless the executor takes no input. -/
def enqueue : Option Inbox :=
  match inbox.delivery with
  | .reserved ticket =>
    if inbox.oneShot then
      some { inbox.fail .dispatch [ticket] .notInteractive with delivery := .rejecting }
    else
      some { inbox.move [ticket] .queued with
        pending := inbox.pending ++ [ticket]
        appended := inbox.appended ++ [ticket]
        delivery := .queued ticket }
  | _ => none

/-- `input_status(received)`, for an input with a message id. -/
def ack : Option Inbox :=
  match inbox.delivery with
  | .queued ticket =>
    some { inbox with
      log := if (inbox.input ticket).messageId = "" then inbox.log
        else inbox.log ++ [.received ticket]
      delivery := .acked }
  | _ => none

/-- `deliverInput` returns: its report is out, or its drain is done. -/
def finish : Option Inbox :=
  match inbox.delivery with
  | .rejecting =>
    guarded ((inbox.reporter .dispatch).todo = []) { inbox with delivery := .idle }
  | .draining =>
    guarded (inbox.drainer.owner ≠ some .dispatch) { inbox with delivery := .idle }
  | _ => none

/-! ## `drainPending` -/

/-- `drainMu.Lock()`. -/
def lock (goroutine : Goroutine) : Option Inbox :=
  match goroutine with
  | .dispatch =>
    guarded (inbox.drainer = .idle ∧ inbox.delivery = .acked)
      { inbox with drainer := .top .dispatch, delivery := .draining }
  | .run index => guarded (inbox.drainer = .idle) { inbox with drainer := .top (.run index) }

/-- The head of the drain loop: nothing to do, a closed stream that fails the queue, a
stream that is not ready, or the first input, taken off the queue. -/
def check : Option Inbox :=
  match inbox.drainer with
  | .top owner =>
    match inbox.pending, inbox.currentStream with
    | [], _ => some { inbox with drainer := .idle }
    | _, none => some { inbox with drainer := .idle }
    | ticket :: rest, some index =>
      let executor := inbox.executors index
      if executor.closed then
        some { inbox.failPending owner .streamClosed with drainer := .failing owner }
      else if executor.attached then
        some { inbox.move [ticket] .popped with
          pending := rest
          drainer := .deliver owner index ticket }
      else some { inbox with drainer := .idle }
  | _ => none

/-- `deliver` up to the write: the sequence number and the frame, unless the kind is
unknown. -/
def deliver : Option Inbox :=
  match inbox.drainer with
  | .deliver owner index ticket =>
    let executor := inbox.executors index
    match (inbox.input ticket).frame executor.seq with
    | .ok frame =>
      some { inbox.setExecutor index { executor with seq := executor.seq + 1 } with
        drainer := .write owner index ticket frame }
    | .error kind =>
      some { inbox.fail owner [ticket] (.unknownKind kind) with drainer := .reporting owner }
  | _ => none

/-- `writeFrame`: a stream that was closed fails the input, and one without a pipe puts
it back in front. -/
def write (error : Option String) : Option Inbox :=
  match inbox.drainer with
  | .write owner index ticket frame =>
    let executor := inbox.executors index
    if executor.closed then
      some { inbox.fail owner [ticket] .streamClosed with drainer := .reporting owner }
    else if executor.attached then
      match error with
      | none =>
        some { (inbox.move [ticket] .written).setExecutor index
            { executor with written := executor.written ++ [frame] } with
          log := inbox.log ++ [.wrote index ticket]
          drainer := .top owner }
      | some text =>
        some { inbox.fail owner [ticket] (.write text) with drainer := .reporting owner }
    else
      some { inbox.move [ticket] .queued with
        pending := ticket :: inbox.pending
        drainer := .idle }
  | _ => none

/-- Go on after a report, or return after the report on the whole queue. -/
def proceed : Option Inbox :=
  match inbox.drainer with
  | .reporting owner =>
    guarded ((inbox.reporter owner).todo = []) { inbox with drainer := .top owner }
  | .failing owner =>
    guarded ((inbox.reporter owner).todo = []) { inbox with drainer := .idle }
  | _ => none

/-! ## `reportInputFailure` -/

/-- The first half of `reportInputFailure`: without a message id it ends there, otherwise
the key is free again. -/
def release (goroutine : Goroutine) : Option Inbox :=
  match (inbox.reporter goroutine).todo, (inbox.reporter goroutine).released with
  | (ticket, reason) :: rest, false =>
    let input := inbox.input ticket
    if input.messageId = "" then
      some { inbox.move [ticket] .silent with
        reporter := Function.update inbox.reporter goroutine ⟨rest, false⟩ }
    else
      some { inbox with
        seen := mark inbox.seen input.messageKey false
        reporter := Function.update inbox.reporter goroutine ⟨(ticket, reason) :: rest, true⟩ }
  | _, _ => none

/-- The second half of `reportInputFailure`: `input_status(failed)`. -/
def emit (goroutine : Goroutine) : Option Inbox :=
  match (inbox.reporter goroutine).todo, (inbox.reporter goroutine).released with
  | (ticket, reason) :: rest, true =>
    some { inbox.move [ticket] .failed with
      log := inbox.log ++ [.failed ticket reason]
      reporter := Function.update inbox.reporter goroutine ⟨rest, false⟩ }
  | _, _ => none

/-- One atomic action on the inbox. -/
def step : Step Inbox Event
  | inbox, .install kind =>
    some { inbox.setExecutor inbox.installed (.new kind) with installed := inbox.installed + 1 }
  | inbox, .attach index => inbox.attach index
  | inbox, .sequence index => inbox.sequence index
  | inbox, .greet index provider sessionId taskId ok =>
    inbox.greet index provider sessionId taskId ok
  | inbox, .close index racing => inbox.close index racing
  | inbox, .arrive input => inbox.arrive input
  | inbox, .dedupe => inbox.dedupe
  | inbox, .enqueue => inbox.enqueue
  | inbox, .ack => inbox.ack
  | inbox, .finish => inbox.finish
  | inbox, .lock goroutine => inbox.lock goroutine
  | inbox, .check => inbox.check
  | inbox, .deliver => inbox.deliver
  | inbox, .write error => inbox.write error
  | inbox, .proceed => inbox.proceed
  | inbox, .sweep goroutine reason => some (inbox.failPending goroutine reason)
  | inbox, .release goroutine => inbox.release goroutine
  | inbox, .emit goroutine => inbox.emit goroutine

/-! ## What a step does -/

/-- The steps of the inbox, one constructor for each way an action can go. -/
inductive Moves (inbox : Inbox) : Event → Inbox → Prop
  | install {kind} :
      Moves inbox (.install kind)
        { inbox.setExecutor inbox.installed (.new kind) with installed := inbox.installed + 1 }
  | attach {index} : (inbox.executors index).kind = .stream →
      (inbox.executors index).boot = .detached →
      Moves inbox (.attach index)
        (inbox.setExecutor index { inbox.executors index with boot := .attached })
  | sequence {index} : (inbox.executors index).boot = .attached →
      Moves inbox (.sequence index)
        (inbox.setExecutor index
          { inbox.executors index with
            boot := .greeting (inbox.executors index).seq
            seq := (inbox.executors index).seq + 1 })
  | greet {index seq provider sessionId taskId} :
      (inbox.executors index).boot = .greeting seq → (inbox.executors index).closed = false →
      Moves inbox (.greet index provider sessionId taskId true)
        (inbox.setExecutor index
          { inbox.executors index with
            boot := .started
            written := (inbox.executors index).written ++
              [.start seq provider sessionId taskId] })
  | refuse {index seq provider sessionId taskId} :
      (inbox.executors index).boot = .greeting seq →
      Moves inbox (.greet index provider sessionId taskId false)
        (inbox.setExecutor index { inbox.executors index with boot := .refused })
  | close {index} :
      Moves inbox (.close index false)
        (inbox.setExecutor index { inbox.executors index with closed := true })
  | closeRacing {index owner} : inbox.drainer = .top owner →
      inbox.pending ≠ [] → inbox.currentStream = some index →
      (inbox.executors index).closed = false →
      Moves inbox (.close index true)
        { inbox.setExecutor index { inbox.executors index with closed := true } with
          drainer := .idle }
  | arrive {input} : inbox.delivery = .idle →
      Moves inbox (.arrive input)
        { inbox.move [inbox.arrivals] .arrived with
          input := Function.update inbox.input inbox.arrivals input
          arrivals := inbox.arrivals + 1
          delivery := .arrived inbox.arrivals }
  | replay {ticket} : inbox.delivery = .arrived ticket →
      (inbox.input ticket).dedupes = true → inbox.seen (inbox.input ticket).messageKey = true →
      Moves inbox .dedupe
        { inbox.move [ticket] .replayed with
          log := inbox.log ++ [.replayed ticket]
          delivery := .idle }
  | reserve {ticket} : inbox.delivery = .arrived ticket →
      (inbox.input ticket).dedupes = true → inbox.seen (inbox.input ticket).messageKey = false →
      Moves inbox .dedupe
        { inbox.move [ticket] .reserved with
          seen := mark inbox.seen (inbox.input ticket).messageKey true
          delivery := .reserved ticket }
  | forward {ticket} : inbox.delivery = .arrived ticket →
      (inbox.input ticket).dedupes = false →
      Moves inbox .dedupe
        { inbox.move [ticket] .reserved with delivery := .reserved ticket }
  | reject {ticket} : inbox.delivery = .reserved ticket → inbox.oneShot = true →
      Moves inbox .enqueue
        { inbox.fail .dispatch [ticket] .notInteractive with delivery := .rejecting }
  | enqueue {ticket} : inbox.delivery = .reserved ticket → inbox.oneShot = false →
      Moves inbox .enqueue
        { inbox.move [ticket] .queued with
          pending := inbox.pending ++ [ticket]
          appended := inbox.appended ++ [ticket]
          delivery := .queued ticket }
  | ack {ticket} : inbox.delivery = .queued ticket →
      Moves inbox .ack
        { inbox with
          log := if (inbox.input ticket).messageId = "" then inbox.log
            else inbox.log ++ [.received ticket]
          delivery := .acked }
  | finishRejecting : inbox.delivery = .rejecting → (inbox.reporter .dispatch).todo = [] →
      Moves inbox .finish { inbox with delivery := .idle }
  | finishDraining : inbox.delivery = .draining → inbox.drainer.owner ≠ some .dispatch →
      Moves inbox .finish { inbox with delivery := .idle }
  | lockDispatch : inbox.drainer = .idle → inbox.delivery = .acked →
      Moves inbox (.lock .dispatch)
        { inbox with drainer := .top .dispatch, delivery := .draining }
  | lockRun {index} : inbox.drainer = .idle →
      Moves inbox (.lock (.run index)) { inbox with drainer := .top (.run index) }
  | checkEmpty {owner} : inbox.drainer = .top owner → inbox.pending = [] →
      Moves inbox .check { inbox with drainer := .idle }
  | checkNoStream {owner} : inbox.drainer = .top owner →
      inbox.currentStream = none → Moves inbox .check { inbox with drainer := .idle }
  | checkClosed {owner index} : inbox.drainer = .top owner →
      inbox.currentStream = some index → (inbox.executors index).closed = true →
      Moves inbox .check
        { inbox.failPending owner .streamClosed with drainer := .failing owner }
  | checkPop {owner index ticket rest} :
      inbox.drainer = .top owner → inbox.currentStream = some index →
      inbox.pending = ticket :: rest → (inbox.executors index).closed = false →
      (inbox.executors index).attached = true →
      Moves inbox .check
        { inbox.move [ticket] .popped with
          pending := rest
          drainer := .deliver owner index ticket }
  | checkDetached {owner index} : inbox.drainer = .top owner →
      inbox.currentStream = some index → (inbox.executors index).closed = false →
      (inbox.executors index).attached = false →
      Moves inbox .check { inbox with drainer := .idle }
  | deliver {owner index ticket frame} :
      inbox.drainer = .deliver owner index ticket →
      (inbox.input ticket).frame (inbox.executors index).seq = .ok frame →
      Moves inbox .deliver
        { inbox.setExecutor index
            { inbox.executors index with seq := (inbox.executors index).seq + 1 } with
          drainer := .write owner index ticket frame }
  | deliverUnknown {owner index ticket kind} :
      inbox.drainer = .deliver owner index ticket →
      (inbox.input ticket).frame (inbox.executors index).seq = .error kind →
      Moves inbox .deliver
        { inbox.fail owner [ticket] (.unknownKind kind) with drainer := .reporting owner }
  | writeClosed {owner index ticket frame error} : inbox.drainer = .write owner index ticket frame →
      (inbox.executors index).closed = true →
      Moves inbox (.write error)
        { inbox.fail owner [ticket] .streamClosed with drainer := .reporting owner }
  | write {owner index ticket frame} :
      inbox.drainer = .write owner index ticket frame →
      (inbox.executors index).closed = false → (inbox.executors index).attached = true →
      Moves inbox (.write none)
        { (inbox.move [ticket] .written).setExecutor index
            { inbox.executors index with
              written := (inbox.executors index).written ++ [frame] } with
          log := inbox.log ++ [.wrote index ticket]
          drainer := .top owner }
  | writeFailed {owner index ticket frame text} :
      inbox.drainer = .write owner index ticket frame →
      (inbox.executors index).closed = false → (inbox.executors index).attached = true →
      Moves inbox (.write (some text))
        { inbox.fail owner [ticket] (.write text) with drainer := .reporting owner }
  | writeDetached {owner index ticket frame error} :
      inbox.drainer = .write owner index ticket frame →
      (inbox.executors index).closed = false → (inbox.executors index).attached = false →
      Moves inbox (.write error)
        { inbox.move [ticket] .queued with
          pending := ticket :: inbox.pending
          drainer := .idle }
  | reported {owner} : inbox.drainer = .reporting owner →
      (inbox.reporter owner).todo = [] →
      Moves inbox .proceed { inbox with drainer := .top owner }
  | failed {owner} : inbox.drainer = .failing owner →
      (inbox.reporter owner).todo = [] → Moves inbox .proceed { inbox with drainer := .idle }
  | sweep {goroutine reason} :
      Moves inbox (.sweep goroutine reason) (inbox.failPending goroutine reason)
  | skip {goroutine ticket reason rest} :
      inbox.reporter goroutine = ⟨(ticket, reason) :: rest, false⟩ →
      (inbox.input ticket).messageId = "" →
      Moves inbox (.release goroutine)
        { inbox.move [ticket] .silent with
          reporter := Function.update inbox.reporter goroutine ⟨rest, false⟩ }
  | release {goroutine ticket reason rest} :
      inbox.reporter goroutine = ⟨(ticket, reason) :: rest, false⟩ →
      (inbox.input ticket).messageId ≠ "" →
      Moves inbox (.release goroutine)
        { inbox with
          seen := mark inbox.seen (inbox.input ticket).messageKey false
          reporter := Function.update inbox.reporter goroutine
            ⟨(ticket, reason) :: rest, true⟩ }
  | emit {goroutine ticket reason rest} :
      inbox.reporter goroutine = ⟨(ticket, reason) :: rest, true⟩ →
      Moves inbox (.emit goroutine)
        { inbox.move [ticket] .failed with
          log := inbox.log ++ [.failed ticket reason]
          reporter := Function.update inbox.reporter goroutine ⟨rest, false⟩ }

/-- Every step of the inbox is one of `Moves`. -/
theorem moves {inbox inbox' : Inbox} {event : Event} (step : inbox.step event = some inbox') :
    Moves inbox event inbox' := by
  cases event with
  | install kind =>
    cases step
    exact .install
  | attach index =>
    obtain ⟨⟨stream, detached⟩, rfl⟩ := guarded_eq_some_iff.mp step
    exact .attach stream detached
  | sequence index =>
    obtain ⟨attached, rfl⟩ := guarded_eq_some_iff.mp step
    exact .sequence attached
  | greet index provider sessionId taskId ok =>
    simp only [Inbox.step, Inbox.greet] at step
    split at step
    next seq greeting =>
      cases ok with
      | true =>
        obtain ⟨isOpen, rfl⟩ := guarded_eq_some_iff.mp step
        exact .greet greeting isOpen
      | false =>
        cases step
        exact .refuse greeting
    next => contradiction
  | close index racing =>
    cases racing with
    | false =>
      cases step
      exact .close
    | true =>
      simp only [Inbox.step, Inbox.close, if_true] at step
      split at step
      next owner top =>
        obtain ⟨⟨waiting, stream, isOpen⟩, rfl⟩ := guarded_eq_some_iff.mp step
        exact .closeRacing top waiting stream isOpen
      next => contradiction
  | arrive input =>
    obtain ⟨idle, rfl⟩ := guarded_eq_some_iff.mp step
    exact .arrive idle
  | dedupe =>
    simp only [Inbox.step, Inbox.dedupe] at step
    split at step
    next ticket arrived =>
      split_ifs at step with dedupes seen <;> cases step
      · exact .replay arrived dedupes seen
      · exact .reserve arrived dedupes (eq_false_of_ne_true seen)
      · exact .forward arrived (eq_false_of_ne_true dedupes)
    next => contradiction
  | enqueue =>
    simp only [Inbox.step, Inbox.enqueue] at step
    split at step
    next ticket reserved =>
      split_ifs at step with oneShot <;> cases step
      · exact .reject reserved oneShot
      · exact .enqueue reserved (eq_false_of_ne_true oneShot)
    next => contradiction
  | ack =>
    simp only [Inbox.step, Inbox.ack] at step
    split at step
    next ticket queued =>
      cases step
      exact .ack queued
    next => contradiction
  | finish =>
    simp only [Inbox.step, Inbox.finish] at step
    split at step
    next rejecting =>
      obtain ⟨empty, rfl⟩ := guarded_eq_some_iff.mp step
      exact .finishRejecting rejecting empty
    next draining =>
      obtain ⟨released, rfl⟩ := guarded_eq_some_iff.mp step
      exact .finishDraining draining released
    next => contradiction
  | lock goroutine =>
    cases goroutine with
    | dispatch =>
      obtain ⟨⟨idle, acked⟩, rfl⟩ := guarded_eq_some_iff.mp step
      exact .lockDispatch idle acked
    | run index =>
      obtain ⟨idle, rfl⟩ := guarded_eq_some_iff.mp step
      exact .lockRun idle
  | check =>
    simp only [Inbox.step, Inbox.check] at step
    split at step
    next owner top =>
      split at step
      next empty =>
        cases step
        exact .checkEmpty top empty
      next noStream _ =>
        cases step
        exact .checkNoStream top noStream
      next ticket rest index pending stream =>
        split_ifs at step with closed attached <;> cases step
        · exact .checkClosed top stream closed
        · exact .checkPop top stream pending (eq_false_of_ne_true closed) attached
        · exact .checkDetached top stream (eq_false_of_ne_true closed)
            (eq_false_of_ne_true attached)
    next => contradiction
  | deliver =>
    simp only [Inbox.step, Inbox.deliver] at step
    split at step
    next owner index ticket held =>
      split at step
      next frame built =>
        cases step
        exact .deliver held built
      next kind unknown =>
        cases step
        exact .deliverUnknown held unknown
    next => contradiction
  | write error =>
    simp only [Inbox.step, Inbox.write] at step
    split at step
    next owner index ticket frame held =>
      split_ifs at step with closed attached
      · cases step
        exact .writeClosed held closed
      · have isOpen := eq_false_of_ne_true closed
        cases error with
        | none =>
          cases step
          exact .write held isOpen attached
        | some text =>
          cases step
          exact .writeFailed held isOpen attached
      · cases step
        exact .writeDetached held (eq_false_of_ne_true closed) (eq_false_of_ne_true attached)
    next => contradiction
  | proceed =>
    simp only [Inbox.step, Inbox.proceed] at step
    split at step
    next owner reporting =>
      obtain ⟨empty, rfl⟩ := guarded_eq_some_iff.mp step
      exact .reported reporting empty
    next owner failing =>
      obtain ⟨empty, rfl⟩ := guarded_eq_some_iff.mp step
      exact .failed failing empty
    next => contradiction
  | sweep goroutine reason =>
    cases step
    exact .sweep
  | release goroutine =>
    simp only [Inbox.step, Inbox.release] at step
    split at step
    next ticket reason rest todo held =>
      have reporter : inbox.reporter goroutine = ⟨(ticket, reason) :: rest, false⟩ := by
        rw [← todo, ← held]
      split_ifs at step with blank <;> cases step
      · exact .skip reporter blank
      · exact .release reporter blank
    next => contradiction
  | emit goroutine =>
    simp only [Inbox.step, Inbox.emit] at step
    split at step
    next ticket reason rest todo released =>
      have reporter : inbox.reporter goroutine = ⟨(ticket, reason) :: rest, true⟩ := by
        rw [← todo, ← released]
      cases step
      exact .emit reporter
    next => contradiction

/-! ## Field lemmas -/

@[simp]
theorem setExecutor_executors (index other : Nat) (executor : Executor) :
    (inbox.setExecutor index executor).executors other =
      if other = index then executor else inbox.executors other :=
  Function.update_apply ..

theorem mark_apply (seen : String → Bool) (key other : String) (taken : Bool) :
    mark seen key taken other = if other = key then taken else seen other :=
  Function.update_apply ..

/-- Executors are installed by `startRuntime` only. -/
theorem installed_of_step {inbox inbox' : Inbox} {event : Event}
    (step : inbox.step event = some inbox') :
    ((∀ kind, event ≠ .install kind) ∧ inbox'.installed = inbox.installed) ∨
      ∃ kind, event = .install kind ∧ inbox'.installed = inbox.installed + 1 := by
  cases moves step with
  | install => exact .inr ⟨_, rfl, rfl⟩
  | _ => exact .inl ⟨fun _ => nofun, rfl⟩

end Inbox

end LubricantNodes.Execution
