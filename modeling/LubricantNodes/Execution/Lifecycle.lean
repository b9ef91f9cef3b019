import Mathlib.Logic.Function.Basic
import LubricantNodes.Transition.Core
import LubricantNodes.Execution.Queue
import LubricantNodes.Execution.Inbox

/-!
# The lifecycle of a session

The session's state field and everything that moves it: the provisioning
goroutine, the run goroutines, and the commands of the dispatch loop.  The
lifecycle also records the resources `delete` is to take back: the file
service's listener, the editor processes and the files under the directory
`delete` removes.

Each run has an index, its number in order of launch.  `session.runCancel` and
`session.runDone` are always those of the run launched last.
-/

namespace LubricantNodes.Execution

open Transition

/-- `sessionState`. -/
inductive SessionState
  | provisioning
  | provisioned
  | running
  | stopped
  deriving DecidableEq

/-! ## Runs -/

/-- Where a goroutine in `run` is. -/
inductive RunPc
  /-- Launched by `startRuntime`; nothing executed yet. -/
  | launched
  /-- The flusher is started; in `exectr.start`, before its directories are made. -/
  | preparing
  /-- In `exectr.start`, before the process is started. -/
  | spawning
  /-- The process of a stream executor is started; its start frame is not sent. -/
  | booting
  /-- `exectr.start` has returned; before `drainPending`. -/
  | spawned
  /-- In `drainPending`. -/
  | handing
  /-- The two pumps are running. -/
  | pumping
  /-- The pumps are done; in `exec.wait`. -/
  | waiting
  /-- In `queue.drain`. -/
  | draining
  /-- Before `reportResult`. -/
  | reporting
  /-- Before the swap of `failPendingInputs`. -/
  | sweeping
  /-- In the loop of `failPendingInputs`. -/
  | failing
  /-- After a failed spawn, before `reportResult`. -/
  | notifying
  /-- Before `markStopped`. -/
  | marking
  /-- Before the deferred `exec.cleanup`. -/
  | cleaning
  /-- Before the deferred stop of the queue. -/
  | stopping
  /-- Before the deferred `close(runDone)`. -/
  | closing
  /-- `runDone` is closed. -/
  | done
  deriving DecidableEq

/-- How far a run is from its end. -/
def RunPc.distance : RunPc → Nat
  | launched => 17
  | preparing => 16
  | spawning => 15
  | booting => 14
  | spawned => 13
  | handing => 12
  | pumping => 11
  | waiting => 10
  | draining => 9
  | reporting => 8
  | sweeping => 7
  | failing => 6
  | notifying => 5
  | marking => 4
  | cleaning => 3
  | stopping => 2
  | closing => 1
  | done => 0

theorem RunPc.eq_draining_of_distance {pc : RunPc} (distance : pc.distance = 9) :
    pc = .draining := by
  cases pc <;> first | rfl | cases distance

/-- The frame of `reportResult`. -/
structure SessionResult where
  exitCode : Int
  success : Bool
  error : String
  resultJson : String
  deriving DecidableEq

/-- A run goroutine and the process it supervises. -/
structure Run where
  kind : ExecutorKind
  pc : RunPc
  /-- `runCancel` has been called. -/
  cancelled : Bool
  /-- The editor process exists. -/
  alive : Bool
  stdoutDone : Bool
  stderrDone : Bool
  resultJson : String
  /-- The error of `exectr.start`. -/
  spawnError : Option String
  /-- What `exec.wait` returned. -/
  exit : Int × Option String
  result : Option SessionResult

namespace Run

/-- A run that does not exist. -/
def absent : Run where
  kind := .localProcess
  pc := .done
  cancelled := false
  alive := false
  stdoutDone := false
  stderrDone := false
  resultJson := ""
  spawnError := none
  exit := (0, none)
  result := none

/-- The run `startRuntime` launches. -/
def new (kind : ExecutorKind) : Run :=
  { absent with kind := kind, pc := .launched }

/-- The steps of a run, of its two pumps and of its process. -/
inductive Action
  /-- `queue.start`. -/
  | startQueue
  /-- `exectr.start` up to the process start; `made` when a directory was made. -/
  | prepare (made : Bool) (error : Option String)
  /-- The process start. -/
  | spawn (error : Option String)
  /-- `e.stdin = stdin`. -/
  | attach
  /-- `nextSeq` for the start frame. -/
  | sequence
  /-- `writeFrame` of the start frame. -/
  | greet (error : Option String)
  /-- `drainMu.Lock()` of the drain after the spawn. -/
  | lock
  /-- That drain returns. -/
  | resume
  /-- A pump appends a chunk. -/
  | append (data : List UInt8) (stream : StdioStream) (time : Nat)
  /-- A pump returns. -/
  | eof (stream : StdioStream) (resultJson : String)
  /-- The process exits. -/
  | exit
  /-- The process writes a file. -/
  | touch
  /-- `wg.Wait()`. -/
  | join
  /-- `exec.wait` returns.  For `racing`, see `Inbox.Event.close`. -/
  | wait (exitCode : Int) (error : Option String) (racing : Bool)
  /-- `queue.drain` returns. -/
  | drained
  /-- `reportResult`. -/
  | report
  /-- The swap of `failPendingInputs`. -/
  | sweep
  /-- `failPendingInputs` returns. -/
  | swept
  /-- `markStopped`. -/
  | mark
  /-- `exec.cleanup`; `removed` when a container was removed. -/
  | clean (removed : Bool)
  /-- The deferred stop of the queue. -/
  | stopQueue
  /-- `close(runDone)`. -/
  | close
  deriving DecidableEq

variable (run : Run)

/-- `exectr.start` fails. -/
def failSpawn (error : String) : Run :=
  { run with pc := .sweeping, spawnError := some error }

/-- The action is one of the goroutine in `run` itself, not of a pump or of the
process. -/
def Action.own : Action → Bool
  | .append .. => false
  | .eof .. => false
  | .exit => false
  | .touch => false
  | _ => true

/-- The action makes a file under the directory `delete` removes. -/
def Action.makesFile : Action → Bool
  | .prepare made _ => made
  | .touch => true
  | _ => false

/-- The result of a run whose process was waited for. -/
def exitResult : SessionResult where
  exitCode := if run.exit.2 ≠ none ∧ run.exit.1 = 0 then 1 else run.exit.1
  success := run.exit.2 = none ∧ run.exit.1 = 0
  error := run.exit.2.getD ""
  resultJson := run.resultJson

/-- The result of a run that could not be spawned. -/
def spawnResult : SessionResult where
  exitCode := 1
  success := false
  error := run.spawnError.getD ""
  resultJson := ""

/-- The pump of a stream has returned. -/
def pumped : StdioStream → Bool
  | .stdout => run.stdoutDone
  | .stderr => run.stderrDone

/-- One step of a run.  `ctxDone` tells whether its context is done: a process
is not started under a context that is done. -/
def step (ctxDone : Bool) : Action → Option Run
  | .startQueue => guarded (run.pc = .launched) { run with pc := .preparing }
  | .prepare _ error =>
    guarded (run.pc = .preparing)
      (match error with
      | none => { run with pc := .spawning }
      | some text => run.failSpawn text)
  | .spawn error =>
    guarded (run.pc = .spawning ∧ (error = none → ctxDone = false))
      (match error with
      | none =>
        { run with
          pc := if run.kind = .stream then .booting else .spawned
          alive := true }
      | some text => run.failSpawn text)
  | .attach => guarded (run.pc = .booting) run
  | .sequence => guarded (run.pc = .booting) run
  | .greet error =>
    guarded (run.pc = .booting)
      (match error with
      | none => { run with pc := .spawned }
      | some text => run.failSpawn ("send start frame: " ++ text))
  | .lock => guarded (run.pc = .spawned) { run with pc := .handing }
  | .resume => guarded (run.pc = .handing) { run with pc := .pumping }
  | .append _ stream _ => guarded (run.pc = .pumping ∧ run.pumped stream = false) run
  | .eof stream resultJson =>
    guarded (run.pc = .pumping ∧ run.pumped stream = false)
      (match stream with
      | .stdout => { run with stdoutDone := true, resultJson := resultJson }
      | .stderr => { run with stderrDone := true })
  | .exit => guarded (run.alive = true) { run with alive := false }
  | .touch => guarded (run.alive = true) run
  | .join =>
    guarded (run.pc = .pumping ∧ run.stdoutDone = true ∧ run.stderrDone = true)
      { run with pc := .waiting }
  | .wait exitCode error _ =>
    guarded (run.pc = .waiting ∧ (run.alive = true → run.kind = .docker))
      { run with pc := .draining, exit := (exitCode, error) }
  | .drained => guarded (run.pc = .draining) { run with pc := .reporting }
  | .report =>
    match run.pc with
    | .reporting => some { run with pc := .sweeping, result := some run.exitResult }
    | .notifying => some { run with pc := .marking, result := some run.spawnResult }
    | _ => none
  | .sweep => guarded (run.pc = .sweeping) { run with pc := .failing }
  | .swept =>
    guarded (run.pc = .failing)
      { run with pc := if run.spawnError = none then .marking else .notifying }
  | .mark =>
    guarded (run.pc = .marking)
      { run with pc := if run.spawnError = none then .cleaning else .stopping }
  | .clean removed =>
    guarded (run.pc = .cleaning)
      { run with
        pc := .stopping
        alive := if run.kind = .docker ∧ removed then false else run.alive }
  | .stopQueue => guarded (run.pc = .stopping) { run with pc := .closing }
  | .close => guarded (run.pc = .closing) { run with pc := .done }

/-- A run that is over and has no process takes no step. -/
theorem step_eq_none_of_done {run : Run} {ctxDone : Bool} (halted : run.pc = .done)
    (dead : run.alive = false) (action : Action) : run.step ctxDone action = none := by
  cases action <;> simp [step, guarded, halted, dead]

/-- The control flow of `run`. -/
inductive Flow : RunPc → Action → RunPc → Prop
  | startQueue : Flow .launched .startQueue .preparing
  | prepare {made} : Flow .preparing (.prepare made none) .spawning
  | prepareFailed {made text} :
      Flow .preparing (.prepare made (some text)) .sweeping
  | boot : Flow .spawning (.spawn none) .booting
  | spawn : Flow .spawning (.spawn none) .spawned
  | spawnFailed {text} : Flow .spawning (.spawn (some text)) .sweeping
  | attach : Flow .booting .attach .booting
  | sequence : Flow .booting .sequence .booting
  | greet : Flow .booting (.greet none) .spawned
  | greetFailed {text} : Flow .booting (.greet (some text)) .sweeping
  | lock : Flow .spawned .lock .handing
  | resume : Flow .handing .resume .pumping
  | append {data stream time} :
      Flow .pumping (.append data stream time) .pumping
  | eof {stream resultJson} :
      Flow .pumping (.eof stream resultJson) .pumping
  | exit {pc} : Flow pc .exit pc
  | touch {pc} : Flow pc .touch pc
  | join : Flow .pumping .join .waiting
  | wait {exitCode error racing} :
      Flow .waiting (.wait exitCode error racing) .draining
  | drained : Flow .draining .drained .reporting
  | report : Flow .reporting .report .sweeping
  | notify : Flow .notifying .report .marking
  | sweep : Flow .sweeping .sweep .failing
  | swept : Flow .failing .swept .marking
  | sweptUnspawned : Flow .failing .swept .notifying
  | mark : Flow .marking .mark .cleaning
  | markUnspawned : Flow .marking .mark .stopping
  | clean {removed} : Flow .cleaning (.clean removed) .stopping
  | stopQueue : Flow .stopping .stopQueue .closing
  | close : Flow .closing .close .done

variable {action : Action} {pc pc' : RunPc}

/-- Only `queue.start` takes a run past its launch. -/
theorem Flow.launched_iff (flow : Flow pc action pc') :
    pc' = .launched ↔ pc = .launched ∧ action ≠ .startQueue := by
  cases flow <;> simp

/-- A pump or the process does not move the run itself. -/
theorem Flow.eq_of_not_own (flow : Flow pc action pc')
    (foreign : action.own = false) : pc' = pc := by
  cases flow <;> first | rfl | cases foreign

/-- Once its pumps run, every step of a run itself brings it closer to its end. -/
theorem Flow.distance_lt (flow : Flow pc action pc') (own : action.own = true)
    (pumping : pc.distance ≤ 11) : pc'.distance < pc.distance := by
  cases flow <;> simp_all [RunPc.distance, Action.own]

theorem Flow.of_draining (flow : Flow .draining action pc) : pc = .draining ∨ pc = .reporting := by
  cases flow <;> simp

theorem Flow.of_handing (flow : Flow .handing action pc) : pc = .handing ∨ action = .resume := by
  cases flow <;> simp

theorem Flow.of_failing (flow : Flow .failing action pc) : pc = .failing ∨ action = .swept := by
  cases flow <;> simp

theorem Flow.of_lock (flow : Flow pc .lock pc') : pc' = .handing := by
  cases flow
  rfl

theorem Flow.of_sweep (flow : Flow pc .sweep pc') : pc' = .failing := by
  cases flow
  rfl

theorem flow_of_step {run run' : Run} {ctxDone : Bool}
    (step : run.step ctxDone action = some run') : Flow run.pc action run'.pc := by
  cases action with
  | report =>
    simp only [Run.step] at step
    split at step
    next reporting =>
      cases step
      rw [reporting]
      exact .report
    next notifying =>
      cases step
      rw [notifying]
      exact .notify
    next => contradiction
  | prepare made error =>
    obtain ⟨preparing, rfl⟩ := guarded_eq_some_iff.mp step
    rw [preparing]
    cases error with
    | none => exact .prepare
    | some => exact .prepareFailed
  | spawn error =>
    obtain ⟨⟨spawning, -⟩, rfl⟩ := guarded_eq_some_iff.mp step
    rw [spawning]
    cases error with
    | none =>
      split_ifs
      · exact .boot
      · exact .spawn
    | some => exact .spawnFailed
  | greet error =>
    obtain ⟨booting, rfl⟩ := guarded_eq_some_iff.mp step
    rw [booting]
    cases error with
    | none => exact .greet
    | some => exact .greetFailed
  | eof stream resultJson =>
    obtain ⟨⟨pumping, -⟩, rfl⟩ := guarded_eq_some_iff.mp step
    cases stream <;> exact pumping ▸ .eof
  | swept =>
    obtain ⟨failing, rfl⟩ := guarded_eq_some_iff.mp step
    rw [failing]
    split_ifs
    · exact .swept
    · exact .sweptUnspawned
  | mark =>
    obtain ⟨marking, rfl⟩ := guarded_eq_some_iff.mp step
    rw [marking]
    split_ifs
    · exact .mark
    · exact .markUnspawned
  | append | join | wait =>
    obtain ⟨⟨before, -⟩, rfl⟩ := guarded_eq_some_iff.mp step
    rw [before]
    constructor
  | exit | touch =>
    obtain ⟨-, rfl⟩ := guarded_eq_some_iff.mp step
    constructor
  | _ =>
    obtain ⟨before, rfl⟩ := guarded_eq_some_iff.mp step
    rw [before]
    constructor

end Run

/-! ## Provisioning and commands -/

/-- Where the goroutine in `provisionSession` is. -/
inductive Provision
  /-- Before or in the checkout. -/
  | checkout
  /-- Cloning associated repositories. -/
  | associating
  /-- Before `startFileService`. -/
  | serving
  /-- The listener is open; before `session.fileService = fs`. -/
  | assigning
  /-- Before `applyInitialConfig`. -/
  | configuring
  /-- Before the flip from provisioning to provisioned. -/
  | flipping
  /-- Calling `startRuntime`. -/
  | starting
  | finished
  /-- The checkout failed; before or in `removeFailedSession`. -/
  | removing
  | failed
  deriving DecidableEq

/-- The goroutine has moved the session out of the provisioning state. -/
def Provision.ready : Provision → Bool
  | starting => true
  | finished => true
  | _ => false

/-- The goroutine has returned. -/
def Provision.returned : Provision → Bool
  | finished => true
  | failed => true
  | _ => false

/-- The steps of `provisionSession`. -/
inductive Provision.Action
  | checkout (ok : Bool)
  /-- `provisionAssociatedRepos`; `cloned` when there was one to clone. -/
  | associate (cloned : Bool)
  | serve (ok : Bool)
  | assign
  /-- `applyInitialConfig`; `wrote` when it wrote a file. -/
  | configure (wrote : Bool)
  | flip
  /-- `startRuntime` has returned. -/
  | finish
  /-- `removeFailedSession` has returned. -/
  | removed
  deriving DecidableEq

/-- Where the dispatch loop is in a command on this session.  A run index is
the run whose `runCancel` or `runDone` the command has read. -/
inductive Command
  | idle
  /-- `restartRuntime`, before it reads `runCancel` and `runDone`. -/
  | restart (fresh : Bool)
  | restartCancel (fresh : Bool) (run : Option Nat)
  | restartWait (fresh : Bool) (run : Option Nat)
  | restartFresh
  /-- Before `session.state = sessionProvisioned`. -/
  | restartReset
  /-- `delete`, after the session left the map. -/
  | delete
  | deleteCancel (run : Option Nat)
  | deleteWait (run : Option Nat)
  /-- Before the swap of `failPendingInputs`. -/
  | deleteSweep
  /-- In the loop of `failPendingInputs`. -/
  | deleteFail
  /-- Before `session.fileService.stop()`. -/
  | deleteService
  /-- Before `os.RemoveAll`. -/
  | deleteFiles
  /-- `deliverInput`; the inbox knows where. -/
  | deliver
  /-- `stopAll`, after the state is reset; before `cancel()`. -/
  | stopCancel (run : Option Nat)
  deriving DecidableEq

/-- The steps of the commands. -/
inductive Command.Action
  /-- `restartRuntime` finds the session. -/
  | restart (fresh : Bool)
  | restartRead
  | restartCancel
  | restartWait
  /-- `resetRuntimeState`. -/
  | restartFresh (ok : Bool)
  | restartReset
  /-- `delete` finds the session and removes it from the map. -/
  | delete
  | deleteRead
  | deleteCancel
  | deleteWait
  | deleteSweep
  | deleteSwept
  | deleteService
  | deleteFiles (ok : Bool)
  /-- `deliverInput` finds the session. -/
  | deliver (input : SessionInput)
  | dedupe
  | enqueue
  | ack
  /-- `drainMu.Lock()` of the drain in `deliverInput`. -/
  | lock
  /-- The drain or the report that ends `deliverInput` returns. -/
  | finish
  /-- `deliverInput` returns. -/
  | delivered
  /-- The critical section of `stopAll`. -/
  | stop
  | stopCancel
  deriving DecidableEq

/-- The action is one of `deliverInput` between its lookup and its return. -/
def Command.Action.delivers : Command.Action → Bool
  | .dedupe => true
  | .enqueue => true
  | .ack => true
  | .lock => true
  | .finish => true
  | _ => false

/-- The callers of `startRuntime`: the dispatch loop and provisioning
goroutines. -/
inductive Caller
  | dispatch
  | provision (object : Nat)
  deriving DecidableEq

/-- The steps of the drain loop. -/
inductive DrainAction
  | check
  | deliver
  | write (error : Option String)
  | proceed
  deriving DecidableEq

/-- The two halves of `reportInputFailure`. -/
inductive ReportAction
  | release
  | emit
  deriving DecidableEq

/-- What the file service's handlers do to the session. -/
inductive ServiceAction
  /-- The listener accepts a request. -/
  | accept
  /-- A handler returns; `wrote` when `handlePut` made a file. -/
  | respond (wrote : Bool)
  deriving DecidableEq

/-! ## Sessions -/

/-- The atomic actions on a session. -/
inductive SessionEvent
  /-- `startRuntime` finds the session in the map. -/
  | lookup (caller : Caller)
  /-- The critical section of `startRuntime`; `selected` is what
  `selectExecutor` answers. -/
  | start (caller : Caller) (selected : Except SelectError ExecutorKind)
  /-- `removeFailedSession` deletes the session's map entry. -/
  | evict
  | run (index : Nat) (action : Run.Action)
  | flush (index : Nat) (action : OutputQueue.FlushAction)
  | drain (action : DrainAction)
  | report (goroutine : Goroutine) (action : ReportAction)
  | provision (action : Provision.Action)
  | service (action : ServiceAction)
  | command (action : Command.Action)

/-- The lifecycle fields of `nodeSession`, its goroutines and its resources. -/
structure Lifecycle where
  /-- The session is in the manager's map. -/
  registered : Bool
  /-- The `startRuntime` calls that have found the session and not locked it yet. -/
  holders : List Caller
  state : SessionState
  launched : Nat
  run : Nat → Run
  provision : Provision
  command : Command
  /-- `sessionCancel` has been called. -/
  baseDone : Bool
  /-- The file service's listener is open. -/
  listening : Bool
  /-- `session.fileService` is set. -/
  fileService : Bool
  /-- The requests the file service's handlers are at. -/
  requests : Nat
  /-- There are files under the directory `delete` removes. -/
  files : Bool
  /-- `delete` has returned nil. -/
  deleted : Bool

namespace Lifecycle

/-- A session that `create` has just registered. -/
def new : Lifecycle where
  registered := true
  holders := []
  state := .provisioning
  launched := 0
  run := fun _ => .absent
  provision := .checkout
  command := .idle
  baseDone := false
  listening := false
  fileService := false
  requests := 0
  files := true
  deleted := false

variable (life : Lifecycle)

/-- The run `session.runCancel` and `session.runDone` belong to. -/
def current : Option Nat :=
  if life.launched = 0 then none else some (life.launched - 1)

/-- The context of a run is done. -/
def ctxDone (index : Nat) : Bool :=
  (life.run index).cancelled || life.baseDone

/-- Replace a run. -/
def setRun (index : Nat) (run : Run) : Lifecycle :=
  { life with run := Function.update life.run index run }

/-- `if cancel != nil { cancel() }`. -/
def cancel (target : Option Nat) : Lifecycle :=
  { life with
    run := fun index =>
      if target = some index then { life.run index with cancelled := true } else life.run index }

/-- `if done != nil { <-done }` returns. -/
def finished : Option Nat → Bool
  | none => true
  | some index => (life.run index).pc = .done

/-- The executor `startRuntime` launches a run with, if it gets that far. -/
def launches (selected : Except SelectError ExecutorKind) : Option ExecutorKind :=
  if life.state = .running ∨ life.state = .provisioning then none else selected.toOption

/-- The critical section of `startRuntime`. -/
def start (selected : Except SelectError ExecutorKind) : Lifecycle :=
  match life.launches selected with
  | none => life
  | some kind =>
    { life.setRun life.launched (.new kind) with
      launched := life.launched + 1
      state := .running }

/-- What a run does to the session besides moving itself. -/
def runEffect (action : Run.Action) : Lifecycle :=
  { life with
    files := life.files || action.makesFile
    state := if action = .mark ∧ life.state = .running then .stopped else life.state }

/-- One step of `provisionSession`. -/
def provisionStep (spec : CreateSession) : Provision.Action → Option Lifecycle
  | .checkout ok =>
    guarded (life.provision = .checkout ∧ (ok = false → spec.checksOut = true))
      { life with
        provision := if ok then .associating else .removing
        files := life.files || (spec.removesWorkDir && spec.hasGit) }
  | .associate cloned =>
    guarded (life.provision = .associating)
      { life with
        provision := .serving
        files := life.files || (cloned && spec.removesWorkDir) }
  | .serve ok =>
    guarded (life.provision = .serving)
      { life with
        provision := if ok then .assigning else .configuring
        listening := ok }
  | .assign =>
    guarded (life.provision = .assigning)
      { life with provision := .configuring, fileService := true }
  | .configure wrote =>
    guarded (life.provision = .configuring)
      { life with provision := .flipping, files := life.files || wrote }
  | .flip =>
    guarded (life.provision = .flipping)
      { life with
        provision := if spec.deferStart then .finished else .starting
        state := if life.state = .provisioning then .provisioned else life.state }
  | .finish => guarded (life.provision = .starting) { life with provision := .finished }
  | .removed =>
    guarded (life.provision = .removing ∧ life.registered = false)
      { life with provision := .failed }

/-- One step of the file service. -/
def serviceStep : ServiceAction → Option Lifecycle
  | .accept => guarded (life.listening = true) { life with requests := life.requests + 1 }
  | .respond wrote =>
    guarded (0 < life.requests)
      { life with requests := life.requests - 1, files := life.files || wrote }

/-- One step of a command of the dispatch loop.  `fileService.stop` closes the
listener, but gives up waiting for the handlers after two seconds. -/
def commandStep : Command.Action → Option Lifecycle
  | .restart fresh =>
    guarded (life.command = .idle ∧ life.registered = true)
      { life with command := .restart fresh }
  | .restartRead =>
    match life.command with
    | .restart fresh => some { life with command := .restartCancel fresh life.current }
    | _ => none
  | .restartCancel =>
    match life.command with
    | .restartCancel fresh run => some { life.cancel run with command := .restartWait fresh run }
    | _ => none
  | .restartWait =>
    match life.command with
    | .restartWait fresh run =>
      guarded (life.finished run = true)
        { life with command := if fresh then .restartFresh else .restartReset }
    | _ => none
  | .restartFresh ok =>
    guarded (life.command = .restartFresh)
      { life with
        command := if ok then .restartReset else .idle
        files := true }
  | .restartReset =>
    guarded (life.command = .restartReset)
      { life with command := .idle, state := .provisioned }
  | .delete =>
    guarded (life.command = .idle ∧ life.registered = true)
      { life with command := .delete, registered := false }
  | .deleteRead =>
    guarded (life.command = .delete) { life with command := .deleteCancel life.current }
  | .deleteCancel =>
    match life.command with
    | .deleteCancel run => some { life with command := .deleteWait run, baseDone := true }
    | _ => none
  | .deleteWait =>
    match life.command with
    | .deleteWait run => guarded (life.finished run = true) { life with command := .deleteSweep }
    | _ => none
  | .deleteSweep => guarded (life.command = .deleteSweep) { life with command := .deleteFail }
  | .deleteSwept => guarded (life.command = .deleteFail) { life with command := .deleteService }
  | .deleteService =>
    guarded (life.command = .deleteService)
      { life with command := .deleteFiles, listening := life.listening && !life.fileService }
  | .deleteFiles ok =>
    guarded (life.command = .deleteFiles)
      { life with
        command := .idle
        files := life.files && !ok
        deleted := ok }
  | .deliver _ =>
    guarded (life.command = .idle ∧ life.registered = true) { life with command := .deliver }
  | .dedupe | .enqueue | .ack | .lock | .finish => guarded (life.command = .deliver) life
  | .delivered => guarded (life.command = .deliver) { life with command := .idle }
  | .stop =>
    guarded (life.command = .idle)
      { life with
        command := .stopCancel life.current
        state := if life.state = .running then .provisioned else life.state }
  | .stopCancel =>
    match life.command with
    | .stopCancel run => some { life.cancel run with command := .idle }
    | _ => none

/-- One atomic action on the lifecycle. -/
def step (spec : CreateSession) : Step Lifecycle SessionEvent
  | life, .lookup caller =>
    guarded (life.registered = true ∧ caller ∉ life.holders)
      { life with holders := caller :: life.holders }
  | life, .start caller selected =>
    guarded (caller ∈ life.holders)
      { life.start selected with holders := life.holders.erase caller }
  | life, .evict => some { life with registered := false }
  | life, .run index action =>
    ((life.run index).step (life.ctxDone index) action).map fun run =>
      (life.runEffect action).setRun index run
  | life, .flush index .giveUp => guarded (life.ctxDone index = true) life
  | life, .flush _ _ => some life
  | life, .drain _ => some life
  | life, .report _ _ => some life
  | life, .provision action => life.provisionStep spec action
  | life, .service action => life.serviceStep action
  | life, .command action => life.commandStep action

/-! ## What a step does -/

variable {life} {life' : Lifecycle} {spec : CreateSession} {event : SessionEvent}

/-- The steps of the commands, one constructor for each. -/
inductive Commands (life : Lifecycle) : Command.Action → Lifecycle → Prop
  | restart {fresh} : life.command = .idle → life.registered = true →
      Commands life (.restart fresh) { life with command := .restart fresh }
  | restartRead {fresh} : life.command = .restart fresh →
      Commands life .restartRead { life with command := .restartCancel fresh life.current }
  | restartCancel {fresh run} : life.command = .restartCancel fresh run →
      Commands life .restartCancel { life.cancel run with command := .restartWait fresh run }
  | restartWait {fresh run} : life.command = .restartWait fresh run →
      life.finished run = true →
      Commands life .restartWait
        { life with command := if fresh then .restartFresh else .restartReset }
  | restartFresh {ok} : life.command = .restartFresh →
      Commands life (.restartFresh ok)
        { life with command := if ok then .restartReset else .idle, files := true }
  | restartReset : life.command = .restartReset →
      Commands life .restartReset { life with command := .idle, state := .provisioned }
  | delete : life.command = .idle → life.registered = true →
      Commands life .delete { life with command := .delete, registered := false }
  | deleteRead : life.command = .delete →
      Commands life .deleteRead { life with command := .deleteCancel life.current }
  | deleteCancel {run} : life.command = .deleteCancel run →
      Commands life .deleteCancel { life with command := .deleteWait run, baseDone := true }
  | deleteWait {run} : life.command = .deleteWait run → life.finished run = true →
      Commands life .deleteWait { life with command := .deleteSweep }
  | deleteSweep : life.command = .deleteSweep →
      Commands life .deleteSweep { life with command := .deleteFail }
  | deleteSwept : life.command = .deleteFail →
      Commands life .deleteSwept { life with command := .deleteService }
  | deleteService : life.command = .deleteService →
      Commands life .deleteService
        { life with command := .deleteFiles, listening := life.listening && !life.fileService }
  | deleteFiles {ok} : life.command = .deleteFiles →
      Commands life (.deleteFiles ok)
        { life with command := .idle, files := life.files && !ok, deleted := ok }
  | deliver {input} : life.command = .idle → life.registered = true →
      Commands life (.deliver input) { life with command := .deliver }
  | delivering {action} : life.command = .deliver → action.delivers = true →
      Commands life action life
  | delivered : life.command = .deliver →
      Commands life .delivered { life with command := .idle }
  | stop : life.command = .idle →
      Commands life .stop
        { life with
          command := .stopCancel life.current
          state := if life.state = .running then .provisioned else life.state }
  | stopCancel {run} : life.command = .stopCancel run →
      Commands life .stopCancel { life.cancel run with command := .idle }

/-- Every step of a command is one of `Commands`. -/
theorem commands {action : Command.Action} (step : life.commandStep action = some life') :
    Commands life action life' := by
  cases action with
  | restart | delete | deliver =>
    obtain ⟨⟨idle, registered⟩, rfl⟩ := guarded_eq_some_iff.mp step
    constructor <;> assumption
  | restartRead | restartCancel | deleteCancel | stopCancel =>
    simp only [commandStep] at step
    split at step <;> cases step
    constructor
    assumption
  | restartWait | deleteWait =>
    simp only [commandStep] at step
    split at step
    · obtain ⟨finished, rfl⟩ := guarded_eq_some_iff.mp step
      constructor <;> assumption
    · contradiction
  | dedupe | enqueue | ack | lock | finish =>
    obtain ⟨delivering, rfl⟩ := guarded_eq_some_iff.mp step
    exact .delivering delivering rfl
  | _ =>
    obtain ⟨before, rfl⟩ := guarded_eq_some_iff.mp step
    constructor
    exact before

/-- The steps of `provisionSession`, one constructor for each. -/
inductive Provisions (life : Lifecycle) (spec : CreateSession) : Provision.Action → Lifecycle → Prop
  | checkout {ok} : life.provision = .checkout → (ok = false → spec.checksOut = true) →
      Provisions life spec (.checkout ok)
        { life with
          provision := if ok then .associating else .removing
          files := life.files || (spec.removesWorkDir && spec.hasGit) }
  | associate {cloned} : life.provision = .associating →
      Provisions life spec (.associate cloned)
        { life with
          provision := .serving
          files := life.files || (cloned && spec.removesWorkDir) }
  | serve {ok} : life.provision = .serving →
      Provisions life spec (.serve ok)
        { life with provision := if ok then .assigning else .configuring, listening := ok }
  | assign : life.provision = .assigning →
      Provisions life spec .assign { life with provision := .configuring, fileService := true }
  | configure {wrote} : life.provision = .configuring →
      Provisions life spec (.configure wrote)
        { life with provision := .flipping, files := life.files || wrote }
  | flip : life.provision = .flipping →
      Provisions life spec .flip
        { life with
          provision := if spec.deferStart then .finished else .starting
          state := if life.state = .provisioning then .provisioned else life.state }
  | finish : life.provision = .starting →
      Provisions life spec .finish { life with provision := .finished }
  | removed : life.provision = .removing → life.registered = false →
      Provisions life spec .removed { life with provision := .failed }

/-- Every step of `provisionSession` is one of `Provisions`. -/
theorem provisions {action : Provision.Action}
    (step : life.provisionStep spec action = some life') : Provisions life spec action life' := by
  cases action with
  | checkout | removed =>
    obtain ⟨⟨before, condition⟩, rfl⟩ := guarded_eq_some_iff.mp step
    constructor <;> assumption
  | _ =>
    obtain ⟨before, rfl⟩ := guarded_eq_some_iff.mp step
    constructor
    exact before

/-- A provisioning goroutine that has returned takes no step. -/
theorem Provisions.not_returned {action : Provision.Action}
    (provisions : Provisions life spec action life') : life.provision.returned = false := by
  cases provisions <;> simp [*, Provision.returned]

/-- The steps of the lifecycle, one constructor for each. -/
inductive Changes (life : Lifecycle) (spec : CreateSession) : SessionEvent → Lifecycle → Prop
  | lookup {caller} : life.registered = true → caller ∉ life.holders →
      Changes life spec (.lookup caller) { life with holders := caller :: life.holders }
  | refuse {caller selected} :
      caller ∈ life.holders → life.launches selected = none →
      Changes life spec (.start caller selected)
        { life with holders := life.holders.erase caller }
  | launch {caller selected kind} :
      caller ∈ life.holders → life.launches selected = some kind →
      Changes life spec (.start caller selected)
        { life.setRun life.launched (.new kind) with
          launched := life.launched + 1
          state := .running
          holders := life.holders.erase caller }
  | evict : Changes life spec .evict { life with registered := false }
  | run {index action run} :
      (life.run index).step (life.ctxDone index) action = some run →
      Changes life spec (.run index action) ((life.runEffect action).setRun index run)
  | flush {index action} :
      (action = .giveUp → life.ctxDone index = true) →
      Changes life spec (.flush index action) life
  | drain {action} : Changes life spec (.drain action) life
  | report {goroutine action} :
      Changes life spec (.report goroutine action) life
  | provision {action life'} :
      Provisions life spec action life' → Changes life spec (.provision action) life'
  | accept : life.listening = true →
      Changes life spec (.service .accept) { life with requests := life.requests + 1 }
  | respond {wrote} : 0 < life.requests →
      Changes life spec (.service (.respond wrote))
        { life with requests := life.requests - 1, files := life.files || wrote }
  | command {action life'} :
      Commands life action life' → Changes life spec (.command action) life'

/-- Every step of the lifecycle is one of `Changes`. -/
theorem changes (step : life.step spec event = some life') : Changes life spec event life' := by
  cases event with
  | lookup =>
    obtain ⟨⟨registered, fresh⟩, rfl⟩ := guarded_eq_some_iff.mp step
    exact .lookup registered fresh
  | start caller selected =>
    obtain ⟨held, rfl⟩ := guarded_eq_some_iff.mp step
    unfold start
    cases launches : life.launches selected with
    | none => exact .refuse held launches
    | some => exact .launch held launches
  | evict =>
    cases step
    exact .evict
  | run =>
    obtain ⟨run, moved, rfl⟩ := Option.map_eq_some_iff.mp step
    exact .run moved
  | flush index action =>
    cases action with
    | giveUp =>
      obtain ⟨done, rfl⟩ := guarded_eq_some_iff.mp step
      exact .flush fun _ => done
    | peek | emit | retry | pop =>
      cases step
      exact .flush nofun
  | drain =>
    cases step
    exact .drain
  | report =>
    cases step
    exact .report
  | provision => exact .provision (provisions step)
  | service action =>
    cases action with
    | accept =>
      obtain ⟨listening, rfl⟩ := guarded_eq_some_iff.mp step
      exact .accept listening
    | respond =>
      obtain ⟨busy, rfl⟩ := guarded_eq_some_iff.mp step
      exact .respond busy
  | command => exact .command (commands step)

/-! ## What a step does to the runs -/

/-- The executor of the run that an action launches. -/
def launching (life : Lifecycle) : SessionEvent → Option ExecutorKind
  | .start _ selected => life.launches selected
  | _ => none

/-- What a step does to one run. -/
inductive RunChange (life : Lifecycle) (event : SessionEvent) (index : Nat) (run : Run) : Prop
  | kept : (∀ action, event ≠ .run index action) →
      life.launching event = none ∨ index ≠ life.launched → run = life.run index →
      RunChange life event index run
  | cancelled : (∀ action, event ≠ .run index action) → life.launching event = none →
      run = { life.run index with cancelled := true } → RunChange life event index run
  | moved {action} : event = .run index action →
      (life.run index).step (life.ctxDone index) action = some run →
      RunChange life event index run
  | launched {kind} : life.launching event = some kind → index = life.launched →
      run = .new kind → RunChange life event index run

@[simp]
theorem setRun_run (life : Lifecycle) (index other : Nat) (run : Run) :
    (life.setRun index run).run other = if other = index then run else life.run other :=
  Function.update_apply ..

theorem cancel_run (life : Lifecycle) (target : Option Nat) (index : Nat) :
    (life.cancel target).run index = life.run index ∨
      (life.cancel target).run index = { life.run index with cancelled := true } := by
  by_cases same : target = some index
  · exact .inr (if_pos same)
  · exact .inl (if_neg same)

section LifecycleSteps

variable (step : life.step spec event = some life')

include step

theorem run_change (index : Nat) : RunChange life event index (life'.run index) := by
  cases changes step with
  | launch held launches =>
    by_cases last : index = life.launched
    · exact .launched launches last (by simp [last])
    · exact .kept (fun _ => nofun) (.inr last) (by simp [last])
  | @run moving action run moved =>
    by_cases same : index = moving
    · subst same
      exact .moved rfl (by simpa using moved)
    · exact .kept (fun _ taken => same (SessionEvent.run.inj taken).1.symm) (.inl rfl)
        (by simp [same, runEffect])
  | refuse _ launches => exact .kept (fun _ => nofun) (.inl launches) rfl
  | command command =>
    cases command with
    | @restartCancel _ target | @stopCancel target =>
      rcases cancel_run life target index with same | cancelled
      · exact .kept (fun _ => nofun) (.inl rfl) same
      · exact .cancelled (fun _ => nofun) rfl cancelled
    | _ => exact .kept (fun _ => nofun) (.inl rfl) rfl
  | provision provision => cases provision <;> exact .kept (fun _ => nofun) (.inl rfl) rfl
  | _ => exact .kept (fun _ => nofun) (.inl rfl) rfl

theorem launched_of_step :
    life'.launched = life.launched + if (life.launching event).isSome then 1 else 0 := by
  cases changes step with
  | launch _ launches | refuse _ launches => simp [launching, launches]
  | command command => cases command <;> rfl
  | provision provision => cases provision <;> rfl
  | _ => rfl

theorem launched_le_iff_of_step {index : Nat}
    (fresh : life.launching event = none ∨ index ≠ life.launched) :
    life'.launched ≤ index ↔ life.launched ≤ index := by
  have launched := launched_of_step step
  rcases fresh with quiet | different
  · simp [launched, quiet]
  · split_ifs at launched <;> omega

/-! ## What a step does to the command -/

/-- Only the dispatch loop moves a command. -/
theorem command_of_step : life'.command = life.command ∨ ∃ action, event = .command action := by
  cases changes step with
  | command => exact .inr ⟨_, rfl⟩
  | provision provision => cases provision <;> exact .inl rfl
  | _ => exact .inl rfl

/-- `deliverInput` is left by returning from it. -/
theorem deliver_of_step (delivering : life.command = .deliver) :
    life'.command = .deliver ∨ event = .command .delivered := by
  rcases command_of_step step with same | ⟨action, rfl⟩
  · exact .inl (same.trans delivering)
  · cases commands step with
    | delivering => exact .inl delivering
    | delivered => exact .inr rfl
    | _ before => cases delivering.symm.trans before

/-- The reports of `delete` are left by returning from them. -/
theorem deleteFail_of_step (failing : life.command = .deleteFail) :
    life'.command = .deleteFail ∨ event = .command .deleteSwept := by
  rcases command_of_step step with same | ⟨action, rfl⟩
  · exact .inl (same.trans failing)
  · cases commands step with
    | deleteSwept => exact .inr rfl
    | _ before => cases failing.symm.trans before

end LifecycleSteps

end Lifecycle

end LubricantNodes.Execution
