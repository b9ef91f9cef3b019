import Mathlib.Data.List.AList
import LubricantNodes.Go.Strings
import LubricantNodes.Transition.Core
import LubricantNodes.Transition.Table

/-!
# Tool runs

`ToolRunManager` starts long-running tools, keeps one entry for each run id, and
removes the entry when the process has exited.  The goroutine of `Start`, the one
that waits for the exit, the calls of `Stop` and their timers interleave between
the critical sections of the manager's lock.

An exit removes whatever entry its run id has then, and a second `Start` of the
same id that finds the first one's entry only after it has given up the lock
replaces it without cancelling it.  `tools_controllable` says for which runs every
live process keeps its entry.
-/

namespace LubricantNodes.Agent

open Go Transition AList Option

/-! ## Requests and events -/

/-- A run id as the manager uses it. -/
def RunId : Type :=
  { text : String // trimSpace text = text ∧ text ≠ "" }

instance : DecidableEq RunId :=
  inferInstanceAs (DecidableEq { text : String // trimSpace text = text ∧ text ≠ "" })

/-- The run id of a request; a blank one is refused. -/
def RunId.read (text : String) : Option RunId :=
  if given : trimSpace text ≠ "" then some ⟨trimSpace text, trimSpace_trimSpace text, given⟩
  else none

variable (runId : RunId)

theorem RunId.read_val : RunId.read runId.val = some runId := by
  have given : trimSpace runId.val ≠ "" := by
    rw [runId.property.1]
    exact runId.property.2
  rw [RunId.read, dif_pos given]
  exact congrArg some (Subtype.ext runId.property.1)

/-- `NodeToolRunRequest`. -/
structure ToolRunRequest where
  runId : String
  binaryPath : String
  revision : UInt64 := 0

/-- `NodeToolRunKind`, without the two kinds of output. -/
inductive ToolRunKind
  | started
  | exited
  deriving DecidableEq

/-- `NodeToolRunEvent`. -/
structure ToolRunEvent where
  runId : RunId
  kind : ToolRunKind
  exitCode : Int := 0
  error : String := ""
  revision : UInt64 := 0
  pid : Nat := 0
  deriving DecidableEq

/-- `NodeActiveToolRun`. -/
structure ActiveToolRun where
  runId : RunId
  revision : UInt64
  pid : Nat
  deriving DecidableEq

/-- What the system makes of the command. -/
inductive SpawnOutcome
  | stdoutPipe (error : String)
  | stderrPipe (error : String)
  | failed (error : String)
  | spawned (pid : Nat)

/-- What `cmd.Wait` returns. -/
inductive WaitResult
  | success
  | exitError (code : Int)
  | cancelled
  | other (error : String)
  deriving DecidableEq

/-- `emitExitRevision`. -/
def exitEvent (exitCode : Int) (error : String) (revision : UInt64) :
    ToolRunEvent where
  runId := runId
  kind := .exited
  exitCode := exitCode
  error := error
  revision := revision

/-- The event for the end of a process. -/
def WaitResult.event (revision : UInt64) : WaitResult → ToolRunEvent
  | .success => exitEvent runId 0 "" revision
  | .exitError code => exitEvent runId code "" revision
  | .cancelled => exitEvent runId (-1) "stopped" revision
  | .other error => exitEvent runId (-1) error revision

/-! ## State -/

/-- Where the goroutines of a spawned process are: up to `registered` it is that of
`Start`, from `running` on the one that waits. -/
inductive RunPhase
  | spawned
  /-- The lock is given up to cancel the process that has the entry. -/
  | replacing (existing : Nat)
  | cleared
  | registered
  | running
  | reaped (result : WaitResult)
  | unregistered (result : WaitResult)
  | finished
  deriving DecidableEq

/-- `Start` has entered the process in the maps. -/
def RunPhase.enrolled : RunPhase → Bool
  | .spawned | .replacing _ | .cleared => false
  | .registered | .running | .reaped _ | .unregistered _ | .finished => true

/-- A spawned process. -/
structure ToolProcess where
  runId : RunId
  revision : UInt64
  pid : Nat
  phase : RunPhase := .spawned
  exited : Bool := false
  /-- It was sent an interrupt. -/
  interrupted : Bool := false
  /-- Its context is cancelled. -/
  cancelled : Bool := false
  deriving DecidableEq

/-- The process has neither exited nor been cancelled. -/
def ToolProcess.live (process : ToolProcess) : Bool :=
  !process.exited && !process.cancelled

/-- Where a call of `Stop` that has found a process is. -/
inductive StopPhase
  | found
  | armed
  | fired
  deriving DecidableEq

/-- A call of `Stop` that has found a process. -/
structure StopCall where
  number : Nat
  phase : StopPhase
  deriving DecidableEq

/-- `ToolRunManager`, with the processes it has spawned. -/
structure ToolRuns where
  processes : List ToolProcess
  runs : AList fun _ : RunId => Nat
  cancel : AList fun _ : RunId => Nat
  stops : List StopCall
  /-- The run ids that each call of `StopAll` has yet to stop. -/
  sweeps : List (List RunId)
  emitted : List ToolRunEvent

namespace ToolRuns

/-- `NewToolRunManager`. -/
def new : ToolRuns where
  processes := []
  runs := ∅
  cancel := ∅
  stops := []
  sweeps := []
  emitted := []

variable (state : ToolRuns)

/-- `ActiveRuns`. -/
def activeRuns : List ActiveToolRun :=
  state.runs.entries.filterMap fun entry =>
    (state.processes[entry.2]?).map fun process => ⟨entry.1, process.revision, process.pid⟩

/-- A process changes. -/
def modify (number : Nat) (change : ToolProcess → ToolProcess) : ToolRuns :=
  { state with processes := state.processes.modify number change }

/-- The goroutine of a process goes on. -/
def setPhase (number : Nat) (phase : RunPhase) : ToolRuns :=
  state.modify number fun process => { process with phase := phase }

/-- A frame is emitted; an error is ignored. -/
def emit (event : ToolRunEvent) : ToolRuns :=
  { state with emitted := state.emitted ++ [event] }

/-- The cancel function of a process. -/
def cancelRun (number : Nat) : ToolRuns :=
  state.modify number fun process => { process with cancelled := true }

/-- The process gets the entry of its run id. -/
def register (number : Nat) (runId : RunId) : ToolRuns :=
  { state.setPhase number .registered with
    runs := state.runs.insert runId number
    cancel := state.cancel.insert runId number }

/-- The entry of the run id is deleted. -/
def unregister (number : Nat) (runId : RunId) (result : WaitResult) : ToolRuns :=
  { state.setPhase number (.unregistered result) with
    runs := state.runs.erase runId
    cancel := state.cancel.erase runId }

/-- `Start`, up to the spawn of the process. -/
def start (request : ToolRunRequest) (outcome : SpawnOutcome) : ToolRuns :=
  match RunId.read request.runId with
  | none => state
  | some runId =>
    if trimSpace request.binaryPath = "" then
      state.emit (exitEvent runId (-1) "binary_path is required" 0)
    else
      match outcome with
      | .stdoutPipe error => state.emit (exitEvent runId (-1) ("stdout pipe: " ++ error) 0)
      | .stderrPipe error => state.emit (exitEvent runId (-1) ("stderr pipe: " ++ error) 0)
      | .failed error => state.emit (exitEvent runId (-1) ("spawn: " ++ error) 0)
      | .spawned pid =>
        { state with
          processes := state.processes ++
            [{ runId := runId, revision := request.revision, pid := pid }] }

/-- The goroutine of a process takes its next step; `result` is what `cmd.Wait`
returns. -/
def advance (number : Nat) (process : ToolProcess) (result : WaitResult) : Option ToolRuns :=
  match process.phase with
  | .spawned =>
    match state.cancel.lookup process.runId with
    | some existing => some (state.setPhase number (.replacing existing))
    | none => some (state.register number process.runId)
  | .replacing existing => some ((state.cancelRun existing).setPhase number .cleared)
  | .cleared => some (state.register number process.runId)
  | .registered =>
    some ((state.emit
      { runId := process.runId
        kind := .started
        revision := process.revision
        pid := process.pid }).setPhase number .running)
  | .running =>
    guarded (process.exited = true) ((state.cancelRun number).setPhase number (.reaped result))
  | .reaped outcome => some (state.unregister number process.runId outcome)
  | .unregistered outcome =>
    some ((state.emit (outcome.event process.runId process.revision)).setPhase number .finished)
  | .finished => none

/-- The entry that `Stop` finds for a run id. -/
def find (runId : String) : Option Nat :=
  (RunId.read runId).bind state.runs.lookup

/-- `Stop`, up to the end of its critical section. -/
def stop (runId : String) : ToolRuns :=
  match state.find runId with
  | none => state
  | some number => { state with stops := state.stops ++ [⟨number, .found⟩] }

/-- A call of `Stop` sends the interrupt and sets the timer, or its timer fires. -/
def advanceStop (index : Nat) (call : StopCall) : Option ToolRuns :=
  match call.phase with
  | .found =>
    some { state.modify call.number fun process => { process with interrupted := true } with
      stops := state.stops.set index ⟨call.number, .armed⟩ }
  | .armed =>
    some { state.cancelRun call.number with stops := state.stops.set index ⟨call.number, .fired⟩ }
  | .fired => none

/-- `StopAll` stops one of the runs that it has found. -/
def sweep (index : Nat) (runIds : List RunId) (position : Nat) : Option ToolRuns :=
  (runIds[position]?).map fun runId =>
    { state.stop runId.val with sweeps := state.sweeps.set index (runIds.eraseIdx position) }

/-- What can happen. -/
inductive Event
  | start (request : ToolRunRequest) (outcome : SpawnOutcome)
  | advance (number : Nat) (result : WaitResult)
  | exit (number : Nat)
  | stop (runId : String)
  | advanceStop (index : Nat)
  | stopAll
  | sweep (index position : Nat)

/-- One event. -/
def step : Step ToolRuns Event
  | state, .start request outcome => some (state.start request outcome)
  | state, .advance number result =>
    (state.processes[number]?).bind fun process => state.advance number process result
  | state, .exit number =>
    (state.processes[number]?).map fun _ =>
      state.modify number fun process => { process with exited := true }
  | state, .stop runId => some (state.stop runId)
  | state, .advanceStop index => (state.stops[index]?).bind fun call => state.advanceStop index call
  | state, .stopAll => some { state with sweeps := state.sweeps ++ [state.runs.keys] }
  | state, .sweep index position =>
    (state.sweeps[index]?).bind fun runIds => state.sweep index runIds position

/-! ## The property and its condition -/

/-- The process is the one registered under its run id: `ActiveRuns` reports it,
`StopAll` finds its id, and `Stop` interrupts it and cancels its context when the
timer fires. -/
structure Controls (number : Nat) (process : ToolProcess) : Prop where
  registered : state.runs.lookup process.runId = some number
  reported : ⟨process.runId, process.revision, process.pid⟩ ∈ state.activeRuns
  swept : process.runId ∈ state.runs.keys
  stopped : ∃ later, execute step state
      [.stop process.runId.val, .advanceStop state.stops.length,
        .advanceStop state.stops.length] = some later ∧
    later.processes[number]? = some { process with interrupted := true, cancelled := true }

/-- Every registered process that has neither exited nor been cancelled can be
controlled. -/
def Controllable : Prop :=
  ∀ number process, state.processes[number]? = some process →
    process.phase.enrolled = true → process.live = true → state.Controls number process

/-- The exit of a process removes no entry of another process. -/
def ExitKeeps (earlier : ToolRuns) (event : Event) (later : ToolRuns) : Prop :=
  ∀ number result process outcome, event = .advance number result →
    earlier.processes[number]? = some process → process.phase = .reaped outcome →
      ∀ runId other, other ≠ number → earlier.runs.lookup runId = some other →
        later.runs.lookup runId = some other

/-- A process replaces only an entry whose process is not live any more, and the
exit of a process finds its own entry or none. -/
def MayAdvance (number : Nat) (runId : RunId) : RunPhase → Prop
  | .cleared =>
    ∀ other ∈ state.runs.lookup runId,
      ∀ existing ∈ state.processes[other]?, existing.live = false
  | .reaped _ => ∀ other ∈ state.runs.lookup runId, other = number
  | .spawned | .replacing _ | .registered | .running | .unregistered _ | .finished => True

instance (number : Nat) (runId : RunId) (phase : RunPhase) :
    Decidable (state.MayAdvance number runId phase) := by
  unfold MayAdvance
  split <;> infer_instance

/-- The condition on the steps of the processes. -/
def SparesEntries : Discipline ToolRuns Event
  | state, .advance number _ =>
    ∀ process ∈ state.processes[number]?, state.MayAdvance number process.runId process.phase
  | _, _ => True

instance (event : Event) : Decidable (SparesEntries state event) := by
  unfold SparesEntries
  split <;> infer_instance

/-! ## Every live process keeps its entry -/

variable {state}

/-- Both maps agree, an entry is a registered process of its run id, a live registered
process has the entry of its run id, and a process that was waited for is not live. -/
structure Consistent (state : ToolRuns) : Prop where
  same : state.cancel = state.runs
  owned : ∀ {runId number}, state.runs.lookup runId = some number →
    ∃ process, state.processes[number]? = some process ∧ process.runId = runId ∧
      process.phase.enrolled = true
  registered : ∀ {number : Nat} {process : ToolProcess}, state.processes[number]? = some process →
    process.phase.enrolled = true → process.live = true →
      state.runs.lookup process.runId = some number
  settled : ∀ {number : Nat} {process : ToolProcess} {result : WaitResult},
    state.processes[number]? = some process → process.phase = .reaped result →
      process.live = false

theorem consistent_new : new.Consistent where
  same := rfl
  owned found := by cases found
  registered found := by cases found
  settled found := by cases found

variable {number : Nat} {later : ToolRuns} {process : ToolProcess}

/-- A change of one process that leaves its id and whether it is registered as they
were, and does not bring it back to life. -/
theorem Consistent.modify {change : ToolProcess → ToolProcess} (consistent : state.Consistent)
    (mild : ∀ process, state.processes[number]? = some process →
      (change process).runId = process.runId ∧
      (change process).phase.enrolled = process.phase.enrolled ∧
      ((change process).live = true → process.live = true))
    (waited : ∀ process result, state.processes[number]? = some process →
      (change process).phase = .reaped result → (change process).live = false) :
    (state.modify number change).Consistent := by
  constructor
  · exact consistent.same
  · intro runId owner found
    rcases consistent.owned found with ⟨process, present, named, enrolled⟩
    refine ⟨_, getElem?_modify_eq_some_iff.mpr ⟨process, present, rfl⟩, ?_⟩
    by_cases changed : number = owner
    · subst changed
      rcases mild process present with ⟨sameId, samePhase, _⟩
      rw [if_pos rfl]
      exact ⟨sameId.trans named, samePhase.trans enrolled⟩
    · rw [if_neg changed]
      exact ⟨named, enrolled⟩
  · intro index later present enrolled live
    rcases of_getElem?_modify_eq_some present with ⟨rfl, process, before, rfl⟩ | ⟨_, before⟩
    · rcases mild process before with ⟨sameId, samePhase, alive⟩
      rw [sameId]
      exact consistent.registered before (samePhase ▸ enrolled) (alive live)
    · exact consistent.registered before enrolled live
  · intro index later result present reaped
    rcases of_getElem?_modify_eq_some present with ⟨rfl, process, before, rfl⟩ | ⟨_, before⟩
    · exact waited process result before reaped
    · exact consistent.settled before reaped

/-- A cancelled process is not live. -/
theorem live_cancelled (process : ToolProcess) :
    ({ process with cancelled := true } : ToolProcess).live = false := by
  rw [ToolProcess.live, Bool.not_true, Bool.and_false]

section Consistent

variable (consistent : state.Consistent)

include consistent

namespace Consistent

theorem cancelRun (number : Nat) : (state.cancelRun number).Consistent := by
  apply consistent.modify
  · intro process _
    refine ⟨rfl, rfl, ?_⟩
    intro live
    rw [live_cancelled] at live
    cases live
  · intro process result _ _
    exact live_cancelled process

/-- A goroutine goes on without a change of the maps. -/
theorem setPhase {phase : RunPhase} (same : ∀ process, state.processes[number]? = some process →
      phase.enrolled = process.phase.enrolled)
    (waited : ∀ process result, state.processes[number]? = some process →
      phase = .reaped result → process.live = false) :
    (state.setPhase number phase).Consistent := by
  apply consistent.modify
  · intro process present
    exact ⟨rfl, same process present, id⟩
  · intro process result present reaped
    exact waited process result present reaped

/-- Frames, calls of `Stop` and those of `StopAll` do not matter. -/
theorem keep (processes : later.processes = state.processes) (runs : later.runs = state.runs)
    (cancel : later.cancel = state.cancel) : later.Consistent := by
  constructor
  · rw [cancel, runs]
    exact consistent.same
  · rw [runs, processes]
    exact consistent.owned
  · rw [runs, processes]
    exact consistent.registered
  · rw [processes]
    exact consistent.settled

theorem emit (event : ToolRunEvent) : (state.emit event).Consistent := consistent.keep rfl rfl rfl

/-- A process is spawned. -/
theorem spawn (fresh : process.phase = .spawned) :
    ({ state with processes := state.processes ++ [process] } : ToolRuns).Consistent := by
  constructor
  · exact consistent.same
  · intro runId number found
    rcases consistent.owned found with ⟨owner, present, rest⟩
    exact ⟨owner, getElem?_concat_eq_some_iff.mpr (.inl present), rest⟩
  · intro number later present enrolled live
    rcases getElem?_concat_eq_some_iff.mp present with before | ⟨_, rfl⟩
    · exact consistent.registered before enrolled live
    · rw [fresh] at enrolled
      cases enrolled
  · intro number later result present reaped
    rcases getElem?_concat_eq_some_iff.mp present with before | ⟨_, rfl⟩
    · exact consistent.settled before reaped
    · rw [fresh] at reaped
      cases reaped

/-- A process gets an entry that no live process has. -/
theorem register (present : state.processes[number]? = some process)
    (free : ∀ other ∈ state.runs.lookup process.runId,
      ∀ existing ∈ state.processes[other]?, existing.live = false) :
    (state.register number process.runId).Consistent := by
  constructor
  · change state.cancel.insert _ _ = state.runs.insert _ _
    rw [consistent.same]
  · intro runId owner found
    change (state.runs.insert process.runId number).lookup runId = _ at found
    by_cases same : runId = process.runId
    · subst same
      rw [lookup_insert] at found
      cases found
      refine ⟨_, getElem?_modify_eq_some_iff.mpr ⟨process, present, rfl⟩, ?_⟩
      rw [if_pos rfl]
      exact ⟨rfl, rfl⟩
    rw [lookup_insert_ne same] at found
    rcases consistent.owned found with ⟨other, before, named, enrolled⟩
    have different : number ≠ owner := by
      rintro rfl
      rw [present] at before
      cases before
      exact same named.symm
    refine ⟨_, getElem?_modify_eq_some_iff.mpr ⟨other, before, rfl⟩, ?_⟩
    rw [if_neg different]
    exact ⟨named, enrolled⟩
  · intro index later found enrolled live
    change (state.runs.insert process.runId number).lookup later.runId = _
    rcases of_getElem?_modify_eq_some found with ⟨rfl, _, before, rfl⟩ | ⟨_, before⟩
    · cases present.symm.trans before
      rw [lookup_insert]
    have own := consistent.registered before enrolled live
    have different : later.runId ≠ process.runId := by
      intro same
      rw [same] at own
      rw [free index own later before] at live
      cases live
    rw [lookup_insert_ne different]
    exact own
  · intro index later result found reaped
    rcases of_getElem?_modify_eq_some found with ⟨_, _, _, rfl⟩ | ⟨_, before⟩
    · cases reaped
    · exact consistent.settled before reaped

/-- The exit of a process removes its own entry or none. -/
theorem unregister {result : WaitResult}
    (present : state.processes[number]? = some process) (reaped : process.phase = .reaped result)
    (own : ∀ other ∈ state.runs.lookup process.runId, other = number) :
    (state.unregister number process.runId result).Consistent := by
  constructor
  · change state.cancel.erase _ = state.runs.erase _
    rw [consistent.same]
  · intro runId owner found
    change (state.runs.erase process.runId).lookup runId = _ at found
    have different : runId ≠ process.runId := by
      rintro rfl
      rw [lookup_erase] at found
      cases found
    rw [lookup_erase_ne different] at found
    rcases consistent.owned found with ⟨other, before, named, enrolled⟩
    have another : number ≠ owner := by
      rintro rfl
      rw [present] at before
      cases before
      exact different named.symm
    refine ⟨_, getElem?_modify_eq_some_iff.mpr ⟨other, before, rfl⟩, ?_⟩
    rw [if_neg another]
    exact ⟨named, enrolled⟩
  · intro index later found enrolled live
    change (state.runs.erase process.runId).lookup later.runId = _
    rcases of_getElem?_modify_eq_some found with ⟨rfl, _, before, rfl⟩ | ⟨changed, before⟩
    · cases present.symm.trans before
      have dead := consistent.settled present reaped
      rw [ToolProcess.live] at dead live
      rw [dead] at live
      cases live
    · have entry := consistent.registered before enrolled live
      have different : later.runId ≠ process.runId := by
        intro same
        rw [same] at entry
        exact changed (own index entry).symm
      rw [lookup_erase_ne different]
      exact entry
  · intro index later outcome found waited
    rcases of_getElem?_modify_eq_some found with ⟨_, _, _, rfl⟩ | ⟨_, before⟩
    · cases waited
    · exact consistent.settled before waited

theorem start {request : ToolRunRequest} {outcome : SpawnOutcome} :
    (state.start request outcome).Consistent := by
  unfold ToolRuns.start
  cases RunId.read request.runId with
  | none => exact consistent
  | some =>
    dsimp only
    by_cases blank : trimSpace request.binaryPath = ""
    · rw [if_pos blank]
      exact consistent.emit _
    · rw [if_neg blank]
      cases outcome with
      | spawned => exact consistent.spawn rfl
      | _ => exact consistent.emit _

theorem advance {result : WaitResult} (present : state.processes[number]? = some process)
    (spares : SparesEntries state (.advance number result))
    (taken : state.advance number process result = some later) : later.Consistent := by
  have condition := spares process present
  unfold ToolRuns.advance at taken
  generalize phase : process.phase = current at taken condition
  cases current with
  | spawned =>
    cases entry : state.cancel.lookup process.runId with
    | some =>
      rw [entry] at taken
      cases taken
      apply consistent.setPhase
      · intro other found
        cases present.symm.trans found
        rw [phase]
        rfl
      · rintro _ _ _ ⟨⟩
    | none =>
      rw [entry] at taken
      cases taken
      apply consistent.register present
      intro other found
      rw [consistent.same] at entry
      rw [entry] at found
      cases found
  | replacing existing =>
    cases taken
    apply (consistent.cancelRun existing).setPhase
    · intro other found
      rcases getElem?_modify_eq_some_iff.mp found with ⟨before, listed, rfl⟩
      cases present.symm.trans listed
      split_ifs <;> exact (congrArg RunPhase.enrolled phase).symm
    · rintro _ _ _ ⟨⟩
  | cleared =>
    cases taken
    exact consistent.register present condition
  | registered | unregistered =>
    cases taken
    apply (consistent.emit _).setPhase
    · intro other found
      cases present.symm.trans found
      rw [phase]
      rfl
    · rintro _ _ _ ⟨⟩
  | running =>
    rcases guarded_eq_some_iff.mp taken with ⟨_, rfl⟩
    apply (consistent.cancelRun number).setPhase
    · intro other found
      rcases getElem?_modify_eq_some_iff.mp found with ⟨before, listed, rfl⟩
      cases present.symm.trans listed
      rw [if_pos rfl]
      exact (congrArg RunPhase.enrolled phase).symm
    · intro other _ found _
      rcases getElem?_modify_eq_some_iff.mp found with ⟨before, listed, rfl⟩
      rw [if_pos rfl]
      exact live_cancelled before
  | reaped =>
    cases taken
    exact consistent.unregister present phase condition
  | finished => cases taken

theorem stop {runId : String} : (state.stop runId).Consistent := by
  unfold ToolRuns.stop
  cases state.find runId with
  | none => exact consistent
  | some => exact consistent.keep rfl rfl rfl

theorem interrupt (number : Nat) :
    (state.modify number fun process => { process with interrupted := true }).Consistent := by
  apply consistent.modify
  · intro process _
    exact ⟨rfl, rfl, id⟩
  · intro process result present reaped
    have dead : process.live = false := consistent.settled present reaped
    exact dead

theorem advanceStop {index : Nat} {call : StopCall}
    (taken : state.advanceStop index call = some later) : later.Consistent := by
  rcases call with ⟨number, phase⟩
  cases phase with
  | found =>
    cases taken
    exact (consistent.interrupt number).keep rfl rfl rfl
  | armed =>
    cases taken
    exact (consistent.cancelRun number).keep rfl rfl rfl
  | fired => cases taken

/-- An exit leaves the process not live. -/
theorem exit : (state.modify number fun process => { process with exited := true }).Consistent := by
  have dead : ∀ process : ToolProcess,
      ({ process with exited := true } : ToolProcess).live = false := by
    intro process
    rw [ToolProcess.live, Bool.not_true, Bool.false_and]
  apply consistent.modify
  · intro process _
    refine ⟨rfl, rfl, ?_⟩
    intro live
    rw [dead] at live
    cases live
  · intro process result _ _
    exact dead process

/-- One event under the condition. -/
theorem step {event : Event}
    (spares : SparesEntries state event) (taken : ToolRuns.step state event = some later) :
    later.Consistent := by
  cases event with
  | start =>
    obtain rfl := Option.some.inj taken
    exact consistent.start
  | advance =>
    rcases bind_eq_some_iff.mp taken with ⟨process, present, advanced⟩
    exact consistent.advance present spares advanced
  | exit =>
    rcases map_eq_some_iff.mp taken with ⟨process, _, rfl⟩
    exact consistent.exit
  | stop =>
    obtain rfl := Option.some.inj taken
    exact consistent.stop
  | advanceStop =>
    rcases bind_eq_some_iff.mp taken with ⟨call, _, advanced⟩
    exact consistent.advanceStop advanced
  | stopAll =>
    obtain rfl := Option.some.inj taken
    exact consistent.keep rfl rfl rfl
  | sweep =>
    rcases bind_eq_some_iff.mp taken with ⟨runIds, _, swept⟩
    rcases map_eq_some_iff.mp swept with ⟨runId, _, rfl⟩
    have stopped : (state.stop runId.val).Consistent := consistent.stop
    exact stopped.keep rfl rfl rfl

end Consistent

end Consistent

/-- `Stop` of a registered run, with its timer. -/
theorem execute_stop (registered : state.runs.lookup process.runId = some number)
    (present : state.processes[number]? = some process) :
    ∃ later, execute step state [.stop process.runId.val, .advanceStop state.stops.length,
          .advanceStop state.stops.length] = some later ∧
      later.processes[number]? = some { process with interrupted := true, cancelled := true } := by
  have found : state.find process.runId.val = some number := by
    rw [find, RunId.read_val, bind_some]
    exact registered
  have stops : state.stop process.runId.val =
      { state with stops := state.stops ++ [⟨number, .found⟩] } := by
    rw [ToolRuns.stop, found]
  let index := state.stops.length
  let looked : ToolRuns := { state with stops := state.stops ++ [⟨number, .found⟩] }
  let armed : ToolRuns :=
    { looked.modify number fun process => { process with interrupted := true } with
      stops := looked.stops.set index ⟨number, .armed⟩ }
  let fired : ToolRuns :=
    { armed.cancelRun number with stops := armed.stops.set index ⟨number, .fired⟩ }
  have interrupts : step looked (.advanceStop index) = some armed := by
    have listed : looked.stops[index]? = some ⟨number, .found⟩ := List.getElem?_concat_length
    change (looked.stops[index]?).bind _ = _
    rw [listed]
    rfl
  have cancels : step armed (.advanceStop index) = some fired := by
    have below : index < looked.stops.length := by
      rw [List.length_append]
      exact Nat.lt_succ_self _
    have listed : armed.stops[index]? = some ⟨number, .armed⟩ := List.getElem?_set_self below
    change (armed.stops[index]?).bind _ = _
    rw [listed]
    rfl
  refine ⟨fired, ?_, ?_⟩
  · change (some (state.stop process.runId.val)).bind _ = _
    rw [bind_some, stops]
    change (step looked (.advanceStop index)).bind _ = _
    rw [interrupts, bind_some]
    change (step armed (.advanceStop index)).bind _ = _
    rw [cancels]
    rfl
  · have interrupted : armed.processes[number]? = some { process with interrupted := true } :=
      getElem?_modify_eq_some_iff.mpr ⟨process, present, (if_pos rfl).symm⟩
    exact getElem?_modify_eq_some_iff.mpr ⟨_, interrupted, (if_pos rfl).symm⟩

theorem Consistent.controllable (consistent : state.Consistent) : state.Controllable := by
  intro number process present enrolled live
  have registered := consistent.registered present enrolled live
  constructor
  · exact registered
  · apply List.mem_filterMap.mpr
    refine ⟨⟨process.runId, number⟩, mem_lookup_iff.mp registered, ?_⟩
    rw [present, map_some]
  · rw [← mem_keys, ← lookup_isSome, registered]
    rfl
  · exact execute_stop registered present

/-! ## Runs -/

theorem consistent_of_reaches (reached : Reaches step SparesEntries new state) : state.Consistent :=
  reached.invariant (P := Consistent) consistent_new
    (fun _ consistent spares taken => consistent.step spares taken)

theorem exitKeeps_of_spares {event : Event} (spares : SparesEntries state event)
    (taken : step state event = some later) : ExitKeeps state event later := by
  intro number result process outcome named present reaped runId other different entry
  subst named
  have condition := spares process present
  rw [reaped] at condition
  rcases bind_eq_some_iff.mp taken with ⟨same, found, advanced⟩
  rw [present] at found
  cases found
  unfold ToolRuns.advance at advanced
  rw [reaped] at advanced
  cases advanced
  change (state.runs.erase process.runId).lookup runId = some other
  have apart : runId ≠ process.runId := by
    rintro rfl
    exact different (condition other entry)
  rw [lookup_erase_ne apart]
  exact entry

/-- The condition is needed at every step: a step that does not meet it leaves a live
process without its entry, or removes the entry of another process. -/
theorem Consistent.spares {event : Event} (consistent : state.Consistent)
    (taken : ToolRuns.step state event = some later) (controllable : later.Controllable)
    (keeps : ExitKeeps state event later) : SparesEntries state event := by
  cases event with
  | advance number result =>
    intro process present
    rcases bind_eq_some_iff.mp taken with ⟨same, found, advanced⟩
    rw [present] at found
    cases found
    unfold ToolRuns.advance at advanced
    cases phase : process.phase with
    | cleared =>
      rw [phase] at advanced
      cases advanced
      intro other entry existing listed
      rcases consistent.owned entry with ⟨owner, before, named, enrolled⟩
      rw [listed] at before
      cases before
      by_contra alive
      have different : number ≠ other := by
        rintro rfl
        rw [present] at listed
        cases listed
        rw [phase] at enrolled
        cases enrolled
      have after : (state.register number process.runId).processes[other]? = some existing := by
        apply getElem?_modify_eq_some_iff.mpr
        exact ⟨existing, listed, (if_neg different).symm⟩
      have kept := (controllable other existing after enrolled
        (eq_true_of_ne_false alive)).registered
      change (state.runs.insert process.runId number).lookup existing.runId = _ at kept
      rw [named, lookup_insert] at kept
      exact different (some.inj kept)
    | reaped outcome =>
      rw [phase] at advanced
      cases advanced
      intro other entry
      by_contra different
      have kept := keeps number result process outcome rfl present phase process.runId other
        different entry
      change (state.runs.erase process.runId).lookup process.runId = _ at kept
      rw [lookup_erase] at kept
      cases kept
    | _ => trivial
  | _ => trivial

/-- In a run all of whose steps meet the condition, every live process can be
controlled, and the condition is the weakest one: a further step keeps every live
process controllable, and every other process registered when it records an exit,
exactly when it meets the condition. -/
theorem tools_controllable (state : ToolRuns) (reached : Reaches step SparesEntries new state) :
    state.Controllable ∧ ∀ event later, step state event = some later →
        (SparesEntries state event ↔ later.Controllable ∧ ExitKeeps state event later) := by
  have consistent := consistent_of_reaches reached
  refine ⟨consistent.controllable, ?_⟩
  intro event later taken
  constructor
  · intro spares
    exact ⟨(consistent.step spares taken).controllable, exitKeeps_of_spares spares taken⟩
  · rintro ⟨controllable, keeps⟩
    exact consistent.spares taken controllable keeps

/-- A run id that is used again after the exit of its first process. -/
theorem tools_controllable_again : ∃ state, Reaches step SparesEntries new state ∧
      (state.processes[1]?).any (fun process => process.phase.enrolled && process.live) = true ∧
        state.Controllable := by
  refine exists_reaches_and_of_run
      [.start ⟨"r", "frpc", 1⟩ (.spawned 100), .advance 0 .success, .advance 0 .success, .exit 0,
        .advance 0 (.exitError 1), .advance 0 .success, .start ⟨"r", "frpc", 2⟩ (.spawned 101),
        .advance 1 .success, .advance 0 .success]
      (by decide +kernel) ?_
  intro state reached _
  exact (tools_controllable state reached).1

/-- A second `Start` of a run id replaces the first process, whose exit then removes
the entry of the second one. -/
theorem tools_uncontrollable :
    ∃ state, Reaches step unrestricted new state ∧ state.activeRuns = [] ∧
      (state.processes[1]?).any (fun process => process.phase.enrolled && process.live) = true ∧
        ¬state.Controllable := by
  have run : ∃ state, Reaches step unrestricted new state ∧ state.activeRuns = [] ∧
      (state.processes[1]?).any (fun process => process.phase.enrolled && process.live) = true :=
    exists_reaches_of_run
      [.start ⟨"r", "frpc", 1⟩ (.spawned 100), .advance 0 .success, .advance 0 .success,
        .start ⟨"r", "frpc", 2⟩ (.spawned 101), .advance 1 .success, .advance 1 .success,
        .advance 1 .success, .advance 1 .success, .exit 0, .advance 0 .cancelled,
        .advance 0 .success]
      (by decide +kernel)
  rcases run with ⟨state, reached, none, second⟩
  refine ⟨state, reached, none, second, ?_⟩
  intro controllable
  rcases (any_eq_true _ _).mp second with ⟨process, present, holds⟩
  rcases Bool.and_eq_true_iff.mp holds with ⟨enrolled, live⟩
  have reported := (controllable 1 process present enrolled live).reported
  rw [none] at reported
  cases reported

end ToolRuns

end LubricantNodes.Agent
