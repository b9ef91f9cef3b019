import LubricantNodes.Agent.Loops

/-!
# The handle of a connection loop

`startDeviceLocked` leaves a phone alone that has a handle, so a handle is meant to
stand for a loop that has not ended.  The end of a loop does not clear it: a loop that
ends by itself leaves a phone that neither START nor the prober nor a new claim can
bring back.  The handle is exact as long as loops end only after a command has taken
their handle, and that command waits for the end.
-/

namespace LubricantNodes.Agent

open Go Transition List Phones

namespace Phones

variable {calendar : Calendar} {manager after : Phones}

/-! ## What a handle is for -/

/-- The task has taken the handle of the phone's loop and not seen the end of it. -/
def stops (phone : Nat) : PhoneTask → Bool
  | .cancelling _ stopped _ | .waiting _ stopped _ => stopped = phone
  | _ => false

/-- A loop of the phone is running. -/
def Runs (manager : Phones) (number : Nat) : Prop :=
  ∃ loop ∈ manager.loops, loop.phone = number ∧ loop.phase = .running

/-- START, the prober and a claim start a loop of the phone. -/
structure Restartable (manager : Phones) (number : Nat) (phone : Phone) : Prop where
  start : ∀ request : RunnerControl, request.action = .start → phone.credentialPath ≠ "" →
    manager.findLocked request.deviceId request.udid = some number →
    (manager.control request).Runs number
  probe : ∀ (task : Nat) (answer : TaskAnswer) (udid : String) (rest : List String),
    phone.credentialPath ≠ "" → manager.findLocked "" udid = some number →
    ∃ after, manager.advance task answer (.probing (udid :: rest)) = some after ∧
      after.Runs number
  claim : ∀ (request : ClaimDevice) (name deviceId : String),
    (manager.pair number request name (.ok deviceId)).Runs number

/-- Unless a command is stopping a loop of the phone, the phone has a handle if and only
if it has a loop whose exit is not recorded; a phone whose loops have all ended can be
started again. -/
structure Exact (manager : Phones) : Prop where
  handle : ∀ {number : Nat} {phone : Phone}, manager.phones[number]? = some phone →
    (∀ task ∈ manager.tasks, stops number task = false) →
    (phone.cancel.isSome ↔
      ∃ loop ∈ manager.loops, loop.phone = number ∧ loop.phase ≠ .finished)
  restart : ∀ {number : Nat} {phone : Phone}, manager.phones[number]? = some phone →
    (∀ loop ∈ manager.loops, loop.phone = number → loop.phase = .finished) →
    manager.Restartable number phone

/-- `Release` finds no handle, the commands that take a handle wait for the end of the
loop, and a loop ends only after its handle was taken. -/
def TakenFirst : Discipline Phones PhoneEvent
  | manager, .release request =>
    ∀ number ∈ manager.findLocked request.deviceId request.udid, manager.handle number = none
  | manager, .advance number answer => InTime manager (.advance number answer)
  | manager, .record number _ =>
    ∀ loop ∈ manager.loops[number]?, manager.handle loop.phone ≠ some number
  | _, _ => True

instance (manager : Phones) (event : PhoneEvent) : Decidable (TakenFirst manager event) := by
  delta TakenFirst
  rcases event with _ | _ <;> infer_instance

/-! ## The invariant -/

/-- The task has taken the handle of the loop and waits for its end. -/
def awaits (phone loop : Nat) : PhoneTask → Bool
  | .cancelling purpose stopped taken => purpose ≠ .release && stopped = phone && taken = loop
  | .waiting _ stopped taken => stopped = phone && taken = loop
  | _ => false

/-- A handle stands for a loop that has not ended, and such a loop has its handle or a
command that waits for it. -/
structure Tracked (manager : Phones) : Prop where
  owned : ∀ {number loop : Nat}, manager.handle number = some loop →
    ∃ found, manager.loops[loop]? = some found ∧ found.phone = number ∧ found.phase ≠ .finished
  kept : ∀ {loop : Nat} {found : DeviceLoop}, manager.loops[loop]? = some found →
    found.phase ≠ .finished → manager.handle found.phone = some loop ∨
      ∃ task ∈ manager.tasks, awaits found.phone loop task = true

variable {task : PhoneTask} {number : Nat} {phone : Phone} {change : Phone → Phone}

theorem stops_of_awaits {phone loop : Nat} (awaiting : awaits phone loop task) :
    stops phone task = true := by
  cases task with
  | cancelling =>
    simp only [awaits, Bool.and_eq_true, decide_eq_true_eq] at awaiting
    exact decide_eq_true awaiting.1.2
  | waiting =>
    simp only [awaits, Bool.and_eq_true, decide_eq_true_eq] at awaiting
    exact decide_eq_true awaiting.1
  | pairing | resuming | acking | collecting | probing | ended => cases awaiting

/-- A handle is part of the grip. -/
theorem handle_eq_grips (manager : Phones) (number : Nat) :
    manager.handle number = manager.grips[number]?.bind Grip.cancel := by
  unfold handle grips
  rw [getElem?_map]
  cases manager.phones[number]? <;> rfl

theorem handle_of_grips_eq (same : after.grips = manager.grips) (number : Nat) :
    after.handle number = manager.handle number := by
  rw [handle_eq_grips, handle_eq_grips, same]

/-! ### Handles after a change -/

theorem handle_edit_of_same (same : ∀ phone, (change phone).cancel = phone.cancel) (other : Nat) :
    (manager.edit number change).handle other = manager.handle other := by
  unfold handle edit
  rw [getElem?_modify]
  cases manager.phones[other]? with
  | none => rfl
  | some =>
    by_cases here : number = other
    · simp [here, same]
    · simp [here]

theorem handle_edit_of_drop (drops : ∀ phone, (change phone).cancel = none) (other : Nat) :
    (manager.edit number change).handle other =
      if number = other then none else manager.handle other := by
  unfold handle edit
  rw [getElem?_modify]
  cases manager.phones[other]? with
  | none => simp
  | some =>
    by_cases here : number = other
    · simp [here, drops]
    · simp [here]

/-- A loop is started for a phone without a handle, and is then the one of its handle. -/
theorem startDeviceLocked_cases (manager : Phones) (number : Nat) :
    manager.startDeviceLocked number = manager ∨ manager.handle number = none ∧
      (∀ other, (manager.startDeviceLocked number).handle other =
        if number = other then some manager.loops.length else manager.handle other) ∧
      (manager.startDeviceLocked number).loops = manager.loops ++ [{ phone := number }] ∧
      (manager.startDeviceLocked number).tasks = manager.tasks := by
  unfold startDeviceLocked
  split
  · exact .inl rfl
  rename_i phone present
  split_ifs with held
  · exact .inl rfl
  refine .inr ⟨?_, ?_, rfl, rfl⟩
  · rw [handle_of_present present]
    exact Option.not_isSome_iff_eq_none.mp held
  · intro other
    unfold handle edit
    dsimp only
    rw [getElem?_modify]
    by_cases here : number = other
    · subst here
      rw [present]
      simp
    · simp [here]

/-! ### Steps that leave the handles alone -/

section TrackedCommands

variable (tracked : manager.Tracked)

include tracked

namespace Tracked

/-- Other changes than those of handles and loops, as long as no wait is forgotten. -/
theorem congr (handles : ∀ number, after.handle number = manager.handle number)
    (loops : after.loops = manager.loops)
    (waits : ∀ task ∈ manager.tasks, ∀ phone loop, awaits phone loop task = true →
      manager.isFinished loop = true ∨ ∃ other ∈ after.tasks, awaits phone loop other = true) :
    after.Tracked where
  owned := by
    intro number loop held
    rw [handles] at held
    rw [loops]
    exact tracked.owned held
  kept := by
    intro loop found present alive
    rw [loops] at present
    rw [handles]
    rcases tracked.kept present alive with held | ⟨task, member, awaiting⟩
    · exact .inl held
    rcases waits task member _ _ awaiting with finished | waiting
    · cases alive (finished_of_isFinished finished present)
    · exact .inr waiting

/-- Changes of phones that keep all handles. -/
theorem phones (handles : ∀ number, after.handle number = manager.handle number)
    (loops : after.loops = manager.loops)
    (tasks : ∀ task ∈ manager.tasks, task ∈ after.tasks) : after.Tracked := by
  apply tracked.congr handles loops
  intro task member phone loop awaiting
  exact .inr ⟨task, tasks task member, awaiting⟩

theorem alike (alike : Alike manager after) : after.Tracked := by
  apply tracked.phones (handle_of_grips_eq alike.grips) alike.loops
  rw [alike.tasks]
  exact fun _ member => member

theorem edit (number : Nat) (same : ∀ phone, (change phone).cancel = phone.cancel) :
    (manager.edit number change).Tracked :=
  tracked.phones (handle_edit_of_same same) rfl fun _ member => member

theorem endSilence (number : Nat) : (manager.endSilence number).Tracked :=
  tracked.edit number fun _ => rfl

theorem spawn (task : PhoneTask) : (manager.spawn task).Tracked :=
  tracked.phones (fun _ => rfl) rfl fun _ member => mem_append_left _ member

/-- A task that waits for nothing goes on. -/
theorem setTask (present : manager.tasks[number]? = some task)
    (idle : ∀ phone loop, awaits phone loop task = false) (next : PhoneTask) :
    (manager.setTask number next).Tracked := by
  refine tracked.congr (fun _ => rfl) rfl ?_
  intro other member phone loop awaiting
  refine .inr ⟨other, ?_, awaiting⟩
  apply mem_set_of_ne member present
  rintro rfl
  rw [idle] at awaiting
  cases awaiting

/-! ### Starting and stopping -/

theorem startDeviceLocked (number : Nat) : (manager.startDeviceLocked number).Tracked := by
  rcases startDeviceLocked_cases manager number with same | ⟨free, handles, loops, tasks⟩
  · rw [same]
    exact tracked
  constructor
  · intro other loop holds
    rw [handles] at holds
    rw [loops]
    split_ifs at holds with here
    · cases holds
      refine ⟨_, getElem?_concat_length, here, ?_⟩
      rintro ⟨⟩
    · rcases tracked.owned holds with ⟨found, there, facts⟩
      exact ⟨found, getElem?_concat_eq_some_iff.mpr (.inl there), facts⟩
  · intro loop found there alive
    rw [loops] at there
    rw [handles, tasks]
    rcases getElem?_concat_eq_some_iff.mp there with old | ⟨newest, rfl⟩
    · rcases tracked.kept old alive with holds | waiting
      · apply Or.inl
        rw [if_neg]
        · exact holds
        · rintro rfl
          rw [free] at holds
          cases holds
      · exact .inr waiting
    · rw [if_pos rfl, newest]
      exact .inl rfl

/-- A command takes the handle and waits for the end of the loop. -/
theorem dismiss (drops : ∀ phone, (change phone).cancel = none)
    {purpose : Purpose} (waits : purpose = .release → manager.handle number = none) :
    ((manager.edit number change).dismiss purpose number (manager.handle number)).Tracked := by
  have handles : ∀ other, (manager.edit number change).handle other =
      if number = other then none else manager.handle other := handle_edit_of_drop drops
  cases held : manager.handle number with
  | none =>
    have edited : (manager.edit number change).Tracked := by
      refine tracked.phones ?_ rfl fun _ member => member
      intro other
      rw [handles]
      split_ifs with here
      · rw [← here, held]
      · rfl
    unfold Phones.dismiss
    dsimp only
    split
    · exact edited.spawn _
    · exact edited.spawn _
    · exact edited.alike (alike_sendAck _ none)
    · exact edited.alike (alike_sendAck _ none)
  | some taken =>
    constructor
    · intro other loop holds
      change (manager.edit number change).handle other = some loop at holds
      rw [handles] at holds
      split_ifs at holds
      exact tracked.owned holds
    · intro loop found there alive
      change (manager.edit number change).handle found.phone = some loop ∨ _
      rw [handles]
      rcases tracked.kept there alive with holds | ⟨task, member, awaiting⟩
      · by_cases here : number = found.phone
        · -- The loop whose handle was taken is the one that is now waited for.
          rw [← here, held] at holds
          cases holds
          refine .inr ⟨.cancelling purpose number taken, mem_concat_self, ?_⟩
          have kind : purpose ≠ .release := by
            intro release
            rw [waits release] at held
            cases held
          simp [awaits, kind, here]
        · rw [if_neg here]
          exact .inl holds
      · exact .inr ⟨task, mem_append_left _ member, awaiting⟩

/-! ### Tasks and loops -/

/-- The cancel function of a loop is called. -/
theorem cancel (number : Nat) : Tracked { manager with
      loops := manager.loops.modify number fun loop => { loop with cancelled := true } } where
  owned := by
    intro phone loop held
    rcases tracked.owned held with ⟨found, present, facts⟩
    refine ⟨_, getElem?_modify_eq_some_iff.mpr ⟨found, present, rfl⟩, ?_⟩
    split_ifs <;> exact facts
  kept := by
    intro loop found present alive
    rcases getElem?_modify_eq_some_iff.mp present with ⟨old, there, rfl⟩
    have facts := tracked.kept there
    split_ifs at alive ⊢ <;> exact facts alive

/-- A loop that still has its handle, or that goes on, makes progress. -/
theorem progress {loop : DeviceLoop} {phase : LoopPhase}
    (present : manager.loops[number]? = some loop) (alive : loop.phase ≠ .finished)
    (taken : phase = .finished → manager.handle loop.phone ≠ some number) :
    Tracked { manager with loops := manager.loops.set number { loop with phase := phase } } where
  owned := by
    intro phone other held
    rcases tracked.owned held with ⟨found, there, owner, unfinished⟩
    by_cases same : number = other
    · subst same
      cases present.symm.trans there
      refine ⟨_, List.getElem?_set_self (List.getElem?_eq_some_iff.mp present).1, owner, ?_⟩
      intro finished
      apply taken finished
      rw [owner]
      exact held
    · exact ⟨found, (getElem?_set_ne same).trans there, owner, unfinished⟩
  kept := by
    intro other found there unfinished
    rcases of_getElem?_set_eq_some there with ⟨rfl, rfl⟩ | ⟨_, old⟩
    · have facts := tracked.kept present alive
      exact facts
    · exact tracked.kept old unfinished

theorem starts (starts : Starts manager number after) : after.Tracked := by
  cases starts with
  | none alike => exact tracked.alike alike
  | loop change kept alike =>
    have edited := tracked.edit number fun phone => (kept phone).1
    exact (edited.startDeviceLocked number).alike alike

theorem halted {purpose : Purpose} (waits : purpose ≠ .release)
    (halted : Halted manager purpose number after) : after.Tracked := by
  cases halted with
  | none alike => exact tracked.alike alike
  | halt present alike =>
    rw [← handle_of_present present] at alike
    refine Tracked.alike (tracked.dismiss ?_ ?_) alike
    · intro phone
      rfl
    · intro release
      cases waits release

/-- The next section of a task. -/
theorem turn {answer : TaskAnswer} (present : manager.tasks[number]? = some task)
    (inTime : InTime manager (.advance number answer))
    (turn : Turn manager after number answer task) : after.Tracked := by
  cases turn with
  | pairing starts | reconfigure starts | relaunch _ starts | probing _ starts =>
    exact (tracked.setTask present (fun _ _ => rfl) _).starts starts
  | resumed alike | collecting alike | pass alike | probed alike =>
    exact (tracked.setTask present (fun _ _ => rfl) _).alike alike
  | acking alike =>
    refine Tracked.alike ?_ alike
    apply (tracked.setTask present (fun _ _ => rfl) _).edit
    intro phone
    rfl
  | @cancelling purpose phone loop alike =>
    refine Tracked.alike ?_ alike
    refine (tracked.cancel loop).congr (fun _ => rfl) rfl ?_
    intro other member waiter taken awaiting
    apply Or.inr
    by_cases same : other = .cancelling purpose phone loop
    · subst same
      simp only [awaits, Bool.and_eq_true, decide_eq_true_eq] at awaiting
      rw [if_neg awaiting.1.1]
      refine ⟨.waiting purpose phone loop, mem_set ?_ _, ?_⟩
      · exact (List.getElem?_eq_some_iff.mp present).1
      · simp [awaits, awaiting.1.2, awaiting.2]
    · exact ⟨other, mem_set_of_ne member present same, awaiting⟩
  | @waiting purpose phone loop ended alike =>
    have finished : manager.isFinished loop = true := by
      rcases ended with timedOut | closed
      · exact inTime _ present loop rfl timedOut
      · exact closed
    refine Tracked.alike ?_ alike
    refine tracked.congr (fun _ => rfl) rfl ?_
    intro other member waiter taken awaiting
    by_cases same : other = .waiting purpose phone loop
    · subst same
      simp only [awaits, Bool.and_eq_true, decide_eq_true_eq] at awaiting
      rw [← awaiting.2]
      exact .inl finished
    · exact .inr ⟨other, mem_set_of_ne member present same, awaiting⟩

end Tracked

end TrackedCommands

/-! ### Every step -/

/-- Phones that are new have no handle. -/
theorem handle_of_found {fresh : List Grip} (grips : after.grips = manager.grips ++ fresh)
    (blank : ∀ grip ∈ fresh, grip = { udid := grip.udid }) (number : Nat) :
    after.handle number = manager.handle number := by
  rw [handle_eq_grips, handle_eq_grips, grips]
  by_cases inside : number < manager.grips.length
  · rw [getElem?_append_left inside]
  · have outside := Nat.le_of_not_lt inside
    rw [getElem?_append_right outside, getElem?_eq_none outside]
    cases there : fresh[number - manager.grips.length]? with
    | none => rfl
    | some grip =>
      rw [blank grip (mem_of_getElem? there)]
      rfl

theorem Tracked.step {event : PhoneEvent} (tracked : manager.Tracked)
    (takenFirst : TakenFirst manager event)
    (stepped : step calendar manager event = some after) : after.Tracked := by
  cases step_moves stepped with
  | keep alike => exact tracked.alike alike
  | claim _ alike => exact (tracked.endSilence _).alike alike
  | reserve _ _ alike => exact ((tracked.endSilence _).spawn _).alike alike
  | release found drops alike =>
    refine Tracked.alike (tracked.dismiss ?_ ?_) alike
    · exact fun phone => congrArg Grip.cancel (drops phone)
    · exact fun _ => takenFirst _ found
  | configure _ drops alike =>
    refine Tracked.alike (tracked.dismiss ?_ ?_) alike
    · exact fun phone => congrArg Grip.cancel (drops phone)
    · rintro ⟨⟩
  | start _ _ starts alike => exact ((tracked.starts starts).endSilence _).alike alike
  | stop _ _ halted => exact tracked.halted (by rintro ⟨⟩) halted
  | restart _ _ halted alike =>
    exact ((tracked.halted (by rintro ⟨⟩) halted).endSilence _).alike alike
  | startClaimed starts => exact tracked.starts starts
  | attached _ alike =>
    refine Tracked.alike ?_ alike
    exact tracked.edit _ fun _ => rfl
  | found grips blank loops tasks =>
    apply tracked.phones (handle_of_found grips blank) loops
    intro task member
    rw [tasks]
    exact mem_append_left _ member
  | returns present alive alike =>
    refine Tracked.alike (tracked.progress present alive ?_) alike
    rintro ⟨⟩
  | record present alive alike =>
    refine Tracked.alike (tracked.progress present alive ?_) alike
    exact fun _ => takenFirst _ present
  | advance present turn => exact tracked.turn present takenFirst turn

/-! ## Starting again -/

section FreeHandles

variable (present : manager.phones[number]? = some phone) (free : phone.cancel = none)

include present free

theorem runs_startDeviceLocked : (manager.startDeviceLocked number).Runs number := by
  unfold startDeviceLocked
  rw [present]
  dsimp only
  rw [free]
  exact ⟨{ phone := number }, mem_concat_self, rfl, rfl⟩

theorem runs_startRunner
    (paired : phone.credentialPath ≠ "") : (manager.startRunner number).Runs number := by
  unfold startRunner
  rw [present]
  dsimp only
  rw [if_neg paired, if_pos (by rw [free]; rfl)]
  exact runs_startDeviceLocked
    (getElem?_edit_self present fun phone => { phone with userStopped := false }) free

theorem restartable_of_free : manager.Restartable number phone where
  start := by
    intro request action paired found
    unfold control
    rw [found]
    rw [action]
    exact runs_startRunner present free paired
  probe := by
    intro task answer udid rest paired found
    refine ⟨(manager.setTask task (.probing rest)).startRunner number, ?_, ?_⟩
    · unfold advance
      dsimp only
      rw [found]
    · have there : (manager.setTask task (.probing rest)).phones[number]? = some phone := present
      exact runs_startRunner there free paired
  claim := by
    intro request name deviceId
    exact runs_startDeviceLocked (getElem?_edit_self present _) free

end FreeHandles

theorem Tracked.exact (tracked : manager.Tracked) : manager.Exact where
  handle := by
    intro number phone present unstopped
    constructor
    · intro held
      rcases Option.isSome_iff_exists.mp held with ⟨loop, handle⟩
      rcases tracked.owned ((handle_of_present present).trans handle) with
        ⟨found, there, owner, alive⟩
      exact ⟨found, mem_of_getElem? there, owner, alive⟩
    · rintro ⟨found, member, owner, alive⟩
      rcases mem_iff_getElem?.mp member with ⟨loop, there⟩
      rcases tracked.kept there alive with held | ⟨task, waiting, awaiting⟩
      · rw [owner, handle_of_present present] at held
        rw [held]
        rfl
      · have stopping := unstopped task waiting
        rw [← owner, stops_of_awaits awaiting] at stopping
        cases stopping
  restart := by
    intro number phone present ended
    apply restartable_of_free present
    cases held : phone.cancel with
    | none => rfl
    | some =>
      rcases tracked.owned ((handle_of_present present).trans held) with
        ⟨found, there, owner, alive⟩
      cases alive (ended found (mem_of_getElem? there) owner)

theorem handle_new (configDir : String) (configs : List DeviceConfig) (number : Nat) :
    (new configDir configs).handle number = none := by
  cases present : (new configDir configs).phones[number]? with
  | none =>
    unfold handle
    rw [present]
    rfl
  | some =>
    rcases exists_config_of_mem_new (mem_of_getElem? present) with ⟨config, rfl⟩
    exact handle_of_present present

theorem tracked_new (configDir : String) (configs : List DeviceConfig) :
    (new configDir configs).Tracked where
  owned := by
    intro number loop held
    rw [handle_new] at held
    cases held
  kept := by
    intro loop found present
    rw [(kept_new ..).1] at present
    cases present

/-- As long as loops end only after a command has taken their handle and waits for
them, handles are exact, and a phone whose loops have ended can be started again. -/
theorem handles_exact {configDir : String} {configs : List DeviceConfig}
    (reached : Reaches (step calendar) TakenFirst (new configDir configs) manager) :
    manager.Exact := by
  have tracked : manager.Tracked := by
    apply reached.invariant (P := Tracked) (tracked_new configDir configs)
    intro _ _ _ _ tracked takenFirst stepped
    exact tracked.step takenFirst stepped
  exact tracked.exact

/-- The phone is stopped and its loop ends: START is possible. -/
theorem handles_exact_stopped : ∃ manager, Reaches (step noDates) TakenFirst (new "" []) manager ∧
      (manager.loops.map DeviceLoop.phase = [.finished] ∧
        ∀ task ∈ manager.tasks, stops 0 task = false) ∧ manager.Exact := by
  refine exists_reaches_and_of_run
      (connected ++ [command .stop, .advance 2 {}, .returns 0 none, .record 0 false,
        .advance 2 {}, .advance 2 {}]) (by decide +kernel) ?_
  intro manager reached _
  exact handles_exact reached

/-- A loop ends by itself and leaves its handle: START does nothing. -/
theorem handle_stale :
    ∃ manager, Reaches (step noDates) unrestricted (new "" []) manager ∧ ¬manager.Exact := by
  refine exists_reaches_imp_of_run (fun manager =>
        (∀ task ∈ manager.tasks, stops 0 task = false) ∧ manager.handle 0 = some 0 ∧
        manager.loops = [{ phone := 0, phase := .finished }])
      (connected ++ [.returns 0 (some "closed"), .record 0 false])
      (by decide +kernel) ?_
  rintro manager reached ⟨unstopped, held, loops⟩ exact
  rcases Option.bind_eq_some_iff.mp held with ⟨phone, present, handle⟩
  rcases (exact.handle present unstopped).mp (by rw [handle]; rfl) with ⟨loop, member, _, alive⟩
  rw [loops] at member
  cases mem_singleton.mp member
  exact alive rfl

end Phones

end LubricantNodes.Agent
