import LubricantNodes.Agent.Handles

/-!
# One connection loop for each phone

A phone is meant to have at most one connection loop, and only the latest one is meant to
write the phone's state.  RESTART and `ConfigureDevice` wait for the loop that they have
cancelled; `Release` does not, and START, the prober, a claim and `StartClaimedDevices`
look at the handle only, which a command takes long before the loop has ended.

There is at most one loop as long as none of those begins while a loop of the phone is on
its way out, and no command takes the handle of a phone that a RESTART or `ConfigureDevice`
in progress is going to start again.
-/

namespace LubricantNodes.Agent

open Go Transition List

namespace Phones

variable {calendar : Calendar} {manager after : Phones}

/-! ## At most one loop -/

/-- The loop whose goroutine takes the step. -/
def actor : PhoneEvent → Option Nat
  | .onState loop _ | .onWipe loop | .returns loop _ | .record loop _ => some loop
  | _ => none

/-- A later loop of the same phone has been started. -/
def Superseded (manager : Phones) (number : Nat) : Prop :=
  ∃ later loop next, number < later ∧ manager.loops[number]? = some loop ∧
    manager.loops[later]? = some next ∧ next.phone = loop.phone

/-- What loops write: the control flag, the state of the runner, the claim, the device
id and the last error. -/
def written (phone : Phone) : Bool × WdaState × Bool × String × String :=
  (phone.deviceControlOn, phone.wdaState, phone.claimed, phone.deviceId, phone.lastError)

/-- At most one loop of each phone is running, and a loop that has been superseded
changes nothing. -/
structure OneLoop (calendar : Calendar) (manager : Phones) : Prop where
  single : ∀ {first second : Nat} {loop other : DeviceLoop}, manager.loops[first]? = some loop →
    manager.loops[second]? = some other → loop.phone = other.phone → loop.phase = .running →
    other.phase = .running → first = second
  superseded : ∀ {event : PhoneEvent} {loop : Nat} {after : Phones}, actor event = some loop →
    manager.Superseded loop → step calendar manager event = some after →
    after.phones.map written = manager.phones.map written

/-! ## When it is so -/

/-- The loop whose handle the task has taken, until it has seen the loop's end. -/
def taken : PhoneTask → Option Nat
  | .cancelling _ _ loop | .waiting _ _ loop => some loop
  | _ => none

/-- The task is about to cancel the loop. -/
def cancelsLoop (index : Nat) : PhoneTask → Bool
  | .cancelling _ _ loop => loop = index
  | _ => false

/-- The task is part of a RESTART or `ConfigureDevice` of the phone. -/
def restarts (number : Nat) : PhoneTask → Bool
  | .cancelling purpose phone _ | .waiting purpose phone _ | .resuming purpose phone =>
    phone = number && purpose.relaunches
  | _ => false

/-- The loop is cancelled, or a command that has taken its handle is about to cancel it. -/
def Leaving (manager : Phones) (index : Nat) (loop : DeviceLoop) : Prop :=
  loop.cancelled = true ∨ ∃ task ∈ manager.tasks, cancelsLoop index task = true
  deriving Decidable

/-- Every loop of the phone that was on its way out has ended. -/
def Vacated (manager : Phones) (number : Nat) : Prop :=
  ∀ entry ∈ manager.loops.zipIdx, entry.1.phone = number → manager.Leaving entry.2 entry.1 →
    entry.1.phase = .finished
  deriving Decidable

/-- The phone has no handle to take, or no command is going to start it again. -/
def MayTake (manager : Phones) (number : Nat) : Prop :=
  manager.handle number = none ∨ ∀ task ∈ manager.tasks, restarts number task = false
  deriving Decidable

/-- START begins when no loop is on its way out, STOP when it takes nothing from a command
that starts the phone again, and RESTART when both are so. -/
def MayControl (manager : Phones) (number : Nat) : RunnerAction → Prop
  | .start => manager.Vacated number
  | .stop => manager.MayTake number
  | .restart => manager.Vacated number ∧ manager.MayTake number
  | .other _ => True

instance (manager : Phones) (number : Nat) :
    (action : RunnerAction) → Decidable (manager.MayControl number action)
  | .start => inferInstanceAs (Decidable (manager.Vacated number))
  | .stop => inferInstanceAs (Decidable (manager.MayTake number))
  | .restart => inferInstanceAs (Decidable (_ ∧ _))
  | .other _ => isTrue trivial

/-- What a task does next: a claim and the prober start a phone when no loop of it is on its
way out, and RESTART finds the phone that it has stopped, or else such a phone. -/
def MayProceed (manager : Phones) : PhoneTask → Prop
  | .pairing number _ _ => manager.Vacated number
  | .resuming (.restart deviceId udid) phone =>
    ∀ number ∈ manager.findLocked deviceId udid, number = phone ∨ manager.Vacated number
  | .probing (udid :: _) => ∀ number ∈ manager.findLocked "" udid, manager.Vacated number
  | _ => True

instance (manager : Phones) : (task : PhoneTask) → Decidable (manager.MayProceed task)
  | .pairing number _ _ => inferInstanceAs (Decidable (manager.Vacated number))
  | .resuming (.restart deviceId udid) phone =>
    inferInstanceAs (Decidable (∀ number ∈ manager.findLocked deviceId udid,
      number = phone ∨ manager.Vacated number))
  | .probing (udid :: _) =>
    inferInstanceAs (Decidable (∀ number ∈ manager.findLocked "" udid, manager.Vacated number))
  | .resuming .stop _ | .resuming .configure _ | .resuming .release _ | .cancelling .. | .waiting ..
  | .acking _ | .collecting | .probing [] | .ended => isTrue trivial

/-- Phones are started when none of their loops is on its way out, handles are not taken from
commands that start a phone again, and waits end in time. -/
def Successive : Discipline Phones PhoneEvent
  | manager, .control request =>
    ∀ number ∈ manager.findLocked request.deviceId request.udid,
      manager.MayControl number request.action
  | manager, .release request =>
    ∀ number ∈ manager.findLocked request.deviceId request.udid, manager.MayTake number
  | manager, .configure request =>
    ∀ number ∈ manager.findLocked request.deviceId request.udid, manager.MayTake number
  | manager, .startClaimed number => manager.Vacated number
  | manager, .advance index answer =>
    InTime manager (.advance index answer) ∧
      ∀ task ∈ manager.tasks[index]?, manager.MayProceed task
  | _, _ => True

instance (manager : Phones) (event : PhoneEvent) : Decidable (Successive manager event) := by
  delta Successive
  rcases event with _ | _ <;> infer_instance

/-! ## Order of loops -/

/-- All loops but the latest of each phone have ended. -/
def Ordered (loops : List DeviceLoop) : Prop :=
  ∀ (first second : Nat) (loop other : DeviceLoop), loops[first]? = some loop →
    loops[second]? = some other → first < second → loop.phone = other.phone →
    loop.phase = .finished

namespace Ordered

variable {loops : List DeviceLoop} (ordered : Ordered loops)

include ordered

/-- A loop is started when the earlier ones of its phone have ended. -/
theorem start {number : Nat}
    (ended : ∀ loop ∈ loops, loop.phone = number → loop.phase = .finished) :
    Ordered (loops ++ [{ phone := number }]) := by
  intro first second loop other present there before same
  rcases getElem?_concat_eq_some_iff.mp present with earlier | ⟨last, _⟩
  · rcases getElem?_concat_eq_some_iff.mp there with old | ⟨_, rfl⟩
    · exact ordered _ _ _ _ earlier old before same
    · exact ended loop (mem_of_getElem? earlier) same
  · have inside := (List.getElem?_eq_some_iff.mp there).1
    rw [length_append, length_singleton] at inside
    omega

theorem cancel (index : Nat) :
    Ordered (loops.modify index fun loop => { loop with cancelled := true }) := by
  intro first second loop other present there before same
  rcases getElem?_modify_eq_some_iff.mp present with ⟨old, was, rfl⟩
  rcases getElem?_modify_eq_some_iff.mp there with ⟨older, been, rfl⟩
  have samePhone : old.phone = older.phone := by
    split_ifs at same <;> exact same
  have ended := ordered _ _ _ _ was been before samePhone
  split_ifs <;> exact ended

theorem progress {index : Nat} {loop : DeviceLoop} (phase : LoopPhase)
    (stands : loops[index]? = some loop) (alive : loop.phase ≠ .finished) :
    Ordered (loops.set index { loop with phase := phase }) := by
  intro first second found other present there before same
  rcases of_getElem?_set_eq_some there with ⟨rfl, rfl⟩ | ⟨_, old⟩
  · rcases of_getElem?_set_eq_some present with ⟨here, _⟩ | ⟨_, was⟩
    · omega
    · exact ordered _ _ _ _ was stands before same
  · rcases of_getElem?_set_eq_some present with ⟨rfl, rfl⟩ | ⟨_, was⟩
    · -- A loop with a successor has ended, and so makes no progress.
      cases alive (ordered _ _ _ _ stands old before same)
    · exact ordered _ _ _ _ was old before same

end Ordered

/-! ## The invariant -/

/-- The loops of the phone that have not ended are the one of its handle, or the one given. -/
def Rested (manager : Phones) (number : Nat) (spared : Option Nat) : Prop :=
  ∀ (index : Nat) (loop : DeviceLoop), manager.loops[index]? = some loop →
    loop.phone = number → loop.phase ≠ .finished →
    manager.handle number = some index ∨ spared = some index

/-- A loop that has not ended has its handle or is on its way out; it is the only one of a
phone with a handle; and a command that starts a phone again has seen the end of all loops
but the one it has taken. -/
structure Succeeding (manager : Phones) : Prop where
  kept : ∀ {index : Nat} {loop : DeviceLoop}, manager.loops[index]? = some loop →
    loop.phase ≠ .finished →
    manager.handle loop.phone = some index ∨ manager.Leaving index loop
  held : ∀ {number other : Nat}, manager.handle number = some other → manager.Rested number none
  again : ∀ task ∈ manager.tasks, ∀ number, restarts number task = true →
    manager.Rested number (taken task)
  ordered : Ordered manager.loops

variable {number index : Nat} {task : PhoneTask} {change : Phone → Phone} {purpose : Purpose}

/-- A phone without a handle has no loop left. -/
theorem Rested.ended (rested : manager.Rested number none)
    (free : manager.handle number = none) :
    ∀ loop ∈ manager.loops, loop.phone = number → loop.phase = .finished := by
  intro loop member owner
  by_contra alive
  rcases mem_iff_getElem?.mp member with ⟨place, present⟩
  rcases rested _ _ present owner alive with held | spared
  · rw [free] at held
    cases held
  · cases spared

theorem Rested.congr {spared : Option Nat} (rested : manager.Rested number spared)
    (handle : after.handle number = manager.handle number) (loops : after.loops = manager.loops) :
    after.Rested number spared := by
  intro place loop present owner alive
  rw [loops] at present
  rw [handle]
  exact rested _ _ present owner alive

section SucceedingSteps

variable (succeeding : manager.Succeeding)

include succeeding

namespace Succeeding

/-- Where no loop is on its way out, those that have not ended have their handles. -/
theorem rested (vacated : manager.Vacated number) : manager.Rested number none := by
  intro place loop present owner alive
  rcases succeeding.kept present alive with held | leaving
  · rw [owner] at held
    exact .inl held
  · have entry : (loop, place) ∈ manager.loops.zipIdx := mem_zipIdx_iff_getElem?.mpr present
    cases alive (vacated (loop, place) entry owner leaving)

/-! ### Steps that leave the handles alone -/

/-- Only tasks change: none that is about to cancel a loop goes away, and a new one that
starts a phone again has seen the end of the others. -/
theorem congr (handles : ∀ number, after.handle number = manager.handle number)
    (loops : after.loops = manager.loops)
    (still : ∀ task ∈ manager.tasks, ∀ index, cancelsLoop index task = true →
      ∃ other ∈ after.tasks, cancelsLoop index other = true)
    (fresh : ∀ task ∈ after.tasks, ∀ number, restarts number task = true →
      manager.Rested number (taken task)) : after.Succeeding where
  kept := by
    intro place loop present alive
    rw [loops] at present
    rw [handles]
    refine (succeeding.kept present alive).imp_right ?_
    rintro (cancelled | ⟨task, member, cancels⟩)
    · exact .inl cancelled
    · exact .inr (still task member place cancels)
  held := by
    intro number other handle
    rw [handles] at handle
    exact (succeeding.held handle).congr (handles number) loops
  again task member number starts := (fresh task member number starts).congr (handles number) loops
  ordered := by
    rw [loops]
    exact succeeding.ordered

/-- No task changes either. -/
theorem phones (handles : ∀ number, after.handle number = manager.handle number)
    (loops : after.loops = manager.loops) (tasks : after.tasks = manager.tasks) :
    after.Succeeding := by
  apply succeeding.congr handles loops
  · rw [tasks]
    exact fun task member _ cancels => ⟨task, member, cancels⟩
  · rw [tasks]
    exact succeeding.again

theorem alike (alike : Alike manager after) : after.Succeeding :=
  succeeding.phones (handle_of_grips_eq alike.grips) alike.loops alike.tasks

theorem edit (number : Nat) (same : ∀ phone, (change phone).cancel = phone.cancel) :
    (manager.edit number change).Succeeding :=
  succeeding.phones (handle_edit_of_same same) rfl rfl

theorem endSilence (number : Nat) : (manager.endSilence number).Succeeding :=
  succeeding.edit number fun _ => rfl

theorem spawn (fresh : ∀ number, restarts number task = true →
      manager.Rested number (taken task)) : (manager.spawn task).Succeeding := by
  refine succeeding.congr (fun _ => rfl) rfl ?_ ?_
  · exact fun other member _ cancels => ⟨other, mem_append_left _ member, cancels⟩
  · exact forall_mem_append.mpr ⟨succeeding.again, forall_mem_singleton.mpr fresh⟩

/-- A task that has no loop to cancel goes on. -/
theorem setTask {next : PhoneTask} (present : manager.tasks[index]? = some task)
    (idle : ∀ loop, cancelsLoop loop task = false)
    (fresh : ∀ number, restarts number next = true → manager.Rested number (taken next)) :
    (manager.setTask index next).Succeeding := by
  refine succeeding.congr (fun _ => rfl) rfl ?_ ?_
  · intro other member loop cancels
    refine ⟨other, mem_set_of_ne member present ?_, cancels⟩
    rintro rfl
    rw [idle] at cancels
    cases cancels
  · intro other member
    rcases mem_or_eq_of_mem_set member with old | rfl
    · exact succeeding.again other old
    · exact fresh

/-! ### Starting and stopping -/

/-- A loop is started when the others have ended, unless there is a handle. -/
theorem startDeviceLocked (rested : manager.Rested number none) :
    (manager.startDeviceLocked number).Succeeding := by
  rcases startDeviceLocked_cases manager number with same | ⟨free, handles, loops, tasks⟩
  · rw [same]
    exact succeeding
  have ended := rested.ended free
  -- The new loop is the one of the handle, and the others of its phone have ended.
  have alone {phone : Nat} {spared : Option Nat} (before : manager.Rested phone spared) :
      (manager.startDeviceLocked number).Rested phone spared := by
    intro place loop present owner alive
    rw [loops] at present
    rw [handles]
    rcases getElem?_concat_eq_some_iff.mp present with old | ⟨last, rfl⟩
    · rw [if_neg]
      · exact before _ _ old owner alive
      · rintro rfl
        exact alive (ended loop (mem_of_getElem? old) owner)
    · rw [if_pos owner, last]
      exact .inl rfl
  constructor
  · intro place loop present alive
    rw [loops] at present
    rw [handles, Leaving, tasks]
    rcases getElem?_concat_eq_some_iff.mp present with old | ⟨last, rfl⟩
    · rw [if_neg]
      · exact succeeding.kept old alive
      · intro owner
        exact alive (ended loop (mem_of_getElem? old) owner.symm)
    · rw [if_pos rfl, last]
      exact .inl rfl
  · intro phone other held
    apply alone
    rw [handles] at held
    split_ifs at held with here
    · rw [← here]
      exact rested
    · exact succeeding.held held
  · intro task member phone starts
    rw [tasks] at member
    exact alone (succeeding.again task member phone starts)
  · rw [loops]
    exact succeeding.ordered.start ended

theorem starts (rested : manager.Rested number none) (starts : Starts manager number after) :
    after.Succeeding := by
  cases starts with
  | none alike => exact succeeding.alike alike
  | loop change kept alike =>
    have handles : ∀ other, (manager.edit number change).handle other = manager.handle other :=
      handle_edit_of_same fun phone => (kept phone).1
    have edited := succeeding.edit number fun phone => (kept phone).1
    exact (edited.startDeviceLocked (rested.congr (handles number) rfl)).alike alike

/-- A command finds no handle to take. -/
theorem dismissNone (drops : ∀ phone, (change phone).cancel = none)
    (free : manager.handle number = none)
    (rested : ∀ deviceId udid, purpose = .restart deviceId udid → manager.Rested number none) :
    ((manager.edit number change).dismiss purpose number none).Succeeding := by
  have same : ∀ other, (manager.edit number change).handle other = manager.handle other := by
    intro other
    rw [handle_edit_of_drop drops]
    split_ifs with here
    · rw [← here, free]
    · rfl
  have edited : (manager.edit number change).Succeeding := succeeding.phones same rfl rfl
  cases purpose with
  | stop => exact edited.spawn (by rintro _ ⟨⟩)
  | restart deviceId udid =>
    apply edited.spawn
    intro other starts
    have here : number = other := of_decide_eq_true (Bool.and_eq_true_iff.mp starts).1
    rw [← here]
    exact (rested deviceId udid rfl).congr (same number) rfl
  | configure | release => exact edited.alike (alike_sendAck _ none)

/-- A command takes the handle of a phone that no other command starts again. -/
theorem takeHandle {loop : Nat} (drops : ∀ phone, (change phone).cancel = none)
    (mayTake : manager.MayTake number) (held : manager.handle number = some loop) :
    ((manager.edit number change).spawn (.cancelling purpose number loop)).Succeeding := by
  have handles : ∀ other, (manager.edit number change).handle other =
      if number = other then none else manager.handle other := handle_edit_of_drop drops
  have elsewhere {phone : Nat} {spared : Option Nat} (different : number ≠ phone)
      (before : manager.Rested phone spared) :
      ((manager.edit number change).spawn (.cancelling purpose number loop)).Rested phone
        spared := by
    refine before.congr ?_ rfl
    exact (handles phone).trans (if_neg different)
  constructor
  · intro place found present alive
    change (manager.edit number change).handle found.phone = some place ∨ _
    rw [handles]
    rcases succeeding.kept present alive with handle | cancelled | ⟨task, member, cancels⟩
    · by_cases here : number = found.phone
      · -- The loop whose handle was taken is the one that is about to be cancelled.
        rw [← here, held] at handle
        cases handle
        exact .inr (.inr ⟨_, mem_concat_self, decide_eq_true rfl⟩)
      · rw [if_neg here]
        exact .inl handle
    · exact .inr (.inl cancelled)
    · exact .inr (.inr ⟨task, mem_append_left _ member, cancels⟩)
  · intro phone other handle
    change (manager.edit number change).handle phone = some other at handle
    rw [handles] at handle
    split_ifs at handle with here
    exact elsewhere here (succeeding.held handle)
  · intro task member phone starts
    rcases mem_append.mp member with old | new
    · apply elsewhere _ (succeeding.again task old phone starts)
      rintro rfl
      rcases mayTake with free | quiet
      · rw [held] at free
        cases free
      · rw [quiet task old] at starts
        cases starts
    · rw [mem_singleton.mp new] at starts ⊢
      have here : number = phone := of_decide_eq_true (Bool.and_eq_true_iff.mp starts).1
      intro place found present owner alive
      have only : manager.handle phone = some place ∨ none = some place :=
        succeeding.held (here ▸ held) _ _ present owner alive
      rw [← here, held] at only
      exact .inr (only.resolve_right nofun)
  · exact succeeding.ordered

theorem dismiss (drops : ∀ phone, (change phone).cancel = none) (mayTake : manager.MayTake number)
    (rested : ∀ deviceId udid, purpose = .restart deviceId udid → manager.Rested number none) :
    ((manager.edit number change).dismiss purpose number (manager.handle number)).Succeeding := by
  cases held : manager.handle number with
  | none => exact succeeding.dismissNone drops held rested
  | some => exact succeeding.takeHandle drops mayTake held

theorem halted (mayTake : manager.MayTake number)
    (rested : ∀ deviceId udid, purpose = .restart deviceId udid → manager.Rested number none)
    (halted : Halted manager purpose number after) : after.Succeeding := by
  cases halted with
  | none alike => exact succeeding.alike alike
  | halt present alike =>
    rw [← handle_of_present present] at alike
    exact Succeeding.alike (succeeding.dismiss (fun _ => rfl) mayTake rested) alike

/-! ### Tasks and loops -/

/-- The cancel function of a loop is called, and the task goes on to wait or ends. -/
theorem cancel {loop : Nat} {next : PhoneTask}
    (present : manager.tasks[index]? = some (.cancelling purpose number loop))
    (goesOn : next = .ended ∨ next = .waiting purpose number loop) :
    (Phones.setTask { manager with
      loops := manager.loops.modify loop fun loop => { loop with cancelled := true } } index
        next).Succeeding := by
  have same {phone : Nat} {spared : Option Nat} (before : manager.Rested phone spared) :
      Rested (Phones.setTask { manager with
        loops := manager.loops.modify loop fun loop => { loop with cancelled := true } } index
          next) phone spared := by
    intro place found there owner alive
    rcases getElem?_modify_eq_some_iff.mp there with ⟨old, was, rfl⟩
    split_ifs at owner alive <;> exact before _ _ was owner alive
  constructor
  · intro place found there alive
    rcases of_getElem?_modify_eq_some there with ⟨_, old, _, rfl⟩ | ⟨different, was⟩
    · exact .inr (.inl rfl)
    · refine (succeeding.kept was alive).imp_right ?_
      rintro (cancelled | ⟨task, member, cancels⟩)
      · exact .inl cancelled
      · refine .inr ⟨task, mem_set_of_ne member present ?_, cancels⟩
        rintro rfl
        exact different (of_decide_eq_true cancels)
  · intro phone other held
    exact same (succeeding.held held)
  · intro task member phone starts
    apply same
    rcases mem_or_eq_of_mem_set member with old | rfl
    · exact succeeding.again task old phone starts
    · rcases goesOn with rfl | rfl
      · cases starts
      · exact succeeding.again _ (mem_of_getElem? present) phone starts
  · exact succeeding.ordered.cancel loop

theorem progress {loop : DeviceLoop} (phase : LoopPhase)
    (present : manager.loops[index]? = some loop) (alive : loop.phase ≠ .finished) :
    Succeeding { manager with
      loops := manager.loops.set index { loop with phase := phase } } := by
  have same {phone : Nat} {spared : Option Nat} (before : manager.Rested phone spared) :
      Rested { manager with
        loops := manager.loops.set index { loop with phase := phase } } phone spared := by
    intro place found there owner unfinished
    rcases of_getElem?_set_eq_some there with ⟨rfl, rfl⟩ | ⟨_, old⟩
    · exact before _ _ present owner alive
    · exact before _ _ old owner unfinished
  constructor
  · intro place found there unfinished
    rcases of_getElem?_set_eq_some there with ⟨rfl, rfl⟩ | ⟨_, old⟩
    · have facts := succeeding.kept present alive
      exact facts
    · exact succeeding.kept old unfinished
  · intro phone other held
    exact same (succeeding.held held)
  · intro task member phone starts
    exact same (succeeding.again task member phone starts)
  · exact succeeding.ordered.progress phase present alive

/-- A command that has seen the end of its loop may start the phone again. -/
theorem waited {loop : Nat}
    (present : manager.tasks[index]? = some (.waiting purpose number loop))
    (finished : manager.isFinished loop = true) :
    (manager.setTask index (afterWait purpose number)).Succeeding := by
  apply succeeding.setTask present (fun _ => rfl)
  intro phone starts
  have again : restarts phone (.waiting purpose number loop) = true ∧
      taken (afterWait purpose number) = none := by
    cases purpose with
    | stop | release => cases starts
    | restart | configure => exact ⟨starts, rfl⟩
  rw [again.2]
  intro place found there owner alive
  refine (succeeding.again _ (mem_of_getElem? present) phone again.1 _ _ there owner
    alive).imp_right ?_
  intro same
  cases same
  cases alive (finished_of_isFinished finished there)

/-- The next section of a task. -/
theorem turn {answer : TaskAnswer} (present : manager.tasks[index]? = some task)
    (inTime : InTime manager (.advance index answer)) (mayProceed : manager.MayProceed task)
    (turn : Turn manager after index answer task) : after.Succeeding := by
  have ended (idle : ∀ loop, cancelsLoop loop task = false) :
      (manager.setTask index .ended).Succeeding := succeeding.setTask present idle (by rintro _ ⟨⟩)
  cases turn with
  | pairing starts =>
    exact (ended fun _ => rfl).starts (succeeding.rested mayProceed) starts
  | @cancelling purpose number loop alike =>
    refine Succeeding.alike (succeeding.cancel present ?_) alike
    split_ifs
    · exact .inl rfl
    · exact .inr rfl
  | @waiting purpose number loop isOver alike =>
    refine Succeeding.alike (succeeding.waited present ?_) alike
    rcases isOver with timedOut | closed
    · exact inTime _ present loop rfl timedOut
    · exact closed
  | @reconfigure number starts =>
    have rested := succeeding.again _ (mem_of_getElem? present) number
      (Bool.and_eq_true_iff.mpr ⟨decide_eq_true rfl, rfl⟩)
    exact (ended fun _ => rfl).starts rested starts
  | @relaunch deviceId udid phone number found starts =>
    apply (ended fun _ => rfl).starts _ starts
    rcases mayProceed number found with rfl | vacated
    · exact succeeding.again _ (mem_of_getElem? present) number
        (Bool.and_eq_true_iff.mpr ⟨decide_eq_true rfl, rfl⟩)
    · exact succeeding.rested vacated
  | resumed alike | probed alike => exact (ended fun _ => rfl).alike alike
  | acking alike =>
    refine Succeeding.alike ?_ alike
    exact (ended fun _ => rfl).edit _ fun _ => rfl
  | collecting alike =>
    exact (succeeding.setTask present (fun _ => rfl) (by rintro _ ⟨⟩)).alike alike
  | probing found starts =>
    exact (succeeding.setTask present (fun _ => rfl) (by rintro _ ⟨⟩)).starts
      (succeeding.rested (mayProceed _ found)) starts
  | pass alike => exact (succeeding.setTask present (fun _ => rfl) (by rintro _ ⟨⟩)).alike alike

/-! ### Every step -/

theorem step {event : PhoneEvent} (successive : Successive manager event)
    (stepped : step calendar manager event = some after) : after.Succeeding := by
  cases step_moves stepped with
  | keep alike => exact succeeding.alike alike
  | claim _ alike => exact (succeeding.endSilence _).alike alike
  | reserve _ _ alike => exact ((succeeding.endSilence _).spawn (by rintro _ ⟨⟩)).alike alike
  | release found drops alike | configure found drops alike =>
    refine Succeeding.alike (succeeding.dismiss ?_ (successive _ found) (by rintro _ _ ⟨⟩)) alike
    exact fun phone => congrArg Grip.cancel (drops phone)
  | start action found starts alike =>
    have vacated := successive _ found
    rw [action] at vacated
    exact ((succeeding.starts (succeeding.rested vacated) starts).endSilence _).alike alike
  | stop action found halted =>
    have mayTake := successive _ found
    rw [action] at mayTake
    exact succeeding.halted mayTake (by rintro _ _ ⟨⟩) halted
  | restart action found halted alike =>
    have may := successive _ found
    rw [action] at may
    refine Succeeding.alike (Succeeding.endSilence ?_ _) alike
    exact succeeding.halted may.2 (fun _ _ _ => succeeding.rested may.1) halted
  | startClaimed starts => exact succeeding.starts (succeeding.rested successive) starts
  | attached _ alike =>
    refine Succeeding.alike ?_ alike
    exact succeeding.edit _ fun _ => rfl
  | found grips blank loops tasks =>
    apply succeeding.congr (handle_of_found grips blank) loops
    · rw [tasks]
      exact fun task member _ cancels => ⟨task, mem_append_left _ member, cancels⟩
    · rw [tasks]
      exact forall_mem_append.mpr ⟨succeeding.again, forall_mem_singleton.mpr (by rintro _ ⟨⟩)⟩
  | returns present alive alike | record present alive alike =>
    exact (succeeding.progress _ present alive).alike alike
  | advance present turn =>
    exact succeeding.turn present successive.1 (successive.2 _ present) turn

end Succeeding

end SucceedingSteps

/-! ## Every run -/

theorem succeeding_new (configDir : String) (configs : List DeviceConfig) :
    (new configDir configs).Succeeding := by
  have empty := (kept_new configDir configs).1
  constructor
  · intro index loop present
    rw [empty] at present
    cases present
  · intro number other held
    rw [handle_new] at held
    cases held
  · intro task member
    rw [(kept_new ..).2] at member
    cases member
  · intro first second loop other present
    rw [empty] at present
    cases present

/-- The step of a loop is one of a loop that has not ended. -/
theorem alive_of_actor {loop : DeviceLoop} (acts : actor event = some number)
    (present : manager.loops[number]? = some loop)
    (stepped : step calendar manager event = some after) : loop.phase ≠ .finished := by
  have guarded : ∀ {result : DeviceLoop → Option Phones},
      (manager.loops[number]?).bind result = some after →
      (loop.phase = .finished → result loop = none) → loop.phase ≠ .finished := by
    intro result moved blocked finished
    rw [present, Option.bind_some, blocked finished] at moved
    cases moved
  cases event with
  | onState | onWipe | returns =>
    cases acts
    apply guarded stepped
    intro finished
    simp [Transition.guarded, finished]
  | record =>
    cases acts
    apply guarded stepped
    intro finished
    rw [finished]
  | claim | release | configure | control | startClaimed | advance | attached | detached
  | snapshot | jobStarted | jobProgress | jobResult | lanReachable | lanPairingPending => cases acts

theorem Ordered.oneLoop (ordered : Ordered manager.loops) : OneLoop calendar manager where
  single := by
    intro first second loop other present there same running alsoRunning
    rcases Nat.lt_trichotomy first second with before | equal | behind
    · rw [ordered _ _ _ _ present there before same] at running
      cases running
    · exact equal
    · rw [ordered _ _ _ _ there present behind same.symm] at alsoRunning
      cases alsoRunning
  superseded := by
    rintro event number after acts ⟨later, loop, next, before, present, there, same⟩ stepped
    cases alive_of_actor acts present stepped (ordered _ _ _ _ present there before same.symm)

/-- As long as phones are started when none of their loops is on its way out, and no handle is
taken from a command that starts a phone again, there is at most one loop for each phone. -/
theorem one_loop_each {configDir : String} {configs : List DeviceConfig}
    (reached : Reaches (step calendar) Successive (new configDir configs) manager) :
    OneLoop calendar manager := by
  have succeeding : manager.Succeeding := by
    apply reached.invariant (P := Succeeding) (succeeding_new configDir configs)
    intro _ _ _ _ succeeding successive stepped
    exact succeeding.step successive stepped
  exact succeeding.ordered.oneLoop

/-! ## Samples -/

/-- RESTART stops the loop of the phone, waits for its end and starts another. -/
theorem one_loop_each_restarted :
    ∃ manager, Reaches (step noDates) Successive (new "" []) manager ∧
      (manager.loops.map DeviceLoop.phase = [.finished, .running]) ∧
      OneLoop noDates manager := by
  refine exists_reaches_and_of_run
      (connected ++ [command .restart, .advance 2 {}, .returns 0 none, .record 0 false,
        .advance 2 {}, .advance 2 {}]) (by decide +kernel) ?_
  intro manager reached _
  exact one_loop_each reached

/-- `Release` does not wait: the phone is started again while its old loop runs. -/
theorem two_loops :
    ∃ manager, Reaches (step noDates) InTime (new "" []) manager ∧ ¬OneLoop noDates manager := by
  refine exists_reaches_imp_of_run (fun manager =>
        manager.loops[0]? = some { phone := 0, cancelled := true } ∧
        manager.loops[1]? = some { phone := 0 })
      (connected ++ [.release ⟨"", "u", false⟩, .advance 2 {}, command .start])
      (by decide +kernel) ?_
  rintro manager reached ⟨first, second⟩ one
  cases one.single first second rfl rfl rfl

end Phones

end LubricantNodes.Agent
