import LubricantNodes.Agent.Phones

/-!
# What steps do to connection loops

What each step of the manager does to the handles, the loops and the tasks, said once for
all steps.  Phones are looked at through their grips: what decides about the start of a
loop, and what is noted about commands.
-/

namespace LubricantNodes.Agent

open Go Transition List

/-! ## What decides about loops -/

/-- What the manager looks at before it starts a loop by itself, and what it notes
about commands. -/
structure Grip where
  udid : String
  cancel : Option Nat := none
  userStopped : Bool := false
  silenced : Bool := false

namespace Phone

variable (phone : Phone)

/-- The grip on a phone. -/
def grip : Grip where
  udid := phone.udid
  cancel := phone.cancel
  userStopped := phone.userStopped
  silenced := phone.silenced

theorem grip_configure (request : ConfigureDevice) (phone : Phone) :
    (phone.configure request).grip = phone.grip := by
  simp only [grip, configure, Device.configure]

theorem grip_configure_dropHandle (request : ConfigureDevice) (phone : Phone) :
    (phone.configure request).dropHandle.grip = { phone.grip with cancel := none } := by
  have dropped : (phone.configure request).dropHandle.grip =
      { (phone.configure request).grip with cancel := none } := rfl
  rw [dropped, grip_configure]

/-- A phone without what is reported about it. -/
def bare : Phone :=
  { phone with
    present := false
    deviceControlOn := false
    wdaState := .unspecified
    profileExpiresAt := ""
    wdaProgress := 0
    wdaStage := ""
    lastError := "" }

theorem bare_onState (online : Bool) (phone : Phone) :
    (phone.onState online).bare = phone.bare := by
  unfold onState
  split_ifs <;> rfl

theorem bare_detach : phone.detach.bare = phone.bare := by
  unfold detach
  split_ifs <;> rfl

theorem bare_refreshWdaExpiry (calendar : Calendar) (now : Int) (phone : Phone) :
    (phone.refreshWdaExpiry calendar now).bare = phone.bare := by
  rcases phone.exists_refreshWdaExpiry_eq calendar now with ⟨state, same⟩
  rw [same]
  rfl

theorem bare_noteWdaJobProgress (percent : Int) (stage : String) (phone : Phone) :
    (phone.noteWdaJobProgress percent stage).bare = phone.bare := by
  unfold noteWdaJobProgress
  split_ifs <;> rfl

theorem bare_noteWdaJobResult (ok cancelled installed : Bool)
    (errorCode message profileExpiresAt : String) (phone : Phone) :
    (phone.noteWdaJobResult ok cancelled installed errorCode message profileExpiresAt).bare =
      phone.bare := by
  unfold noteWdaJobResult
  dsimp only
  split
  · split <;> rfl
  · split <;> rfl

theorem bare_noteLanPairingPending : phone.noteLanPairingPending.bare = phone.bare := by
  unfold noteLanPairingPending
  split_ifs <;> rfl

/-- A report leaves the grip. -/
theorem grip_of_bare {report : Phone → Phone} (same : ∀ phone, (report phone).bare = phone.bare)
    (phone : Phone) : (report phone).grip = phone.grip :=
  (congrArg grip (same phone) :)

end Phone

/-- The next section of the task may start a loop. -/
def PhoneTask.starts : PhoneTask → Bool
  | .pairing .. | .resuming .. | .probing _ => true
  | _ => false

/-- The command starts the loop again. -/
def Purpose.relaunches : Purpose → Bool
  | .restart _ _ | .configure => true
  | .stop | .release => false

namespace Phones

variable {calendar : Calendar} {manager after : Phones}

/-- The grips of all phones. -/
def grips (manager : Phones) : List Grip :=
  manager.phones.map Phone.grip

/-! ## What a step does -/

/-- The handle of a phone. -/
def handle (manager : Phones) (number : Nat) : Option Nat :=
  manager.phones[number]?.bind fun phone => phone.cancel

/-- The grips, the loops and the tasks are the same. -/
structure Alike (before after : Phones) : Prop where
  grips : after.grips = before.grips
  loops : after.loops = before.loops
  tasks : after.tasks = before.tasks

/-- A loop of the phone is started, or nothing happens. -/
inductive Starts (manager : Phones) (number : Nat) (after : Phones) : Prop
  | none (alike : Alike manager after)
  | loop (change : Phone → Phone)
      (kept : ∀ phone, (change phone).cancel = phone.cancel ∧
        (change phone).silenced = phone.silenced)
      (alike : Alike ((manager.edit number change).startDeviceLocked number) after)

/-- STOP or RESTART takes the handle of the phone, or nothing happens. -/
inductive Halted (manager : Phones) (purpose : Purpose) (number : Nat) (after : Phones) : Prop
  | none (alike : Alike manager after)
  | halt {phone} (present : manager.phones[number]? = some phone)
      (alike : Alike ((manager.edit number (Phone.halt (purpose = .stop))).dismiss purpose number
        phone.cancel) after)

/-- What the next section of a task does. -/
inductive Turn (manager after : Phones) (index : Nat) (answer : TaskAnswer) : PhoneTask → Prop
  | pairing {number request name} (starts : Starts (manager.setTask index .ended) number after) :
      Turn manager after index answer (.pairing number request name)
  | cancelling {purpose : Purpose} {number loop} (alike : Alike ({ manager with
        loops := manager.loops.modify loop fun loop => { loop with cancelled := true } }.setTask
          index (if purpose = Purpose.release then .ended
            else .waiting purpose number loop)) after) :
      Turn manager after index answer (.cancelling purpose number loop)
  | waiting {purpose number loop}
      (ended : answer.timedOut = true ∨ manager.isFinished loop = true)
      (alike : Alike (manager.setTask index (afterWait purpose number)) after) :
      Turn manager after index answer (.waiting purpose number loop)
  | reconfigure {number} (starts : Starts (manager.setTask index .ended) number after) :
      Turn manager after index answer (.resuming .configure number)
  | relaunch {deviceId udid phone number} (found : manager.findLocked deviceId udid = some number)
      (starts : Starts (manager.setTask index .ended) number after) :
      Turn manager after index answer (.resuming (.restart deviceId udid) phone)
  | resumed {purpose number} (alike : Alike (manager.setTask index .ended) after) :
      Turn manager after index answer (.resuming purpose number)
  | acking {number} (alike : Alike ((manager.setTask index .ended).edit number fun phone =>
      { phone with silenced := true }) after) : Turn manager after index answer (.acking number)
  | collecting (alike : Alike (manager.setTask index (.probing
      ((manager.phones.filter fun phone => phone.probed).map fun phone => phone.udid))) after) :
      Turn manager after index answer .collecting
  | probing {udid rest number} (found : manager.findLocked "" udid = some number)
      (starts : Starts (manager.setTask index (.probing rest)) number after) :
      Turn manager after index answer (.probing (udid :: rest))
  | pass {udid rest} (alike : Alike (manager.setTask index (.probing rest)) after) :
      Turn manager after index answer (.probing (udid :: rest))
  | probed (alike : Alike (manager.setTask index .ended) after) :
      Turn manager after index answer (.probing [])

/-- What a step does to the grips, the loops and the tasks. -/
inductive Moves (manager after : Phones) : PhoneEvent → Prop
  | keep {event} (alike : Alike manager after) : Moves manager after event
  | claim {request number} (found : manager.indexOf (trimSpace request.udid) = some number)
      (alike : Alike (manager.endSilence number) after) : Moves manager after (.claim request)
  | reserve {request number} (found : manager.indexOf (trimSpace request.udid) = some number)
      (name : String)
      (alike : Alike ((manager.endSilence number).spawn (.pairing number request name)) after) :
      Moves manager after (.claim request)
  | release {request number change}
      (found : manager.findLocked request.deviceId request.udid = some number)
      (drops : ∀ phone : Phone, Phone.grip (change phone) = { phone.grip with cancel := none })
      (alike : Alike ((manager.edit number change).dismiss .release number
        (manager.handle number)) after) : Moves manager after (.release request)
  | configure {request number change}
      (found : manager.findLocked request.deviceId request.udid = some number)
      (drops : ∀ phone : Phone, Phone.grip (change phone) = { phone.grip with cancel := none })
      (alike : Alike ((manager.edit number change).dismiss .configure number
        (manager.handle number)) after) : Moves manager after (.configure request)
  | start {request number middle} (action : request.action = .start)
      (found : manager.findLocked request.deviceId request.udid = some number)
      (starts : Starts manager number middle) (alike : Alike (middle.endSilence number) after) :
      Moves manager after (.control request)
  | stop {request number} (action : request.action = .stop)
      (found : manager.findLocked request.deviceId request.udid = some number)
      (halted : Halted manager .stop number after) : Moves manager after (.control request)
  | restart {request number deviceId udid middle} (action : request.action = .restart)
      (found : manager.findLocked request.deviceId request.udid = some number)
      (halted : Halted manager (.restart deviceId udid) number middle)
      (alike : Alike (middle.endSilence number) after) : Moves manager after (.control request)
  | startClaimed {number} (starts : Starts manager number after) :
      Moves manager after (.startClaimed number)
  | attached {udid number} (found : manager.indexOf udid = some number)
      (alike : Alike (manager.edit number fun phone =>
        { phone with userStopped := false, silenced := false }) after) :
      Moves manager after (.attached udid)
  | found {seen now fresh} (grips : after.grips = manager.grips ++ fresh)
      (blank : ∀ grip ∈ fresh, grip = { udid := grip.udid }) (loops : after.loops = manager.loops)
      (tasks : after.tasks = manager.tasks ++ [.collecting]) :
      Moves manager after (.snapshot seen now)
  | returns {number error loop} (present : manager.loops[number]? = some loop)
      (alive : loop.phase ≠ .finished) (alike : Alike { manager with
        loops := manager.loops.set number { loop with phase := .returned error } } after) :
      Moves manager after (.returns number error)
  | record {number severed loop} (present : manager.loops[number]? = some loop)
      (alive : loop.phase ≠ .finished) (alike : Alike { manager with
        loops := manager.loops.set number { loop with phase := .finished } } after) :
      Moves manager after (.record number severed)
  | advance {index answer task} (present : manager.tasks[index]? = some task)
      (turn : Turn manager after index answer task) : Moves manager after (.advance index answer)

variable {number : Nat} {change : Phone → Phone} {event : PhoneEvent}

variable {phone : Phone} {answer : TaskAnswer} {index : Nat} {task : PhoneTask}

/-- Without a device id a phone is found by its identifier. -/
theorem indexOf_of_findLocked {udid : String} (found : manager.findLocked "" udid = some number) :
    manager.indexOf (trimSpace udid) = some number := by
  have blank : trimSpace "" = "" := by decide
  unfold findLocked at found
  dsimp only at found
  rw [blank, if_neg (not_not_intro rfl)] at found
  dsimp only at found
  split at found
  · exact found
  · cases found

/-- A phone after a change of it. -/
theorem getElem?_edit_self (present : manager.phones[number]? = some phone)
    (change : Phone → Phone) : (manager.edit number change).phones[number]? = some (change phone) :=
  getElem?_modify_eq_some_iff.mpr ⟨phone, present, (if_pos rfl).symm⟩

/-- A phone is changed, as far as the grips are concerned. -/
theorem grips_edit {regrip : Grip → Grip}
    (changes : ∀ phone, (change phone).grip = regrip phone.grip) :
    (manager.edit number change).grips = manager.grips.modify number regrip :=
  map_modify_eq changes

theorem grips_edit_of_same (same : ∀ phone, (change phone).grip = phone.grip) :
    (manager.edit number change).grips = manager.grips := by
  have kept : (manager.edit number change).grips = manager.grips.modify number id := grips_edit same
  rw [kept, modify_id]

theorem grips_endSilence (manager : Phones) (number : Nat) : (manager.endSilence number).grips =
    manager.grips.modify number fun grip => { grip with silenced := false } :=
  grips_edit fun _ => rfl

theorem grips_upsert (manager : Phones) (seen : String × String) :
    ∃ found, (manager.upsert seen).grips = manager.grips ++ found ∧
      ∀ grip ∈ found, grip = { udid := grip.udid } := by
  unfold upsert
  split
  · refine ⟨[], ?_, fun grip absurd => by cases absurd⟩
    rw [append_nil]
    exact grips_edit_of_same fun _ => rfl
  · refine ⟨[{ udid := seen.1 }], ?_, ?_⟩
    · unfold grips
      rw [map_append]
      rfl
    · intro grip member
      cases mem_singleton.mp member
      rfl

/-- Discovery adds phones without a handle, and changes no grip. -/
theorem grips_snapshot (calendar : Calendar) (manager : Phones) (seen : List (String × String))
    (now : Int) :
    ∃ found, (manager.snapshot calendar seen now).grips = manager.grips ++ found ∧
      ∀ grip ∈ found, grip = { udid := grip.udid } := by
  have refreshed : (manager.snapshot calendar seen now).grips =
      (seen.foldl upsert manager).grips := by
    unfold snapshot grips
    dsimp only
    rw [map_map]
    apply map_congr_left
    intro phone _
    refine (Phone.grip_of_bare (Phone.bare_refreshWdaExpiry calendar now) _).trans ?_
    split_ifs <;> rfl
  rw [refreshed]
  clear refreshed
  induction seen generalizing manager with
  | nil => exact ⟨[], (append_nil _).symm, fun grip absurd => by cases absurd⟩
  | cons first rest ih =>
    rcases grips_upsert manager first with ⟨found, added, fresh⟩
    rcases ih (manager.upsert first) with ⟨more, further, new⟩
    refine ⟨found ++ more, ?_, ?_⟩
    · rw [foldl_cons, further, added, append_assoc]
    · intro grip member
      rcases mem_append.mp member with old | late
      · exact fresh grip old
      · exact new grip late

theorem kept_upsert (manager : Phones) (seen : String × String) :
    (manager.upsert seen).loops = manager.loops ∧ (manager.upsert seen).tasks = manager.tasks := by
  unfold upsert
  split <;> exact ⟨rfl, rfl⟩

/-- Discovery leaves loops and tasks alone. -/
theorem kept_snapshot (calendar : Calendar) (manager : Phones) (seen : List (String × String))
    (now : Int) : (manager.snapshot calendar seen now).loops = manager.loops ∧
      (manager.snapshot calendar seen now).tasks = manager.tasks := by
  change (seen.foldl upsert manager).loops = _ ∧ (seen.foldl upsert manager).tasks = _
  induction seen generalizing manager with
  | nil => exact ⟨rfl, rfl⟩
  | cons first rest ih =>
    rcases kept_upsert manager first with ⟨loops, tasks⟩
    rcases ih (manager.upsert first) with ⟨more, further⟩
    exact ⟨more.trans loops, further.trans tasks⟩

theorem handle_of_present (present : manager.phones[number]? = some phone) :
    manager.handle number = phone.cancel := by
  unfold handle
  rw [present]
  rfl

theorem Alike.refl (manager : Phones) : Alike manager manager := ⟨rfl, rfl, rfl⟩

theorem alike_sendAck (manager : Phones) (error : Option DeviceError) :
    Alike manager (manager.sendAck error) :=
  ⟨rfl, rfl, rfl⟩

theorem alike_edit (manager : Phones) (number : Nat)
    (same : ∀ phone, (change phone).grip = phone.grip) :
    Alike manager (manager.edit number change) :=
  ⟨grips_edit_of_same same, rfl, rfl⟩

theorem starts_startDeviceLocked (manager : Phones) (number : Nat) :
    Starts manager number (manager.startDeviceLocked number) := by
  refine .loop id (fun _ => ⟨rfl, rfl⟩) ?_
  unfold edit
  rw [modify_id]
  exact .refl _

theorem Starts.sendAck (starts : Starts manager number after) (error : Option DeviceError) :
    Starts manager number (after.sendAck error) := by
  cases starts with
  | none alike => exact .none ⟨alike.grips, alike.loops, alike.tasks⟩
  | loop change kept alike => exact .loop change kept ⟨alike.grips, alike.loops, alike.tasks⟩

section LoopCommands

variable (manager) (number : Nat)

theorem starts_startRunner : Starts manager number (manager.startRunner number) := by
  unfold startRunner
  split
  · exact .none (.refl manager)
  split_ifs
  · exact .none (alike_sendAck manager _)
  · exact .loop (fun phone => { phone with userStopped := false }) (fun _ => ⟨rfl, rfl⟩)
      (alike_sendAck _ none)
  · exact .none (alike_sendAck manager none)

theorem starts_pair (request : ClaimDevice) (name : String)
    (outcome : Except String String) :
    Starts manager number (manager.pair number request name outcome) := by
  cases outcome with
  | error =>
    refine .none ⟨?_, rfl, rfl⟩
    exact grips_edit_of_same fun _ => rfl
  | ok deviceId =>
    exact .loop (Phone.adopt request name deviceId (defaultCredentialPath manager.configDir name))
      (fun _ => ⟨rfl, rfl⟩) (alike_sendAck _ none)

theorem halted_stopRunner (purpose : Purpose) (number : Nat) :
    Halted manager purpose number (manager.stopRunner purpose number) := by
  unfold stopRunner
  split
  · exact .none (.refl manager)
  · rename_i phone present
    split_ifs
    · exact .none (alike_sendAck manager _)
    · exact .halt present (.refl _)

theorem moves_claim (request : ClaimDevice) :
    Moves manager (manager.claim request) (.claim request) := by
  unfold claim
  dsimp only
  split
  · exact .keep (alike_sendAck manager _)
  split
  · exact .keep (alike_sendAck manager _)
  split
  · exact .keep (alike_sendAck manager _)
  rename_i number found
  split
  · exact .keep (.refl manager)
  split
  · exact .claim found (alike_sendAck _ _)
  split
  · exact .claim found (alike_sendAck _ _)
  · have same : (manager.edit number fun phone =>
        { phone with claiming := true }).grips = manager.grips :=
      grips_edit_of_same fun _ => rfl
    refine .reserve found _ ⟨?_, rfl, rfl⟩
    change (endSilence _ number).grips = (manager.endSilence number).grips
    rw [grips_endSilence, same, grips_endSilence]

theorem moves_configure (request : ConfigureDevice) :
    Moves manager (manager.configure request) (.configure request) := by
  unfold configure
  split
  · exact .keep (alike_sendAck manager _)
  rename_i number found
  split
  · exact .keep (.refl manager)
  rename_i phone present
  split_ifs
  · exact .keep (alike_sendAck manager none)
  · rw [← handle_of_present present]
    exact .configure found (Phone.grip_configure_dropHandle request) (.refl _)
  · refine .keep ⟨?_, rfl, rfl⟩
    exact grips_edit_of_same (Phone.grip_configure request)

theorem moves_control (request : RunnerControl) :
    Moves manager (manager.control request) (.control request) := by
  unfold control
  split
  · exact .keep (alike_sendAck manager _)
  rename_i number found
  cases action : request.action with
  | start => exact .start action found (starts_startRunner manager number) (.refl _)
  | stop => exact .stop action found (halted_stopRunner manager .stop number)
  | restart => exact .restart action found (halted_stopRunner manager _ number) (.refl _)
  | other =>
    dsimp only
    split
    · exact .keep (.refl manager)
    · split_ifs <;> exact .keep (alike_sendAck manager _)

theorem findLocked_setTask (manager : Phones) (index : Nat) (task : PhoneTask)
    (deviceId udid : String) :
    (manager.setTask index task).findLocked deviceId udid = manager.findLocked deviceId udid := by
  unfold findLocked indexOf
  rfl

/-- What is left of RESTART and of new settings. -/
theorem turn_resume (index : Nat) (answer : TaskAnswer)
    (purpose : Purpose) :
    Turn manager (((manager.setTask index .ended).resume number purpose).sendAck none) index answer
      (.resuming purpose number) := by
  have finish : Turn manager ((manager.setTask index .ended).sendAck none) index answer
      (.resuming purpose number) := .resumed (alike_sendAck _ none)
  cases purpose with
  | stop | release => exact finish
  | configure =>
    unfold resume
    dsimp only
    split
    · exact finish
    · split_ifs
      · exact .reconfigure ((starts_startDeviceLocked _ number).sendAck none)
      · exact finish
  | restart =>
    unfold resume
    dsimp only
    split
    · exact finish
    rename_i found
    rw [findLocked_setTask] at found
    split
    · exact finish
    · split_ifs
      · exact .relaunch found ((starts_startDeviceLocked _ _).sendAck none)
      · exact finish

end LoopCommands

theorem turn_advance (advanced : manager.advance index answer task = some after) :
    Turn manager after index answer task := by
  cases task with
  | pairing phone request name =>
    cases advanced
    exact .pairing (starts_pair _ phone request name answer.paired)
  | cancelling purpose =>
    refine .cancelling ?_
    cases purpose with
    | release =>
      cases advanced
      exact alike_sendAck _ none
    | stop | restart | configure =>
      cases advanced
      exact .refl _
  | waiting =>
    rcases guarded_eq_some_iff.mp advanced with ⟨ended, rfl⟩
    exact .waiting ended (.refl _)
  | resuming purpose phone =>
    cases advanced
    exact turn_resume manager phone index answer purpose
  | acking =>
    cases advanced
    exact .acking (alike_sendAck _ none)
  | collecting =>
    cases advanced
    exact .collecting (.refl _)
  | probing udids =>
    cases udids with
    | nil =>
      cases advanced
      exact .probed (.refl _)
    | cons =>
      unfold advance at advanced
      dsimp only at advanced
      split at advanced
      · cases advanced
        exact .pass (.refl _)
      · rename_i found
        cases advanced
        exact .probing found (starts_startRunner _ _)
  | ended => cases advanced

theorem moves_note (manager : Phones) (found : Option Nat) (event : PhoneEvent)
    (same : ∀ phone, (change phone).grip = phone.grip) :
    Moves manager (manager.noteOn change found) event := by
  cases found with
  | none => exact .keep (.refl manager)
  | some => exact .keep (alike_edit manager _ same)

theorem step_moves (stepped : step calendar manager event = some after) :
    Moves manager after event := by
  cases event with
  | claim request =>
    obtain rfl := Option.some.inj stepped
    exact moves_claim manager request
  | release request =>
    obtain rfl := Option.some.inj stepped
    unfold release
    split
    · exact .keep (alike_sendAck manager _)
    · rename_i number found
      exact .release found (fun _ => rfl) (.refl _)
  | configure request =>
    obtain rfl := Option.some.inj stepped
    exact moves_configure manager request
  | control request =>
    obtain rfl := Option.some.inj stepped
    exact moves_control manager request
  | startClaimed number =>
    rcases Option.bind_eq_some_iff.mp stepped with ⟨phone, _, started⟩
    rcases guarded_eq_some_iff.mp started with ⟨_, rfl⟩
    exact .startClaimed (starts_startDeviceLocked manager number)
  | advance =>
    rcases Option.bind_eq_some_iff.mp stepped with ⟨task, present, advanced⟩
    exact .advance present (turn_advance advanced)
  | attached =>
    dsimp only [step] at stepped
    split at stepped
    · cases stepped
      exact .keep (.refl manager)
    · rename_i number found
      cases stepped
      exact .attached found (.refl _)
  | detached =>
    dsimp only [step] at stepped
    split at stepped <;> cases stepped
    · exact .keep (.refl manager)
    · exact .keep (alike_edit manager _ (Phone.grip_of_bare Phone.bare_detach))
  | snapshot seen now =>
    obtain rfl := Option.some.inj stepped
    rcases kept_snapshot calendar manager seen now with ⟨loops, tasks⟩
    rcases grips_snapshot calendar manager seen now with ⟨fresh, added, blank⟩
    exact .found added blank loops (congrArg (· ++ [PhoneTask.collecting]) tasks)
  | onState number online =>
    rcases Option.bind_eq_some_iff.mp stepped with ⟨loop, _, moved⟩
    rcases guarded_eq_some_iff.mp moved with ⟨_, rfl⟩
    exact .keep (alike_edit manager _ (Phone.grip_of_bare (Phone.bare_onState online)))
  | onWipe =>
    rcases Option.bind_eq_some_iff.mp stepped with ⟨loop, _, moved⟩
    rcases guarded_eq_some_iff.mp moved with ⟨_, rfl⟩
    exact .keep (alike_edit manager _ fun _ => rfl)
  | returns =>
    rcases Option.bind_eq_some_iff.mp stepped with ⟨loop, present, moved⟩
    rcases guarded_eq_some_iff.mp moved with ⟨running, rfl⟩
    refine .returns present ?_ (.refl _)
    rw [running]
    rintro ⟨⟩
  | record =>
    rcases Option.bind_eq_some_iff.mp stepped with ⟨loop, present, moved⟩
    split at moved
    · rename_i error returned
      cases moved
      refine .record present ?_ (alike_edit _ _ fun _ => rfl)
      rw [returned]
      rintro ⟨⟩
    · cases moved
  | jobStarted udid =>
    obtain rfl := Option.some.inj stepped
    rw [noteWdaState_eq]
    exact moves_note manager _ _ fun _ => rfl
  | jobProgress udid percent stage =>
    obtain rfl := Option.some.inj stepped
    rw [noteWdaState_eq]
    exact moves_note manager _ _ (Phone.grip_of_bare (Phone.bare_noteWdaJobProgress percent stage))
  | jobResult udid ok cancelled installed errorCode message profileExpiresAt =>
    obtain rfl := Option.some.inj stepped
    rw [noteWdaState_eq]
    exact moves_note manager _ _
      (Phone.grip_of_bare
        (Phone.bare_noteWdaJobResult ok cancelled installed errorCode message profileExpiresAt))
  | lanReachable udid =>
    obtain rfl := Option.some.inj stepped
    rw [noteLan_eq]
    exact moves_note manager _ _ fun _ => rfl
  | lanPairingPending udid =>
    obtain rfl := Option.some.inj stepped
    rw [noteLan_eq]
    exact moves_note manager _ _ (Phone.grip_of_bare Phone.bare_noteLanPairingPending)

/-! ## How loops change -/

/-- The event may start a loop. -/
def mayStart (manager : Phones) : PhoneEvent → Bool
  | .control request => request.action = .start
  | .startClaimed _ => true
  | .advance index _ => (manager.tasks[index]?.map PhoneTask.starts).getD false
  | _ => false

/-- What a step can do to the table of loops. -/
inductive LoopsNext (may : Bool) (loops : List DeviceLoop) : List DeviceLoop → Prop
  | same : LoopsNext may loops loops
  | start (phone : Nat) (allowed : may = true) : LoopsNext may loops (loops ++ [{ phone := phone }])
  | cancel (number : Nat) :
      LoopsNext may loops (loops.modify number fun loop => { loop with cancelled := true })
  | progress {number : Nat} {loop : DeviceLoop} (phase : LoopPhase)
      (present : loops[number]? = some loop) (alive : loop.phase ≠ .finished) :
      LoopsNext may loops (loops.set number { loop with phase := phase })

theorem loopsNext_startDeviceLocked (manager : Phones) (number : Nat) :
    LoopsNext true manager.loops (manager.startDeviceLocked number).loops := by
  unfold startDeviceLocked
  split
  · exact .same
  · split_ifs
    · exact .same
    · exact .start number rfl

@[simp]
theorem loops_dismiss (manager : Phones) (purpose : Purpose) (number : Nat)
    (handle : Option Nat) : (manager.dismiss purpose number handle).loops = manager.loops := by
  unfold dismiss
  split
  · rfl
  · split <;> rfl

theorem LoopsNext.of_eq {may : Bool} {loops next : List DeviceLoop} (equal : next = loops) :
    LoopsNext may loops next := by
  rw [equal]
  exact .same

/-- A step that may not start a loop starts none. -/
theorem LoopsNext.length_eq {may : Bool} {loops next : List DeviceLoop}
    (moved : LoopsNext may loops next) (quiet : ¬may = true) : next.length = loops.length := by
  cases moved with
  | same => rfl
  | start _ allowed => exact absurd allowed quiet
  | cancel => exact length_modify _ _ _
  | progress => exact length_set

theorem Starts.loopsNext (starts : Starts manager number after) :
    LoopsNext true manager.loops after.loops := by
  cases starts with
  | none alike => exact .of_eq alike.loops
  | loop change _ alike =>
    rw [alike.loops]
    exact loopsNext_startDeviceLocked (manager.edit number change) number

theorem Halted.loops {purpose : Purpose} (halted : Halted manager purpose number after) :
    after.loops = manager.loops := by
  cases halted with
  | none alike => exact alike.loops
  | halt _ alike => exact alike.loops.trans (loops_dismiss ..)

theorem Turn.loopsNext (turn : Turn manager after index answer task) :
    LoopsNext task.starts manager.loops after.loops := by
  cases turn with
  | pairing starts | reconfigure starts | relaunch _ starts | probing _ starts =>
    exact starts.loopsNext
  | waiting _ alike | resumed alike | acking alike | collecting alike | pass alike
  | probed alike => exact .of_eq alike.loops
  | cancelling alike =>
    rw [alike.loops]
    exact .cancel _

/-- Every step starts at most one loop, or brings one further. -/
theorem step_loops (stepped : step calendar manager event = some after) :
    LoopsNext (manager.mayStart event) manager.loops after.loops := by
  cases step_moves stepped with
  | keep alike | claim _ alike | reserve _ _ alike | attached _ alike =>
    exact .of_eq alike.loops
  | release _ _ alike | configure _ _ alike => exact .of_eq (alike.loops.trans (loops_dismiss ..))
  | found _ _ loops => exact .of_eq loops
  | stop _ _ halted => exact .of_eq halted.loops
  | restart _ _ halted alike => exact .of_eq (alike.loops.trans halted.loops)
  | start action _ starts alike =>
    have may : manager.mayStart (.control _) = true := decide_eq_true action
    rw [alike.loops, may]
    exact starts.loopsNext
  | startClaimed starts => exact starts.loopsNext
  | advance present turn =>
    rw [mayStart, present]
    exact turn.loopsNext
  | returns present alive alike | record present alive alike =>
    rw [alike.loops]
    exact .progress _ present alive

theorem kept_adopt (manager : Phones) (config : DeviceConfig) :
    (manager.adopt config).loops = manager.loops ∧
      (manager.adopt config).tasks = manager.tasks := by
  unfold adopt
  split
  · exact ⟨rfl, rfl⟩
  · split <;> exact ⟨rfl, rfl⟩

theorem kept_new (configDir : String) (configs : List DeviceConfig) :
    (new configDir configs).loops = [] ∧ (new configDir configs).tasks = [] := by
  suffices general : ∀ manager : Phones, (configs.foldl adopt manager).loops = manager.loops ∧
      (configs.foldl adopt manager).tasks = manager.tasks from general _
  induction configs with
  | nil => exact fun _ => ⟨rfl, rfl⟩
  | cons config rest ih =>
    intro manager
    rcases kept_adopt manager config with ⟨loops, tasks⟩
    rcases ih (manager.adopt config) with ⟨more, further⟩
    rw [foldl_cons]
    exact ⟨more.trans loops, further.trans tasks⟩

/-! ## Waits -/

theorem finished_of_isFinished {loop : DeviceLoop} (finished : manager.isFinished index = true)
    (present : manager.loops[index]? = some loop) : loop.phase = .finished := by
  unfold isFinished at finished
  rw [present] at finished
  exact of_decide_eq_true finished

/-- The loop that a task waits for. -/
def awaited : PhoneTask → Option Nat
  | .waiting _ _ loop => some loop
  | _ => none

/-- A wait for a loop ends only when the loop has ended. -/
def InTime : Discipline Phones PhoneEvent
  | manager, .advance number answer =>
    ∀ task ∈ manager.tasks[number]?, ∀ loop ∈ awaited task,
      answer.timedOut = true → manager.isFinished loop = true
  | _, _ => True

instance (manager : Phones) (event : PhoneEvent) : Decidable (InTime manager event) := by
  unfold InTime
  split <;> infer_instance

end Phones

end LubricantNodes.Agent
