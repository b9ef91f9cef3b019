import LubricantNodes.Agent.Claims

/-!
# Loops of claimed phones

A connection loop is meant to be started only for a phone that is claimed.  Three of the
places that start one, START, the second section of RESTART and the prober, look for a
credential instead.  A phone is *stray* when it has a credential and no claim; the only
steps that make one are a release that keeps the credential and a wipe by the server.

What a step starts is decided by the state before it, `drivesClaimed_iff`.  RESTART and
the prober pick their phones in one section and start them in a later one, so along a run
a phone must not go astray between the two.
-/

namespace LubricantNodes.Agent

open Go Transition List

/-- The command is RESTART. -/
def Purpose.isRestart : Purpose → Bool
  | .restart _ _ => true
  | .stop | .configure | .release => false

/-- The phone has lost its claim and kept its credential. -/
def Deed.stray (deed : Deed) : Bool :=
  !deed.claimed && deed.credentialPath ≠ ""

namespace Phones

variable {calendar : Calendar} {manager middle after before : Phones} {number index : Nat}
  {event : PhoneEvent} {phone : Phone} {task : PhoneTask} {answer : TaskAnswer}

/-! ## What one step starts -/

/-- Every loop of `after` that is not one of `before` is the loop of a claimed phone. -/
def StartsClaimed (before after : Phones) : Prop :=
  ∀ started ∈ after.loops.drop before.loops.length, after.isClaimed started.phone = true

/-- In every execution a step starts loops of claimed phones only. -/
def DrivesClaimed (calendar : Calendar) (manager : Phones) (event : PhoneEvent) : Prop :=
  ∀ after, step calendar manager event = some after → StartsClaimed manager after

/-- A phone with a credential and no handle is claimed. -/
def MayStart (manager : Phones) (number : Nat) : Prop :=
  ∀ phone ∈ manager.phones[number]?, phone.cancel = none → phone.credentialPath ≠ "" →
    phone.claimed = true

/-- The start of a loop that a task has left to do. -/
def MayStartLater (manager : Phones) : PhoneTask → Prop
  | .resuming (.restart deviceId udid) _ =>
    ∀ number ∈ manager.findLocked deviceId udid, manager.MayStart number
  | .probing (udid :: _) => ∀ number ∈ manager.findLocked "" udid, manager.MayStart number
  | _ => True

/-- START, the end of RESTART and the prober find a phone that is claimed, if they find
one whose loop they start. -/
def Entitled : Discipline Phones PhoneEvent
  | manager, .control request =>
    request.action = .start → ∀ number ∈ manager.findLocked request.deviceId request.udid,
      manager.MayStart number
  | manager, .advance index _ => ∀ task ∈ manager.tasks[index]?, manager.MayStartLater task
  | _, _ => True

theorem isClaimed_of_present (present : manager.phones[number]? = some phone) :
    manager.isClaimed number = phone.claimed := by
  unfold isClaimed
  rw [getElem?_deeds_eq_some_iff.mpr ⟨phone, present, rfl⟩]
  rfl

theorem isClaimed_of_deeds (same : after.deeds = manager.deeds) (number : Nat) :
    after.isClaimed number = manager.isClaimed number := by
  unfold isClaimed
  rw [same]

/-- A step that starts no loop. -/
theorem startsClaimed_of_length (same : after.loops.length = manager.loops.length) :
    StartsClaimed manager after := by
  intro started member
  rw [drop_eq_nil_of_le (Nat.le_of_eq same)] at member
  cases member

theorem startsClaimed_of_loops (same : after.loops = manager.loops) : StartsClaimed manager after :=
  startsClaimed_of_length (congrArg length same)

/-- Other commands and notes start none. -/
theorem startsClaimed_of_step (stepped : step calendar manager event = some after)
    (quiet : ¬manager.mayStart event = true) : StartsClaimed manager after :=
  startsClaimed_of_length ((step_loops stepped).length_eq quiet)

theorem startsClaimed_congr (loops : after.loops = middle.loops)
    (deeds : after.deeds = middle.deeds) :
    StartsClaimed before after ↔ StartsClaimed before middle := by
  unfold StartsClaimed
  rw [loops]
  simp only [isClaimed_of_deeds deeds]

theorem startsClaimed_endSilence :
    StartsClaimed before (manager.endSilence number) ↔ StartsClaimed before manager :=
  startsClaimed_congr rfl (akin_endSilence manager number).aside.deeds

theorem startsClaimed_sendAck {error : Option DeviceError} :
    StartsClaimed before (manager.sendAck error) ↔ StartsClaimed before manager :=
  Iff.rfl

theorem startsClaimed_setTask :
    StartsClaimed (manager.setTask index task) after ↔ StartsClaimed manager after :=
  Iff.rfl

theorem mayStart_setTask : (manager.setTask index task).MayStart number ↔ manager.MayStart number :=
  Iff.rfl

theorem startDeviceLocked_of_absent
    (absent : manager.phones[number]? = none) : manager.startDeviceLocked number = manager := by
  unfold startDeviceLocked
  rw [absent]

/-- A loop is started, if the phone has no handle. -/
theorem startsClaimed_startDeviceLocked_iff (present : manager.phones[number]? = some phone) :
    StartsClaimed manager (manager.startDeviceLocked number) ↔
      (phone.cancel = none → phone.claimed = true) := by
  have claimed : (manager.startDeviceLocked number).isClaimed number = phone.claimed := by
    rw [isClaimed_of_deeds (akin_startDeviceLocked manager number).aside.deeds,
      isClaimed_of_present present]
  cases held : phone.cancel with
  | some =>
    have same : manager.startDeviceLocked number = manager := by
      unfold startDeviceLocked
      rw [present]
      dsimp only
      rw [held]
      exact if_pos rfl
    rw [same]
    constructor
    · rintro _ ⟨⟩
    · intro _
      exact startsClaimed_of_loops rfl
  | none =>
    have loops : (manager.startDeviceLocked number).loops =
        manager.loops ++ [{ phone := number }] := by
      unfold startDeviceLocked
      rw [present]
      dsimp only
      rw [held]
      rfl
    unfold StartsClaimed
    rw [loops, drop_left]
    constructor
    · intro all _
      rw [← claimed]
      exact all _ mem_cons_self
    · intro owned started member
      rw [mem_singleton.mp member, claimed]
      exact owned rfl

theorem mayStart_of_absent (absent : manager.phones[number]? = none) : manager.MayStart number := by
  intro phone member
  rw [absent] at member
  cases member

theorem mayStart_iff (present : manager.phones[number]? = some phone) : manager.MayStart number ↔
      (phone.cancel = none → phone.credentialPath ≠ "" → phone.claimed = true) := by
  unfold MayStart
  rw [present]
  simp

section StrayCommands

variable (manager) (number : Nat)

/-- START, for every phone. -/
theorem startsClaimed_startRunner_iff :
    StartsClaimed manager (manager.startRunner number) ↔ manager.MayStart number := by
  cases present : manager.phones[number]? with
  | none =>
    have same : manager.startRunner number = manager := by
      unfold startRunner
      rw [present]
    rw [same]
    exact iff_of_true (startsClaimed_of_loops rfl) (mayStart_of_absent present)
  | some phone =>
    rw [mayStart_iff present]
    unfold startRunner
    rw [present]
    dsimp only
    split
    · rename_i bare
      exact iff_of_true (startsClaimed_of_loops rfl) fun _ path => (path bare).elim
    rename_i path
    split
    · rename_i free
      have started := startsClaimed_startDeviceLocked_iff (getElem?_edit_self present
        fun phone => { phone with userStopped := false })
      apply Iff.trans (startsClaimed_congr rfl rfl)
      apply Iff.trans started
      exact ⟨fun owned handle _ => owned handle, fun owned handle => owned handle path⟩
    · rename_i held
      rw [Option.isNone_iff_eq_none] at held
      exact iff_of_true (startsClaimed_of_loops rfl) fun free => (held free).elim

/-- The end of RESTART, for every phone that it finds. -/
theorem startsClaimed_resume_iff (deviceId udid : String) :
    StartsClaimed manager (manager.resume number (.restart deviceId udid)) ↔
      ∀ found ∈ manager.findLocked deviceId udid, manager.MayStart found := by
  unfold resume
  dsimp only
  cases manager.findLocked deviceId udid with
  | none => exact iff_of_true (startsClaimed_of_loops rfl) (by simp)
  | some found =>
    have only : (∀ number ∈ some found, manager.MayStart number) ↔ manager.MayStart found := by
      simp
    rw [only]
    dsimp only
    cases present : manager.phones[found]? with
    | none => exact iff_of_true (startsClaimed_of_loops rfl) (mayStart_of_absent present)
    | some =>
      rw [mayStart_iff present]
      dsimp only
      split
      · rename_i path
        rw [startsClaimed_startDeviceLocked_iff present]
        exact ⟨fun owned handle _ => owned handle, fun owned handle => owned handle path⟩
      · rename_i bare
        exact iff_of_true (startsClaimed_of_loops rfl) fun _ path => (bare path).elim

/-- The other places that start a loop see to it that the phone is claimed. -/
theorem startsClaimed_resume_configure :
    StartsClaimed manager (manager.resume number .configure) := by
  unfold resume
  dsimp only
  split
  · exact startsClaimed_of_loops rfl
  rename_i phone present
  split
  · rename_i owned
    rw [startsClaimed_startDeviceLocked_iff present]
    exact fun _ => owned.1
  · exact startsClaimed_of_loops rfl

theorem startsClaimed_pair (request : ClaimDevice)
    (name : String) (outcome : Except String String) :
    StartsClaimed manager (manager.pair number request name outcome) := by
  cases outcome with
  | error => exact startsClaimed_of_loops rfl
  | ok deviceId =>
    unfold pair
    dsimp only
    cases present : manager.phones[number]? with
    | none =>
      have absent : (manager.edit number (Phone.adopt request name deviceId
          (defaultCredentialPath manager.configDir name))).phones[number]? = none := by
        rw [edit, getElem?_modify, present]
        rfl
      apply (startsClaimed_congr rfl rfl).mpr
      rw [startDeviceLocked_of_absent absent]
      exact startsClaimed_of_loops rfl
    | some =>
      have started := startsClaimed_startDeviceLocked_iff (getElem?_edit_self present
        (Phone.adopt request name deviceId (defaultCredentialPath manager.configDir name)))
      apply (startsClaimed_congr rfl rfl).mpr
      exact started.mpr fun _ => rfl

theorem startsClaimed_control_iff (request : RunnerControl) :
    StartsClaimed manager (manager.control request) ↔ Entitled manager (.control request) := by
  unfold control
  dsimp only [Entitled]
  cases manager.findLocked request.deviceId request.udid with
  | none => exact iff_of_true (startsClaimed_of_loops rfl) fun _ _ absurd => by cases absurd
  | some number =>
    have only : (∀ found ∈ some number, manager.MayStart found) ↔ manager.MayStart number := by
      simp
    rw [only]
    dsimp only
    cases action : request.action with
    | start =>
      dsimp only
      rw [startsClaimed_endSilence, startsClaimed_startRunner_iff]
      simp
    | stop =>
      exact iff_of_true (startsClaimed_of_loops (halted_stopRunner manager .stop number).loops)
        fun absurd => by cases absurd
    | restart =>
      refine iff_of_true (startsClaimed_of_loops ?_) fun absurd => by cases absurd
      exact (halted_stopRunner manager _ number).loops
    | other =>
      refine iff_of_true (startsClaimed_of_loops ?_) fun absurd => by cases absurd
      dsimp only
      split
      · rfl
      · split <;> rfl

end StrayCommands

theorem startsClaimed_advance_iff (advanced : manager.advance index answer task = some after) :
    StartsClaimed manager after ↔ manager.MayStartLater task := by
  cases task with
  | pairing phone request name =>
    cases advanced
    refine iff_of_true ?_ trivial
    apply startsClaimed_setTask.mp
    exact startsClaimed_pair _ phone request name answer.paired
  | cancelling =>
    refine iff_of_true (startsClaimed_of_length ?_) trivial
    unfold advance at advanced
    dsimp only at advanced
    split at advanced <;> cases advanced
    · exact length_modify _ _ _
    · exact length_modify _ _ _
  | waiting =>
    rcases guarded_eq_some_iff.mp advanced with ⟨_, rfl⟩
    exact iff_of_true (startsClaimed_of_loops rfl) trivial
  | resuming purpose phone =>
    cases advanced
    rw [startsClaimed_sendAck, ← startsClaimed_setTask]
    cases purpose with
    | stop | release => exact iff_of_true (startsClaimed_of_loops rfl) trivial
    | configure => exact iff_of_true (startsClaimed_resume_configure _ phone) trivial
    | restart =>
      rw [startsClaimed_resume_iff, findLocked_setTask]
      rfl
  | acking | collecting =>
    cases advanced
    exact iff_of_true (startsClaimed_of_loops rfl) trivial
  | probing udids =>
    cases udids with
    | nil =>
      cases advanced
      exact iff_of_true (startsClaimed_of_loops rfl) trivial
    | cons udid rest =>
      unfold advance at advanced
      unfold MayStartLater
      dsimp only at advanced ⊢
      cases located : manager.findLocked "" udid with
      | none =>
        rw [located] at advanced
        cases advanced
        exact iff_of_true (startsClaimed_of_loops rfl) fun _ absurd => by cases absurd
      | some =>
        rw [located] at advanced
        cases advanced
        rw [← startsClaimed_setTask, startsClaimed_startRunner_iff, mayStart_setTask]
        simp
  | ended => cases advanced

/-- A task that cannot go on starts no loop. -/
theorem mayStartLater_of_blocked
    (blocked : manager.advance index answer task = none) : manager.MayStartLater task := by
  cases task with
  | resuming => cases blocked
  | probing udids =>
    cases udids with
    | nil => trivial
    | cons =>
      unfold advance at blocked
      dsimp only at blocked
      split at blocked <;> cases blocked
  | pairing | cancelling | waiting | acking | collecting | ended => trivial

/-- Exactly then does a step start loops of claimed phones only, in every state, when
START, the end of RESTART and the prober find claimed phones. -/
theorem drivesClaimed_iff (calendar : Calendar) (manager : Phones) (event : PhoneEvent) :
    DrivesClaimed calendar manager event ↔ Entitled manager event := by
  cases event with
  | control request =>
    constructor
    · intro drives
      exact (startsClaimed_control_iff manager request).mp (drives _ rfl)
    · intro entitled after stepped
      cases stepped
      exact (startsClaimed_control_iff manager request).mpr entitled
  | advance index answer =>
    constructor
    · intro drives task present
      cases advanced : manager.advance index answer task with
      | none => exact mayStartLater_of_blocked advanced
      | some after =>
        exact (startsClaimed_advance_iff advanced).mp
          (drives after (Option.bind_eq_some_iff.mpr ⟨task, present, advanced⟩))
    · intro entitled after stepped
      rcases Option.bind_eq_some_iff.mp stepped with ⟨task, present, advanced⟩
      exact (startsClaimed_advance_iff advanced).mpr (entitled task present)
  | startClaimed =>
    refine iff_of_true ?_ trivial
    intro after stepped
    rcases Option.bind_eq_some_iff.mp stepped with ⟨phone, present, started⟩
    rcases guarded_eq_some_iff.mp started with ⟨owned, rfl⟩
    exact (startsClaimed_startDeviceLocked_iff present).mpr fun _ => owned.1
  | claim | release | configure | attached | detached | snapshot | onState | onWipe | returns
  | record | jobStarted | jobProgress | jobResult | lanReachable | lanPairingPending =>
    exact iff_of_true (fun _ stepped => startsClaimed_of_step stepped nofun) trivial

/-! ## Stray phones -/

/-- A release that keeps the credential, or a wipe, of the phone. -/
def Strands (manager : Phones) (number : Nat) : PhoneEvent → Prop
  | .release request => request.deleteCredential = false ∧
      manager.findLocked request.deviceId request.udid = some number
  | .onWipe loop => ∃ found, manager.loops[loop]? = some found ∧ found.phone = number
  | _ => False

/-- Where a stray phone of `after` comes from: it was one before, or the step takes the
claim and leaves the credential. -/
def StrayFrom (manager : Phones) (event : PhoneEvent) (number : Nat) (deed : Deed) : Prop :=
  ∃ old, manager.deeds[number]? = some old ∧ old.udid = deed.udid ∧
    (old.stray = true ∨ manager.Strands number event ∧ old.credentialPath ≠ "")

variable {deed : Deed}

theorem strayFrom_of_modify {effect : Deed → Deed} {other : Nat}
    (deeds : after.deeds = manager.deeds.modify other effect)
    (named : ∀ old, (effect old).udid = old.udid)
    (strays : ∀ old, (effect old).stray = true →
      old.stray = true ∨ manager.Strands other event ∧ old.credentialPath ≠ "")
    (present : after.deeds[number]? = some deed) (stray : deed.stray = true) :
    manager.StrayFrom event number deed := by
  rw [deeds] at present
  rcases getElem?_modify_eq_some_iff.mp present with ⟨old, there, rfl⟩
  refine ⟨old, there, ?_⟩
  by_cases same : other = number
  · subst same
    rw [if_pos rfl] at stray ⊢
    exact ⟨(named old).symm, strays old stray⟩
  · rw [if_neg same] at stray ⊢
    exact ⟨rfl, .inl stray⟩

/-- Only a release that keeps the credential and a wipe make a phone stray. -/
theorem strayFrom_of_step (stepped : step calendar manager event = some after)
    (present : after.deeds[number]? = some deed) (stray : deed.stray = true) :
    manager.StrayFrom event number deed := by
  cases step_deeds stepped with
  | same idle aside =>
    rw [aside.deeds] at present
    exact ⟨deed, present, rfl, .inl stray⟩
  | found discovers aside =>
    rcases discovers.deeds with ⟨fresh, deeds, blank⟩
    rw [aside.deeds, deeds] at present
    by_cases known : number < manager.deeds.length
    · rw [getElem?_append_left known] at present
      exact ⟨deed, present, rfl, .inl stray⟩
    · rw [getElem?_append_right (Nat.le_of_not_lt known)] at present
      rw [blank deed (mem_of_getElem? present)] at stray
      cases stray
  | reserve reserves aside =>
    refine strayFrom_of_modify (aside.deeds.trans (deeds_edit Phone.deed_reserve))
      (fun _ => rfl) (fun _ => .inl) present stray
  | giveUp underWay failed aside =>
    exact strayFrom_of_modify (aside.deeds.trans (deeds_edit (Phone.deed_pairFailed _)))
      (fun _ => rfl) (fun _ => .inl) present stray
  | adopt underWay paired aside =>
    refine strayFrom_of_modify (aside.deeds.trans (deeds_edit (Phone.deed_adopt _ _ _ _)))
      (Deed.udid_adopt _ _ _) ?_ present stray
    intro old claimed
    unfold Deed.adopt at claimed
    cases claimed
  | release found aside =>
    refine strayFrom_of_modify (aside.deeds.trans (deeds_edit (Phone.deed_release _)))
      (fun _ => rfl) ?_ present stray
    intro old left
    rename_i request _
    cases kept : request.deleteCredential with
    | true =>
      rw [kept] at left
      cases left
    | false =>
      rw [kept] at left
      exact .inr ⟨⟨kept, found⟩, of_decide_eq_true left⟩
  | configure applies aside =>
    refine strayFrom_of_modify (aside.deeds.trans (deeds_edit (Phone.deed_configure _)))
      (Deed.udid_configure _) ?_ present stray
    intro old left
    unfold Deed.configure at left
    exact .inl left
  | wipe known aside =>
    refine strayFrom_of_modify (aside.deeds.trans (deeds_edit Phone.deed_onWipe))
      (fun _ => rfl) ?_ present stray
    intro old left
    exact .inr ⟨⟨_, known, rfl⟩, of_decide_eq_true left⟩

/-! ## Starts that are under way -/

/-- The task has picked the phone, which has the identifier, and is going to start it. -/
def picked (number : Nat) (udid : String) : PhoneTask → Bool
  | .cancelling purpose phone _ | .waiting purpose phone _ | .resuming purpose phone =>
    phone = number && purpose.isRestart
  | .probing udids => udids.any fun probed => trimSpace probed = udid
  | _ => false

/-- RESTART of the phone begins, or the prober picks it. -/
def Picks (manager : Phones) (number : Nat) (udid : String) : PhoneEvent → Prop
  | .control request => request.action = .restart ∧
      manager.findLocked request.deviceId request.udid = some number
  | .advance index _ => manager.tasks[index]? = some .collecting ∧
      ∃ phone ∈ manager.phones, phone.probed = true ∧ trimSpace phone.udid = udid
  | _ => False

variable {udid : String} {purpose : Purpose}

theorem Starts.tasks (starts : Starts manager number after) : after.tasks = manager.tasks := by
  cases starts with
  | none alike => exact alike.tasks
  | loop change kept alike =>
    rw [alike.tasks]
    unfold startDeviceLocked
    split
    · rfl
    · split <;> rfl

theorem mem_setTask {new : PhoneTask} (member : task ∈ (manager.setTask index new).tasks) :
    task ∈ manager.tasks ∨ task = new :=
  mem_or_eq_of_mem_set member

theorem mem_dismiss {handle : Option Nat}
    (member : task ∈ (manager.dismiss purpose number handle).tasks) :
    task ∈ manager.tasks ∨ (∃ loop, task = .cancelling purpose number loop) ∨
      task = afterWait purpose number := by
  cases handle with
  | some loop =>
    rcases mem_append.mp member with old | new
    · exact .inl old
    · exact .inr (.inl ⟨loop, mem_singleton.mp new⟩)
  | none =>
    cases purpose with
    | stop | restart =>
      rcases mem_append.mp member with old | new
      · exact .inl old
      · exact .inr (.inr (mem_singleton.mp new))
    | configure | release => exact .inl member

/-- What a command leaves to do about a phone concerns no other. -/
theorem picked_of_dismissed {other : Nat} (chosen : picked other udid task = true)
    (left : (∃ loop, task = .cancelling purpose number loop) ∨ task = afterWait purpose number) :
    number = other ∧ purpose.isRestart = true := by
  have both : (decide (number = other) && purpose.isRestart) = true := by
    rcases left with ⟨loop, rfl⟩ | rfl
    · exact chosen
    · cases purpose with
      | restart | configure => exact chosen
      | stop | release => cases chosen
  rw [Bool.and_eq_true_iff, decide_eq_true_eq] at both
  exact both

/-- Where a picked phone comes from: a task of before has picked it, or it is picked by
the step. -/
def PickedFrom (manager : Phones) (event : PhoneEvent) (number : Nat) (udid : String) : Prop :=
  (∃ old ∈ manager.tasks, picked number udid old = true) ∨ manager.Picks number udid event

theorem Halted.pickedFrom {other : Nat} (halted : Halted manager purpose number after)
    (member : task ∈ after.tasks) (chosen : picked other udid task = true) :
    (∃ old ∈ manager.tasks, picked other udid old = true) ∨
      number = other ∧ purpose.isRestart = true := by
  cases halted with
  | none alike =>
    rw [alike.tasks] at member
    exact .inl ⟨task, member, chosen⟩
  | halt present alike =>
    rw [alike.tasks] at member
    rcases mem_dismiss member with old | left
    · exact .inl ⟨task, old, chosen⟩
    · exact .inr (picked_of_dismissed chosen left)

theorem Turn.pickedFrom (turn : Turn manager after index answer task)
    (present : manager.tasks[index]? = some task) {new : PhoneTask} (member : new ∈ after.tasks)
    (chosen : picked number udid new = true) :
    manager.PickedFrom (.advance index answer) number udid := by
  have kept {next : PhoneTask} (among : new ∈ (manager.setTask index next).tasks)
      (goesOn : picked number udid next = true → picked number udid task = true) :
      manager.PickedFrom (.advance index answer) number udid := by
    rcases mem_setTask among with old | rfl
    · exact .inl ⟨new, old, chosen⟩
    · exact .inl ⟨task, mem_of_getElem? present, goesOn chosen⟩
  cases turn with
  | pairing starts | reconfigure starts | relaunch _ starts =>
    rw [starts.tasks] at member
    exact kept member nofun
  | cancelling alike =>
    rw [alike.tasks] at member
    refine kept member ?_
    split
    · nofun
    · exact id
  | @waiting purpose _ _ _ alike =>
    rw [alike.tasks] at member
    refine kept member ?_
    cases purpose with
    | restart | configure => exact id
    | stop | release => nofun
  | resumed alike | acking alike | probed alike =>
    rw [alike.tasks] at member
    exact kept member nofun
  | collecting alike =>
    rw [alike.tasks] at member
    rcases mem_setTask member with old | rfl
    · exact .inl ⟨new, old, chosen⟩
    · rcases any_eq_true.mp chosen with ⟨probed, listed, same⟩
      rcases mem_map.mp listed with ⟨phone, filtered, rfl⟩
      rcases mem_filter.mp filtered with ⟨known, probe⟩
      exact .inr ⟨present, phone, known, probe, of_decide_eq_true same⟩
  | probing _ starts =>
    rw [starts.tasks] at member
    exact kept member fun more => any_cons.trans (Bool.or_eq_true_iff.mpr (.inr more))
  | pass alike =>
    rw [alike.tasks] at member
    exact kept member fun more => any_cons.trans (Bool.or_eq_true_iff.mpr (.inr more))

/-- Only RESTART and the prober pick phones. -/
theorem pickedFrom_of_step (stepped : step calendar manager event = some after)
    (member : task ∈ after.tasks) (chosen : picked number udid task = true) :
    manager.PickedFrom event number udid := by
  have kept (old : task ∈ manager.tasks) : manager.PickedFrom event number udid :=
    .inl ⟨task, old, chosen⟩
  cases step_moves stepped with
  | keep alike | claim _ alike | attached _ alike | returns _ _ alike | record _ _ alike =>
    rw [alike.tasks] at member
    exact kept member
  | startClaimed starts =>
    rw [starts.tasks] at member
    exact kept member
  | start _ _ starts alike =>
    rw [alike.tasks] at member
    exact kept (starts.tasks ▸ member)
  | reserve _ _ alike =>
    rw [alike.tasks] at member
    rcases mem_append.mp member with old | new
    · exact kept old
    · rw [mem_singleton.mp new] at chosen
      cases chosen
  | release _ _ alike | configure _ _ alike =>
    rw [alike.tasks] at member
    rcases mem_dismiss member with old | left
    · exact kept old
    · cases (picked_of_dismissed chosen left).2
  | stop _ _ halted =>
    rcases halted.pickedFrom member chosen with old | ⟨_, ⟨⟩⟩
    exact .inl old
  | restart action found halted alike =>
    rw [alike.tasks] at member
    rcases halted.pickedFrom member chosen with old | ⟨rfl, _⟩
    · exact .inl old
    · exact .inr ⟨action, found⟩
  | found _ _ _ tasks =>
    rw [tasks] at member
    rcases mem_append.mp member with old | new
    · exact kept old
    · rw [mem_singleton.mp new] at chosen
      cases chosen
  | advance present turn => exact turn.pickedFrom present member chosen

/-! ## Runs -/

/-- The phone is not stray. -/
def Kempt (manager : Phones) (number : Nat) : Prop :=
  ∀ deed ∈ manager.deeds[number]?, deed.stray = false
  deriving Decidable

/-- The phone has no credential to keep, or no task is going to start it. -/
def Expendable (manager : Phones) (number : Nat) : Prop :=
  ∀ deed ∈ manager.deeds[number]?, deed.credentialPath ≠ "" →
    ∀ task ∈ manager.tasks, picked number deed.udid task = false
  deriving Decidable

/-- START without a loop, and RESTART, are for phones that are not stray. -/
def MayDrive (manager : Phones) (number : Nat) : RunnerAction → Prop
  | .start => manager.handle number = none → manager.Kempt number
  | .restart => manager.Kempt number
  | _ => True

instance (manager : Phones) (number : Nat) (action : RunnerAction) :
    Decidable (manager.MayDrive number action) := by
  unfold MayDrive
  split <;> infer_instance

/-- The second section of RESTART finds the phone of the first, or one that is not stray,
and the prober picks no phone that is stray. -/
def MayPick (manager : Phones) : PhoneTask → Prop
  | .resuming (.restart deviceId udid) phone =>
    ∀ number ∈ manager.findLocked deviceId udid, number = phone ∨ manager.Kempt number
  | .collecting => ∀ phone ∈ manager.phones, phone.probed = true →
      ∀ deed ∈ manager.deeds, deed.udid = trimSpace phone.udid → deed.stray = false
  | _ => True

instance (manager : Phones) (task : PhoneTask) : Decidable (manager.MayPick task) := by
  unfold MayPick
  split <;> infer_instance

/-- START, RESTART and the prober are kept from stray phones, and no phone becomes stray
while RESTART or the prober is about to start it. -/
def Rightful : Discipline Phones PhoneEvent
  | manager, .control request =>
    ∀ number ∈ manager.findLocked request.deviceId request.udid,
      manager.MayDrive number request.action
  | manager, .release request => request.deleteCredential = false →
      ∀ number ∈ manager.findLocked request.deviceId request.udid, manager.Expendable number
  | manager, .onWipe loop => ∀ found ∈ manager.loops[loop]?, manager.Expendable found.phone
  | manager, .advance index _ => ∀ task ∈ manager.tasks[index]?, manager.MayPick task
  | _, _ => True

instance (manager : Phones) (event : PhoneEvent) : Decidable (Rightful manager event) := by
  delta Rightful
  rcases event with _ | _ <;> infer_instance

/-- No phone that a task is going to start is stray. -/
def PicksKempt (manager : Phones) : Prop :=
  ∀ task ∈ manager.tasks, ∀ number deed, manager.deeds[number]? = some deed →
    picked number deed.udid task = true → deed.stray = false

theorem expendable_of_strands (rightful : Rightful manager event)
    (strands : manager.Strands number event) : manager.Expendable number := by
  cases event with
  | release => exact rightful strands.1 number strands.2
  | onWipe =>
    rcases strands with ⟨found, present, rfl⟩
    exact rightful found present
  | _ => exact strands.elim

theorem kempt_of_picks (rightful : Rightful manager event)
    (present : manager.deeds[number]? = some deed)
    (picks : manager.Picks number deed.udid event) : deed.stray = false := by
  cases event with
  | control =>
    have may := rightful number picks.2
    rw [picks.1] at may
    exact may deed present
  | advance =>
    rcases picks with ⟨collecting, phone, known, probed, same⟩
    exact rightful _ collecting phone known probed deed (mem_of_getElem? present) same.symm
  | _ => exact picks.elim

/-- One step. -/
theorem PicksKempt.of_step (picksKempt : manager.PicksKempt) (rightful : Rightful manager event)
    (stepped : step calendar manager event = some after) : after.PicksKempt := by
  intro task member number deed present chosen
  by_contra stray
  rw [Bool.not_eq_false] at stray
  rcases strayFrom_of_step stepped present stray with ⟨old, there, named, origin⟩
  rw [← named] at chosen
  rcases pickedFrom_of_step stepped member chosen with ⟨task, among, earlier⟩ | picks
  · rcases origin with before | ⟨strands, credential⟩
    · exact Bool.noConfusion (before.symm.trans (picksKempt task among number old there earlier))
    · have expendable := expendable_of_strands rightful strands old there credential task among
      exact Bool.noConfusion (earlier.symm.trans expendable)
  · rcases origin with before | ⟨strands, _⟩
    · exact Bool.noConfusion (before.symm.trans (kempt_of_picks rightful there picks))
    -- No event is both one that picks a phone and one that takes a claim.
    · cases event <;> first | exact picks.elim | exact strands.elim

theorem picksKempt_of_reaches {configDir : String} {configs : List DeviceConfig}
    (reached : Reaches (step calendar) Rightful (new configDir configs) manager) :
    manager.PicksKempt := by
  apply reached.invariant (P := PicksKempt)
  · intro task member
    rw [(kept_new ..).2] at member
    cases member
  · exact fun _ kempt rightful stepped => kempt.of_step rightful stepped

/-- A phone that is not stray may be started. -/
theorem mayStart_of_kempt (kempt : manager.handle number = none → manager.Kempt number) :
    manager.MayStart number := by
  intro phone present free credential
  have stray := kempt ((handle_of_present present).trans free) phone.deed
    (getElem?_deeds_eq_some_iff.mpr ⟨phone, present, rfl⟩)
  by_contra unclaimed
  rw [Bool.not_eq_true] at unclaimed
  have found : phone.deed.stray = true := by
    unfold Deed.stray
    exact Bool.and_eq_true_iff.mpr ⟨congrArg not unclaimed, decide_eq_true credential⟩
  exact Bool.noConfusion (stray.symm.trans found)

theorem entitled_of_rightful (picksKempt : manager.PicksKempt) (rightful : Rightful manager event) :
    Entitled manager event := by
  cases event with
  | control =>
    intro action number found
    have may := rightful number found
    rw [action] at may
    exact mayStart_of_kempt may
  | advance =>
    intro task present
    have may := rightful task present
    cases task with
    | resuming purpose phone =>
      cases purpose with
      | restart =>
        intro number found
        apply mayStart_of_kempt
        intro _
        rcases may number found with rfl | kempt
        · exact fun deed there => picksKempt _ (mem_of_getElem? present) number deed there
            (Bool.and_eq_true_iff.mpr ⟨decide_eq_true rfl, rfl⟩)
        · exact kempt
      | stop | configure | release => trivial
    | probing udids =>
      cases udids with
      | nil => trivial
      | cons udid =>
        intro number found
        apply mayStart_of_kempt
        intro _ deed there
        refine picksKempt _ (mem_of_getElem? present) number deed there ?_
        refine any_eq_true.mpr ⟨udid, mem_cons_self, decide_eq_true ?_⟩
        exact (udid_of_indexOf (indexOf_of_findLocked found) there).symm
    | pairing | cancelling | waiting | acking | collecting | ended => trivial
  | _ => trivial

/-- In every run in which START, RESTART and the prober are kept from stray phones, and no
phone becomes stray while it is about to be started, each step starts loops of claimed phones
only. -/
theorem drives_claimed {configDir : String} {configs : List DeviceConfig}
    (reached : Reaches (step calendar) Rightful (new configDir configs) manager)
    (rightful : Rightful manager event) : DrivesClaimed calendar manager event :=
  (drivesClaimed_iff calendar manager event).mpr
    (entitled_of_rightful (picksKempt_of_reaches reached) rightful)

/-- A phone that was released with its credential is claimed again, and RESTART starts it. -/
theorem drives_claimed_reclaimed : ∃ manager,
      Reaches (step noDates) Rightful (new "" []) manager ∧
      (Rightful manager (.advance 4 {}) ∧
        ((step noDates manager (.advance 4 {})).map fun after =>
          after.loops.drop manager.loops.length) = some [{ phone := 0 }]) ∧
      DrivesClaimed noDates manager (.advance 4 {}) := by
  refine exists_reaches_and_of_run
      (connected ++ [.release ⟨"", "u", false⟩, .claim ⟨"u", "code", "server", "", "", "", "", 1⟩,
        .advance 3 { paired := .ok "other" }, command .restart, .advance 4 {}, .returns 1 none,
        .record 1 false, .advance 4 {}]) (by decide +kernel) ?_
  rintro manager reached ⟨rightful, -⟩
  exact drives_claimed reached rightful

/-- A phone that was released with its credential is driven again. -/
theorem unclaimed_driven : ∃ manager, Reaches (step noDates) unrestricted (new "" []) manager ∧
      ¬DrivesClaimed noDates manager (command .start) := by
  refine exists_reaches_imp_of_run (fun manager =>
        (step noDates manager (command .start)).map (fun after =>
        (after.loops.drop manager.loops.length).map fun started =>
        after.isClaimed started.phone) = some [false])
      (connected ++ [.release ⟨"", "u", false⟩]) (by decide +kernel) ?_
  intro manager reached started drives
  rcases Option.map_eq_some_iff.mp started with ⟨after, stepped, unclaimed⟩
  rcases map_eq_singleton_iff.mp unclaimed with ⟨loop, new, notClaimed⟩
  have claimed := drives after stepped loop (by rw [new]; exact mem_cons_self)
  exact Bool.noConfusion (notClaimed.symm.trans claimed)

end Phones

end LubricantNodes.Agent
