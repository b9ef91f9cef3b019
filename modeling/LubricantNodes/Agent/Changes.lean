import LubricantNodes.Agent.Loops

/-!
# What a section does to a phone

Most of what the manager notes about a phone is bookkeeping of its loop: the handle,
whether the user has stopped it.  The rest is its *core*.  Up to bookkeeping, every
section changes one phone at most, in a way that its event determines: a claim reserves
a phone, a pairing ends, or one of the changes of `changeOf` is made.  Discovery
changes all phones.
-/

namespace LubricantNodes.Agent

open Go Transition List

namespace Phone

variable (phone : Phone)

/-- A phone without the bookkeeping of its loop. -/
def core : Phone :=
  { phone with cancel := none, userStopped := false, silenced := false }

/-- The name under which a phone is claimed. -/
def claimName (request : ClaimDevice) (phone : Phone) : String :=
  if trimSpace request.deviceLabel = "" then firstNonEmpty [phone.name, trimSpace request.udid]
  else trimSpace request.deviceLabel

/-- `Claim` reserves the phone. -/
def reserve : Phone :=
  { phone with claiming := true }

/-- The pairing has failed. -/
def pairFailed (cause : String) (phone : Phone) : Phone :=
  { phone with claiming := false, lastError := "pairing failed: " ++ cause }

theorem core_dropHandle : phone.dropHandle.core = phone.core :=
  rfl

end Phone

/-- A pairing that is under way. -/
structure Pairing where
  phone : Nat
  request : ClaimDevice
  name : String

/-- The pairing of a task. -/
def PhoneTask.pairing? : PhoneTask → Option Pairing
  | .pairing phone request name => some ⟨phone, request, name⟩
  | _ => none

namespace Phones

variable {calendar : Calendar} {manager middle after : Phones}

/-- The cores of all phones. -/
def cores (manager : Phones) : List Phone :=
  manager.phones.map Phone.core

/-- The phone of a loop. -/
def phoneOf (manager : Phones) (loop : Nat) : Option Nat :=
  manager.loops[loop]?.map DeviceLoop.phone

/-- The pairing of the task with a number. -/
def pairingAt (manager : Phones) (index : Nat) : Option Pairing :=
  manager.tasks[index]?.bind PhoneTask.pairing?

/-- The pairing that a section ends. -/
def pairingOf (manager : Phones) : PhoneEvent → Option Pairing
  | .advance index _ => manager.pairingAt index
  | _ => none

/-! ## Bookkeeping -/

/-- The phones are the same up to bookkeeping, and so are the pairings and the place of
the credentials. -/
structure Akin (before after : Phones) : Prop where
  cores : after.cores = before.cores
  pairings : ∀ index, after.pairingAt index = before.pairingAt index
  configDir : after.configDir = before.configDir

theorem Akin.refl (manager : Phones) : Akin manager manager := ⟨rfl, fun _ => rfl, rfl⟩

theorem Akin.trans (first : Akin manager middle) (second : Akin middle after) :
    Akin manager after where
  cores := second.cores.trans first.cores
  pairings := fun index => (second.pairings index).trans (first.pairings index)
  configDir := second.configDir.trans first.configDir

/-- Whatever is read off the cores is the same. -/
theorem Akin.map_eq {β : Type*} (akin : Akin manager after) (view : Phone → β)
    (blind : ∀ phone : Phone, view phone.core = view phone) :
    after.phones.map view = manager.phones.map view := by
  have through : ∀ phones : List Phone, (phones.map Phone.core).map view = phones.map view := by
    intro phones
    rw [map_map]
    exact map_congr_left fun phone _ => blind phone
  rw [← through, ← through manager.phones]
  exact congrArg (map view) akin.cores

variable {task : PhoneTask} {event : PhoneEvent}

section Bookkeeping

variable (manager) (number : Nat)

/-- Two changes of a phone that differ in bookkeeping. -/
theorem akin_edits {change other : Phone → Phone}
    (same : ∀ phone, (other phone).core = (change phone).core) :
    Akin (manager.edit number change) (manager.edit number other) where
  cores := map_modify_congr fun phone _ => same phone
  pairings := fun _ => rfl
  configDir := rfl

theorem akin_edit {change : Phone → Phone}
    (same : ∀ phone, (change phone).core = phone.core) :
    Akin manager (manager.edit number change) := by
  have kept : Akin (manager.edit number id) (manager.edit number change) :=
    akin_edits manager number same
  unfold edit at kept ⊢
  rw [modify_id] at kept
  exact kept

theorem akin_sendAck (error : Option DeviceError) : Akin manager (manager.sendAck error) :=
  ⟨rfl, fun _ => rfl, rfl⟩

theorem akin_endSilence : Akin manager (manager.endSilence number) :=
  akin_edit manager number fun _ => rfl

theorem akin_loops (loops : List DeviceLoop) : Akin manager { manager with loops := loops } :=
  ⟨rfl, fun _ => rfl, rfl⟩

theorem pairingAt_spawn (task : PhoneTask) (index : Nat) :
    (manager.spawn task).pairingAt index =
      if index = manager.tasks.length then task.pairing? else manager.pairingAt index := by
  unfold pairingAt spawn
  by_cases last : index = manager.tasks.length
  · rw [if_pos last, last, getElem?_concat_length]
    rfl
  rw [if_neg last]
  by_cases below : index < manager.tasks.length
  · rw [getElem?_append_left below]
  · have beyond : manager.tasks.length + 1 ≤ index := by omega
    rw [getElem?_eq_none (by simpa using beyond), getElem?_eq_none (Nat.le_of_lt beyond)]

theorem pairingAt_setTask (plain : task.pairing? = none)
    (index : Nat) :
    (manager.setTask number task).pairingAt index =
      if number = index then none else manager.pairingAt index := by
  unfold pairingAt setTask
  by_cases here : number = index
  · subst here
    rw [if_pos rfl]
    by_cases inside : number < manager.tasks.length
    · rw [getElem?_set_self inside]
      exact plain
    · rw [getElem?_eq_none (by simpa using inside)]
      rfl
  · rw [if_neg here, getElem?_set_ne here]

theorem akin_spawn (plain : task.pairing? = none) : Akin manager (manager.spawn task) where
  cores := rfl
  pairings := by
    intro index
    rw [pairingAt_spawn]
    split_ifs with last
    · unfold pairingAt
      rw [plain, last, getElem?_eq_none (Nat.le_refl _)]
      rfl
    · rfl
  configDir := rfl

theorem akin_setTask {number : Nat} {next : PhoneTask}
    (present : manager.tasks[number]? = some task) (plain : task.pairing? = none)
    (also : next.pairing? = none) : Akin manager (manager.setTask number next) where
  cores := rfl
  pairings := by
    intro index
    rw [pairingAt_setTask manager number also]
    split_ifs with here
    · unfold pairingAt
      rw [← here, present]
      exact plain.symm
    · rfl
  configDir := rfl

theorem akin_startDeviceLocked : Akin manager (manager.startDeviceLocked number) := by
  unfold startDeviceLocked
  split
  · exact .refl manager
  split_ifs
  · exact .refl manager
  · apply (akin_edit manager number _).trans (akin_loops _ _)
    intro phone
    rfl

theorem akin_startRunner : Akin manager (manager.startRunner number) := by
  unfold startRunner
  split
  · exact .refl manager
  split_ifs
  · exact akin_sendAck manager _
  · apply Akin.trans _ (akin_sendAck _ _)
    apply Akin.trans _ (akin_startDeviceLocked _ _)
    exact akin_edit manager number fun _ => rfl
  · exact akin_sendAck manager _

theorem akin_dismiss (purpose : Purpose) (number : Nat)
    (handle : Option Nat) : Akin manager (manager.dismiss purpose number handle) := by
  unfold dismiss
  split
  · exact akin_spawn manager rfl
  split
  · exact akin_spawn manager rfl
  · exact akin_spawn manager rfl
  · exact akin_sendAck manager none
  · exact akin_sendAck manager none

theorem akin_resume (purpose : Purpose) : Akin manager (manager.resume number purpose) := by
  cases purpose with
  | stop => exact .refl manager
  | release => exact .refl manager
  | configure =>
    unfold resume
    dsimp only
    split
    · exact .refl manager
    · split_ifs
      · exact akin_startDeviceLocked manager number
      · exact .refl manager
  | restart =>
    unfold resume
    dsimp only
    split
    · exact .refl manager
    split
    · exact .refl manager
    · split_ifs
      · exact akin_startDeviceLocked manager _
      · exact .refl manager

end Bookkeeping

/-! ## Changes -/

/-- The settings of a request are applied to a phone. -/
structure Applies (manager : Phones) (request : ConfigureDevice) (number : Nat) (phone : Phone) :
    Prop where
  found : manager.findLocked request.deviceId request.udid = some number
  present : manager.phones[number]? = some phone
  passes : ¬(request.configRevision ≠ 0 ∧ request.configRevision ≤ phone.configRevision)

/-- STOP and RESTART take down the loop of a phone that has a credential. -/
structure Halts (manager : Phones) (request : RunnerControl) (number : Nat) (phone : Phone) :
    Prop where
  found : manager.findLocked request.deviceId request.udid = some number
  present : manager.phones[number]? = some phone
  paired : phone.credentialPath ≠ ""
  action : request.action = .stop ∨ request.action = .restart

/-- The change that a section makes, apart from discovery, claims and pairings. -/
inductive Makes (manager : Phones) : PhoneEvent → Nat → (Phone → Phone) → Prop
  | release {request number}
      (found : manager.findLocked request.deviceId request.udid = some number) :
      Makes manager (.release request) number (Phone.release request.deleteCredential)
  | configure {request number phone}
      (applies : manager.Applies request number phone) :
      Makes manager (.configure request) number (Phone.configure request)
  | halt {request number phone}
      (halts : manager.Halts request number phone) (stopped : Bool) :
      Makes manager (.control request) number (Phone.halt stopped)
  | detach {udid number} (found : manager.indexOf udid = some number) :
      Makes manager (.detached udid) number Phone.detach
  | onState {index loop} (present : manager.loops[index]? = some loop)
      (online : Bool) : Makes manager (.onState index online) loop.phone (Phone.onState online)
  | onWipe {index loop} (present : manager.loops[index]? = some loop) :
      Makes manager (.onWipe index) loop.phone Phone.onWipe
  | exit {index loop} (present : manager.loops[index]? = some loop)
      (severed : Bool) (error : Option String) :
      Makes manager (.record index severed) loop.phone (Phone.exit error)
  | jobStarted {udid number} (found : manager.findLocked "" udid = some number) :
      Makes manager (.jobStarted udid) number Phone.noteWdaJobStarted
  | jobProgress {udid number} (found : manager.findLocked "" udid = some number)
      (percent : Int) (stage : String) :
      Makes manager (.jobProgress udid percent stage) number
        (Phone.noteWdaJobProgress percent stage)
  | jobResult {udid number} (found : manager.findLocked "" udid = some number)
      (ok cancelled installed : Bool) (errorCode message profileExpiresAt : String) :
      Makes manager (.jobResult udid ok cancelled installed errorCode message profileExpiresAt)
        number
        (Phone.noteWdaJobResult ok cancelled installed errorCode message profileExpiresAt)
  | lanReachable {udid number} (named : trimSpace udid ≠ "")
      (found : manager.indexOf (trimSpace udid) = some number) (on : Bool) :
      Makes manager (.lanReachable udid on) number (Phone.noteLanReachable on)
  | lanPairingPending {udid number} (named : trimSpace udid ≠ "")
      (found : manager.indexOf (trimSpace udid) = some number) :
      Makes manager (.lanPairingPending udid) number Phone.noteLanPairingPending

/-! ## Every step -/

/-- A claim reserves a phone. -/
structure Reserves (manager : Phones) (request : ClaimDevice) (number : Nat) (phone : Phone) :
    Prop where
  udid : trimSpace request.udid ≠ ""
  found : manager.indexOf (trimSpace request.udid) = some number
  present : manager.phones[number]? = some phone
  unclaimed : phone.claimed = false
  free : phone.claiming = false

/-- What a step does, up to bookkeeping. -/
inductive ChangesNext (calendar : Calendar) (manager : Phones) : PhoneEvent → Phones → Prop
  | same {event : PhoneEvent} {after : Phones}
      (unchanged : ∀ number change, ¬manager.Makes event number change)
      (unpaired : manager.pairingOf event = none) (akin : Akin manager after) :
      ChangesNext calendar manager event after
  | found {seen : List (String × String)} {now : Int} {after : Phones}
      (akin : Akin (manager.snapshot calendar seen now) after) :
      ChangesNext calendar manager (.snapshot seen now) after
  | reserve {request number phone} {after : Phones}
      (reserves : manager.Reserves request number phone)
      (akin : Akin ((manager.edit number Phone.reserve).spawn
        (.pairing number request (phone.claimName request))) after) :
      ChangesNext calendar manager (.claim request) after
  | giveUp {index answer pairing cause} {after : Phones}
      (underWay : manager.pairingAt index = some pairing)
      (failed : answer.paired = .error cause)
      (akin : Akin ((manager.setTask index .ended).edit pairing.phone (Phone.pairFailed cause))
        after) :
      ChangesNext calendar manager (.advance index answer) after
  | adopt {index answer pairing deviceId} {after : Phones}
      (underWay : manager.pairingAt index = some pairing)
      (paired : answer.paired = .ok deviceId)
      (akin : Akin ((manager.setTask index .ended).edit pairing.phone
        (Phone.adopt pairing.request pairing.name deviceId
          (defaultCredentialPath manager.configDir pairing.name))) after) :
      ChangesNext calendar manager (.advance index answer) after
  | change {number} {event : PhoneEvent} {change : Phone → Phone} {after : Phones}
      (makes : manager.Makes event number change)
      (akin : Akin (manager.edit number change) after) :
      ChangesNext calendar manager event after

theorem changesNext_claim (calendar : Calendar) (manager : Phones) (request : ClaimDevice) :
    ChangesNext calendar manager (.claim request) (manager.claim request) := by
  have same (after : Phones) (akin : Akin manager after) :
      ChangesNext calendar manager (.claim request) after :=
    .same (by rintro _ _ ⟨⟩) rfl akin
  unfold claim
  dsimp only
  split
  · exact same _ (akin_sendAck manager _)
  rename_i blank
  split
  · exact same _ (akin_sendAck manager _)
  split
  · exact same _ (akin_sendAck manager _)
  rename_i number found
  split
  · exact same _ (.refl manager)
  rename_i phone present
  split
  · exact same _ ((akin_endSilence manager number).trans (akin_sendAck _ _))
  rename_i claimed
  split
  · exact same _ ((akin_endSilence manager number).trans (akin_sendAck _ _))
  · rename_i claiming
    have reserves : manager.Reserves request number phone :=
      ⟨blank, found, present, Bool.eq_false_iff.mpr claimed, Bool.eq_false_iff.mpr claiming⟩
    exact .reserve reserves (akin_endSilence _ number)

theorem changesNext_release (calendar : Calendar) (manager : Phones) (request : ReleaseDevice) :
    ChangesNext calendar manager (.release request) (manager.release request) := by
  unfold release
  split
  · rename_i missing
    refine .same ?_ rfl (akin_sendAck manager _)
    intro number change made
    cases made with
    | release found => cases missing.symm.trans found
  · rename_i number found
    exact .change (.release found) (akin_dismiss _ _ _ _)

theorem changesNext_configure (calendar : Calendar) (manager : Phones) (request : ConfigureDevice) :
    ChangesNext calendar manager (.configure request) (manager.configure request) := by
  have same (after : Phones) (fails : ∀ number phone, ¬manager.Applies request number phone)
      (akin : Akin manager after) : ChangesNext calendar manager (.configure request) after := by
    refine .same ?_ rfl akin
    intro number change made
    cases made with
    | configure applies => exact fails _ _ applies
  unfold configure
  split
  · rename_i missing
    refine same _ ?_ (akin_sendAck manager _)
    intro number phone applies
    cases missing.symm.trans applies.found
  rename_i number found
  split
  · rename_i absent
    refine same _ ?_ (.refl manager)
    intro other phone applies
    cases found.symm.trans applies.found
    cases absent.symm.trans applies.present
  rename_i phone present
  split
  · rename_i stale
    refine same _ ?_ (akin_sendAck manager _)
    intro other phone applies
    cases found.symm.trans applies.found
    cases present.symm.trans applies.present
    exact applies.passes stale
  · rename_i passes
    refine .change (.configure ⟨found, present, passes⟩) ?_
    split
    · apply Akin.trans _ (akin_dismiss _ _ _ _)
      exact akin_edits manager number fun phone =>
        Phone.core_dropHandle (phone.configure request)
    · exact akin_sendAck _ none

/-- A command that takes down no loop. -/
theorem changesNext_of_unhalted {request : RunnerControl}
    (goes : ∀ number phone, ¬manager.Halts request number phone) (akin : Akin manager after) :
    ChangesNext calendar manager (.control request) after := by
  refine .same ?_ rfl akin
  intro number change made
  cases made with
  | halt halts stopped => exact goes _ _ halts

/-- STOP and RESTART. -/
theorem changesNext_stopRunner {request : RunnerControl} {purpose : Purpose} {number : Nat}
    (found : manager.findLocked request.deviceId request.udid = some number)
    (action : request.action = .stop ∨ request.action = .restart)
    (akin : Akin (manager.stopRunner purpose number) after) :
    ChangesNext calendar manager (.control request) after := by
  unfold stopRunner at akin
  split at akin
  · rename_i absent
    refine changesNext_of_unhalted ?_ akin
    intro other phone halts
    cases found.symm.trans halts.found
    cases absent.symm.trans halts.present
  rename_i phone present
  split at akin
  · rename_i bare
    refine changesNext_of_unhalted ?_ ((akin_sendAck _ _).trans akin)
    intro other phone halts
    cases found.symm.trans halts.found
    cases present.symm.trans halts.present
    exact halts.paired bare
  · rename_i paired
    exact .change (.halt ⟨found, present, paired, action⟩ _) ((akin_dismiss _ _ _ _).trans akin)

theorem changesNext_control (calendar : Calendar) (manager : Phones) (request : RunnerControl) :
    ChangesNext calendar manager (.control request) (manager.control request) := by
  unfold control
  split
  · rename_i missing
    refine changesNext_of_unhalted ?_ (akin_sendAck manager _)
    intro number phone halts
    cases missing.symm.trans halts.found
  rename_i number found
  cases action : request.action with
  | start =>
    refine changesNext_of_unhalted ?_
      ((akin_startRunner manager number).trans (akin_endSilence _ number))
    intro other phone halts
    simpa [action] using halts.action
  | stop => exact changesNext_stopRunner found (.inl action) (.refl _)
  | restart => exact changesNext_stopRunner found (.inr action) (akin_endSilence _ number)
  | other =>
    apply changesNext_of_unhalted
    · intro other phone halts
      simpa [action] using halts.action
    · dsimp only
      split
      · exact .refl manager
      · split_ifs <;> exact akin_sendAck manager _

/-- A task that is no pairing. -/
theorem changesNext_of_plain {index : Nat} {answer : TaskAnswer}
    (present : manager.tasks[index]? = some task) (plain : task.pairing? = none)
    (akin : Akin manager after) : ChangesNext calendar manager (.advance index answer) after := by
  refine .same (by rintro _ _ ⟨⟩) ?_ akin
  rw [pairingOf, pairingAt, present]
  exact plain

theorem changesNext_advance {index : Nat} {answer : TaskAnswer}
    (present : manager.tasks[index]? = some task)
    (advanced : manager.advance index answer task = some after) :
    ChangesNext calendar manager (.advance index answer) after := by
  cases task with
  | pairing phone request name =>
    cases advanced
    have underWay : manager.pairingAt index = some ⟨phone, request, name⟩ := by
      unfold pairingAt
      rw [present]
      rfl
    cases paired : answer.paired with
    | error =>
      apply ChangesNext.giveUp underWay paired
      exact akin_sendAck _ _
    | ok =>
      apply ChangesNext.adopt underWay paired
      exact (akin_startDeviceLocked _ phone).trans (akin_sendAck _ none)
  | cancelling =>
    apply changesNext_of_plain present rfl
    unfold advance at advanced
    dsimp only at advanced
    split at advanced <;> cases advanced
    · apply Akin.trans _ (akin_sendAck _ none)
      exact (akin_loops manager _).trans (akin_setTask _ present rfl rfl)
    · exact (akin_loops manager _).trans (akin_setTask _ present rfl rfl)
  | waiting purpose phone loop =>
    rcases guarded_eq_some_iff.mp advanced with ⟨_, rfl⟩
    apply changesNext_of_plain present rfl
    apply akin_setTask manager present rfl
    cases purpose <;> rfl
  | resuming purpose phone =>
    cases advanced
    apply changesNext_of_plain present rfl
    apply Akin.trans _ (akin_sendAck _ none)
    exact (akin_setTask manager present rfl rfl).trans (akin_resume _ phone purpose)
  | acking phone =>
    cases advanced
    apply changesNext_of_plain present rfl
    apply Akin.trans _ (akin_sendAck _ none)
    exact (akin_setTask manager present rfl rfl).trans (akin_edit _ phone fun _ => rfl)
  | collecting =>
    cases advanced
    exact changesNext_of_plain present rfl (akin_setTask manager present rfl rfl)
  | probing udids =>
    apply changesNext_of_plain present rfl
    cases udids with
    | nil =>
      cases advanced
      exact akin_setTask manager present rfl rfl
    | cons =>
      unfold advance at advanced
      dsimp only at advanced
      split at advanced <;> cases advanced
      · exact akin_setTask manager present rfl rfl
      · exact (akin_setTask manager present rfl rfl).trans (akin_startRunner _ _)
  | ended => cases advanced

/-- A note about the phone that is found. -/
theorem changesNext_note {found : Option Nat} {note : Phone → Phone}
    (makes : ∀ {number}, found = some number → manager.Makes event number note)
    (finds : ∀ {number change}, manager.Makes event number change → found = some number)
    (unpaired : manager.pairingOf event = none) :
    ChangesNext calendar manager event (manager.noteOn note found) := by
  cases found with
  | none =>
    refine .same ?_ unpaired (.refl manager)
    intro number change made
    cases finds made
  | some => exact .change (makes rfl) (.refl _)

/-- What every step does, up to bookkeeping. -/
theorem step_changes (stepped : step calendar manager event = some after) :
    ChangesNext calendar manager event after := by
  cases event with
  | claim request =>
    obtain rfl := Option.some.inj stepped
    exact changesNext_claim calendar manager request
  | release request =>
    obtain rfl := Option.some.inj stepped
    exact changesNext_release calendar manager request
  | configure request =>
    obtain rfl := Option.some.inj stepped
    exact changesNext_configure calendar manager request
  | control request =>
    obtain rfl := Option.some.inj stepped
    exact changesNext_control calendar manager request
  | startClaimed number =>
    rcases Option.bind_eq_some_iff.mp stepped with ⟨phone, _, started⟩
    rcases guarded_eq_some_iff.mp started with ⟨_, rfl⟩
    exact .same (by rintro _ _ ⟨⟩) rfl (akin_startDeviceLocked manager number)
  | advance =>
    rcases Option.bind_eq_some_iff.mp stepped with ⟨task, present, advanced⟩
    exact changesNext_advance present advanced
  | attached =>
    dsimp only [step] at stepped
    split at stepped <;> cases stepped
    · exact .same (by rintro _ _ ⟨⟩) rfl (.refl manager)
    · exact .same (by rintro _ _ ⟨⟩) rfl (akin_edit manager _ fun _ => rfl)
  | detached =>
    dsimp only [step] at stepped
    split at stepped
    · rename_i missing
      cases stepped
      refine .same ?_ rfl (.refl manager)
      intro number change made
      cases made with
      | detach found => cases missing.symm.trans found
    · rename_i number found
      cases stepped
      exact .change (.detach found) (.refl _)
  | snapshot =>
    obtain rfl := Option.some.inj stepped
    exact .found (akin_spawn _ rfl)
  | onState number online =>
    rcases Option.bind_eq_some_iff.mp stepped with ⟨loop, present, changed⟩
    rcases guarded_eq_some_iff.mp changed with ⟨_, rfl⟩
    exact .change (.onState present online) (.refl _)
  | onWipe =>
    rcases Option.bind_eq_some_iff.mp stepped with ⟨loop, present, wiped⟩
    rcases guarded_eq_some_iff.mp wiped with ⟨_, rfl⟩
    exact .change (.onWipe present) (.refl _)
  | returns =>
    rcases Option.bind_eq_some_iff.mp stepped with ⟨loop, _, returned⟩
    rcases guarded_eq_some_iff.mp returned with ⟨_, rfl⟩
    exact .same (by rintro _ _ ⟨⟩) rfl (akin_loops manager _)
  | record number severed =>
    rcases Option.bind_eq_some_iff.mp stepped with ⟨loop, present, recorded⟩
    split at recorded <;> cases recorded
    exact .change (.exit present severed _) (akin_loops _ _)
  | jobStarted =>
    obtain rfl := Option.some.inj stepped
    rw [noteWdaState_eq]
    refine changesNext_note (fun found => .jobStarted found) ?_ rfl
    intro number change made
    cases made
    assumption
  | jobProgress udid percent stage =>
    obtain rfl := Option.some.inj stepped
    rw [noteWdaState_eq]
    refine changesNext_note (fun found => .jobProgress found percent stage) ?_ rfl
    intro number change made
    cases made
    assumption
  | jobResult udid ok cancelled installed errorCode message profileExpiresAt =>
    obtain rfl := Option.some.inj stepped
    rw [noteWdaState_eq]
    refine changesNext_note (fun found =>
      .jobResult found ok cancelled installed errorCode message profileExpiresAt) ?_ rfl
    intro number change made
    cases made
    assumption
  | lanReachable udid on =>
    obtain rfl := Option.some.inj stepped
    rw [noteLan_eq]
    refine changesNext_note (fun found => ?_) ?_ rfl
    · rcases Option.ite_none_left_eq_some.mp found with ⟨named, found⟩
      exact .lanReachable named found on
    · intro number change made
      cases made
      apply Option.ite_none_left_eq_some.mpr
      constructor <;> assumption
  | lanPairingPending =>
    obtain rfl := Option.some.inj stepped
    rw [noteLan_eq]
    refine changesNext_note (fun found => ?_) ?_ rfl
    · rcases Option.ite_none_left_eq_some.mp found with ⟨named, found⟩
      exact .lanPairingPending named found
    · intro number change made
      cases made
      apply Option.ite_none_left_eq_some.mpr
      constructor <;> assumption

end Phones

end LubricantNodes.Agent
