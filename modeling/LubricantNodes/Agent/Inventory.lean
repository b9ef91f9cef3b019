import Mathlib
import LubricantNodes.Agent.Changes
import LubricantNodes.Transition.Dated

/-!
# Reports of the inventory

`DeviceManager` reports its phones to the server, each time with a revision.  A
section that changes something a report shows raises the revision; `marks` says which
sections do, `sends` which of them report.
-/

namespace LubricantNodes.Agent

open Go Transition List

/-! ## Reports -/

/-- `IosConnectionType`. -/
inductive ConnectionType
  | unspecified
  | usb
  | network
  deriving DecidableEq

/-- `toConnectionType`. -/
def toConnectionType (text : String) : ConnectionType :=
  let upper := String.ofList ((trimSpace text).toList.map toUpperRune)
  if upper = "USB" then .usb else if upper = "NETWORK" then .network else .unspecified

/-- `EnumeratedDevice`, with the answer of the lookup. -/
structure EnumeratedDevice where
  udid : String
  connectionType : String := ""
  /-- Name, model and product version; a lookup may fail. -/
  lookup : Option (String × String × String) := none

/-- `managedDevice`, the fields that only discovery writes. -/
structure DeviceDetails where
  connectionType : ConnectionType := .unspecified
  model : String := ""
  productVersion : String := ""
  deriving DecidableEq

/-- `NodeIosDevice`. -/
structure NodeIosDevice where
  udid : String
  name : String
  model : String
  productVersion : String
  connectionType : ConnectionType
  present : Bool
  claimed : Bool
  deviceId : String
  deviceControlOnline : Bool
  wdaState : WdaState
  wdaBundleId : String
  profileExpiresAt : String
  lastError : String
  configRevisionApplied : Int
  wdaProgress : Int
  wdaStage : String
  deriving DecidableEq

/-- `NodeIosDevicesReport` without the revision, the time and the identifier of the
request. -/
structure ReportContent where
  enumerateError : String
  devices : List NodeIosDevice
  deriving DecidableEq

/-- `toProto`. -/
def Phone.toProto (details : String → DeviceDetails) (phone : Phone) : NodeIosDevice where
  udid := phone.udid
  name := phone.name
  model := (details phone.udid).model
  productVersion := (details phone.udid).productVersion
  connectionType :=
    if phone.lanOn && !phone.present then .network else (details phone.udid).connectionType
  present := phone.present || phone.lanOn
  claimed := phone.claimed
  deviceId := phone.deviceId
  deviceControlOnline := phone.deviceControlOn
  wdaState := phone.wdaState
  wdaBundleId := phone.wdaBundle
  profileExpiresAt := phone.profileExpiresAt
  lastError := phone.lastError
  configRevisionApplied := phone.configRevision
  wdaProgress := phone.wdaProgress
  wdaStage := phone.wdaStage

/-! ## Which sections raise the revision -/

/-- The number of a state, for `%d`. -/
def WdaState.number : WdaState → Nat
  | .unspecified => 0
  | .missing => 1
  | .preparing => 2
  | .ready => 3
  | .renewalDue => 4
  | .expired => 5
  | .failed => 6
  | .installed => 7

/-- `wdaStateKey`. -/
def Phone.wdaStateKey (phone : Phone) : String :=
  toString phone.wdaState.number ++ "|" ++ toString phone.wdaProgress ++ "|" ++ phone.wdaStage ++
    "|" ++ phone.profileExpiresAt ++ "|" ++ phone.lastError

namespace Phones

variable (manager : Phones)

/-- Some phone has the number, and it is as asked. -/
def holds (test : Phone → Bool) (number : Option Nat) : Bool :=
  (number.bind fun number => manager.phones[number]?.map test).getD false

/-- START starts the loop: there is a credential and no handle. -/
def startable (phone : Phone) : Bool :=
  phone.credentialPath != "" && phone.cancel.isNone

/-- `noteWdaState` raises the revision when the key changes. -/
def marksNote (udid : String) (note : Phone → Phone) : Bool :=
  manager.holds (fun phone => (note phone).wdaStateKey != phone.wdaStateKey)
    (manager.findLocked "" udid)

/-- A note of the agent for the local network raises the revision. -/
def marksLan (udid : String) (test : Phone → Bool) : Bool :=
  trimSpace udid != "" && manager.holds test (manager.indexOf (trimSpace udid))

/-- The next section of a task raises the revision. -/
def marksTask : PhoneTask → Bool
  | .pairing _ _ _ => true
  | .resuming (.restart deviceId udid) _ =>
    manager.holds (fun phone => phone.credentialPath != "") (manager.findLocked deviceId udid)
  | .probing (udid :: _) => manager.holds startable (manager.findLocked "" udid)
  | _ => false

/-- A section raises the revision, discovery apart. -/
def marks : PhoneEvent → Bool
  | .release request => (manager.findLocked request.deviceId request.udid).isSome
  | .configure request =>
    manager.holds
      (fun phone =>
        !(request.configRevision != 0 && decide (request.configRevision ≤ phone.configRevision)))
      (manager.findLocked request.deviceId request.udid)
  | .control request =>
    manager.holds
      (fun phone =>
        match request.action with
        | .start => startable phone
        | .stop => phone.credentialPath != ""
        | .restart => phone.credentialPath != ""
        | .other _ => false)
      (manager.findLocked request.deviceId request.udid)
  | .advance index _ => (manager.tasks[index]?.map manager.marksTask).getD false
  | .detached udid => manager.holds (fun phone => phone.present) (manager.indexOf udid)
  | .onState loop online =>
    manager.holds (fun phone => online != phone.deviceControlOn) (manager.phoneOf loop)
  | .onWipe _ => true
  | .record _ _ => true
  | .jobStarted udid => manager.marksNote udid Phone.noteWdaJobStarted
  | .jobProgress udid percent stage =>
    manager.marksNote udid (Phone.noteWdaJobProgress percent stage)
  | .jobResult udid ok cancelled installed errorCode message profileExpiresAt =>
    manager.marksNote udid
      (Phone.noteWdaJobResult ok cancelled installed errorCode message profileExpiresAt)
  | .lanReachable udid on =>
    manager.marksLan udid fun phone => phone.lanOn != on && (on || !phone.present)
  | .lanPairingPending udid => manager.marksLan udid fun phone => !phone.lanOn
  | _ => false

/-- A section reports, discovery apart.  `ConfigureDevice` raises the revision in one
section and reports in another. -/
def sends : PhoneEvent → Bool
  | .configure _ => false
  | .advance index answer =>
    match manager.tasks[index]? with
    | some (.resuming .configure _) => true
    | _ => manager.marks (.advance index answer)
  | event => manager.marks event

end Phones

/-! ## Discovery -/

variable (list : List EnumeratedDevice)

/-- `DeviceInfo` that `applySnapshot` has for a phone: the last lookup that succeeded. -/
def infoOf (udid : String) : String × String × String :=
  ((list.filter fun device => device.udid = udid).filterMap EnumeratedDevice.lookup).getLast?.getD
    ("", "", "")

/-- The phones that are seen, each with its information. -/
def described : List (EnumeratedDevice × (String × String × String)) :=
  list.map fun device => (device, infoOf list device.udid)

/-- The phones that are seen, each with its own name. -/
def seen : List (String × String) :=
  (described list).map fun device => (device.1.udid, device.2.1)

/-- `upsertLocked`, for a field that is overwritten by what is known about it. -/
def refill (known current : String) : String :=
  if known ≠ "" ∧ known ≠ current then known else current

/-- `upsertLocked`, the fields that only discovery writes. -/
def DeviceDetails.upsert (details : DeviceDetails) (device : EnumeratedDevice)
    (info : String × String × String) : DeviceDetails where
  connectionType := toConnectionType device.connectionType
  model := refill info.2.1 details.model
  productVersion := refill info.2.2 details.productVersion

/-- `upsertLocked` changes something that is shown of a phone it knows. -/
def Phone.upserts (phone : Phone) (details : DeviceDetails) (device : EnumeratedDevice)
    (info : String × String × String) : Bool :=
  !phone.present || toConnectionType device.connectionType != details.connectionType ||
    (info.1 != "" && info.1 != phone.name && phone.name == "") ||
    (info.2.1 != "" && info.2.1 != details.model) ||
    (info.2.2 != "" && info.2.2 != details.productVersion)

/-- The loop over the phones that are seen: what is known, and whether it has changed. -/
structure Discovery where
  manager : Phones
  details : String → DeviceDetails
  changed : Bool := false

namespace Discovery

/-- `upsertLocked`. -/
def upsertLocked (discovery : Discovery)
    (seen : EnumeratedDevice × (String × String × String)) : Discovery :=
  let udid := seen.1.udid
  let known :=
    (discovery.manager.indexOf udid).bind fun number => discovery.manager.phones[number]?
  let details := if known.isSome then discovery.details udid else {}
  { manager := discovery.manager.upsert (udid, seen.2.1)
    details := Function.update discovery.details udid (details.upsert seen.1 seen.2)
    changed := discovery.changed ||
      match known with
      | none => true
      | some phone => phone.upserts details seen.1 seen.2 }

end Discovery

/-- `refreshWdaExpiryLocked` writes the state of a phone. -/
def Phone.refreshes (calendar : Calendar) (now : Int) (phone : Phone) : Bool :=
  decide (phone.wdaState = .ready ∨ phone.wdaState = .installed ∨ phone.wdaState = .renewalDue) &&
    match calendar.parse (trimSpace phone.profileExpiresAt) with
    | none => false
    | some expiry =>
      let window := if 0 < phone.renewBeforeDays then phone.renewBeforeDays else 14
      decide (expiry < now ∨ expiry < calendar.addDays now window)

/-! ## States and steps -/

/-- `DeviceManager`, with its reports. -/
structure Inventory where
  manager : Phones
  /-- Of each phone, the fields that only discovery writes. -/
  details : String → DeviceDetails := fun _ => {}
  enumerateError : String := ""
  snapshotRev : Nat := 0
  /-- The reports that have been made, latest first, each with its revision. -/
  reports : List (Nat × ReportContent) := []

/-- The steps of the manager, with those that only concern reports. -/
inductive InventoryEvent
  /-- A section, discovery apart. -/
  | manage (event : PhoneEvent)
  /-- `applySnapshot`. -/
  | enumerated (list : List EnumeratedDevice) (now : Int)
  /-- `Rescan` fails. -/
  | enumerateFailed (cause : String)
  /-- `run` has no event stream. -/
  | subscribeFailed (cause : String)
  /-- A report is made of what is known: `Snapshot`, `reportNow` and the end of
  `ConfigureDevice`. -/
  | request

/-- The event is discovery, which is a step of its own here. -/
def PhoneEvent.isDiscovery : PhoneEvent → Bool
  | .snapshot _ _ => true
  | _ => false

/-- The names of stages and the dates of expiry have no separator of `wdaStateKey`. -/
def PhoneEvent.Unseparated : PhoneEvent → Prop
  | .jobProgress _ _ stage => '|' ∉ stage.toList
  | .jobResult _ _ _ _ _ _ profileExpiresAt => '|' ∉ profileExpiresAt.toList
  | _ => True

instance (event : PhoneEvent) : Decidable event.Unseparated := by
  delta PhoneEvent.Unseparated
  rcases event with _ | _ <;> infer_instance

namespace Inventory

variable (inventory : Inventory)

/-- `sortedDevices`, and what is shown of each. -/
def devices : List NodeIosDevice :=
  (inventory.manager.phones.map (Phone.toProto inventory.details)).mergeSort
    fun left right => decide (left.udid ≤ right.udid)

/-- `snapshotLocked`. -/
def content : ReportContent where
  enumerateError := inventory.enumerateError
  devices := inventory.devices

/-- `markDirtyLocked`, when something has changed. -/
def markDirty (changed : Bool) : Inventory :=
  if changed then { inventory with snapshotRev := inventory.snapshotRev + 1 } else inventory

/-- `reportLocked`, if it is called. -/
def report (sent : Bool) : Inventory :=
  if sent then
    { inventory with reports := (inventory.snapshotRev, inventory.content) :: inventory.reports }
  else inventory

/-- `applySnapshot`: the loop over the phones that are seen. -/
def discover (list : List EnumeratedDevice) : Discovery :=
  (described list).foldl Discovery.upsertLocked ⟨inventory.manager, inventory.details, false⟩

variable (calendar : Calendar)

/-- `applySnapshot`: something that is shown has changed. -/
def discoveryChanges (list : List EnumeratedDevice) (now : Int) : Bool :=
  let phones := (inventory.discover list).manager.phones
  (inventory.discover list).changed ||
    phones.any (fun phone => phone.present && decide (phone.udid ∉ (seen list).map Prod.fst)) ||
    inventory.enumerateError != "" || phones.any (Phone.refreshes calendar now)

/-- `applySnapshot`: what is known afterwards; the probe follows. -/
def discovered (list : List EnumeratedDevice) (now : Int) : Inventory :=
  { inventory with
    manager := (inventory.manager.snapshot calendar (seen list) now).spawn .collecting
    details := (inventory.discover list).details
    enumerateError := "" }

/-- `applySnapshot`. -/
def applySnapshot (list : List EnumeratedDevice) (now : Int) : Inventory :=
  let changed := inventory.discoveryChanges calendar list now
  ((inventory.discovered calendar list now).markDirty changed).report changed

/-- One step. -/
def step (calendar : Calendar) : Step Inventory InventoryEvent
  | inventory, .manage event =>
    if event.isDiscovery then none
    else
      (Phones.step calendar inventory.manager event).map fun manager =>
        ({ inventory with manager := manager }.markDirty (inventory.manager.marks event)).report
          (inventory.manager.sends event)
  | inventory, .enumerated list now => some (inventory.applySnapshot calendar list now)
  | inventory, .enumerateFailed cause =>
    some (({ inventory with enumerateError := cause }.markDirty
      (inventory.enumerateError != cause)).report true)
  | inventory, .subscribeFailed cause =>
    some ({ inventory with
      enumerateError := "device event stream unavailable: " ++ cause }.markDirty true)
  | inventory, .request => some (inventory.report true)

/-- `NewDeviceManager`. -/
def new (configDir : String) (configs : List DeviceConfig) : Inventory where
  manager := Phones.new configDir configs

/-- The names of stages and the dates of expiry have no separator of `wdaStateKey`. -/
def unseparated : Discipline Inventory InventoryEvent
  | _, .manage event => event.Unseparated
  | _, _ => True

instance (inventory : Inventory) (event : InventoryEvent) :
    Decidable (unseparated inventory event) := by
  unfold unseparated
  split <;> infer_instance

end Inventory

/-! ## The key of a phone -/

namespace Phone

variable (phone : Phone)

/-- The fields that the notes about jobs write. -/
def wdaFields : WdaState × Int × String × String × String :=
  (phone.wdaState, phone.wdaProgress, phone.wdaStage, phone.profileExpiresAt, phone.lastError)

/-- A phone with other fields of that kind. -/
def setWda (fields : WdaState × Int × String × String × String) : Phone :=
  { phone with
    wdaState := fields.1
    wdaProgress := fields.2.1
    wdaStage := fields.2.2.1
    profileExpiresAt := fields.2.2.2.1
    lastError := fields.2.2.2.2 }

/-- Two fields of the key have no separator. -/
structure Unseparated (phone : Phone) : Prop where
  stage : '|' ∉ phone.wdaStage.toList
  expiry : '|' ∉ phone.profileExpiresAt.toList

theorem setWda_wdaFields : phone.setWda phone.wdaFields = phone :=
  rfl

theorem setWda_noteWdaJobStarted :
    phone.setWda phone.noteWdaJobStarted.wdaFields = phone.noteWdaJobStarted := by
  simp only [setWda, wdaFields, noteWdaJobStarted]

theorem setWda_noteWdaJobProgress (percent : Int) (stage : String) :
    phone.setWda (phone.noteWdaJobProgress percent stage).wdaFields =
      phone.noteWdaJobProgress percent stage := by
  unfold noteWdaJobProgress
  split <;> simp only [setWda, wdaFields]

theorem setWda_noteWdaJobResult (ok cancelled installed : Bool)
    (errorCode message profileExpiresAt : String) :
    phone.setWda (phone.noteWdaJobResult ok cancelled installed errorCode message
        profileExpiresAt).wdaFields =
      phone.noteWdaJobResult ok cancelled installed errorCode message profileExpiresAt := by
  unfold noteWdaJobResult
  split
  · split <;> simp only [setWda, wdaFields]
  · split <;> simp only [setWda, wdaFields]

end Phone

theorem WdaState.number_injective {state other : WdaState} (same : state.number = other.number) :
    state = other := by
  cases state <;> cases other <;> first | rfl | cases same

namespace Phone

variable {phone : Phone}

/-- Without separators in the fields, the key determines them. -/
theorem wdaFields_of_wdaStateKey {other : Phone} (unseparated : phone.Unseparated)
    (also : other.Unseparated) (same : phone.wdaStateKey = other.wdaStateKey) :
    phone.wdaFields = other.wdaFields := by
  have runes := congrArg String.toList same
  simp only [wdaStateKey, String.toList_append, append_assoc] at runes
  have bar : "|".toList = ['|'] := rfl
  have number : ∀ value : Nat, '|' ∉ (toString value).toList := by
    intro value
    rw [Nat.toString_eq_ofList_toDigits, String.toList_ofList]
    exact notMem_toDigits (by decide) value
  have integer : ∀ value : Int, '|' ∉ (toString value).toList :=
    notMem_toString_int (by decide) (by decide)
  obtain ⟨states, runes⟩ := append_cons_injective_of_notMem_left (number _) (number _) runes
  obtain ⟨progress, runes⟩ := append_cons_injective_of_notMem_left (integer _) (integer _) runes
  obtain ⟨stages, runes⟩ := append_cons_injective_of_notMem_left unseparated.stage also.stage runes
  obtain ⟨expiries, errors⟩ :=
    append_cons_injective_of_notMem_left unseparated.expiry also.expiry runes
  have sameState : phone.wdaState = other.wdaState := by
    apply WdaState.number_injective
    rw [Nat.toString_eq_ofList_toDigits, Nat.toString_eq_ofList_toDigits,
      String.toList_ofList, String.toList_ofList] at states
    exact toDigits_ten_injective states
  rw [Int.toString_eq_repr, Int.toString_eq_repr] at progress
  have sameProgress := Int.repr_injective (String.toList_inj.mp progress)
  have sameStage := String.toList_inj.mp stages
  have sameExpiry := String.toList_inj.mp expiries
  have sameError := String.toList_inj.mp errors
  simp only [wdaFields, sameState, sameProgress, sameStage, sameExpiry, sameError]

/-- A note that leaves the key alone leaves the phone alone. -/
theorem eq_of_wdaStateKey {noted : Phone} (unseparated : phone.Unseparated)
    (also : noted.Unseparated) (limited : phone.setWda noted.wdaFields = noted)
    (same : noted.wdaStateKey = phone.wdaStateKey) : noted = phone := by
  rw [← limited, wdaFields_of_wdaStateKey also unseparated same, setWda_wdaFields]

/-! ## Changes keep the fields of the key without separators -/

theorem Unseparated.of_eq {other : Phone} (unseparated : phone.Unseparated)
    (stage : other.wdaStage = phone.wdaStage)
    (expiry : other.profileExpiresAt = phone.profileExpiresAt) : other.Unseparated where
  stage := stage ▸ unseparated.stage
  expiry := expiry ▸ unseparated.expiry

/-- A setting is what it was or part of what is wanted. -/
theorem notMem_setting {rune : Char} {wanted current : String} (absent : rune ∉ wanted.toList)
    (also : rune ∉ current.toList) : rune ∉ (setting wanted current).toList := by
  unfold setting
  split
  · exact fun member => absent (mem_of_mem_trimSpace member)
  · exact also

section UnseparatedPhone

variable (unseparated : phone.Unseparated)

include unseparated

namespace Unseparated

theorem noteWdaJobProgress (percent : Int) {stage : String} (plain : '|' ∉ stage.toList) :
    (phone.noteWdaJobProgress percent stage).Unseparated := by
  have known := notMem_setting plain unseparated.stage
  unfold Phone.noteWdaJobProgress
  split
  · constructor
    · dsimp only
      exact known
    · exact unseparated.expiry
  · exact unseparated

theorem noteWdaJobResult
    (ok cancelled installed : Bool) (errorCode message : String) {profileExpiresAt : String}
    (plain : '|' ∉ profileExpiresAt.toList) :
    (phone.noteWdaJobResult ok cancelled installed errorCode message
      profileExpiresAt).Unseparated := by
  have idle : '|' ∉ "".toList := by decide
  have known := notMem_setting plain unseparated.expiry
  unfold Phone.noteWdaJobResult
  split
  · split <;> exact ⟨idle, unseparated.expiry⟩
  split
  · constructor
    · exact idle
    · dsimp only
      exact known
  · exact ⟨idle, unseparated.expiry⟩

theorem adopt (request : ClaimDevice) (name deviceId credentialPath : String) :
    (phone.adopt request name deviceId credentialPath).Unseparated := by
  constructor <;> dsimp only [Phone.adopt]
  · exact unseparated.stage
  · exact unseparated.expiry

theorem configure (request : ConfigureDevice) : (phone.configure request).Unseparated := by
  constructor <;> dsimp only [Phone.configure]
  · exact unseparated.stage
  · exact unseparated.expiry

theorem onState (online : Bool) : (phone.onState online).Unseparated := by
  unfold Phone.onState
  split_ifs
  · exact unseparated
  · exact unseparated.of_eq rfl rfl
  · exact unseparated.of_eq rfl rfl
  · exact unseparated.of_eq rfl rfl

theorem detach : phone.detach.Unseparated := by
  unfold Phone.detach
  split_ifs
  · exact unseparated.of_eq rfl rfl
  · exact unseparated

theorem noteLanPairingPending : phone.noteLanPairingPending.Unseparated := by
  unfold Phone.noteLanPairingPending
  split_ifs
  · exact unseparated
  · exact unseparated.of_eq rfl rfl

theorem refreshWdaExpiry (calendar : Calendar)
    (now : Int) : (phone.refreshWdaExpiry calendar now).Unseparated := by
  rcases phone.exists_refreshWdaExpiry_eq calendar now with ⟨state, same⟩
  rw [same]
  exact unseparated.of_eq rfl rfl

theorem noteWdaJobStarted : phone.noteWdaJobStarted.Unseparated := by
  have queued : '|' ∉ "queued".toList := by decide
  exact ⟨queued, unseparated.expiry⟩

end Unseparated

end UnseparatedPhone

/-- A tunnel that goes while the cable is attached is not shown. -/
theorem toProto_noteLanReachable (details : String → DeviceDetails) {on : Bool}
    (same : ¬phone.lanOn = on → on = false ∧ phone.present = true) :
    (phone.noteLanReachable on).toProto details = phone.toProto details := by
  by_cases flipped : phone.lanOn = on
  · simp [noteLanReachable, toProto, flipped]
  · rcases same flipped with ⟨rfl, attached⟩
    simp [noteLanReachable, toProto, attached]

end Phone

namespace Phones

variable {calendar : Calendar} {manager after : Phones} {event : PhoneEvent} {number : Nat}
  {change : Phone → Phone} {phone : Phone}

/-- No phone has a separator in those fields. -/
def Unseparated (manager : Phones) : Prop :=
  ∀ phone ∈ manager.phones, phone.Unseparated

variable {manager : Phones}

theorem Unseparated.of_cores {after : Phones} (unseparated : manager.Unseparated)
    (same : after.cores = manager.cores) : after.Unseparated := by
  intro phone member
  have shared : phone.core ∈ manager.cores := same ▸ mem_map_of_mem member
  rcases mem_map.mp shared with ⟨old, there, cored⟩
  have stage : old.core.wdaStage = phone.core.wdaStage := congrArg Phone.wdaStage cored
  have expiry : old.core.profileExpiresAt = phone.core.profileExpiresAt :=
    congrArg Phone.profileExpiresAt cored
  exact (unseparated old there).of_eq stage.symm expiry.symm

theorem Unseparated.edit (unseparated : manager.Unseparated)
    (keeps : ∀ phone, phone.Unseparated → (change phone).Unseparated) :
    (manager.edit number change).Unseparated := by
  intro phone member
  rcases mem_iff_getElem?.mp member with ⟨place, present⟩
  rcases getElem?_modify_eq_some_iff.mp present with ⟨old, there, rfl⟩
  have before := unseparated old (mem_of_getElem? there)
  split_ifs
  · exact keeps old before
  · exact before

/-- The change of an event keeps those fields without separators. -/
theorem unseparated_of_makes (makes : manager.Makes event number change)
    (plain : event.Unseparated) (unseparated : phone.Unseparated) : (change phone).Unseparated := by
  cases makes with
  | release | halt | onWipe | exit | lanReachable => exact unseparated.of_eq rfl rfl
  | configure => exact unseparated.configure _
  | detach => exact unseparated.detach
  | onState present online => exact unseparated.onState online
  | jobStarted => exact unseparated.noteWdaJobStarted
  | jobProgress found percent stage => exact unseparated.noteWdaJobProgress percent plain
  | jobResult found ok cancelled installed errorCode message profileExpiresAt =>
    exact unseparated.noteWdaJobResult ok cancelled installed errorCode message plain
  | lanPairingPending => exact unseparated.noteLanPairingPending

/-! ## A section that changes what is shown raises the revision -/

@[simp]
theorem holds_some {test : Phone → Bool} (present : manager.phones[number]? = some phone) :
    manager.holds test (some number) = test phone := by
  simp [holds, present]

/-- A note that does not raise the revision leaves the phone alone. -/
theorem eq_of_marksNote {udid : String} {note : Phone → Phone}
    (unseparated : manager.Unseparated) (unmarked : manager.marksNote udid note = false)
    (found : manager.findLocked "" udid = some number)
    (present : manager.phones[number]? = some phone)
    (limited : phone.setWda (note phone).wdaFields = note phone)
    (also : (note phone).Unseparated) : note phone = phone := by
  rw [marksNote, found, holds_some present] at unmarked
  exact Phone.eq_of_wdaStateKey (unseparated phone (mem_of_getElem? present)) also limited
    (by simpa using unmarked)

variable (details : String → DeviceDetails)

/-- What is shown of the phones. -/
def shown (manager : Phones) : List NodeIosDevice :=
  manager.phones.map (Phone.toProto details)

theorem Akin.shown (akin : Akin manager after) (details : String → DeviceDetails) :
    after.shown details = manager.shown details :=
  akin.map_eq (Phone.toProto details) fun _ => rfl

theorem shown_edit (same : ∀ phone, manager.phones[number]? = some phone →
      (change phone).toProto details = phone.toProto details) :
    (manager.edit number change).shown details = manager.shown details := by
  have kept : (manager.edit number change).shown details =
      (manager.edit number id).shown details := map_modify_congr same
  rw [kept, edit, modify_id]

/-- The end of a pairing raises the revision. -/
theorem marks_of_pairing {index : Nat} {answer : TaskAnswer} {pairing : Pairing}
    (underWay : manager.pairingAt index = some pairing) :
    manager.marks (.advance index answer) = true := by
  rcases Option.bind_eq_some_iff.mp underWay with ⟨task, present, pairs⟩
  rw [marks, present]
  cases task with
  | pairing => rfl
  | _ => cases pairs

theorem Unseparated.new (configDir : String) (configs : List DeviceConfig) :
    (Phones.new configDir configs).Unseparated := by
  have idle : '|' ∉ "".toList := by decide
  intro phone member
  rcases exists_config_of_mem_new member with ⟨config, rfl⟩
  exact ⟨idle, idle⟩

section UnseparatedPhones

variable (unseparated : manager.Unseparated)

include unseparated

/-- A section that does not raise the revision shows the phone as before. -/
theorem toProto_of_unmarked (plain : event.Unseparated) (makes : manager.Makes event number change)
    (unmarked : manager.marks event = false) (present : manager.phones[number]? = some phone) :
    (change phone).toProto details = phone.toProto details := by
  have before := unseparated phone (mem_of_getElem? present)
  cases makes with
  | release found => simp [marks, found] at unmarked
  | configure applies =>
    rw [marks, applies.found, holds_some applies.present] at unmarked
    exact absurd (by simpa using unmarked) applies.passes
  | halt halts stopped =>
    rw [marks, halts.found, holds_some halts.present] at unmarked
    rcases halts.action with action | action <;> simp [action, halts.paired] at unmarked
  | detach found =>
    rw [marks, found, holds_some present] at unmarked
    simp [Phone.detach, unmarked]
  | @onState index loop running online =>
    have located : manager.phoneOf index = some loop.phone := by simp [phoneOf, running]
    rw [marks, located, holds_some present] at unmarked
    have idle : online = phone.deviceControlOn := by simpa using unmarked
    rw [Phone.onState, if_pos idle]
  | onWipe | exit => cases unmarked
  | jobStarted found =>
    rw [eq_of_marksNote unseparated unmarked found present
      phone.setWda_noteWdaJobStarted before.noteWdaJobStarted]
  | jobProgress found percent stage =>
    rw [eq_of_marksNote unseparated unmarked found present
      (phone.setWda_noteWdaJobProgress percent stage) (before.noteWdaJobProgress percent plain)]
  | jobResult found ok cancelled installed errorCode message profileExpiresAt =>
    rw [eq_of_marksNote unseparated unmarked found present
      (phone.setWda_noteWdaJobResult ok cancelled installed errorCode message profileExpiresAt)
      (before.noteWdaJobResult ok cancelled installed errorCode message plain)]
  | lanReachable named found on =>
    rw [marks, marksLan, found, holds_some present] at unmarked
    exact Phone.toProto_noteLanReachable details (by simpa [named] using unmarked)
  | lanPairingPending named found =>
    rw [marks, marksLan, found, holds_some present] at unmarked
    have reached : phone.lanOn = true := by simpa [named] using unmarked
    rw [Phone.noteLanPairingPending, if_pos reached]

/-- A section that does not raise the revision shows all phones as before. -/
theorem shown_of_unmarked (plain : event.Unseparated)
    (quiet : ∀ seen now, event ≠ .snapshot seen now)
    (stepped : step calendar manager event = some after) (unmarked : manager.marks event = false) :
    after.shown details = manager.shown details := by
  cases step_changes stepped with
  | same unchanged unpaired akin => exact akin.shown details
  | found => exact absurd rfl (quiet _ _)
  | reserve reserves akin =>
    exact (akin.shown details).trans (shown_edit details fun _ _ => rfl)
  | giveUp underWay failed akin | adopt underWay paired akin =>
    cases (marks_of_pairing underWay).symm.trans unmarked
  | change makes akin =>
    apply (akin.shown details).trans
    exact shown_edit details fun phone present =>
      toProto_of_unmarked details unseparated plain makes unmarked present

/-- A section keeps the fields of the key without separators. -/
theorem Unseparated.step {after : Phones} (plain : event.Unseparated)
    (quiet : ∀ seen now, event ≠ .snapshot seen now)
    (stepped : Phones.step calendar manager event = some after) : after.Unseparated := by
  cases step_changes stepped with
  | same unchanged unpaired akin => exact unseparated.of_cores akin.cores
  | found => exact absurd rfl (quiet _ _)
  | reserve reserves akin | giveUp underWay failed akin =>
    refine Unseparated.of_cores (?_ : (manager.edit _ _).Unseparated) akin.cores
    exact unseparated.edit fun phone before => before.of_eq rfl rfl
  | adopt underWay paired akin =>
    refine Unseparated.of_cores (?_ : (manager.edit _ _).Unseparated) akin.cores
    exact unseparated.edit fun phone before => before.adopt _ _ _ _
  | change makes akin =>
    refine Unseparated.of_cores (?_ : (manager.edit _ _).Unseparated) akin.cores
    exact unseparated.edit fun phone before => unseparated_of_makes makes plain before

theorem Unseparated.upsert (seen : String × String) : (manager.upsert seen).Unseparated := by
  have idle : '|' ∉ "".toList := by decide
  unfold Phones.upsert
  split
  · exact unseparated.edit fun phone before => before.of_eq rfl rfl
  exact forall_mem_append.mpr ⟨unseparated, forall_mem_singleton.mpr ⟨idle, idle⟩⟩

/-- Discovery keeps the fields of the key without separators. -/
theorem Unseparated.snapshot (calendar : Calendar) (seen : List (String × String)) (now : Int) :
    (manager.snapshot calendar seen now).Unseparated := by
  have upserted : (seen.foldl Phones.upsert manager).Unseparated :=
    foldlRecOn seen _ unseparated fun _ kept device _ => kept.upsert device
  intro phone member
  rcases mem_map.mp member with ⟨old, there, rfl⟩
  apply Phone.Unseparated.refreshWdaExpiry
  split_ifs
  · exact upserted old there
  · exact (upserted old there).of_eq rfl rfl

end UnseparatedPhones

end Phones

/-! ## Discovery that changes nothing -/

theorem refill_eq {known current : String}
    (same : (known != "" && known != current) = false) : refill known current = current := by
  unfold refill
  rw [if_neg]
  simpa using same

namespace Phones

variable {manager : Phones}

theorem upsert_eq_self {udid name : String} {phone : Phone} {number : Nat}
    (located : manager.indexOf udid = some number)
    (present : manager.phones[number]? = some phone) (attached : phone.present = true)
    (named : ¬(name ≠ "" ∧ phone.name = "")) : manager.upsert (udid, name) = manager := by
  have same : phone.upsert name = phone := by
    rw [Phone.upsert, if_neg named, ← attached]
  unfold upsert
  rw [located]
  dsimp only [edit]
  rw [modify_eq_set present, same, set_eq_self present]

end Phones

/-- `upsertLocked` that changes nothing leaves what is known of a phone alone. -/
theorem Phone.upserts_eq_false {phone : Phone} {details : DeviceDetails}
    {device : EnumeratedDevice} {info : String × String × String}
    (same : phone.upserts details device info = false) :
    phone.present = true ∧ ¬(info.1 ≠ "" ∧ phone.name = "") ∧
      details.upsert device info = details := by
  unfold Phone.upserts at same
  simp only [Bool.or_eq_false_iff] at same
  rcases same with ⟨⟨⟨⟨attached, connection⟩, named⟩, model⟩, version⟩
  refine ⟨by simpa using attached, ?_, ?_⟩
  · rintro ⟨known, blank⟩
    simp [known, blank] at named
  · have type : toConnectionType device.connectionType = details.connectionType := by
      simpa using connection
    rw [DeviceDetails.upsert, type, refill_eq model, refill_eq version]

namespace Discovery

variable {discovery : Discovery}

/-- One turn of the loop. -/
theorem upsertLocked_eq_self {seen : EnumeratedDevice × (String × String × String)}
    (same : (discovery.upsertLocked seen).changed = false) :
    discovery.upsertLocked seen = discovery := by
  unfold upsertLocked at same ⊢
  dsimp only at same ⊢
  rw [Bool.or_eq_false_iff] at same
  cases known : (discovery.manager.indexOf seen.1.udid).bind fun number =>
      discovery.manager.phones[number]? with
  | none =>
    rw [known] at same
    cases same.2
  | some phone =>
    rcases Option.bind_eq_some_iff.mp known with ⟨number, located, present⟩
    rw [known] at same
    rcases Phone.upserts_eq_false same.2 with ⟨attached, named, details⟩
    have kept : (discovery.details seen.1.udid).upsert seen.1 seen.2 =
        discovery.details seen.1.udid := details
    have unchanged : (discovery.changed || phone.upserts (discovery.details seen.1.udid) seen.1
        seen.2) = discovery.changed := by
      rw [same.1]
      exact same.2
    simp only [Option.isSome_some, if_true, unchanged, kept, Function.update_eq_self,
      Phones.upsert_eq_self located present attached named]

/-- The loop. -/
theorem foldl_upsertLocked_eq_self (list : List (EnumeratedDevice × (String × String × String)))
    (same : (list.foldl upsertLocked discovery).changed = false) :
    list.foldl upsertLocked discovery = discovery := by
  induction list generalizing discovery with
  | nil => rfl
  | cons seen rest ih =>
    have later := ih same
    rw [foldl_cons] at same ⊢
    rw [later] at same ⊢
    exact upsertLocked_eq_self same

/-- The loop upserts each phone. -/
theorem manager_foldl_upsertLocked (discovery : Discovery)
    (list : List (EnumeratedDevice × (String × String × String))) :
    (list.foldl upsertLocked discovery).manager =
      (list.map fun device => (device.1.udid, device.2.1)).foldl Phones.upsert
        discovery.manager := by
  induction list generalizing discovery with
  | nil => rfl
  | cons seen rest ih =>
    rw [foldl_cons, ih]
    rfl

end Discovery

/-- A phone that the clock does not change. -/
theorem Phone.refreshWdaExpiry_eq_self {calendar : Calendar} {now : Int} {phone : Phone}
    (same : phone.refreshes calendar now = false) :
    phone.refreshWdaExpiry calendar now = phone := by
  unfold refreshes at same
  unfold refreshWdaExpiry
  generalize (if 0 < phone.renewBeforeDays then phone.renewBeforeDays else 14) = window at same ⊢
  split
  · rename_i tracked
    cases parsed : calendar.parse (trimSpace phone.profileExpiresAt) with
    | none => rfl
    | some expiry =>
      rw [parsed] at same
      have later : now ≤ expiry ∧ calendar.addDays now window ≤ expiry := by
        simpa [tracked] using same
      dsimp only
      rw [if_neg (not_lt.mpr later.1), if_neg (not_lt.mpr later.2)]
  · rfl

namespace Inventory

variable {calendar : Calendar} {inventory after : Inventory} {event : InventoryEvent}

/-- The report may be made, and the revision may be raised. -/
theorem dated_report (sent : Bool)
    (dated : Dated inventory.reports inventory.snapshotRev inventory.content) :
    Dated (inventory.report sent).reports (inventory.report sent).snapshotRev
      (inventory.report sent).content := by
  cases sent with
  | false => exact dated
  | true => exact dated.write

/-- A section changes the content only if it raises the revision. -/
theorem dated_markDirty (inventory after : Inventory) {changed : Bool}
    (dated : Dated after.reports after.snapshotRev inventory.content)
    (same : changed = false → after.content = inventory.content) :
    Dated (after.markDirty changed).reports (after.markDirty changed).snapshotRev
      (after.markDirty changed).content := by
  cases changed with
  | false =>
    rw [markDirty, if_neg Bool.false_ne_true, same rfl]
    exact dated
  | true => exact dated.advance (Nat.lt_succ_self _)

/-- Discovery that changes nothing leaves the phones alone. -/
theorem phones_discovered {list : List EnumeratedDevice} {now : Int}
    (same : inventory.discoveryChanges calendar list now = false) :
    (inventory.discovered calendar list now).manager.phones = inventory.manager.phones ∧
      (inventory.discovered calendar list now).details = inventory.details ∧
      inventory.enumerateError = "" := by
  unfold discoveryChanges at same
  simp only [Bool.or_eq_false_iff] at same
  rcases same with ⟨⟨⟨folded, swept⟩, silent⟩, dated⟩
  have kept : inventory.discover list = ⟨inventory.manager, inventory.details, false⟩ :=
    Discovery.foldl_upsertLocked_eq_self _ folded
  have upserted : (seen list).foldl Phones.upsert inventory.manager = inventory.manager := by
    have through := Discovery.manager_foldl_upsertLocked
      ⟨inventory.manager, inventory.details, false⟩ (described list)
    exact through.symm.trans (congrArg Discovery.manager kept)
  rw [kept] at swept dated
  refine ⟨?_, congrArg Discovery.details kept, by simpa using silent⟩
  have phones : (inventory.manager.snapshot calendar (seen list) now).phones =
      inventory.manager.phones := by
    unfold Phones.snapshot
    rw [upserted]
    refine (map_congr_left (g := id) ?_).trans (map_id _)
    intro phone member
    have still := any_eq_false.mp dated phone member
    have attached := any_eq_false.mp swept phone member
    split_ifs with listed
    · exact Phone.refreshWdaExpiry_eq_self (by simpa using still)
    · have absent : phone.present = false := by simpa [listed] using attached
      rw [← absent]
      exact Phone.refreshWdaExpiry_eq_self (by simpa using still)
  exact phones

theorem content_congr {inventory after : Inventory}
    (shown : after.manager.phones.map (Phone.toProto after.details) =
      inventory.manager.phones.map (Phone.toProto inventory.details))
    (error : after.enumerateError = inventory.enumerateError) :
    after.content = inventory.content := by
  rw [content, content, devices, devices, shown, error]

/-- What holds of every reachable state: a revision determines the report. -/
structure Faithful (inventory : Inventory) : Prop where
  dated : Dated inventory.reports inventory.snapshotRev inventory.content
  unseparated : inventory.manager.Unseparated

theorem manager_report (inventory : Inventory) (sent : Bool) :
    (inventory.report sent).manager = inventory.manager := by
  unfold report
  split <;> rfl

theorem manager_markDirty (inventory : Inventory) (changed : Bool) :
    (inventory.markDirty changed).manager = inventory.manager := by
  unfold markDirty
  split <;> rfl

section Faithful

variable (faithful : inventory.Faithful)

include faithful

/-- A section of the manager. -/
theorem Faithful.manage {event : PhoneEvent} {manager : Phones}
    (quiet : ∀ seen now, event ≠ .snapshot seen now) (plain : event.Unseparated)
    (stepped : Phones.step calendar inventory.manager event = some manager) :
    (({ inventory with manager := manager }.markDirty (inventory.manager.marks event)).report
      (inventory.manager.sends event)).Faithful where
  dated := by
    apply dated_report
    apply dated_markDirty inventory { inventory with manager := manager } faithful.dated
    intro unmarked
    exact content_congr
      (Phones.shown_of_unmarked inventory.details faithful.unseparated plain quiet stepped unmarked)
      rfl
  unseparated := by
    rw [manager_report, manager_markDirty]
    exact faithful.unseparated.step plain quiet stepped

/-- Discovery. -/
theorem Faithful.applySnapshot (calendar : Calendar) (list : List EnumeratedDevice) (now : Int) :
    (inventory.applySnapshot calendar list now).Faithful where
  dated := by
    apply dated_report
    apply dated_markDirty inventory (inventory.discovered calendar list now) faithful.dated
    intro same
    rcases phones_discovered same with ⟨phones, details, silent⟩
    apply content_congr
    · rw [phones, details]
    · exact silent.symm
  unseparated := by
    unfold Inventory.applySnapshot
    rw [manager_report, manager_markDirty]
    exact faithful.unseparated.snapshot calendar (seen list) now

/-- A failed enumeration. -/
theorem Faithful.enumerateFailed (cause : String) :
    (({ inventory with enumerateError := cause }.markDirty
      (inventory.enumerateError != cause)).report true).Faithful where
  dated := by
    apply dated_report
    apply dated_markDirty inventory { inventory with enumerateError := cause } faithful.dated
    intro same
    have known : inventory.enumerateError = cause := by simpa using same
    rw [← known]
  unseparated := by
    rw [manager_report, manager_markDirty]
    exact faithful.unseparated

theorem Faithful.step (plain : Inventory.unseparated inventory event)
    (stepped : Inventory.step calendar inventory event = some after) : after.Faithful := by
  cases event with
  | manage event =>
    rw [Inventory.step] at stepped
    split at stepped
    · cases stepped
    · rename_i elsewhere
      rcases Option.map_eq_some_iff.mp stepped with ⟨manager, managed, rfl⟩
      have quiet : ∀ seen now, event ≠ .snapshot seen now := by
        rintro seen now rfl
        exact elsewhere rfl
      exact faithful.manage quiet plain managed
  | enumerated list now =>
    cases stepped
    exact faithful.applySnapshot calendar list now
  | enumerateFailed cause =>
    cases stepped
    exact faithful.enumerateFailed cause
  | subscribeFailed =>
    cases stepped
    exact ⟨faithful.dated.advance (Nat.lt_succ_self _), faithful.unseparated⟩
  | request =>
    cases stepped
    exact ⟨dated_report true faithful.dated, faithful.unseparated⟩

end Faithful

theorem Faithful.new (configDir : String) (configs : List DeviceConfig) :
    (Inventory.new configDir configs).Faithful where
  dated := Dated.nil _ _
  unseparated := Phones.Unseparated.new configDir configs

/-- In every run, reports with one revision have one content, and revisions never
decrease. -/
theorem revision_identifies_content {configDir : String} {configs : List DeviceConfig}
    {calendar : Calendar} {inventory : Inventory}
    (run : Reaches (step calendar) unseparated (new configDir configs) inventory) :
    (∀ report ∈ inventory.reports, ∀ other ∈ inventory.reports,
      report.1 = other.1 → report.2 = other.2) ∧
    inventory.reports.Pairwise fun newer older => older.1 ≤ newer.1 := by
  have faithful : inventory.Faithful :=
    run.invariant (P := Faithful) (Faithful.new configDir configs)
      fun _ faithful plain stepped => faithful.step plain stepped
  constructor
  · intro report member other also same
    exact faithful.dated.content_eq member also same
  · exact faithful.dated.dates

/-- A phone is discovered, the server asks twice, and the phone is renamed by a claim. -/
def rescanned : List InventoryEvent :=
  [.enumerated [⟨"u", "USB", some ("phone", "iPhone", "17.0")⟩] 0, .request, .request,
    .manage (.claim ⟨"u", "code", "server", "", "", "", "", 1⟩),
    .manage (.advance 1 { paired := .ok "id" }), .request]

/-- Five reports, of two revisions: the first three show what the first one does. -/
theorem revision_identifies_content_rescanned :
    ∃ inventory, Reaches (step Phones.noDates) unseparated (new "" []) inventory ∧
      inventory.reports.map Prod.fst = [2, 2, 1, 1, 1] ∧
      (∀ report ∈ inventory.reports, ∀ other ∈ inventory.reports,
        report.1 = other.1 → report.2 = other.2) ∧
      inventory.reports.Pairwise fun newer older => older.1 ≤ newer.1 := by
  refine exists_reaches_and_of_run rescanned (by decide +kernel) ?_
  intro inventory run _
  exact revision_identifies_content run

end Inventory

/-! ## The clock -/

section Clock

open Phone

variable (calendar : Calendar) (now : Int) (phone : Phone) (phones : List Phone)

/-- `refreshWdaExpiryLocked`: the phones, and whether a state was written. -/
def refreshWdaExpiryLocked : List Phone × Bool :=
  (phones.map (refreshWdaExpiry calendar now), phones.any (refreshes calendar now))

/-- How far the badge of a phone has come. -/
def Phone.badge : Nat :=
  match phone.wdaState with
  | .expired => 2
  | .renewalDue => 1
  | _ => 0

/-- The phone after the clock was read at some times. -/
def Phone.aged (times : List Int) : Phone :=
  times.foldl (fun phone now => phone.refreshWdaExpiry calendar now) phone

/-- The refresh says whether a state has changed, a second one at the same time does
nothing, and badges only move forward. -/
structure RefreshHonest : Prop where
  changed : (refreshWdaExpiryLocked calendar now phones).2 = true ↔
    ∃ phone ∈ phones, (phone.refreshWdaExpiry calendar now).wdaState ≠ phone.wdaState
  again : refreshWdaExpiryLocked calendar now (refreshWdaExpiryLocked calendar now phones).1 =
    ((refreshWdaExpiryLocked calendar now phones).1, false)
  forward : ∀ phone ∈ phones, ∀ earlier later : List Int, (earlier ++ later).Pairwise (· ≤ ·) →
    (phone.aged calendar earlier).badge ≤ (phone.aged calendar (earlier ++ later)).badge

/-- The profile of the phone has not expired but is in the renewal window, and the phone is in
one of the states that the refresh looks at. -/
def Phone.InWindow : Prop :=
  (phone.wdaState = .ready ∨ phone.wdaState = .installed ∨ phone.wdaState = .renewalDue) ∧
    ∃ expiry ∈ calendar.parse (trimSpace phone.profileExpiresAt), now ≤ expiry ∧
      expiry < calendar.addDays now
        (if 0 < phone.renewBeforeDays then phone.renewBeforeDays else 14)

/-- What is written is EXPIRED, unless the phone is in its renewal window. -/
theorem refreshes_cases (writes : phone.refreshes calendar now = true) :
    phone.wdaState ≠ .expired ∧ ((phone.refreshWdaExpiry calendar now).wdaState = .expired ∨
      (phone.refreshWdaExpiry calendar now).wdaState = .renewalDue ∧
        phone.InWindow calendar now) := by
  unfold refreshes at writes
  rcases (Bool.and_eq_true ..).mp writes with ⟨tracked, dated⟩
  rw [decide_eq_true_eq] at tracked
  refine ⟨fun expired => by simp [expired] at tracked, ?_⟩
  unfold refreshWdaExpiry
  cases read : calendar.parse (trimSpace phone.profileExpiresAt) with
  | none => simp [read] at dated
  | some expiry =>
    by_cases past : expiry < now
    · simp [tracked, past]
    · have soon : expiry < calendar.addDays now
          (if 0 < phone.renewBeforeDays then phone.renewBeforeDays else 14) := by
        simpa [read, past] using dated
      refine .inr ⟨?_, tracked, expiry, read, Int.not_lt.mp past, soon⟩
      simp [tracked, past, soon]

/-- A phone in its renewal window is written, and written again next time. -/
theorem Phone.InWindow.rewrites {calendar : Calendar} {now : Int} {phone : Phone}
    (due : phone.InWindow calendar now) :
    (phone.refreshWdaExpiry calendar now).refreshes calendar now = true := by
  rcases due with ⟨tracked, expiry, read, ahead, soon⟩
  unfold refreshes refreshWdaExpiry
  simp [tracked, Option.mem_def.mp read, Int.not_lt.mpr ahead, soon]

theorem refreshes_of_expired (expired : phone.wdaState = .expired) :
    phone.refreshes calendar now = false := by
  simp [refreshes, expired]

theorem badge_le_aged (later : List Int) : phone.badge ≤ (phone.aged calendar later).badge := by
  induction later generalizing phone with
  | nil => exact le_rfl
  | cons now later ih =>
    refine le_trans ?_ (ih (phone.refreshWdaExpiry calendar now))
    cases writes : phone.refreshes calendar now with
    | false => rw [refreshWdaExpiry_eq_self writes]
    | true =>
      rcases refreshes_cases calendar now phone writes with ⟨fresh, same | ⟨same, _⟩⟩ <;>
        unfold badge <;> rw [same] <;> cases state : phone.wdaState <;> simp_all

/-- The refresh is honest exactly if no phone is in its renewal window: such a phone is
written, and counted as changed, each time. -/
theorem refreshHonest_iff : RefreshHonest calendar now phones ↔
    ∀ phone ∈ phones, ¬phone.InWindow calendar now := by
  constructor
  · intro honest phone member due
    have still := any_eq_false.mp (congrArg Prod.snd honest.again) _ (mem_map_of_mem member)
    exact still due.rewrites
  · intro outside
    have lapsed : ∀ phone ∈ phones, phone.refreshes calendar now = true →
        (phone.refreshWdaExpiry calendar now).wdaState = .expired := by
      intro phone member writes
      rcases (refreshes_cases calendar now phone writes).2 with expired | ⟨_, due⟩
      · exact expired
      · exact absurd due (outside phone member)
    have settled : ∀ phone ∈ phones,
        (phone.refreshWdaExpiry calendar now).refreshes calendar now = false := by
      intro phone member
      cases writes : phone.refreshes calendar now with
      | false => rw [refreshWdaExpiry_eq_self writes, writes]
      | true => exact refreshes_of_expired calendar now _ (lapsed phone member writes)
    refine ⟨?_, ?_, fun phone member earlier later _ => ?_⟩
    · refine any_eq_true.trans (exists_congr fun phone => and_congr_right fun member => ?_)
      cases writes : phone.refreshes calendar now with
      | false => simp [refreshWdaExpiry_eq_self writes]
      | true =>
        rw [lapsed phone member writes]
        simpa using (refreshes_cases calendar now phone writes).1.symm
    · refine Prod.ext (map_congr_left ?_ |>.trans (map_id _)) (any_eq_false.mpr ?_)
      · rintro _ written
        rcases mem_map.mp written with ⟨phone, member, rfl⟩
        exact refreshWdaExpiry_eq_self (settled phone member)
      · rintro _ written
        rcases mem_map.mp written with ⟨phone, member, rfl⟩
        simpa using settled phone member
    · rw [aged, aged, foldl_append]
      exact badge_le_aged calendar _ later

end Clock

/-- A phone whose renewal is due already is reported as changed. -/
theorem refresh_dishonest :
    let calendar : Calendar := ⟨fun _ => some 10, fun now days => now + days⟩
    let phone : Phone := { udid := "u", wdaState := .renewalDue }
    refreshWdaExpiryLocked calendar 5 [phone] = ([phone], true) := by
  decide

end LubricantNodes.Agent
