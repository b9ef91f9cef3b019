import LubricantNodes.Agent.Changes

/-!
# The claims of phones

What the manager keeps about the claim of a phone, its *deed*, is written by a few
sections only: a claim reserves the phone and, after the pairing, adopts it or gives
it up; a release and a wipe end the claim; `ConfigureDevice` changes the settings.
`step_deeds` says so once for every step, and what is true of claims follows from it.

The revision of the settings is meant never to go back while a phone stays claimed;
the revision zero is applied whenever it comes, and breaks this.
-/

namespace LubricantNodes.Agent

open Go Transition List

/-! ## Deeds -/

/-- What the manager keeps about the claim of a phone. -/
structure Deed where
  udid : String
  claimed : Bool := false
  claiming : Bool := false
  deviceId : String := ""
  credentialPath : String := ""
  transport : String := ""
  wdaBundle : String := ""
  xctest : String := ""
  hostWDAPort : Int := 0
  configRevision : Int := 0

namespace Deed

/-- `Claim` reserves the phone. -/
def reserve (deed : Deed) : Deed :=
  { deed with claiming := true }

/-- The pairing has failed. -/
def giveUp (deed : Deed) : Deed :=
  { deed with claiming := false }

/-- The pairing has succeeded. -/
def adopt (request : ClaimDevice) (deviceId credentialPath : String) (deed : Deed) : Deed :=
  { deed with
    claiming := false
    claimed := true
    deviceId := deviceId
    credentialPath := credentialPath
    transport := setting request.transport deed.transport
    wdaBundle := setting request.wdaBundleId deed.wdaBundle
    xctest := setting request.xctestConfigName deed.xctest
    configRevision := request.configRevision }

/-- `Release`. -/
def release (deleteCredential : Bool) (deed : Deed) : Deed :=
  { deed with
    claimed := false
    deviceId := ""
    credentialPath := if deleteCredential then "" else deed.credentialPath }

/-- `ConfigureDevice`, past its gate. -/
def configure (request : ConfigureDevice) (deed : Deed) : Deed :=
  { deed with
    transport := setting request.transport deed.transport
    wdaBundle := setting request.wdaBundleId deed.wdaBundle
    xctest := setting request.xctestConfigName deed.xctest
    hostWDAPort := request.hostWdaPort
    configRevision := request.configRevision }

/-- The server has wiped the credential. -/
def wipe (deed : Deed) : Deed :=
  { deed with claimed := false, deviceId := "" }

/-- A claimed phone has an identifier and a credential, and only a claimed phone has a
device id. -/
structure Sound (deed : Deed) : Prop where
  udid : deed.claimed = true → trimSpace deed.udid ≠ ""
  credential : deed.claimed = true → deed.credentialPath ≠ ""
  deviceId : deed.deviceId ≠ "" → deed.claimed = true

/-- The phone of a pairing is reserved for it. -/
structure Reserved (deed : Deed) : Prop where
  udid : trimSpace deed.udid ≠ ""
  claiming : deed.claiming = true
  unclaimed : deed.claimed = false

variable {deed : Deed}

theorem Sound.reserve (sound : deed.Sound) : deed.reserve.Sound :=
  ⟨sound.udid, sound.credential, sound.deviceId⟩

theorem Sound.giveUp (sound : deed.Sound) : deed.giveUp.Sound :=
  ⟨sound.udid, sound.credential, sound.deviceId⟩

theorem Sound.configure (sound : deed.Sound) (request : ConfigureDevice) :
    (deed.configure request).Sound := by
  unfold Deed.configure
  exact ⟨sound.udid, sound.credential, sound.deviceId⟩

theorem Reserved.configure (reserved : deed.Reserved) (request : ConfigureDevice) :
    (deed.configure request).Reserved := by
  unfold Deed.configure
  exact ⟨reserved.udid, reserved.claiming, reserved.unclaimed⟩

theorem udid_configure (request : ConfigureDevice) (deed : Deed) :
    (deed.configure request).udid = deed.udid := by
  unfold configure
  rfl

theorem udid_adopt (request : ClaimDevice) (deviceId credentialPath : String) (deed : Deed) :
    (deed.adopt request deviceId credentialPath).udid = deed.udid := by
  unfold adopt
  rfl

theorem Reserved.adopt (reserved : deed.Reserved) (request : ClaimDevice) (deviceId : String)
    {credentialPath : String} (nonempty : credentialPath ≠ "") :
    (deed.adopt request deviceId credentialPath).Sound := by
  unfold Deed.adopt
  exact ⟨fun _ => reserved.udid, fun _ => nonempty, fun _ => rfl⟩

theorem sound_of_unclaimed (unclaimed : deed.claimed = false) (nameless : deed.deviceId = "") :
    deed.Sound where
  udid := fun claimed => Bool.noConfusion (unclaimed.symm.trans claimed)
  credential := fun claimed => Bool.noConfusion (unclaimed.symm.trans claimed)
  deviceId := fun named => (named nameless).elim

/-- The settings of a phone: its transport, bundle, test and port. -/
def settings (deed : Deed) : String × String × String × Int :=
  (deed.transport, deed.wdaBundle, deed.xctest, deed.hostWDAPort)

end Deed

namespace Phone

variable (phone : Phone)

/-- The deed of a phone. -/
def deed : Deed where
  udid := phone.udid
  claimed := phone.claimed
  claiming := phone.claiming
  deviceId := phone.deviceId
  credentialPath := phone.credentialPath
  transport := phone.transport
  wdaBundle := phone.wdaBundle
  xctest := phone.xctest
  hostWDAPort := phone.hostWDAPort
  configRevision := phone.configRevision

theorem deed_reserve : phone.reserve.deed = phone.deed.reserve :=
  rfl

theorem deed_pairFailed (cause : String) (phone : Phone) :
    (phone.pairFailed cause).deed = phone.deed.giveUp :=
  rfl

theorem deed_adopt (request : ClaimDevice) (name deviceId credentialPath : String) (phone : Phone) :
    (phone.adopt request name deviceId credentialPath).deed =
      phone.deed.adopt request deviceId credentialPath := by
  simp only [deed, adopt, Deed.adopt]

theorem deed_release (deleteCredential : Bool) (phone : Phone) :
    (phone.release deleteCredential).deed = phone.deed.release deleteCredential :=
  rfl

theorem deed_onWipe : phone.onWipe.deed = phone.deed.wipe :=
  rfl

theorem deed_configure (request : ConfigureDevice) (phone : Phone) :
    (phone.configure request).deed = phone.deed.configure request := by
  simp only [deed, configure, Device.configure, Deed.configure]

end Phone

/-- The deed of a phone of `devices.json`. -/
def DeviceConfig.deed (config : DeviceConfig) : Deed where
  udid := config.udid
  claimed := config.credentialPath ≠ ""
  credentialPath := config.credentialPath
  transport := config.transport
  wdaBundle := defaultRunnerBundle config.wdaBundle
  xctest := defaultRunnerXctest config.xctest
  hostWDAPort := config.wdaPort

theorem Phone.deed_of_config (config : DeviceConfig) :
    ({ toDevice := config.adopt } : Phone).deed = config.deed := by
  simp only [deed, DeviceConfig.adopt, DeviceConfig.deed]

theorem DeviceConfig.sound_deed {config : DeviceConfig} (named : trimSpace config.udid ≠ "") :
    config.deed.Sound where
  udid := fun _ => named
  credential := of_decide_eq_true
  deviceId := fun absurd => (absurd rfl).elim

namespace Phones

variable {calendar : Calendar} {manager middle after : Phones}

/-- The deeds of all phones. -/
def deeds (manager : Phones) : List Deed :=
  manager.phones.map Phone.deed

variable {number index : Nat} {effect : Deed → Deed} {event : PhoneEvent} {phone : Phone}
  {before : Phones} {task : PhoneTask}

theorem getElem?_deeds_eq_some_iff {deed : Deed} : manager.deeds[number]? = some deed ↔
      ∃ phone, manager.phones[number]? = some phone ∧ phone.deed = deed := by
  unfold deeds
  rw [getElem?_map, Option.map_eq_some_iff]

theorem deeds_edit {change : Phone → Phone}
    (changes : ∀ phone, (change phone).deed = effect phone.deed) :
    (manager.edit number change).deeds = manager.deeds.modify number effect :=
  map_modify_eq changes

theorem deeds_edit_of_same {change : Phone → Phone}
    (same : ∀ phone, (change phone).deed = phone.deed) :
    (manager.edit number change).deeds = manager.deeds := by
  have kept : (manager.edit number change).deeds = manager.deeds.modify number id := deeds_edit same
  rw [kept, modify_id]

/-! ## What concerns no claim -/

/-- The deeds, the pairings and the place of the credentials are the same. -/
structure Aside (before after : Phones) : Prop where
  deeds : after.deeds = before.deeds
  pairings : ∀ index, after.pairingAt index = before.pairingAt index
  configDir : after.configDir = before.configDir

theorem Aside.trans (first : Aside manager middle) (second : Aside middle after) :
    Aside manager after where
  deeds := second.deeds.trans first.deeds
  pairings := fun index => (second.pairings index).trans (first.pairings index)
  configDir := second.configDir.trans first.configDir

theorem Akin.aside (akin : Akin manager after) : Aside manager after :=
  ⟨akin.map_eq Phone.deed fun _ => rfl, akin.pairings, akin.configDir⟩

theorem aside_edit (manager : Phones) (number : Nat) {change : Phone → Phone}
    (same : ∀ phone, (change phone).deed = phone.deed) :
    Aside manager (manager.edit number change) :=
  ⟨deeds_edit_of_same same, fun _ => rfl, rfl⟩

/-! ## Discovery -/

/-- The identifiers of all phones. -/
def udids (manager : Phones) : List String :=
  manager.deeds.map Deed.udid

/-- The phones of `after` are those of `before` and unclaimed ones with identifiers of
their own. -/
structure Discovers (before after : Phones) : Prop where
  deeds : ∃ found, after.deeds = before.deeds ++ found ∧
    ∀ deed ∈ found, deed = { udid := deed.udid }
  distinct : before.udids.Nodup → after.udids.Nodup
  tasks : after.tasks = before.tasks
  configDir : after.configDir = before.configDir

theorem Discovers.refl (manager : Phones) : Discovers manager manager where
  deeds := ⟨[], (append_nil _).symm, fun _ absurd => by cases absurd⟩
  distinct := id
  tasks := rfl
  configDir := rfl

theorem Discovers.trans (first : Discovers manager middle) (second : Discovers middle after) :
    Discovers manager after where
  deeds := by
    rcases first.deeds with ⟨found, deeds, fresh⟩
    rcases second.deeds with ⟨more, further, alsoFresh⟩
    refine ⟨found ++ more, ?_, ?_⟩
    · rw [further, deeds, append_assoc]
    · intro deed member
      rcases mem_append.mp member with old | new
      · exact fresh deed old
      · exact alsoFresh deed new
  distinct := second.distinct ∘ first.distinct
  tasks := second.tasks.trans first.tasks
  configDir := second.configDir.trans first.configDir

variable {udid : String} {pairing : Pairing} {request : ClaimDevice} {answer : TaskAnswer}

theorem not_mem_udids_of_indexOf (absent : manager.indexOf udid = none) : udid ∉ manager.udids := by
  unfold indexOf at absent
  rw [findIdx?_eq_none_iff] at absent
  intro member
  simp only [udids, deeds, map_map, mem_map] at member
  rcases member with ⟨phone, listed, same⟩
  exact of_decide_eq_false (absent phone listed) same

theorem discovers_upsert (manager : Phones) (seen : String × String) :
    Discovers manager (manager.upsert seen) := by
  unfold upsert
  split
  · rename_i number _
    have same : Aside manager (manager.edit number (Phone.upsert seen.2)) :=
      aside_edit manager number fun _ => rfl
    refine ⟨⟨[], ?_, fun _ absurd => by cases absurd⟩, ?_, rfl, rfl⟩
    · rw [append_nil, same.deeds]
    · unfold udids
      rw [same.deeds]
      exact id
  · rename_i absent
    constructor
    · refine ⟨[{ udid := seen.1 }], ?_, ?_⟩
      · unfold deeds
        rw [map_append]
        rfl
      · simp
    · intro distinct
      unfold udids deeds
      rw [map_append, map_append]
      refine nodup_append.mpr ⟨distinct, by simp, ?_⟩
      rintro udid old _ new rfl
      rw [mem_singleton.mp new] at old
      exact not_mem_udids_of_indexOf absent old
    · rfl
    · rfl

theorem discovers_snapshot (calendar : Calendar) (manager : Phones) (seen : List (String × String))
    (now : Int) : Discovers manager (manager.snapshot calendar seen now) := by
  have upserted : Discovers manager (seen.foldl upsert manager) := by
    induction seen generalizing manager with
    | nil => exact .refl manager
    | cons first rest ih => exact (discovers_upsert manager first).trans (ih _)
  have same : (manager.snapshot calendar seen now).deeds = (seen.foldl upsert manager).deeds := by
    unfold snapshot deeds
    dsimp only
    rw [map_map]
    apply map_congr_left
    intro phone _
    simp only [Function.comp_apply]
    refine (congrArg Phone.deed (Phone.bare_refreshWdaExpiry calendar now _) :).trans ?_
    split_ifs <;> rfl
  constructor
  · rw [same]
    exact upserted.deeds
  · unfold udids
    rw [same]
    exact upserted.distinct
  · exact upserted.tasks
  · exact upserted.configDir

/-! ## Every step -/

/-- The event adopts, releases, configures or wipes no phone, and ends no pairing. -/
def TouchesNoDeed (manager : Phones) : PhoneEvent → Prop
  | .release request => manager.findLocked request.deviceId request.udid = none
  | .configure request => ∀ number phone, ¬manager.Applies request number phone
  | .advance index _ => manager.pairingAt index = none
  | .onWipe _ => False
  | _ => True

/-- What a step does to the claims: up to what concerns no claim, one of a few
changes. -/
inductive DeedsNext (manager : Phones) : PhoneEvent → Phones → Prop
  | same {event : PhoneEvent} {after : Phones} (idle : manager.TouchesNoDeed event)
      (aside : Aside manager after) : DeedsNext manager event after
  | found {seen : List (String × String)} {now : Int} {middle after : Phones}
      (discovers : Discovers manager middle) (aside : Aside middle after) :
      DeedsNext manager (.snapshot seen now) after
  | reserve {request : ClaimDevice} {number : Nat} {phone : Phone} {after : Phones}
      (reserves : manager.Reserves request number phone)
      (aside : Aside ((manager.edit number Phone.reserve).spawn
        (.pairing number request (phone.claimName request))) after) :
      DeedsNext manager (.claim request) after
  | giveUp {index : Nat} {answer : TaskAnswer} {pairing : Pairing} {cause : String}
      {after : Phones} (underWay : manager.pairingAt index = some pairing)
      (failed : answer.paired = .error cause)
      (aside : Aside ((manager.setTask index .ended).edit pairing.phone (Phone.pairFailed cause))
        after) :
      DeedsNext manager (.advance index answer) after
  | adopt {index : Nat} {answer : TaskAnswer} {pairing : Pairing} {deviceId : String}
      {after : Phones} (underWay : manager.pairingAt index = some pairing)
      (paired : answer.paired = .ok deviceId)
      (aside : Aside ((manager.setTask index .ended).edit pairing.phone
        (Phone.adopt pairing.request pairing.name deviceId
          (defaultCredentialPath manager.configDir pairing.name))) after) :
      DeedsNext manager (.advance index answer) after
  | release {request : ReleaseDevice} {number : Nat} {after : Phones}
      (found : manager.findLocked request.deviceId request.udid = some number)
      (aside : Aside (manager.edit number (Phone.release request.deleteCredential)) after) :
      DeedsNext manager (.release request) after
  | configure {request : ConfigureDevice} {number : Nat} {phone : Phone} {after : Phones}
      (applies : manager.Applies request number phone)
      (aside : Aside (manager.edit number (Phone.configure request)) after) :
      DeedsNext manager (.configure request) after
  | wipe {loop : Nat} {found : DeviceLoop} {after : Phones}
      (present : manager.loops[loop]? = some found)
      (aside : Aside (manager.edit found.phone Phone.onWipe) after) :
      DeedsNext manager (.onWipe loop) after

/-- A section without a change, and not of a pairing. -/
theorem touchesNoDeed_of_unchanged (stepped : step calendar manager event = some after)
    (unchanged : ∀ number change, ¬manager.Makes event number change)
    (unpaired : manager.pairingOf event = none) : manager.TouchesNoDeed event := by
  cases event with
  | release =>
    rw [TouchesNoDeed, Option.eq_none_iff_forall_ne_some]
    exact fun number found => unchanged _ _ (.release found)
  | configure => exact fun number phone applies => unchanged _ _ (.configure applies)
  | advance => exact unpaired
  | onWipe =>
    rcases Option.bind_eq_some_iff.mp stepped with ⟨found, present, _⟩
    exact unchanged _ _ (.onWipe present)
  | _ => trivial

/-- A section that makes its change. -/
theorem deedsNext_change {change : Phone → Phone} (makes : manager.Makes event number change)
    (aside : Aside (manager.edit number change) after) : DeedsNext manager event after := by
  have same (idle : manager.TouchesNoDeed event)
      (kept : ∀ phone, (change phone).deed = phone.deed) :
      DeedsNext manager event after :=
    .same idle ((aside_edit manager number kept).trans aside)
  have bare (idle : manager.TouchesNoDeed event)
      (kept : ∀ phone, (change phone).bare = phone.bare) :
      DeedsNext manager event after :=
    same idle fun phone => (congrArg Phone.deed (kept phone) :)
  cases makes with
  | release found => exact .release found aside
  | configure applies => exact .configure applies aside
  | onWipe present => exact .wipe present aside
  | halt | exit | jobStarted | lanReachable => exact same trivial fun _ => rfl
  | detach => exact bare trivial Phone.bare_detach
  | onState present online => exact bare trivial (Phone.bare_onState online)
  | jobProgress found percent stage =>
    exact bare trivial (Phone.bare_noteWdaJobProgress percent stage)
  | jobResult found ok cancelled installed errorCode message profileExpiresAt =>
    exact bare trivial (Phone.bare_noteWdaJobResult ok cancelled installed errorCode message
      profileExpiresAt)
  | lanPairingPending => exact bare trivial Phone.bare_noteLanPairingPending

/-- What every step does to the claims. -/
theorem step_deeds (stepped : step calendar manager event = some after) :
    DeedsNext manager event after := by
  cases step_changes stepped with
  | same unchanged unpaired akin =>
    exact .same (touchesNoDeed_of_unchanged stepped unchanged unpaired) akin.aside
  | found akin => exact .found (discovers_snapshot calendar manager _ _) akin.aside
  | reserve reserves akin => exact .reserve reserves akin.aside
  | giveUp underWay failed akin => exact .giveUp underWay failed akin.aside
  | adopt underWay paired akin => exact .adopt underWay paired akin.aside
  | change makes akin => exact deedsNext_change makes akin.aside

/-! ## Claims in good order -/

theorem defaultCredentialPath_ne_empty (configDir name : String) :
    defaultCredentialPath configDir name ≠ "" :=
  join_ne_empty (mem_cons_of_mem _ mem_cons_self) (by decide)

/-- Identifiers are those of one phone, every phone is paired once at a time, and not
while it is claimed. -/
structure PairedOnce (manager : Phones) : Prop where
  distinct : manager.udids.Nodup
  sound : ∀ deed ∈ manager.deeds, deed.Sound
  reserved : ∀ {index : Nat} {pairing : Pairing}, manager.pairingAt index = some pairing →
    ∃ deed, manager.deeds[pairing.phone]? = some deed ∧ deed.Reserved
  single : ∀ {index other : Nat} {pairing further : Pairing},
    manager.pairingAt index = some pairing → manager.pairingAt other = some further →
      pairing.phone = further.phone → index = other

/-- The phone at the place of an identifier. -/
theorem udid_of_indexOf {deed : Deed} (found : manager.indexOf udid = some number)
    (present : manager.deeds[number]? = some deed) : deed.udid = udid := by
  rcases getElem?_deeds_eq_some_iff.mp present with ⟨phone, here, rfl⟩
  unfold indexOf at found
  rw [findIdx?_eq_some_iff_getElem] at found
  rcases found with ⟨inside, same, _⟩
  rw [getElem?_eq_getElem inside] at here
  rw [Option.some.inj here, decide_eq_true_eq] at same
  exact same

theorem deed_of_reserves (reserves : manager.Reserves request number phone) :
    manager.deeds[number]? = some phone.deed ∧ trimSpace phone.deed.udid ≠ "" := by
  have present : manager.deeds[number]? = some phone.deed :=
    getElem?_deeds_eq_some_iff.mpr ⟨phone, reserves.present, rfl⟩
  refine ⟨present, ?_⟩
  rw [udid_of_indexOf reserves.found present, trimSpace_trimSpace]
  exact reserves.udid

theorem pairingAt_of_idle (idle : manager.tasks = []) (index : Nat) :
    manager.pairingAt index = none := by
  unfold pairingAt
  rw [idle]
  rfl

section KeepingPairs

variable (pairedOnce : manager.PairedOnce)

include pairedOnce

theorem PairedOnce.aside (aside : Aside manager after) : after.PairedOnce where
  distinct := by
    unfold udids
    rw [aside.deeds]
    exact pairedOnce.distinct
  sound := by
    rw [aside.deeds]
    exact pairedOnce.sound
  reserved := by
    intro index pairing underWay
    rw [aside.pairings] at underWay
    rw [aside.deeds]
    exact pairedOnce.reserved underWay
  single := by
    intro index other pairing further underWay also
    rw [aside.pairings] at underWay also
    exact pairedOnce.single underWay also

theorem PairedOnce.discovers (discovers : Discovers manager after) : after.PairedOnce where
  distinct := discovers.distinct pairedOnce.distinct
  sound := by
    intro deed member
    rcases discovers.deeds with ⟨found, deeds, fresh⟩
    rw [deeds] at member
    rcases mem_append.mp member with old | new
    · exact pairedOnce.sound deed old
    · rw [fresh deed new]
      exact Deed.sound_of_unclaimed rfl rfl
  reserved := by
    intro index pairing underWay
    unfold pairingAt at underWay
    rw [discovers.tasks] at underWay
    rcases pairedOnce.reserved underWay with ⟨deed, present, reserved⟩
    rcases discovers.deeds with ⟨found, deeds, _⟩
    refine ⟨deed, ?_, reserved⟩
    rw [deeds]
    exact (List.getElem?_append_left (List.getElem?_eq_some_iff.mp present).1).trans present
  single := by
    intro index other pairing further underWay also
    unfold pairingAt at underWay also
    rw [discovers.tasks] at underWay also
    exact pairedOnce.single underWay also

/-- One deed is changed, and pairings may be over. -/
theorem PairedOnce.edit (deeds : after.deeds = manager.deeds.modify number effect)
    (udid : ∀ deed, manager.deeds[number]? = some deed → (effect deed).udid = deed.udid)
    (sound : ∀ deed, manager.deeds[number]? = some deed → deed.Sound → (effect deed).Sound)
    (pairings : ∀ {index : Nat} {pairing : Pairing}, after.pairingAt index = some pairing →
      manager.pairingAt index = some pairing)
    (reserved : ∀ {index : Nat} {pairing : Pairing}, after.pairingAt index = some pairing →
      pairing.phone = number → ∀ deed, deed.Reserved → (effect deed).Reserved) :
    after.PairedOnce where
  distinct := by
    have same : after.udids = manager.udids := by
      unfold udids
      have kept : (manager.deeds.modify number effect).map Deed.udid =
          (manager.deeds.modify number id).map Deed.udid := map_modify_congr udid
      rw [deeds, kept, modify_id]
    rw [same]
    exact pairedOnce.distinct
  sound := by
    intro deed member
    rw [deeds] at member
    rcases mem_iff_getElem?.mp member with ⟨place, present⟩
    rcases getElem?_modify_eq_some_iff.mp present with ⟨old, there, rfl⟩
    have before : old.Sound := pairedOnce.sound old (mem_of_getElem? there)
    split_ifs with here
    · subst here
      exact sound old there before
    · exact before
  reserved := by
    intro index pairing underWay
    rcases pairedOnce.reserved (pairings underWay) with ⟨deed, present, before⟩
    refine ⟨if number = pairing.phone then effect deed else deed, ?_, ?_⟩
    · rw [deeds]
      exact getElem?_modify_eq_some_iff.mpr ⟨deed, present, rfl⟩
    · split_ifs with here
      · exact reserved underWay here.symm deed before
      · exact before
  single := by
    intro index other pairing further underWay also
    exact pairedOnce.single (pairings underWay) (pairings also)

/-- One deed is changed, and the pairings stay. -/
theorem PairedOnce.change {change : Phone → Phone}
    (changes : ∀ phone, (change phone).deed = effect phone.deed)
    (udid : ∀ deed, (effect deed).udid = deed.udid)
    (sound : ∀ deed, deed.Sound → (effect deed).Sound)
    (reserved : ∀ deed, deed.Reserved → (effect deed).Reserved) :
    (manager.edit number change).PairedOnce :=
  pairedOnce.edit (deeds_edit changes) (fun deed _ => udid deed) (fun deed _ => sound deed) id
    fun _ _ deed => reserved deed

omit pairedOnce in
/-- The deeds when a pairing is over. -/
theorem deeds_conclude {change : Phone → Phone}
    (changes : ∀ phone, (change phone).deed = effect phone.deed) :
    ((manager.setTask index .ended).edit number change).deeds =
      manager.deeds.modify number effect :=
  deeds_edit changes

omit pairedOnce in
/-- The pairings when one of them is over. -/
theorem pairingAt_conclude {other : Nat} {change : Phone → Phone}
    (still : ((manager.setTask index .ended).edit number change).pairingAt other = some pairing) :
    index ≠ other ∧ manager.pairingAt other = some pairing := by
  change (manager.setTask index .ended).pairingAt other = some pairing at still
  rw [pairingAt_setTask manager index rfl] at still
  split_ifs at still with here
  exact ⟨here, still⟩

/-- A pairing is over. -/
theorem PairedOnce.conclude {change : Phone → Phone}
    (underWay : manager.pairingAt index = some pairing)
    (changes : ∀ phone, (change phone).deed = effect phone.deed)
    (udid : ∀ deed, (effect deed).udid = deed.udid)
    (sound : ∀ deed, deed.Reserved → deed.Sound → (effect deed).Sound) :
    ((manager.setTask index .ended).edit pairing.phone change).PairedOnce := by
  apply pairedOnce.edit (deeds_conclude changes) fun deed _ => udid deed
  · intro deed present
    rcases pairedOnce.reserved underWay with ⟨found, there, reserved⟩
    cases present.symm.trans there
    exact sound deed reserved
  · intro other further still
    exact (pairingAt_conclude still).2
  · intro other further still same
    rcases pairingAt_conclude still with ⟨apart, also⟩
    cases apart (pairedOnce.single underWay also same.symm)

/-- A claim reserves a phone. -/
theorem PairedOnce.reserve {name : String} (reserves : manager.Reserves request number phone) :
    ((manager.edit number Phone.reserve).spawn (.pairing number request name)).PairedOnce := by
  rcases deed_of_reserves reserves with ⟨present, udid⟩
  have unpaired : ∀ {index : Nat} {pairing : Pairing}, manager.pairingAt index = some pairing →
      pairing.phone ≠ number := by
    intro index pairing underWay same
    rcases pairedOnce.reserved underWay with ⟨deed, there, reserved⟩
    rw [same] at there
    cases present.symm.trans there
    exact Bool.noConfusion (reserves.free.symm.trans reserved.claiming)
  have edited : (manager.edit number Phone.reserve).PairedOnce := by
    apply pairedOnce.edit (deeds_edit Phone.deed_reserve)
    · intro deed _
      rfl
    · intro deed _ sound
      exact sound.reserve
    · exact id
    · intro index pairing underWay same
      cases unpaired underWay same
  have pairings : ∀ {index : Nat} {pairing : Pairing}, ((manager.edit number Phone.reserve).spawn
        (.pairing number request name)).pairingAt index = some pairing →
        index = manager.tasks.length ∧ pairing.phone = number ∨
          manager.pairingAt index = some pairing := by
    intro index pairing underWay
    rw [pairingAt_spawn] at underWay
    split_ifs at underWay with last
    · cases underWay
      exact .inl ⟨last, rfl⟩
    · exact .inr underWay
  constructor
  · exact edited.distinct
  · exact edited.sound
  · intro index pairing underWay
    rcases pairings underWay with ⟨_, same⟩ | old
    · refine ⟨phone.deed.reserve, ?_, udid, rfl, reserves.unclaimed⟩
      rw [same]
      have deeds : ((manager.edit number Phone.reserve).spawn
          (.pairing number request name)).deeds = manager.deeds.modify number Deed.reserve :=
        deeds_edit Phone.deed_reserve
      rw [deeds]
      exact getElem?_modify_eq_some_iff.mpr ⟨phone.deed, present, (if_pos rfl).symm⟩
    · exact edited.reserved old
  · intro index other pairing further underWay also same
    rcases pairings underWay with ⟨last, here⟩ | old
    · rcases pairings also with ⟨alsoLast, _⟩ | before
      · exact last.trans alsoLast.symm
      · cases unpaired before (same.symm.trans here)
    · rcases pairings also with ⟨_, here⟩ | before
      · cases unpaired old (same.trans here)
      · exact pairedOnce.single old before same

/-- Every step keeps the claims in good order. -/
theorem PairedOnce.step (stepped : step calendar manager event = some after) :
    after.PairedOnce := by
  cases step_deeds stepped with
  | same idle aside => exact pairedOnce.aside aside
  | found discovers aside => exact (pairedOnce.discovers discovers).aside aside
  | reserve reserves aside => exact (pairedOnce.reserve reserves).aside aside
  | giveUp underWay failed aside =>
    apply PairedOnce.aside _ aside
    apply pairedOnce.conclude underWay (Phone.deed_pairFailed _)
    · intro deed
      rfl
    · intro deed _ sound
      exact sound.giveUp
  | adopt underWay paired aside =>
    apply PairedOnce.aside _ aside
    apply pairedOnce.conclude underWay (Phone.deed_adopt _ _ _ _) (Deed.udid_adopt _ _ _)
    · intro deed reserved _
      exact reserved.adopt _ _ (defaultCredentialPath_ne_empty _ _)
  | release found aside =>
    apply PairedOnce.aside _ aside
    apply pairedOnce.change (Phone.deed_release _)
    · intro deed
      rfl
    · intro deed _
      exact Deed.sound_of_unclaimed rfl rfl
    · intro deed reserved
      exact ⟨reserved.udid, reserved.claiming, rfl⟩
  | configure applies aside =>
    apply PairedOnce.aside _ aside
    apply pairedOnce.change (Phone.deed_configure _) (Deed.udid_configure _)
    · intro deed sound
      exact sound.configure _
    · intro deed reserved
      exact reserved.configure _
  | wipe present aside =>
    apply PairedOnce.aside _ aside
    apply pairedOnce.change Phone.deed_onWipe
    · intro deed
      rfl
    · intro deed _
      exact Deed.sound_of_unclaimed rfl rfl
    · intro deed reserved
      exact ⟨reserved.udid, reserved.claiming, rfl⟩

/-! ### A new manager -/

theorem PairedOnce.adopt (idle : manager.tasks = []) (config : DeviceConfig) :
    (manager.adopt config).PairedOnce := by
  unfold Phones.adopt
  split
  · exact pairedOnce
  rename_i named
  split
  · rename_i number found
    have adopted : ∀ index, (manager.edit number fun _ =>
        { toDevice := config.adopt }).pairingAt index = none := pairingAt_of_idle idle
    have deeds : (manager.edit number fun _ => { toDevice := config.adopt }).deeds =
        manager.deeds.modify number fun _ => config.deed :=
      deeds_edit fun _ => Phone.deed_of_config config
    apply pairedOnce.edit deeds
    · intro deed present
      exact (udid_of_indexOf found present).symm
    · intro deed _ _
      exact config.sound_deed named
    · intro index pairing underWay
      cases (adopted index).symm.trans underWay
    · intro index pairing underWay
      cases (adopted index).symm.trans underWay
  · rename_i absent
    have deeds : ({ manager with
        phones := manager.phones ++ [{ toDevice := config.adopt }] } : Phones).deeds =
          manager.deeds ++ [config.deed] := by
      unfold Phones.deeds
      rw [map_append, map_singleton, Phone.deed_of_config]
    constructor
    · unfold udids
      rw [deeds, map_append]
      refine nodup_append.mpr ⟨pairedOnce.distinct, by simp, ?_⟩
      rintro udid old _ new rfl
      rw [mem_singleton.mp new] at old
      exact not_mem_udids_of_indexOf absent old
    · intro deed member
      rw [deeds] at member
      rcases mem_append.mp member with old | new
      · exact pairedOnce.sound deed old
      · rw [mem_singleton.mp new]
        exact config.sound_deed named
    · intro index pairing underWay
      cases (pairingAt_of_idle idle index).symm.trans underWay
    · intro index other pairing further underWay
      cases (pairingAt_of_idle idle index).symm.trans underWay

end KeepingPairs

theorem pairedOnce_new (configDir : String) (configs : List DeviceConfig) :
    (new configDir configs).PairedOnce := by
  suffices general : ∀ manager : Phones, manager.PairedOnce → manager.tasks = [] →
      (configs.foldl Phones.adopt manager).PairedOnce by
    apply general { configDir := configDir } _ rfl
    constructor
    · exact nodup_nil
    · rintro _ ⟨⟩
    · rintro _ _ ⟨⟩
    · rintro _ _ _ _ ⟨⟩
  induction configs with
  | nil =>
    intro manager pairedOnce _
    exact pairedOnce
  | cons config rest ih =>
    intro manager pairedOnce idle
    rw [foldl_cons]
    exact ih _ (pairedOnce.adopt idle config) ((kept_adopt manager config).2.trans idle)

/-- In every run the claims are in good order. -/
theorem pairedOnce_of_reaches {allowed : Discipline Phones PhoneEvent} {configDir : String}
    {configs : List DeviceConfig}
    (reached : Reaches (step calendar) allowed (new configDir configs) manager) :
    manager.PairedOnce := by
  apply reached.invariant (P := PairedOnce) (pairedOnce_new configDir configs)
  intro _ _ _ _ pairedOnce _ stepped
  exact pairedOnce.step stepped

/-- Whatever the server and the phones do, no phone is paired twice or while it is claimed. -/
theorem claims_orderly {configDir : String} {configs : List DeviceConfig}
    (manager :
      { manager // Reaches (step calendar) unrestricted (new configDir configs) manager }) :
    manager.1.PairedOnce :=
  pairedOnce_of_reaches manager.2

/-! ## Revisions -/

/-- The phone is claimed. -/
def isClaimed (manager : Phones) (number : Nat) : Bool :=
  (manager.deeds[number]?.map Deed.claimed).getD false

/-- The revision of the settings of a phone. -/
def revision (manager : Phones) (number : Nat) : Int :=
  (manager.deeds[number]?.map Deed.configRevision).getD 0

/-- The settings of a phone. -/
def settings (manager : Phones) (number : Nat) : Option (String × String × String × Int) :=
  manager.deeds[number]?.map Deed.settings

/-- Settings without a revision are sent to the phone only while its own have none. -/
def Advances (number : Nat) : Discipline Phones PhoneEvent
  | manager, .configure request =>
    manager.findLocked request.deviceId request.udid = some number →
      request.configRevision = 0 → manager.revision number ≤ 0
  | _, _ => True

instance (number : Nat) (manager : Phones) (event : PhoneEvent) :
    Decidable (Advances number manager event) := by
  unfold Advances
  split <;> infer_instance

/-- The phone is claimed, and its settings go forward. -/
def Forward (number : Nat) : Discipline Phones PhoneEvent := fun manager event =>
  manager.isClaimed number = true ∧ Advances number manager event
  deriving Decidable

/-- The settings of a phone and their revision are the same. -/
structure Unrevised (before after : Phones) (number : Nat) : Prop where
  settings : after.settings number = before.settings number
  revision : after.revision number = before.revision number

/-- A step applies the settings of a request to a phone. -/
structure Revises (before after : Phones) (number : Nat) (request : ConfigureDevice) : Prop where
  applies : ∃ phone, before.Applies request number phone
  revision : after.revision number = request.configRevision

/-- Since `before`, the revision of a phone has not gone back, and the next step applies
no settings older than those that were in force then. -/
structure NoRollback (calendar : Calendar) (before manager : Phones) (number : Nat) : Prop where
  grows : before.revision number ≤ manager.revision number
  next : ∀ event after, Advances number manager event → step calendar manager event = some after →
    Unrevised manager after number ∨
      ∃ request, event = .configure request ∧ Revises manager after number request ∧
        before.revision number ≤ request.configRevision

theorem unrevised_of_same
    (same : after.deeds[number]? = manager.deeds[number]?) : Unrevised manager after number := by
  constructor
  · unfold settings
    rw [same]
  · unfold revision
    rw [same]

theorem unrevised_of_modify {changed : Nat}
    (deeds : after.deeds = manager.deeds.modify changed effect)
    (settings : ∀ deed, (effect deed).settings = deed.settings)
    (revision : ∀ deed, (effect deed).configRevision = deed.configRevision) :
    Unrevised manager after number := by
  have kept : ∀ {α : Type} {view : Deed → α}, (∀ deed, view (effect deed) = view deed) →
      after.deeds[number]?.map view = manager.deeds[number]?.map view := by
    intro α view same
    have mapped : after.deeds.map view = (manager.deeds.map view).modify changed id := by
      rw [deeds]
      exact map_modify_eq same
    rw [← getElem?_map, mapped, modify_id, getElem?_map]
  constructor
  · exact kept settings
  · unfold Phones.revision
    rw [kept revision]

theorem exists_of_isClaimed (claimed : manager.isClaimed number = true) :
    ∃ deed, manager.deeds[number]? = some deed ∧ deed.claimed = true := by
  unfold isClaimed at claimed
  cases present : manager.deeds[number]? with
  | none =>
    rw [present] at claimed
    cases claimed
  | some deed =>
    rw [present] at claimed
    exact ⟨deed, rfl, claimed⟩

/-- A phone that stays claimed keeps its settings, or gets those of a request. -/
theorem step_settings (pairedOnce : manager.PairedOnce) (claimed : manager.isClaimed number = true)
    (stepped : step calendar manager event = some after) :
    Unrevised manager after number ∨
      ∃ request, event = .configure request ∧ Revises manager after number request := by
  cases step_deeds stepped with
  | same idle aside =>
    apply Or.inl
    apply unrevised_of_same
    rw [aside.deeds]
  | found discovers aside =>
    rcases exists_of_isClaimed claimed with ⟨deed, present, _⟩
    rcases discovers.deeds with ⟨found, deeds, _⟩
    apply Or.inl
    apply unrevised_of_same
    rw [aside.deeds, deeds]
    exact List.getElem?_append_left (List.getElem?_eq_some_iff.mp present).1
  | reserve reserves aside =>
    apply Or.inl
    have deeds := aside.deeds.trans (deeds_edit Phone.deed_reserve)
    exact unrevised_of_modify deeds (fun _ => rfl) fun _ => rfl
  | giveUp underWay failed aside =>
    apply Or.inl
    have deeds := aside.deeds.trans (deeds_edit (Phone.deed_pairFailed _))
    exact unrevised_of_modify deeds (fun _ => rfl) fun _ => rfl
  | @adopt _ _ pairing _ _ underWay paired aside =>
    apply Or.inl
    apply unrevised_of_same
    rcases exists_of_isClaimed claimed with ⟨deed, present, owned⟩
    have apart : pairing.phone ≠ number := by
      rintro rfl
      rcases pairedOnce.reserved underWay with ⟨found, there, reserved⟩
      cases present.symm.trans there
      exact Bool.noConfusion (reserved.unclaimed.symm.trans owned)
    rw [aside.deeds, deeds_edit (Phone.deed_adopt _ _ _ _)]
    exact getElem?_modify_ne _ _ apart
  | release found aside =>
    apply Or.inl
    have deeds := aside.deeds.trans (deeds_edit (Phone.deed_release _))
    exact unrevised_of_modify deeds (fun _ => rfl) fun _ => rfl
  | wipe present aside =>
    apply Or.inl
    have deeds := aside.deeds.trans (deeds_edit Phone.deed_onWipe)
    exact unrevised_of_modify deeds (fun _ => rfl) fun _ => rfl
  | @configure request changed phone _ applies aside =>
    have deeds := aside.deeds.trans (deeds_edit (Phone.deed_configure request))
    by_cases here : changed = number
    · subst here
      refine .inr ⟨request, rfl, ⟨phone, applies⟩, ?_⟩
      have present : manager.deeds[changed]? = some phone.deed :=
        getElem?_deeds_eq_some_iff.mpr ⟨phone, applies.present, rfl⟩
      unfold revision
      rw [deeds, getElem?_modify_eq_some_iff.mpr ⟨phone.deed, present, (if_pos rfl).symm⟩]
      rfl
    · apply Or.inl
      apply unrevised_of_same
      rw [deeds]
      exact getElem?_modify_ne _ _ here

/-- An applied revision is not older than the one in force. -/
theorem Revises.newer {request : ConfigureDevice} (revises : Revises manager after number request)
    (advances : Advances number manager (.configure request)) :
    manager.revision number ≤ request.configRevision := by
  rcases revises.applies with ⟨phone, applies⟩
  have current : manager.revision number = phone.configRevision := by
    unfold Phones.revision
    rw [getElem?_deeds_eq_some_iff.mpr ⟨phone, applies.present, rfl⟩]
    rfl
  have passes := applies.passes
  by_cases zero : request.configRevision = 0
  · rw [zero]
    exact advances applies.found zero
  · rw [current]
    by_contra older
    exact passes ⟨zero, Int.le_of_lt (Int.not_le.mp older)⟩

/-- While a phone stays claimed and settings without a revision do not follow others,
its settings never go back to those of an older revision. -/
theorem no_rollback {configDir : String} {configs : List DeviceConfig} {before : Phones}
    {number : Nat} (reached : Reaches (step calendar) unrestricted (new configDir configs) before)
    (onward : Reaches (step calendar) (Forward number) before manager)
    (claimed : manager.isClaimed number = true) : NoRollback calendar before manager number := by
  have pairedOnce : manager.PairedOnce := by
    apply onward.invariant (P := PairedOnce) (pairedOnce_of_reaches reached)
    intro _ _ _ _ pairedOnce _ stepped
    exact pairedOnce.step stepped
  have grows : before.revision number ≤ manager.revision number := by
    clear claimed
    have both : manager.PairedOnce ∧ before.revision number ≤ manager.revision number := by
      apply onward.invariant (P := fun manager =>
        manager.PairedOnce ∧ before.revision number ≤ manager.revision number)
        ⟨pairedOnce_of_reaches reached, Int.le_refl _⟩
      rintro manager event after _ ⟨pairedOnce, grows⟩ ⟨claimed, advances⟩ stepped
      refine ⟨pairedOnce.step stepped, ?_⟩
      rcases step_settings pairedOnce claimed stepped with unrevised | ⟨request, rfl, revises⟩
      · rw [unrevised.revision]
        exact grows
      · rw [revises.revision]
        exact Int.le_trans grows (revises.newer advances)
    exact both.2
  refine ⟨grows, ?_⟩
  intro event after advances stepped
  rcases step_settings pairedOnce claimed stepped with unrevised | ⟨request, rfl, revises⟩
  · exact .inl unrevised
  · exact .inr ⟨request, rfl, revises, Int.le_trans grows (revises.newer advances)⟩

/-- Settings for the sample phone. -/
def configuration (transport : String) (revision : Int) : PhoneEvent :=
  .configure ⟨"", "u", transport, "", "", 0, 0, revision⟩

/-- A run in which settings come late and again. -/
theorem no_rollback_reordered :
    ∃ before manager, Reaches (step noDates) unrestricted (new "" []) before ∧
      Reaches (step noDates) (Forward 0) before manager ∧ manager.isClaimed 0 = true ∧
      (before.revision 0 = 1 ∧ manager.revision 0 = 3) ∧
      NoRollback noDates before manager 0 := by
  have run : ∃ before, Reaches (step noDates) unrestricted (new "" []) before ∧
      (executeWith (step noDates) (Forward 0) before
        [configuration "usb" 3, configuration "network" 2, configuration "usb" 3]).map
          (fun manager => decide (manager.isClaimed 0 = true ∧
            before.revision 0 = 1 ∧ manager.revision 0 = 3)) = some true :=
    exists_reaches_of_run connected (by decide +kernel)
  rcases run with ⟨before, reached, later⟩
  rcases exists_reaches_of_run _ later with ⟨manager, onward, claimed, revisions⟩
  exact ⟨before, manager, reached, onward, claimed, revisions, no_rollback reached onward claimed⟩

/-- Settings without a revision set the revision of a claimed phone back, and then those
of an older revision are applied again. -/
theorem revision_rolled_back :
    ∃ before manager, Reaches (step noDates) unrestricted (new "" []) before ∧
      Reaches (step noDates) (fun manager _ => manager.isClaimed 0 = true) before manager ∧
      manager.isClaimed 0 = true ∧ ¬NoRollback noDates before manager 0 ∧
      (before.revision 0, before.settings 0) = (2, some ("usb", "", "", 0)) ∧
      (manager.revision 0, manager.settings 0) = (1, some ("network", "", "", 0)) := by
  have run : ∃ before, Reaches (step noDates) unrestricted (new "" []) before ∧
      (executeWith (step noDates) (fun manager _ => manager.isClaimed 0 = true) before
        [configuration "" 0, configuration "network" 1]).map
          (fun manager => decide (manager.isClaimed 0 = true ∧
            (before.revision 0, before.settings 0) = (2, some ("usb", "", "", 0)) ∧
            (manager.revision 0, manager.settings 0) = (1, some ("network", "", "", 0)))) =
              some true :=
    exists_reaches_of_run (connected ++ [configuration "usb" 2]) (by decide +kernel)
  rcases run with ⟨before, reached, later⟩
  rcases exists_reaches_of_run _ later with ⟨manager, onward, claimed, newer, older⟩
  refine ⟨before, manager, reached, onward, claimed, ?_, newer, older⟩
  intro noRollback
  have two : before.revision 0 = 2 := congrArg Prod.fst newer
  have one : manager.revision 0 = 1 := congrArg Prod.fst older
  have grows := noRollback.grows
  rw [two, one] at grows
  exact absurd grows (by decide)

end Phones

end LubricantNodes.Agent
