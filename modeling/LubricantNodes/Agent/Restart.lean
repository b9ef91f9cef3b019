import LubricantNodes.Agent.Claims

/-!
# Restarts

The manager writes `devices.json` when a phone is paired, configured or released, and a
new manager adopts the phones that it finds there.  A restart is meant to lose nothing
about a claim.

The file has no place for the device id and for the revision of the settings, its
reader gives names to settings that are blank, and takes every entry with a credential
for a claimed phone; a wipe does not write it.  `agrees_step_iff` says for every step
whether it keeps the file in agreement with the manager.
-/

namespace LubricantNodes.Agent

open Go Transition List DeviceConfig Phones Phone

/-! ## What is kept -/

/-- What a claim consists of. -/
structure ClaimRecord where
  credentialPath : String
  deviceId : String
  transport : String
  wdaBundle : String
  xctest : String
  hostWDAPort : Int
  configRevision : Int
  deriving DecidableEq

/-- A name that a request may leave as it is: the request has one, or the current one is
neither blank nor in need of trimming. -/
def Named (wanted current : String) : Prop :=
  trimSpace wanted = "" → trimSpace current ≠ "" ∧ trimSpace current = current
  deriving Decidable

/-- A reader that trims names, and replaces blank ones, leaves such a name alone. -/
theorem trimmed_setting_iff {wanted current fallback : String} (proper : trimSpace fallback ≠ "") :
    (if trimSpace (setting wanted current) ≠ "" then trimSpace (setting wanted current)
      else fallback) = setting wanted current ↔ Named wanted current := by
  unfold setting Named
  by_cases asked : trimSpace wanted = ""
  · rw [if_neg (not_not_intro asked)]
    by_cases blank : trimSpace current = ""
    · rw [if_neg (not_not_intro blank)]
      constructor
      · rintro rfl
        exact absurd blank proper
      · intro named
        exact absurd blank (named asked).1
    · rw [if_pos blank]
      exact ⟨fun same _ => ⟨blank, same⟩, fun named => (named asked).2⟩
  · rw [if_pos asked, trimSpace_trimSpace, if_pos asked]
    exact iff_of_true rfl fun empty => absurd empty asked

theorem defaultRunnerBundle_setting_iff {wanted current : String} :
    defaultRunnerBundle (setting wanted current) = setting wanted current ↔
      Named wanted current :=
  trimmed_setting_iff (by decide)

theorem defaultRunnerXctest_setting_iff {wanted current : String} :
    defaultRunnerXctest (setting wanted current) = setting wanted current ↔
      Named wanted current :=
  trimmed_setting_iff (by decide)

namespace Deed

/-- The claim of a phone, if it is claimed. -/
def record (deed : Deed) : Option ClaimRecord :=
  if deed.claimed then
    some {
      credentialPath := deed.credentialPath
      deviceId := deed.deviceId
      transport := deed.transport
      wdaBundle := deed.wdaBundle
      xctest := deed.xctest
      hostWDAPort := deed.hostWDAPort
      configRevision := deed.configRevision }
  else none

/-- The deed that a new manager reads. -/
def reloaded (deed : Deed) : Deed where
  udid := deed.udid
  claimed := deed.credentialPath ≠ ""
  credentialPath := deed.credentialPath
  transport := deed.transport
  wdaBundle := defaultRunnerBundle deed.wdaBundle
  xctest := defaultRunnerXctest deed.xctest
  hostWDAPort := deed.hostWDAPort

/-- The file has all of a deed: there is no device id and no revision, and the names of
bundle and test are not blank and need no trimming; without a claim there is no
credential. -/
def Lasting (deed : Deed) : Prop :=
  (deed.claimed = true → deed.deviceId = "" ∧
    defaultRunnerBundle deed.wdaBundle = deed.wdaBundle ∧
      defaultRunnerXctest deed.xctest = deed.xctest ∧ deed.configRevision = 0) ∧
    (deed.claimed = false → deed.credentialPath = "")
  deriving Decidable

variable {deed : Deed}

/-- What a pairing leaves is in the file. -/
theorem lasting_adopt_iff {request : ClaimDevice} {deviceId credentialPath : String} :
    (deed.adopt request deviceId credentialPath).Lasting ↔
      deviceId = "" ∧ Named request.wdaBundleId deed.wdaBundle ∧
        Named request.xctestConfigName deed.xctest ∧ request.configRevision = 0 := by
  unfold Lasting adopt
  rw [defaultRunnerBundle_setting_iff, defaultRunnerXctest_setting_iff]
  constructor
  · rintro ⟨lasting, _⟩
    exact lasting rfl
  · intro lasting
    exact ⟨fun _ => lasting, nofun⟩

/-- What an application of settings leaves is in the file. -/
theorem lasting_configure_iff {request : ConfigureDevice} :
    (deed.configure request).Lasting ↔
      (deed.claimed = true → deed.deviceId = "" ∧ Named request.wdaBundleId deed.wdaBundle ∧
        Named request.xctestConfigName deed.xctest ∧ request.configRevision = 0) ∧
      (deed.claimed = false → deed.credentialPath = "") := by
  unfold Lasting configure
  rw [defaultRunnerBundle_setting_iff, defaultRunnerXctest_setting_iff]

theorem record_of_unclaimed (unclaimed : deed.claimed = false) : deed.record = none := by
  unfold record
  rw [unclaimed]
  rfl

/-- What is read is the claim of the phone. -/
theorem Sound.record_reloaded_iff (sound : deed.Sound) :
    deed.reloaded.record = deed.record ↔ deed.Lasting := by
  unfold record reloaded Lasting
  cases claimed : deed.claimed with
  | true =>
    have credential : decide (deed.credentialPath ≠ "") = true :=
      decide_eq_true (sound.credential claimed)
    simp only [credential, if_true, Option.some.injEq, ClaimRecord.mk.injEq, true_and]
    constructor
    · rintro ⟨deviceId, bundle, test, revision⟩
      refine ⟨fun _ => ⟨deviceId.symm, bundle, test, revision.symm⟩, fun absurd => ?_⟩
      cases absurd
    · rintro ⟨lasting, _⟩
      rcases lasting trivial with ⟨deviceId, bundle, test, revision⟩
      exact ⟨deviceId.symm, bundle, test, revision.symm⟩
  | false =>
    by_cases bare : deed.credentialPath = "" <;> simp [bare]

end Deed

/-! ## The file -/

/-- The entry of a phone, as `persistLocked` writes it. -/
def Phone.config (phone : Phone) : DeviceConfig where
  udid := phone.udid
  name := firstNonEmpty [phone.name, phone.udid]
  transport := phone.transport
  wdaBundle := phone.wdaBundle
  xctest := phone.xctest
  wdaPort := phone.hostWDAPort
  credentialPath := phone.credentialPath

theorem Phone.udid_config (phone : Phone) : phone.config.udid = phone.deed.udid :=
  rfl

theorem Phone.deed_config (phone : Phone) : phone.config.deed = phone.deed.reloaded :=
  rfl

namespace DeviceConfig

/-- `Upsert`: an entry is matched by its identifier, or by its name without one. -/
def upsert (configs : List DeviceConfig) (config : DeviceConfig) : List DeviceConfig :=
  match configs.findIdx? fun existing =>
      config.udid ≠ "" && existing.udid = config.udid ||
        (config.udid = "" && config.name ≠ "" && existing.name = config.name) with
  | some index => configs.set index config
  | none => configs ++ [config]

/-- `removeFromConfigLocked`. -/
def remove (configs : List DeviceConfig) (udid : String) : List DeviceConfig :=
  configs.filter fun config => config.udid ≠ udid

/-- The entry of an identifier. -/
def lookup (configs : List DeviceConfig) (udid : String) : Option DeviceConfig :=
  configs.find? fun config => config.udid = udid

/-- Every entry has an identifier of its own. -/
structure Keyed (configs : List DeviceConfig) : Prop where
  distinct : (configs.map DeviceConfig.udid).Nodup
  named : ∀ config ∈ configs, trimSpace config.udid ≠ ""

variable {configs : List DeviceConfig} {config : DeviceConfig}

theorem upsert_cases (nonempty : config.udid ≠ "") :
    (∃ index old, configs[index]? = some old ∧ old.udid = config.udid ∧
      upsert configs config = configs.modify index fun _ => config) ∨
      config.udid ∉ configs.map DeviceConfig.udid ∧
        upsert configs config = configs ++ [config] := by
  unfold upsert
  simp only [nonempty, ne_eq, not_false_eq_true, decide_true, Bool.true_and, decide_false,
    Bool.false_and, Bool.or_false]
  split
  · rename_i index found
    rw [findIdx?_eq_some_iff_getElem] at found
    rcases found with ⟨inside, same, _⟩
    have present : configs[index]? = some configs[index] := getElem?_eq_getElem inside
    have replaced : (configs.modify index fun _ => config) = configs.set index config :=
      modify_eq_set present
    exact .inl ⟨index, configs[index], present, of_decide_eq_true same, replaced.symm⟩
  · rename_i missing
    rw [findIdx?_eq_none_iff] at missing
    refine .inr ⟨?_, rfl⟩
    intro member
    rcases mem_map.mp member with ⟨old, listed, same⟩
    exact of_decide_eq_false (missing old listed) same

theorem Keyed.upsert (keyed : Keyed configs) (named : trimSpace config.udid ≠ "")
    (nonempty : config.udid ≠ "") : Keyed (upsert configs config) := by
  rcases upsert_cases nonempty with ⟨index, old, present, same, written⟩ | ⟨absent, written⟩
  · rw [written]
    constructor
    · have kept : (configs.modify index fun _ => config).map udid =
          (configs.modify index id).map udid := by
        apply map_modify_congr
        intro found there
        cases present.symm.trans there
        exact same.symm
      rw [kept, modify_id]
      exact keyed.distinct
    · intro entry member
      rcases mem_iff_getElem?.mp member with ⟨place, there⟩
      rcases getElem?_modify_eq_some_iff.mp there with ⟨before, listed, rfl⟩
      split_ifs
      · exact named
      · exact keyed.named before (mem_of_getElem? listed)
  · rw [written]
    constructor
    · rw [map_append]
      refine nodup_append.mpr ⟨keyed.distinct, by simp, ?_⟩
      rintro udid known _ new rfl
      rw [mem_singleton.mp new] at known
      exact absent known
    · exact forall_mem_append.mpr ⟨keyed.named, forall_mem_singleton.mpr named⟩

theorem Keyed.lookup_upsert (keyed : Keyed configs) (nonempty : config.udid ≠ "") (udid : String) :
    lookup (DeviceConfig.upsert configs config) udid =
      if config.udid = udid then some config else lookup configs udid := by
  unfold lookup
  rcases upsert_cases nonempty with ⟨index, old, present, same, written⟩ | ⟨absent, written⟩
  · rw [written, find?_modify keyed.distinct present same.symm, same]
  · rw [written, find?_concat absent]

theorem Keyed.remove (keyed : Keyed configs) (udid : String) : Keyed (remove configs udid) where
  distinct := keyed.distinct.sublist (filter_sublist.map _)
  named := fun config member => keyed.named config (mem_of_mem_filter member)

theorem lookup_remove (configs : List DeviceConfig) (removed udid : String) :
    lookup (remove configs removed) udid =
      if removed = udid then none else lookup configs udid :=
  find?_remove removed

end DeviceConfig

/-! ## Lookups -/

namespace Phones

variable {manager after : Phones}

/-- The claim of the phone with an identifier. -/
def recordOf (manager : Phones) (udid : String) : Option ClaimRecord :=
  (manager.deeds.find? fun deed => deed.udid = udid).bind Deed.record

theorem Aside.recordOf (aside : Aside manager after) (udid : String) :
    after.recordOf udid = manager.recordOf udid := by
  unfold Phones.recordOf
  rw [aside.deeds]

theorem Discovers.recordOf (discovers : Discovers manager after) (udid : String) :
    after.recordOf udid = manager.recordOf udid := by
  rcases discovers.deeds with ⟨found, deeds, fresh⟩
  unfold Phones.recordOf
  rw [deeds, find?_append]
  cases manager.deeds.find? fun deed => deed.udid = udid with
  | some => rfl
  | none =>
    cases new : found.find? fun deed => deed.udid = udid with
    | none => rfl
    | some deed =>
      rw [fresh deed (mem_of_find?_eq_some new)]
      rfl

variable {deed : Deed} {number : Nat}

variable {effect : Deed → Deed} {configDir : String} {configs : List DeviceConfig}

section Records

variable (pairedOnce : manager.PairedOnce) (present : manager.deeds[number]? = some deed)

include pairedOnce present

/-- One deed is changed. -/
theorem PairedOnce.recordOf (deeds : after.deeds = manager.deeds.modify number effect)
    (udid : (effect deed).udid = deed.udid) (wanted : String) :
    after.recordOf wanted =
      if deed.udid = wanted then (effect deed).record else manager.recordOf wanted := by
  unfold Phones.recordOf
  rw [deeds, find?_modify pairedOnce.distinct present udid]
  split_ifs <;> rfl

/-- The claim of a phone is found under its identifier. -/
theorem PairedOnce.recordOf_udid : manager.recordOf deed.udid = deed.record := by
  have same : manager.deeds = manager.deeds.modify number id := (modify_id _ _).symm
  rw [pairedOnce.recordOf present same rfl, if_pos rfl]
  rfl

/-- The change of a deed does not touch its claim. -/
theorem PairedOnce.recordOf_same (deeds : after.deeds = manager.deeds.modify number effect)
    (udid : (effect deed).udid = deed.udid) (record : (effect deed).record = deed.record)
    (wanted : String) : after.recordOf wanted = manager.recordOf wanted := by
  rw [pairedOnce.recordOf present deeds udid]
  split_ifs with here
  · rw [record, ← here, pairedOnce.recordOf_udid present]
  · rfl

end Records

theorem indexOf_of_not_mem {udid : String} (unknown : udid ∉ manager.udids) :
    manager.indexOf udid = none := by
  unfold indexOf
  rw [findIdx?_eq_none_iff]
  intro phone member
  apply decide_eq_false
  rintro rfl
  exact unknown (mem_map_of_mem (mem_map_of_mem member))

theorem deeds_adopt_of_new {config : DeviceConfig} (named : trimSpace config.udid ≠ "")
    (unknown : config.udid ∉ manager.udids) :
    (manager.adopt config).deeds = manager.deeds ++ [config.deed] := by
  unfold adopt
  rw [if_neg named, indexOf_of_not_mem unknown]
  unfold deeds
  rw [map_append, map_singleton, deed_of_config]

/-- The phones of a new manager are those of the file. -/
theorem deeds_new (keyed : DeviceConfig.Keyed configs) :
    (new configDir configs).deeds = configs.map DeviceConfig.deed := by
  suffices general : ∀ manager : Phones, (∀ config ∈ configs, config.udid ∉ manager.udids) →
      (configs.foldl adopt manager).deeds = manager.deeds ++ configs.map DeviceConfig.deed from
    general { configDir := configDir } fun _ _ absurd => by cases absurd
  induction configs with
  | nil =>
    intro manager _
    exact (append_nil _).symm
  | cons config rest ih =>
    intro manager unknown
    have distinct := keyed.distinct
    rw [map_cons, nodup_cons] at distinct
    have adopted := deeds_adopt_of_new (keyed.named config mem_cons_self)
      (unknown config mem_cons_self)
    have later : ∀ other ∈ rest, other.udid ∉ (manager.adopt config).udids := by
      intro other member known
      unfold udids at known
      rw [adopted, map_append] at known
      rcases mem_append.mp known with old | new
      · exact unknown other (mem_cons_of_mem _ member) old
      · have same : other.udid = config.udid := mem_singleton.mp new
        exact distinct.1 (same ▸ mem_map_of_mem member)
    rw [foldl_cons, ih ⟨distinct.2, fun other member =>
      keyed.named other (mem_cons_of_mem _ member)⟩ _ later, adopted, append_assoc]
    rfl

theorem recordOf_new (keyed : DeviceConfig.Keyed configs) (udid : String) :
    (new configDir configs).recordOf udid =
      (DeviceConfig.lookup configs udid).bind fun config => config.deed.record := by
  unfold recordOf DeviceConfig.lookup
  rw [deeds_new keyed, find?_map, Option.bind_map]
  rfl

end Phones

/-! ## The manager with its file -/

/-- The manager and what `devices.json` has. -/
structure SavedPhones where
  manager : Phones
  saved : List DeviceConfig := []

namespace SavedPhones

variable {calendar : Calendar} {state after : SavedPhones}

/-- What a step writes. -/
def written (state : SavedPhones) : PhoneEvent → List DeviceConfig
  | .advance index answer =>
    match state.manager.pairingAt index, answer.paired with
    | some pairing, .ok deviceId =>
      match state.manager.phones[pairing.phone]? with
      | some phone =>
        DeviceConfig.upsert state.saved
          (phone.adopt pairing.request pairing.name deviceId
            (defaultCredentialPath state.manager.configDir pairing.name)).config
      | none => state.saved
    | _, _ => state.saved
  | .release request =>
    match state.manager.findLocked request.deviceId request.udid with
    | some number =>
      match state.manager.phones[number]? with
      | some phone => DeviceConfig.remove state.saved phone.udid
      | none => state.saved
    | none => state.saved
  | .configure request =>
    match state.manager.findLocked request.deviceId request.udid with
    | some number =>
      match state.manager.phones[number]? with
      | some phone =>
        if request.configRevision ≠ 0 ∧ request.configRevision ≤ phone.configRevision then
          state.saved
        else DeviceConfig.upsert state.saved (phone.configure request).config
      | none => state.saved
    | none => state.saved
  | _ => state.saved

/-- A step of the manager; every save succeeds. -/
def step (calendar : Calendar) : Step SavedPhones PhoneEvent := fun state event =>
  (state.manager.step calendar event).map fun manager => ⟨manager, state.written event⟩

/-- The manager after a restart. -/
def reload (state : SavedPhones) : Phones :=
  Phones.new state.manager.configDir state.saved

/-- A restart changes no claim. -/
def Agrees (state : SavedPhones) : Prop :=
  ∀ udid, state.reload.recordOf udid = state.manager.recordOf udid

/-- The server names no device and the requests have no revision; where a request has no
name for the bundle or the test of a claimed phone, the phone has one; settings are sent
to no released phone whose credential was kept; and a wipe finds no claimed phone. -/
def Keeps : Discipline SavedPhones PhoneEvent
  | state, .advance index answer =>
    ∀ pairing ∈ state.manager.pairingAt index,
      ∀ phone ∈ state.manager.phones[pairing.phone]?, ∀ deviceId ∈ answer.paired.toOption,
        deviceId = "" ∧ Named pairing.request.wdaBundleId phone.wdaBundle ∧
          Named pairing.request.xctestConfigName phone.xctest ∧
          pairing.request.configRevision = 0
  | state, .configure request =>
    ∀ number ∈ state.manager.findLocked request.deviceId request.udid,
      ∀ phone ∈ state.manager.phones[number]?,
        ¬(request.configRevision ≠ 0 ∧ request.configRevision ≤ phone.configRevision) →
          (phone.claimed = true → phone.deviceId = "" ∧
            Named request.wdaBundleId phone.wdaBundle ∧
            Named request.xctestConfigName phone.xctest ∧ request.configRevision = 0) ∧
          (phone.claimed = false → phone.credentialPath = "")
  | state, .onWipe loop =>
    ∀ found ∈ state.manager.loops[loop]?, state.manager.isClaimed found.phone = false
  | _, _ => True

instance (state : SavedPhones) (event : PhoneEvent) : Decidable (Keeps state event) := by
  delta Keeps
  rcases event with _ | _ <;> infer_instance

/-- The claims are in good order, and the entries of the file have identifiers of their
own. -/
structure Tidy (state : SavedPhones) : Prop where
  pairedOnce : state.manager.PairedOnce
  keyed : DeviceConfig.Keyed state.saved

/-- What the file says about an identifier. -/
def savedRecord (saved : List DeviceConfig) (udid : String) : Option ClaimRecord :=
  (DeviceConfig.lookup saved udid).bind fun config => config.deed.record

theorem Tidy.agrees_iff (tidy : state.Tidy) :
    state.Agrees ↔ ∀ udid, savedRecord state.saved udid = state.manager.recordOf udid := by
  unfold Agrees reload savedRecord
  simp only [recordOf_new tidy.keyed]

/-! ### What a step writes -/

variable {event : PhoneEvent} {manager : Phones} {number : Nat} {udid : String} {phone : Phone}

theorem written_of_touchesNoDeed (idle : state.manager.TouchesNoDeed event) :
    state.written event = state.saved := by
  cases event with
  | advance index answer =>
    have none : state.manager.pairingAt index = none := idle
    simp only [written, none]
  | release request =>
    have missing : state.manager.findLocked request.deviceId request.udid = none := idle
    simp only [written, missing]
  | configure =>
    simp only [written]
    split
    · rename_i number found
      split
      · rename_i phone present
        split
        · rfl
        · rename_i passes
          cases idle number phone ⟨found, present, passes⟩
      · rfl
    · rfl
  | onWipe => cases idle
  | _ => rfl

variable {deviceId : String} {saved : List DeviceConfig}

/-- A phone that a command finds has an identifier. -/
theorem named_of_findLocked (pairedOnce : manager.PairedOnce)
    (found : manager.findLocked deviceId udid = some number) :
    ∃ deed, manager.deeds[number]? = some deed ∧ trimSpace deed.udid ≠ "" := by
  unfold findLocked at found
  dsimp only at found
  split at found
  · rename_i byId
    cases found
    split_ifs at byId with named
    rw [findIdx?_eq_some_iff_getElem] at byId
    rcases byId with ⟨inside, same, _⟩
    have present : manager.deeds[number]? = some manager.phones[number].deed :=
      getElem?_deeds_eq_some_iff.mpr ⟨_, getElem?_eq_getElem inside, rfl⟩
    have sound := pairedOnce.sound _ (mem_of_getElem? present)
    refine ⟨_, present, sound.udid (sound.deviceId ?_)⟩
    have id : manager.phones[number].deed.deviceId = trimSpace deviceId := of_decide_eq_true same
    rw [id]
    exact named
  · split_ifs at found with named
    have inside := found
    unfold indexOf at inside
    rw [findIdx?_eq_some_iff_getElem] at inside
    rcases inside with ⟨inside, _, _⟩
    have present : manager.deeds[number]? = some manager.phones[number].deed :=
      getElem?_deeds_eq_some_iff.mpr ⟨_, getElem?_eq_getElem inside, rfl⟩
    refine ⟨_, present, ?_⟩
    rw [udid_of_indexOf found present, trimSpace_trimSpace]
    exact named

theorem ne_empty_of_trimSpace {text : String} (named : trimSpace text ≠ "") : text ≠ "" := by
  rintro rfl
  exact named (by decide)

/-- Both sides are changed for one identifier. -/
theorem agree_iff_of_change {saved known saved' known' : String → Option ClaimRecord}
    {read kept : Option ClaimRecord} (agree : ∀ other, saved other = known other)
    (reads : ∀ other, saved' other = if udid = other then read else saved other)
    (keeps : ∀ other, known' other = if udid = other then kept else known other) :
    (∀ other, saved' other = known' other) ↔ read = kept := by
  constructor
  · intro after
    have here := after udid
    rw [reads, keeps, if_pos rfl, if_pos rfl] at here
    exact here
  · intro same other
    rw [reads, keeps]
    split_ifs
    · exact same
    · exact agree other

theorem savedRecord_upsert (keyed : DeviceConfig.Keyed saved)
    (named : trimSpace phone.deed.udid ≠ "") (udid : String) :
    savedRecord (DeviceConfig.upsert saved phone.config) udid =
      if phone.deed.udid = udid then phone.deed.reloaded.record else savedRecord saved udid := by
  have nonempty : phone.config.udid ≠ "" := by
    rw [phone.udid_config]
    exact ne_empty_of_trimSpace named
  unfold savedRecord
  rw [keyed.lookup_upsert nonempty, phone.udid_config]
  split_ifs
  · rw [Option.bind_some, phone.deed_config]
  · rfl

theorem savedRecord_remove (saved : List DeviceConfig) (removed udid : String) :
    savedRecord (DeviceConfig.remove saved removed) udid =
      if removed = udid then none else savedRecord saved udid := by
  unfold savedRecord
  rw [lookup_remove]
  split_ifs <;> rfl

/-- A phone is written to the file after a change of it. -/
theorem agree_iff_of_persist {change : Phone → Phone} {effect : Deed → Deed} (tidy : state.Tidy)
    (agree : ∀ udid, savedRecord state.saved udid = state.manager.recordOf udid)
    (changes : ∀ phone, (change phone).deed = effect phone.deed)
    (present : state.manager.phones[number]? = some phone) (named : trimSpace phone.deed.udid ≠ "")
    (udid : ∀ deed, (effect deed).udid = deed.udid) (sound : (effect phone.deed).Sound)
    (deeds : manager.deeds = state.manager.deeds.modify number effect) :
    (∀ udid, savedRecord (DeviceConfig.upsert state.saved (change phone).config) udid =
      manager.recordOf udid) ↔ (effect phone.deed).Lasting := by
  have deed : state.manager.deeds[number]? = some phone.deed :=
    getElem?_deeds_eq_some_iff.mpr ⟨phone, present, rfl⟩
  have same : (change phone).deed.udid = phone.deed.udid := by rw [changes, udid]
  rw [agree_iff_of_change agree (savedRecord_upsert tidy.keyed (same.symm ▸ named)) ?_,
    changes, sound.record_reloaded_iff]
  intro other
  rw [tidy.pairedOnce.recordOf deed deeds (udid _), same]

/-- A phone is wiped. -/
theorem agree_iff_of_wipe (tidy : state.Tidy)
    (agree : ∀ udid, savedRecord state.saved udid = state.manager.recordOf udid)
    (deeds : manager.deeds = state.manager.deeds.modify number Deed.wipe) :
    (∀ udid, savedRecord state.saved udid = manager.recordOf udid) ↔
      state.manager.isClaimed number = false := by
  unfold isClaimed
  cases present : state.manager.deeds[number]? with
  | none =>
    have same : manager.deeds = state.manager.deeds := by
      rw [deeds, modify_eq_set_getElem?, present]
      rfl
    refine iff_of_true (fun udid => ?_) rfl
    unfold recordOf
    rw [same]
    exact agree udid
  | some deed =>
    have unwritten : ∀ other, savedRecord state.saved other =
        if deed.udid = other then deed.record else savedRecord state.saved other := by
      intro other
      split_ifs with here
      · rw [← here, agree, tidy.pairedOnce.recordOf_udid present]
      · rfl
    rw [agree_iff_of_change agree unwritten (tidy.pairedOnce.recordOf present deeds rfl)]
    change deed.record = none ↔ deed.claimed = false
    constructor
    · intro nothing
      unfold Deed.record at nothing
      split_ifs at nothing with claimed
      exact Bool.eq_false_iff.mpr claimed
    · exact Deed.record_of_unclaimed

/-- The condition on a pairing says that the file has all of what it leaves. -/
theorem keeps_advance_iff {index : Nat} {answer : TaskAnswer} {pairing : Pairing}
    {deviceId : String} (underWay : state.manager.pairingAt index = some pairing)
    (paired : answer.paired = .ok deviceId)
    (present : state.manager.phones[pairing.phone]? = some phone) :
    Keeps state (.advance index answer) ↔ (phone.deed.adopt pairing.request deviceId
      (defaultCredentialPath state.manager.configDir pairing.name)).Lasting := by
  rw [Deed.lasting_adopt_iff]
  simp [Keeps, underWay, paired, present, Except.toOption, Phone.deed]

/-- So does the condition on settings. -/
theorem keeps_configure_iff {request : ConfigureDevice}
    (applies : state.manager.Applies request number phone) :
    Keeps state (.configure request) ↔ (phone.deed.configure request).Lasting := by
  rw [Deed.lasting_configure_iff]
  constructor
  · intro keeps
    exact keeps number applies.found phone applies.present applies.passes
  · intro lasting other found known present passes
    cases applies.found.symm.trans found
    cases applies.present.symm.trans present
    exact lasting

theorem keeps_of_touchesNoDeed (idle : state.manager.TouchesNoDeed event) : Keeps state event := by
  cases event with
  | advance index answer =>
    intro pairing underWay
    cases (idle : state.manager.pairingAt index = none).symm.trans underWay
  | configure =>
    intro number found phone present passes
    cases idle number phone ⟨found, present, passes⟩
  | onWipe => cases idle
  | _ => trivial

/-- The phone of a pairing is known. -/
theorem exists_of_pairing {index : Nat} {pairing : Pairing} (pairedOnce : manager.PairedOnce)
    (underWay : manager.pairingAt index = some pairing) :
    ∃ phone, manager.phones[pairing.phone]? = some phone ∧ phone.deed.Reserved := by
  rcases pairedOnce.reserved underWay with ⟨deed, present, reserved⟩
  rcases getElem?_deeds_eq_some_iff.mp present with ⟨phone, here, rfl⟩
  exact ⟨phone, here, reserved⟩

/-- The phone that a command finds is known. -/
theorem exists_of_findLocked (pairedOnce : manager.PairedOnce)
    (found : manager.findLocked deviceId udid = some number) :
    ∃ phone, manager.phones[number]? = some phone ∧ trimSpace phone.deed.udid ≠ "" := by
  rcases named_of_findLocked pairedOnce found with ⟨deed, present, named⟩
  rcases getElem?_deeds_eq_some_iff.mp present with ⟨phone, here, rfl⟩
  exact ⟨phone, here, named⟩

theorem keyed_persist (keyed : DeviceConfig.Keyed saved) (named : trimSpace phone.deed.udid ≠ "") :
    DeviceConfig.Keyed (DeviceConfig.upsert saved phone.config) := by
  rw [← phone.udid_config] at named
  exact keyed.upsert named (ne_empty_of_trimSpace named)

theorem udid_adopt (request : ClaimDevice) (name deviceId credentialPath : String) (phone : Phone) :
    (phone.adopt request name deviceId credentialPath).deed.udid = phone.deed.udid := by
  rw [deed_adopt, Deed.udid_adopt]

theorem udid_configure (request : ConfigureDevice) (phone : Phone) :
    (phone.configure request).deed.udid = phone.deed.udid := by
  rw [deed_configure, Deed.udid_configure]

theorem Tidy.written (tidy : state.Tidy) (event : PhoneEvent) :
    DeviceConfig.Keyed (state.written event) := by
  cases event with
  | advance =>
    simp only [SavedPhones.written]
    split
    · rename_i pairing deviceId underWay paired
      rcases exists_of_pairing tidy.pairedOnce underWay with ⟨phone, present, reserved⟩
      rw [present]
      apply keyed_persist tidy.keyed
      rw [udid_adopt]
      exact reserved.udid
    · exact tidy.keyed
  | release =>
    simp only [SavedPhones.written]
    split
    · split
      · exact tidy.keyed.remove _
      · exact tidy.keyed
    · exact tidy.keyed
  | configure =>
    simp only [SavedPhones.written]
    split
    · rename_i number found
      rcases exists_of_findLocked tidy.pairedOnce found with ⟨phone, present, named⟩
      rw [present]
      dsimp only
      split
      · exact tidy.keyed
      · apply keyed_persist tidy.keyed
        rw [udid_configure]
        exact named
    · exact tidy.keyed
  | _ => exact tidy.keyed

/-- Every step keeps the file tidy. -/
theorem Tidy.step (tidy : state.Tidy)
    (stepped : step calendar state event = some after) : after.Tidy := by
  rcases Option.map_eq_some_iff.mp stepped with ⟨manager, moved, rfl⟩
  exact ⟨tidy.pairedOnce.step moved, tidy.written event⟩

/-- Exactly the steps that meet `Keeps` keep the file in agreement with the manager. -/
theorem agrees_step_iff (tidy : state.Tidy) (agrees : state.Agrees)
    (stepped : step calendar state event = some after) : after.Agrees ↔ Keeps state event := by
  have agree := tidy.agrees_iff.mp agrees
  rw [(tidy.step stepped).agrees_iff]
  rcases Option.map_eq_some_iff.mp stepped with ⟨manager, moved, rfl⟩
  cases step_deeds moved with
  | same idle aside =>
    rw [written_of_touchesNoDeed idle]
    exact iff_of_true (fun udid => (agree udid).trans (aside.recordOf udid).symm)
      (keeps_of_touchesNoDeed idle)
  | found discovers aside =>
    refine iff_of_true (fun udid => ?_) trivial
    rw [aside.recordOf, discovers.recordOf]
    exact agree udid
  | reserve reserves aside =>
    refine iff_of_true (fun udid => ?_) trivial
    rcases deed_of_reserves reserves with ⟨present, _⟩
    have deeds := aside.deeds.trans (deeds_edit deed_reserve)
    rw [tidy.pairedOnce.recordOf_same present deeds rfl rfl]
    exact agree udid
  | @giveUp index answer pairing cause _ underWay failed aside =>
    have unwritten : state.written (.advance index answer) = state.saved := by
      simp only [written, underWay, failed]
    rw [unwritten]
    refine iff_of_true (fun udid => ?_) ?_
    · rcases tidy.pairedOnce.reserved underWay with ⟨deed, present, _⟩
      have deeds := aside.deeds.trans (deeds_conclude (deed_pairFailed _))
      rw [tidy.pairedOnce.recordOf_same present deeds rfl rfl]
      exact agree udid
    · intro _ _ _ _ deviceId succeeded
      rw [failed] at succeeded
      cases succeeded
  | @adopt index answer pairing deviceId _ underWay paired aside =>
    rcases exists_of_pairing tidy.pairedOnce underWay with ⟨phone, present, reserved⟩
    have entry : state.written (.advance index answer) = upsert state.saved
        (phone.adopt pairing.request pairing.name deviceId
          (defaultCredentialPath state.manager.configDir pairing.name)).config := by
      simp only [written, underWay, paired, present]
    rw [entry, keeps_advance_iff underWay paired present]
    exact agree_iff_of_persist tidy agree (deed_adopt _ _ _ _) present reserved.udid
      (Deed.udid_adopt _ _ _) (reserved.adopt _ _ (defaultCredentialPath_ne_empty _ _))
      (aside.deeds.trans (deeds_conclude (deed_adopt _ _ _ _)))
  | @release request number _ found aside =>
    rcases exists_of_findLocked tidy.pairedOnce found with ⟨phone, present, named⟩
    have entry : state.written (.release request) = remove state.saved phone.deed.udid := by
      simp only [written, found, present]
      rfl
    have deed : state.manager.deeds[number]? = some phone.deed :=
      getElem?_deeds_eq_some_iff.mpr ⟨phone, present, rfl⟩
    have deeds := aside.deeds.trans (deeds_edit (deed_release _))
    rw [entry, agree_iff_of_change agree (savedRecord_remove _ _)
      (tidy.pairedOnce.recordOf deed deeds rfl)]
    exact iff_of_true (Deed.record_of_unclaimed rfl).symm trivial
  | @configure request number phone _ applies aside =>
    rcases exists_of_findLocked tidy.pairedOnce applies.found with ⟨known, present, named⟩
    cases present.symm.trans applies.present
    have entry : state.written (.configure request) =
        upsert state.saved (phone.configure request).config := by
      simp only [written, applies.found, applies.present]
      exact if_neg applies.passes
    have sound : phone.deed.Sound := tidy.pairedOnce.sound _ (mem_of_getElem?
        (getElem?_deeds_eq_some_iff.mpr ⟨phone, applies.present, rfl⟩))
    rw [entry, keeps_configure_iff applies]
    exact agree_iff_of_persist tidy agree (deed_configure _) applies.present named
      (Deed.udid_configure _) (sound.configure request)
      (aside.deeds.trans (deeds_edit (deed_configure _)))
  | @wipe loop found _ present aside =>
    have unclaimed : Keeps state (.onWipe loop) ↔ state.manager.isClaimed found.phone = false := by
      simp [Keeps, present]
    rw [unclaimed]
    exact agree_iff_of_wipe tidy agree (aside.deeds.trans (deeds_edit deed_onWipe))

/-- What holds of a new manager with an empty file. -/
theorem tidy_empty (configDir : String) : Tidy { manager := Phones.new configDir [] } where
  pairedOnce := pairedOnce_new configDir []
  keyed := ⟨nodup_nil, fun _ absurd => by cases absurd⟩

theorem agrees_empty (configDir : String) : Agrees { manager := Phones.new configDir [] } := by
  intro udid
  rfl

/-- Where every pairing and every configuration leaves what the file can keep, and no
claimed phone is wiped, a restart changes no claim, in every run. -/
theorem restart_agrees {configDir : String}
    (reached : Reaches (step calendar) Keeps { manager := Phones.new configDir [] } state) :
    state.Agrees := by
  have both : state.Tidy ∧ state.Agrees := by
    apply reached.invariant (P := fun state => state.Tidy ∧ state.Agrees)
      ⟨tidy_empty configDir, agrees_empty configDir⟩
    rintro state event after _ ⟨tidy, agrees⟩ keeps stepped
    exact ⟨tidy.step stepped, (agrees_step_iff tidy agrees stepped).mpr keeps⟩
  exact both.2

/-- A claim, as the samples make it. -/
def claiming (udid wdaBundleId xctestConfigName : String) (configRevision : Int) : PhoneEvent :=
  .claim ⟨udid, "code", "server", "", "usb", wdaBundleId, xctestConfigName, configRevision⟩

/-- A phone is claimed, configured, released and claimed again. -/
theorem restart_agrees_configured :
    ∃ state, Reaches (step Phones.noDates) Keeps { manager := Phones.new "/c" [] } state ∧
      state.manager.recordOf "u" =
        some ⟨"/c/credentials/phone.json", "", "network", "b", "x", 8100, 0⟩ ∧
      state.Agrees := by
  refine exists_reaches_and_of_run
      [.snapshot [("u", "phone")] 0, claiming "u" "a" "x" 0, .advance 1 {},
        .release ⟨"", "u", true⟩, claiming "u" "b" "x" 0, .advance 3 {},
        .configure ⟨"", "u", "network", "", "", 8100, 0, 0⟩]
      (by decide +kernel) ?_
  intro state reached _
  exact restart_agrees reached

/-- A restart loses the device id and the revision of a claimed phone. -/
theorem restart_forgets :
    ∃ state, Reaches (step Phones.noDates) unrestricted { manager := Phones.new "/c" [] } state ∧
      ¬state.Agrees := by
  refine exists_reaches_imp_of_run (fun state =>
        state.manager.recordOf "u" = some ⟨"/c/credentials/phone.json", "id", "usb", "b", "x", 0,
        1⟩ ∧
        state.reload.recordOf "u" = some ⟨"/c/credentials/phone.json", "", "usb", "b", "x", 0, 0⟩)
      [.snapshot [("u", "phone")] 0, claiming "u" "b" "x" 1, .advance 1 { paired := .ok "id" }]
      (by decide +kernel) ?_
  rintro state reached ⟨running, reloaded⟩ agrees
  have same := agrees "u"
  rw [running, reloaded] at same
  exact absurd same (by decide)

end SavedPhones

end LubricantNodes.Agent
