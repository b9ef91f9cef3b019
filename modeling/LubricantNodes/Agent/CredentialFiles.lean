import LubricantNodes.Agent.Claims

/-!
# The credential files of phones

The credential of a phone is a file whose name is made of the label of the phone by a
filter that is not injective.  Pairing writes the file while the manager is unlocked,
and a release that deletes it does so after it has unlocked the manager.

Every phone is meant to have a file of its own.  Two labels can name the same file, so
this holds only when no claim names a file that is in use, and no release deletes one
that another phone has come to use.
-/

namespace LubricantNodes.Agent

open Go Transition List Option Phones

/-! ## Files and their users -/

/-- Files of different users are different. -/
def Apart {α β : Type} (files others : List (α × β)) : Prop :=
  ∀ file ∈ files, ∀ other ∈ others, file.1 ≠ other.1 → file.2 ≠ other.2

section Apart

variable {α β : Type} {files others fewer less : List (α × β)}

instance [DecidableEq α] [DecidableEq β] : Decidable (Apart files others) :=
  inferInstanceAs (Decidable (∀ file ∈ files, ∀ other ∈ others, _ → _))

theorem Apart.mono (apart : Apart files others) (left : ∀ file ∈ fewer, file ∈ files)
    (right : ∀ other ∈ less, other ∈ others) : Apart fewer less := by
  intro file member other present
  exact apart file (left file member) other (right other present)

theorem Apart.symm (apart : Apart files others) : Apart others files := by
  intro other present file member different same
  exact apart file member other present different.symm same.symm

theorem apart_append_left :
    Apart (files ++ fewer) others ↔ Apart files others ∧ Apart fewer others := by
  constructor
  · intro apart
    exact ⟨fun file member => apart file (mem_append_left _ member),
      fun file member => apart file (mem_append_right _ member)⟩
  · rintro ⟨first, second⟩ file member
    rcases mem_append.mp member with left | right
    · exact first file left
    · exact second file right

theorem apart_append_right :
    Apart files (others ++ less) ↔ Apart files others ∧ Apart files less := by
  constructor
  · intro apart
    rcases apart_append_left.mp apart.symm with ⟨first, second⟩
    exact ⟨first.symm, second.symm⟩
  · rintro ⟨first, second⟩
    exact (apart_append_left.mpr ⟨first.symm, second.symm⟩).symm

theorem apart_singleton_self (file : α × β) : Apart [file] [file] := by
  intro first here second there different
  rw [mem_singleton.mp here, mem_singleton.mp there] at different
  exact (different rfl).elim

/-- A file comes into use. -/
theorem Apart.insert {file : α × β} (apart : Apart files (files ++ others))
    (fresh : Apart [file] (files ++ others)) : Apart (file :: files) (file :: files ++ others) := by
  rcases apart_append_right.mp fresh with ⟨freshFiles, _⟩
  have first : Apart [file] ([file] ++ (files ++ others)) :=
    apart_append_right.mpr ⟨apart_singleton_self file, fresh⟩
  have second : Apart files ([file] ++ (files ++ others)) :=
    apart_append_right.mpr ⟨freshFiles.symm, apart⟩
  exact apart_append_left.mpr ⟨first, second⟩

/-- A file is going to be deleted. -/
theorem Apart.doom (apart : Apart files (files ++ others)) (doomed : Apart less files) :
    Apart files (files ++ (others ++ less)) := by
  rw [← append_assoc]
  exact apart_append_right.mpr ⟨apart, doomed.symm⟩

/-- Files go out of use. -/
theorem Apart.shrink (apart : Apart files (files ++ others)) (fewer_subset : fewer ⊆ files) :
    Apart fewer (fewer ++ others) := by
  apply apart.mono fewer_subset
  intro file member
  rcases mem_append.mp member with used | left
  · exact mem_append_left _ (fewer_subset used)
  · exact mem_append_right _ left

end Apart

namespace Phones

variable {manager after : Phones}

/-- The files of claimed phones. -/
def holders (manager : Phones) : List (Nat × String) :=
  manager.deeds.zipIdx.filterMap fun entry =>
    if entry.1.claimed then some (entry.2, entry.1.credentialPath) else none

/-- The files that pairings write. -/
def pairers (manager : Phones) : List (Nat × String) :=
  manager.tasks.filterMap fun task => task.pairing?.map fun pairing =>
    (pairing.phone, defaultCredentialPath manager.configDir pairing.name)

/-- The files in use. -/
def uses (manager : Phones) : List (Nat × String) :=
  manager.holders ++ manager.pairers

variable {number : Nat}

theorem mem_holders_iff {path : String} : (number, path) ∈ manager.holders ↔
      ∃ deed, manager.deeds[number]? = some deed ∧ deed.claimed = true ∧
        deed.credentialPath = path := by
  unfold holders
  rw [mem_filterMap]
  constructor
  · rintro ⟨⟨deed, index⟩, member, kept⟩
    split_ifs at kept with claimed
    cases kept
    exact ⟨deed, mk_mem_zipIdx_iff_getElem?.mp member, claimed, rfl⟩
  · rintro ⟨deed, present, claimed, rfl⟩
    exact ⟨(deed, number), mk_mem_zipIdx_iff_getElem?.mpr present, if_pos claimed⟩

theorem mem_pairers_iff {path : String} : (number, path) ∈ manager.pairers ↔
      ∃ index pairing, manager.pairingAt index = some pairing ∧ pairing.phone = number ∧
        defaultCredentialPath manager.configDir pairing.name = path := by
  unfold pairers pairingAt
  rw [mem_filterMap]
  constructor
  · rintro ⟨task, member, kept⟩
    rcases map_eq_some_iff.mp kept with ⟨pairing, underWay, same⟩
    cases same
    rcases mem_iff_getElem?.mp member with ⟨index, present⟩
    exact ⟨index, pairing, bind_eq_some_iff.mpr ⟨task, present, underWay⟩, rfl, rfl⟩
  · rintro ⟨index, pairing, found, rfl, rfl⟩
    rcases bind_eq_some_iff.mp found with ⟨task, present, underWay⟩
    refine ⟨task, mem_of_getElem? present, ?_⟩
    rw [underWay]
    rfl

theorem mem_uses_of_claimed {deed : Deed} (present : manager.deeds[number]? = some deed)
    (claimed : deed.claimed = true) : (number, deed.credentialPath) ∈ manager.uses :=
  mem_append_left _ (mem_holders_iff.mpr ⟨deed, present, claimed, rfl⟩)

theorem mem_uses_of_pairing {index : Nat} {pairing : Pairing}
    (underWay : manager.pairingAt index = some pairing) :
    (pairing.phone, defaultCredentialPath manager.configDir pairing.name) ∈ manager.uses :=
  mem_append_right _ (mem_pairers_iff.mpr ⟨index, pairing, underWay, rfl, rfl⟩)

/-- Every file that is used after a step is one of a list. -/
theorem uses_subset {listed : List (Nat × String)}
    (claimed : ∀ {number : Nat} {deed : Deed}, after.deeds[number]? = some deed →
      deed.claimed = true → (number, deed.credentialPath) ∈ listed)
    (pairing : ∀ {index : Nat} {pairing : Pairing}, after.pairingAt index = some pairing →
      (pairing.phone, defaultCredentialPath after.configDir pairing.name) ∈ listed) :
    after.uses ⊆ listed := by
  rintro ⟨number, path⟩ member
  rcases mem_append.mp member with holder | pairer
  · rcases mem_holders_iff.mp holder with ⟨deed, present, owned, rfl⟩
    exact claimed present owned
  · rcases mem_pairers_iff.mp pairer with ⟨index, found, underWay, rfl, rfl⟩
    exact pairing underWay

theorem Aside.uses (aside : Aside manager after) : after.uses ⊆ manager.uses := by
  apply uses_subset
  · intro number deed present claimed
    rw [aside.deeds] at present
    exact mem_uses_of_claimed present claimed
  · intro index pairing underWay
    rw [aside.pairings] at underWay
    rw [aside.configDir]
    exact mem_uses_of_pairing underWay

/-- One deed is changed, and pairings may be over. -/
theorem uses_of_edit {effect : Deed → Deed}
    (deeds : after.deeds = manager.deeds.modify number effect)
    (configDir : after.configDir = manager.configDir)
    (pairings : ∀ {index : Nat} {pairing : Pairing}, after.pairingAt index = some pairing →
      manager.pairingAt index = some pairing)
    (holds : ∀ deed, manager.deeds[number]? = some deed → (effect deed).claimed = true →
      (number, (effect deed).credentialPath) ∈ manager.uses) : after.uses ⊆ manager.uses := by
  apply uses_subset
  · intro index deed present claimed
    rw [deeds] at present
    rcases of_getElem?_modify_eq_some present with ⟨rfl, old, there, rfl⟩ | ⟨_, there⟩
    · exact holds old there claimed
    · exact mem_uses_of_claimed there claimed
  · intro index pairing underWay
    rw [configDir]
    exact mem_uses_of_pairing (pairings underWay)

theorem Discovers.uses (discovers : Discovers manager after) : after.uses ⊆ manager.uses := by
  apply uses_subset
  · intro number deed present claimed
    rcases discovers.deeds with ⟨found, deeds, fresh⟩
    rw [deeds] at present
    by_cases known : number < manager.deeds.length
    · rw [getElem?_append_left known] at present
      exact mem_uses_of_claimed present claimed
    · rw [getElem?_append_right (Nat.le_of_not_lt known)] at present
      rw [fresh deed (mem_of_getElem? present)] at claimed
      cases claimed
  · intro index pairing underWay
    unfold pairingAt at underWay
    rw [discovers.tasks] at underWay
    rw [discovers.configDir]
    exact mem_uses_of_pairing underWay

theorem uses_reserve {request : ClaimDevice} {name : String} :
    ((manager.edit number Phone.reserve).spawn (.pairing number request name)).uses ⊆
      (number, defaultCredentialPath manager.configDir name) :: manager.uses := by
  have deeds : ((manager.edit number Phone.reserve).spawn
      (.pairing number request name)).deeds = manager.deeds.modify number Deed.reserve :=
    deeds_edit Phone.deed_reserve
  apply uses_subset
  · intro index deed present claimed
    rw [deeds] at present
    rcases getElem?_modify_eq_some_iff.mp present with ⟨old, there, rfl⟩
    apply mem_cons_of_mem
    have kept : old.claimed = true → (index, old.credentialPath) ∈ manager.uses :=
      mem_uses_of_claimed there
    split_ifs at claimed ⊢ <;> exact kept claimed
  · intro index pairing underWay
    rw [pairingAt_spawn] at underWay
    split_ifs at underWay with last
    · cases underWay
      exact mem_cons_self
    · exact mem_cons_of_mem _ (mem_uses_of_pairing underWay)

/-- Only a claim that reserves a phone adds to the files in use. -/
theorem step_uses {calendar : Calendar} {event : PhoneEvent}
    (stepped : step calendar manager event = some after) :
    after.uses ⊆ manager.uses ∨
      ∃ request number phone, event = .claim request ∧ manager.Reserves request number phone ∧
        after.uses ⊆ (number, defaultCredentialPath manager.configDir (phone.claimName request)) ::
          manager.uses := by
  cases step_deeds stepped with
  | same idle aside => exact .inl aside.uses
  | found discovers aside => exact .inl (Subset.trans aside.uses discovers.uses)
  | reserve reserves aside =>
    exact .inr ⟨_, _, _, rfl, reserves, Subset.trans aside.uses uses_reserve⟩
  | giveUp underWay failed aside =>
    apply Or.inl
    apply Subset.trans aside.uses
    apply uses_of_edit (deeds_conclude (Phone.deed_pairFailed _)) rfl fun still =>
      (pairingAt_conclude still).2
    intro deed present
    exact (mem_uses_of_claimed present : deed.claimed = true → _)
  | adopt underWay paired aside =>
    apply Or.inl
    apply Subset.trans aside.uses
    apply uses_of_edit (deeds_conclude (Phone.deed_adopt _ _ _ _)) rfl fun still =>
      (pairingAt_conclude still).2
    intro deed present claimed
    exact mem_uses_of_pairing underWay
  | release found aside =>
    apply Or.inl
    apply Subset.trans aside.uses
    apply uses_of_edit (deeds_edit (Phone.deed_release _)) rfl id
    rintro _ _ ⟨⟩
  | configure applies aside =>
    apply Or.inl
    apply Subset.trans aside.uses
    apply uses_of_edit (deeds_edit (Phone.deed_configure _)) rfl id
    intro deed present
    exact (mem_uses_of_claimed present : deed.claimed = true → _)
  | wipe present aside =>
    apply Or.inl
    apply Subset.trans aside.uses
    apply uses_of_edit (deeds_edit Phone.deed_onWipe) rfl id
    rintro _ _ ⟨⟩

end Phones

/-! ## The store of credentials -/

/-- The manager with the files of the credentials. -/
structure CredentialStore where
  manager : Phones
  files : String → Option String := fun _ => none
  /-- The files that releases are about to delete, with their phones. -/
  removals : List (Nat × String) := []

/-- The steps of the manager, and those that touch files. -/
inductive CredentialEvent
  | manager (event : PhoneEvent)
  /-- The pairing of a task writes the credential. -/
  | write (task : Nat) (content : String)
  /-- `Release` deletes the credential. -/
  | remove (removal : Nat)

namespace CredentialStore

variable {calendar : Calendar} {store after : CredentialStore}

/-- The file with a path is written or deleted. -/
def setFile (store : CredentialStore) (path : String) (content : Option String) : CredentialStore :=
  { store with files := fun other => if other = path then content else store.files other }

/-- What a release leaves to delete. -/
def doomed (manager : Phones) : PhoneEvent → List (Nat × String)
  | .release request =>
    match manager.findLocked request.deviceId request.udid with
    | none => []
    | some number =>
      match manager.phones[number]? with
      | none => []
      | some phone =>
        if request.deleteCredential ∧ phone.credentialPath ≠ "" then
          [(number, phone.credentialPath)]
        else []
  | _ => []

/-- One step. -/
def step (calendar : Calendar) : Step CredentialStore CredentialEvent
  | store, .manager event =>
    (store.manager.step calendar event).map fun manager =>
      { store with manager := manager, removals := store.removals ++ doomed store.manager event }
  | store, .write task content =>
    (store.manager.pairingAt task).map fun pairing =>
      store.setFile (defaultCredentialPath store.manager.configDir pairing.name) (some content)
  | store, .remove removal =>
    store.removals[removal]?.map fun file =>
      { store.setFile file.2 none with removals := store.removals.eraseIdx removal }

/-- The phone for which a step writes or deletes a file. -/
def worker (store : CredentialStore) : CredentialEvent → Option Nat
  | .manager _ => none
  | .write task _ => (store.manager.pairingAt task).map Pairing.phone
  | .remove removal => store.removals[removal]?.map Prod.fst

/-- Claimed phones have different credentials, and none is written or deleted on behalf
of another phone. -/
structure PerDevice (calendar : Calendar) (store : CredentialStore) : Prop where
  distinct : ∀ {first second : Nat} {deed other : Deed}, first ≠ second →
    store.manager.deeds[first]? = some deed → store.manager.deeds[second]? = some other →
      deed.claimed = true → other.claimed = true → deed.credentialPath ≠ other.credentialPath
  spared : ∀ {event : CredentialEvent} {after : CredentialStore} {number : Nat} {deed : Deed},
    step calendar store event = some after → store.manager.deeds[number]? = some deed →
      deed.claimed = true → store.worker event ≠ some number →
        after.files deed.credentialPath = store.files deed.credentialPath

/-- A claim names no file that another phone uses or is about to delete, and a release
deletes the file of a phone that is not claimed only while no other phone uses it. -/
def Unshared : Discipline CredentialStore CredentialEvent
  | store, .manager (.claim request) =>
    ∀ number ∈ store.manager.indexOf (trimSpace request.udid),
      ∀ phone ∈ store.manager.phones[number]?, phone.claimed = false → phone.claiming = false →
        Apart [(number, defaultCredentialPath store.manager.configDir (phone.claimName request))]
          (store.manager.uses ++ store.removals)
  | store, .manager (.release request) =>
    ∀ number ∈ store.manager.findLocked request.deviceId request.udid,
      ∀ phone ∈ store.manager.phones[number]?, phone.claimed = false →
        Apart (doomed store.manager (.release request)) store.manager.uses
  | _, _ => True

instance (store : CredentialStore) (event : CredentialEvent) :
    Decidable (Unshared store event) := by
  unfold Unshared
  split <;> infer_instance

/-- Files in use are those of one phone, and so are the files to delete. -/
def Kept (store : CredentialStore) : Prop :=
  Apart store.manager.uses (store.manager.uses ++ store.removals)

/-- What a release is about to delete is used by no other phone. -/
theorem Kept.doomed {event : PhoneEvent} (kept : store.Kept)
    (unshared : Unshared store (.manager event)) :
    Apart (doomed store.manager event) store.manager.uses := by
  cases event with
  | release request =>
    cases found : store.manager.findLocked request.deviceId request.udid with
    | none =>
      simp [CredentialStore.doomed, found, Apart]
    | some number =>
      cases present : store.manager.phones[number]? with
      | none => simp [CredentialStore.doomed, found, present, Apart]
      | some phone =>
        cases claimed : phone.claimed with
        | false => exact unshared number found phone present claimed
        | true =>
          apply kept.mono
          · intro file member
            simp only [CredentialStore.doomed, found, present] at member
            split_ifs at member
            · rw [mem_singleton.mp member]
              have deed := getElem?_deeds_eq_some_iff.mpr ⟨phone, present, rfl⟩
              exact mem_uses_of_claimed deed claimed
            · cases member
          · exact fun _ => mem_append_left _
  | _ =>
    rintro _ ⟨⟩

theorem Kept.step {event : CredentialEvent} (kept : store.Kept)
    (unshared : Unshared store event) (stepped : step calendar store event = some after) :
    after.Kept := by
  cases event with
  | manager event =>
    rcases map_eq_some_iff.mp stepped with ⟨manager, moved, rfl⟩
    have doomed := kept.doomed unshared
    rcases step_uses moved with fewer | ⟨request, number, phone, rfl, reserves, more⟩
    · exact (Apart.doom kept doomed).shrink fewer
    · have fresh := unshared number reserves.found phone reserves.present reserves.unclaimed
        reserves.free
      have apart := (Apart.insert kept fresh).shrink more
      rw [← append_nil store.removals] at apart
      exact apart
  | write task content =>
    rcases map_eq_some_iff.mp stepped with ⟨pairing, underWay, rfl⟩
    exact kept
  | remove removal =>
    rcases map_eq_some_iff.mp stepped with ⟨file, present, rfl⟩
    apply kept.mono (Subset.refl _)
    intro other member
    rcases mem_append.mp member with used | left
    · exact mem_append_left _ used
    · exact mem_append_right _ (mem_of_mem_eraseIdx left)

theorem Kept.perDevice (kept : store.Kept) : PerDevice calendar store where
  distinct := by
    intro first second deed other different present there claimed also
    have here := mem_uses_of_claimed present claimed
    have theirs := mem_append_left store.removals (mem_uses_of_claimed there also)
    exact kept _ here _ theirs different
  spared := by
    intro event after number deed stepped present claimed another
    have here := mem_uses_of_claimed present claimed
    cases event with
    | manager event =>
      rcases map_eq_some_iff.mp stepped with ⟨manager, _, rfl⟩
      rfl
    | write task content =>
      rcases map_eq_some_iff.mp stepped with ⟨pairing, underWay, rfl⟩
      apply if_neg
      have theirs := mem_append_left store.removals (mem_uses_of_pairing underWay)
      apply kept _ here _ theirs
      rintro rfl
      exact another (congrArg (Option.map Pairing.phone) underWay)
    | remove removal =>
      rcases map_eq_some_iff.mp stepped with ⟨file, doomed, rfl⟩
      apply if_neg
      have theirs := mem_append_right store.manager.uses (mem_of_getElem? doomed)
      apply kept _ here _ theirs
      rintro rfl
      exact another (congrArg (Option.map Prod.fst) doomed)

/-- Where no two phones share a file, claimed phones keep theirs, in every run. -/
theorem credentials_per_device {configDir : String} {configs : List DeviceConfig}
    {files : String → Option String}
    (configured : Apart (Phones.new configDir configs).uses (Phones.new configDir configs).uses)
    (reached : Reaches (step calendar) Unshared
      { manager := Phones.new configDir configs, files := files } store) :
    PerDevice calendar store := by
  have kept : store.Kept := by
    apply reached.invariant (P := Kept)
    · unfold Kept
      rw [append_nil]
      exact configured
    · intro _ _ _ _ kept unshared stepped
      exact kept.step unshared stepped
  exact kept.perDevice

/-- A claim of a phone under a label. -/
def claimAs (udid label : String) : CredentialEvent :=
  .manager (.claim ⟨udid, "code", "server", label, "", "", "", 1⟩)

/-- The pairing of a task succeeds. -/
def paired (task : Nat) (deviceId : String) : List CredentialEvent :=
  [.write task deviceId, .manager (.advance task { paired := .ok deviceId })]

/-- Two phones are claimed, one is released and claimed again under another label. -/
theorem credentials_per_device_relabelled :
    ∃ store, Reaches (step Phones.noDates) Unshared { manager := Phones.new "/c" [] } store ∧
      store.manager.holders = [(0, "/c/credentials/desk.json"), (1, "/c/credentials/bag.json")] ∧
      (store.files "/c/credentials/desk.json" = some "c" ∧
        store.files "/c/credentials/bag.json" = some "b") ∧
      PerDevice noDates store := by
  refine exists_reaches_imp_of_run (fun store =>
        store.manager.holders = [(0, "/c/credentials/desk.json"), (1, "/c/credentials/bag.json")] ∧
        (store.files "/c/credentials/desk.json" = some "c" ∧
        store.files "/c/credentials/bag.json" = some "b"))
      ([.manager (.snapshot [("u", "phone"), ("v", "phone")] 0), claimAs "u" "home",
        claimAs "v" "bag"] ++ paired 2 "b" ++ paired 1 "a" ++
        [.manager (.release ⟨"a", "", true⟩), claimAs "u" "desk", .remove 0] ++ paired 4 "c")
      (by decide +kernel) ?_
  rintro store reached ⟨holders, files⟩
  exact ⟨holders, files, credentials_per_device (fun _ absurd => by cases absurd) reached⟩

/-- Two labels name the same file. -/
theorem credentials_shared :
    ∃ store, Reaches (step Phones.noDates) unrestricted { manager := Phones.new "/c" [] } store ∧
      ¬PerDevice noDates store := by
  refine exists_reaches_imp_of_run (fun store => (store.manager.deeds[0]?.map fun deed =>
        (deed.claimed, deed.credentialPath)) = some (true, "/c/credentials/my_phone.json") ∧
        (store.manager.deeds[1]?.map fun deed =>
        (deed.claimed, deed.credentialPath)) = some (true, "/c/credentials/my_phone.json"))
      ([.manager (.snapshot [("u", "phone"), ("v", "phone")] 0), claimAs "u" "my phone"] ++
        paired 1 "a" ++ [claimAs "v" "my_phone"] ++ paired 2 "b")
      (by decide +kernel) ?_
  rintro store reached ⟨first, second⟩ perDevice
  rcases map_eq_some_iff.mp first with ⟨deed, present, here⟩
  rcases map_eq_some_iff.mp second with ⟨other, there, theirs⟩
  apply perDevice.distinct (by decide) present there
  · exact congrArg Prod.fst here
  · exact congrArg Prod.fst theirs
  · exact (congrArg Prod.snd here).trans (congrArg Prod.snd theirs).symm

end CredentialStore

end LubricantNodes.Agent
