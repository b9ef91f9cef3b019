import LubricantNodes.Execution.Output

/-!
# The session map

The map is keyed by session id, while a provisioning goroutine belongs to one
session object and outlives its map entry.  `removeFailedSession` deletes
whatever the map holds under the id, so the late failure of a deleted session
removes the session that has taken its id since.

If an id is registered again only once the provisioning goroutines of all
earlier sessions with that id have returned, a session leaves the map only by
being deleted or by the failure of its own provisioning.
-/

namespace LubricantNodes.Execution

open Transition Go Session Option

namespace Lifecycle

variable {life life' : Lifecycle} {spec : CreateSession} {event : SessionEvent}

section RegistrySteps

variable (step : life.step spec event = some life')

include step

/-- Only the provisioning goroutine moves itself. -/
theorem provision_of_step : life'.provision = life.provision ∨
      ∃ action, event = .provision action ∧ Provisions life spec action life' := by
  cases changes step with
  | provision provision => exact .inr ⟨_, rfl, provision⟩
  | command command => cases command <;> exact .inl rfl
  | _ => exact .inl rfl

/-- A session leaves the map by `removeFailedSession` or `delete`. -/
theorem registered_of_step :
    life'.registered = life.registered ∨ event = .evict ∨ event = .command .delete := by
  cases changes step with
  | evict => exact .inr (.inl rfl)
  | command command =>
    cases command with
    | delete => exact .inr (.inr rfl)
    | _ => exact .inl rfl
  | provision provision => cases provision <;> exact .inl rfl
  | _ => exact .inl rfl

theorem unregistered_of_step
    (leaves : event = .evict ∨ event = .command .delete) : life'.registered = false := by
  rcases leaves with rfl | rfl
  · cases step
    rfl
  · obtain ⟨-, rfl⟩ := guarded_eq_some_iff.mp step
    rfl

/-- A provisioning goroutine is in `startRuntime` until that returns. -/
theorem starting_of_step (starting : life.provision = .starting) :
    life'.provision = .starting ∨ event = .provision .finish := by
  rcases provision_of_step step with same | ⟨action, rfl, provision⟩
  · exact .inl (same.trans starting)
  · cases provision with
    | finish => exact .inr rfl
    | _ before => cases starting.symm.trans before

/-- A provisioning goroutine that has returned does not come back. -/
theorem returned_of_step
    (returned : life.provision.returned = true) : life'.provision.returned = true := by
  rcases provision_of_step step with same | ⟨action, -, provision⟩
  · rw [same, returned]
  · cases provision.not_returned.symm.trans returned

end RegistrySteps

end Lifecycle

namespace Node

variable {node node' : Node} {event : Event}

/-! ## What a step does to the map -/

theorem erase_sessions (node : Node) (id other : String) :
    (node.erase id).sessions other = if other = id then none else node.sessions other :=
  Function.update_apply ..

theorem allocate_sessions (node : Node) (spec : CreateSession) (other : String) :
    (node.allocate spec).sessions other =
      if other = trimSpace spec.sessionId then some node.count else node.sessions other :=
  Function.update_apply ..

/-- What a step does to the map. -/
inductive MapChange (node : Node) (event : Event) (node' : Node) : Prop
  | kept : event.deletes = false → node'.sessions = node.sessions → node'.count = node.count →
      MapChange node event node'
  | created {spec : CreateSession} : event = .register → node.dispatch = .creating spec →
      node.find spec.sessionId = none → node'.sessions = (node.allocate spec).sessions →
      node'.count = node.count + 1 → node'.objects node.count = .new spec →
      MapChange node event node'
  | deleted {id : String} : event = .delete id →
      node'.sessions = (node.erase (trimSpace id)).sessions → node'.count = node.count →
      MapChange node event node'
  | removed {object : Nat} : event = .removeFailed object → object < node.count →
      (node.objects object).life.provision = .removing →
      node'.sessions = (node.erase (node.objects object).id).sessions →
      node'.count = node.count → MapChange node event node'

theorem mapChange_of_step (step : node.step event = some node') : MapChange node event node' := by
  cases stepped step with
  | manager moved =>
    cases managed moved with
    | move quiet _ sessions count _ => exact .kept quiet sessions count
    | register creating absent =>
      exact .created rfl creating absent rfl rfl (by rw [allocate_objects, if_pos rfl])
    | delete => exact .deleted rfl (by simp) (by simp)
    | removeFailed existing removing => exact .removed rfl existing removing (by simp) (by simp)
  | object moved fired _ =>
    cases managed moved with
    | move quiet _ sessions count _ => exact .kept quiet sessions count
    | register => cases fired
    | delete => exact .deleted rfl (by simp) (by simp)
    | removeFailed existing removing => exact .removed rfl existing removing (by simp) (by simp)

theorem count_le_of_step (step : node.step event = some node') : node.count ≤ node'.count := by
  cases mapChange_of_step step with
  | created => omega
  | kept | deleted | removed => omega

variable {object : Nat} {ok : Discipline Node Event} {opts : SessionOptions}

/-- A session object keeps its id, and its provisioning goroutine does not come
back. -/
theorem object_of_step (step : node.step event = some node') (existing : object < node.count) :
    (node'.objects object).id = (node.objects object).id ∧
      ((node.objects object).life.provision.returned = true →
        (node'.objects object).life.provision.returned = true) := by
  cases descends step (Nat.lt_of_lt_of_le existing (count_le_of_step step)) with
  | unchanged _ same => rw [same]; exact ⟨rfl, fun returned => returned⟩
  | stepped _ _ moved =>
    have parts := Session.stepped moved
    refine ⟨?_, Lifecycle.returned_of_step parts.life⟩
    rw [Session.id, parts.spec, Session.id]
  | created => omega

/-! ## Entries -/

/-- The map holds the latest session of an id, if any. -/
def Listed (node : Node) : Prop :=
  ∀ id object, node.sessions id = some object →
    object < node.count ∧ (node.objects object).id = id ∧
      ∀ other, other < node.count → (node.objects other).id = id → other ≤ object

theorem listed_step (listed : Listed node) (step : node.step event = some node') :
    Listed node' := by
  intro id object found
  have kept (same : node'.count = node.count) (before : node.sessions id = some object) :
      object < node'.count ∧ (node'.objects object).id = id ∧
        ∀ other, other < node'.count → (node'.objects other).id = id → other ≤ object := by
    obtain ⟨existing, named, last⟩ := listed id object before
    refine ⟨same ▸ existing, (object_of_step step existing).1.trans named, ?_⟩
    intro other otherExisting otherNamed
    rw [same] at otherExisting
    exact last other otherExisting ((object_of_step step otherExisting).1.symm.trans otherNamed)
  cases mapChange_of_step step with
  | kept _ sessions same => exact kept same (sessions ▸ found)
  | @created spec _ _ absent sessions more fresh =>
    rw [sessions, allocate_sessions] at found
    split_ifs at found with isNew
    · cases found
      refine ⟨by omega, by rw [fresh, isNew]; rfl, fun other existing _ => by omega⟩
    obtain ⟨existing, named, last⟩ := listed id object found
    refine ⟨by omega, (object_of_step step existing).1.trans named, ?_⟩
    intro other otherExisting otherNamed
    have old : other < node.count := by
      by_contra new
      obtain rfl : other = node.count := by omega
      rw [fresh] at otherNamed
      exact isNew otherNamed.symm
    exact last other old ((object_of_step step old).1.symm.trans otherNamed)
  | deleted _ sessions same | removed _ _ _ sessions same =>
    rw [sessions, erase_sessions] at found
    split_ifs at found
    exact kept same found

theorem listed_of_reaches (reached : Reaches step ok (new opts) node) : Listed node :=
  reached.invariant nofun fun _ listed _ step => listed_step listed step

/-- A session learns that it leaves the map from the action that deletes its
entry. -/
theorem deletes_of_fires (moved : node.control event = some node') {taken : SessionEvent}
    (fired : node.fires event = some (object, taken))
    (leaves : taken = .evict ∨ taken = .command .delete) : event.deletes = true := by
  cases event with
  | act =>
    obtain ⟨⟨-, background⟩, -⟩ := guarded_eq_some_iff.mp moved
    cases fired
    rcases leaves with rfl | rfl <;> cases background
  | serve =>
    simp only [fires] at fired
    simp only [control] at moved
    split at fired
    next serving =>
      cases fired
      rw [serving] at moved
      obtain ⟨opens, -⟩ := guarded_eq_some_iff.mp moved
      rcases leaves with other | other <;> cases other
      cases opens
    next => cases fired
  | startLocked | stopNext | provisionStart =>
    simp only [fires] at fired
    split at fired <;> cases fired
    rcases leaves with other | other <;> cases other
  | restartLookup =>
    simp only [fires] at fired
    split at fired
    · obtain ⟨_, _, equal⟩ := map_eq_some_iff.mp fired
      cases equal
      rcases leaves with other | other <;> cases other
    · cases fired
  | start | restart | deliver | provisionLookup =>
    obtain ⟨_, _, equal⟩ := map_eq_some_iff.mp fired
    cases equal
    rcases leaves with other | other <;> cases other
  | provisionReturn | removeReturn =>
    cases fired
    rcases leaves with other | other <;> cases other
  | delete | removeFailed => rfl
  | create | createFailed | register | stopAll | complete => cases fired

/-- A session knows whether it is in the map. -/
def Registered (node : Node) : Prop :=
  ∀ object, object < node.count →
    ((node.objects object).life.registered = true ↔ node.entry object = some object)

/-- The session whose entry is deleted learns it. -/
theorem registered_of_erase (listed : Listed node) (registered : Registered node)
    (step : node.step event = some node') {key : String} {taken : SessionEvent}
    (leaves : taken = .evict ∨ taken = .command .delete)
    (fires : node.fires event = (node.sessions key).map fun object => (object, taken))
    (sessions : node'.sessions = (node.erase key).sessions) (existing : object < node.count)
    (existing' : object < node'.count) :
    (node'.objects object).life.registered = true ↔ node'.entry object = some object := by
  rw [entry, (object_of_step step existing).1, sessions, erase_sessions]
  cases descends step existing' with
  | unchanged _ same quiet =>
    rw [same, registered object existing, entry]
    split_ifs with erased
    · rw [erased]
      refine iff_of_false (fun found => quiet taken ?_) nofun
      rw [fires, found, map_some]
    · rfl
  | stepped _ fired moved =>
    obtain ⟨found, held, equal⟩ := map_eq_some_iff.mp (fires.symm.trans fired)
    cases equal
    have unregistered := Lifecycle.unregistered_of_step (Session.stepped moved).life leaves
    rw [if_pos (listed key object held).2.1, unregistered]
    exact iff_of_false nofun nofun
  | created => omega

theorem registered_step (listed : Listed node) (registered : Registered node)
    (step : node.step event = some node') : Registered node' := by
  intro object existing'
  cases mapChange_of_step step with
  | kept quiet sessions same =>
    have existing : object < node.count := same ▸ existing'
    have iff := registered object existing
    rw [entry, (object_of_step step existing).1, sessions]
    cases descends step existing' with
    | unchanged _ same _ => rw [same]; exact iff
    | stepped _ fired moved =>
      rcases Lifecycle.registered_of_step (Session.stepped moved).life with same | leaves
      · rw [same]
        exact iff
      · have deletes : event.deletes = true := by
          cases stepped step with
          | manager control | object control => exact deletes_of_fires control fired leaves
        cases quiet.symm.trans deletes
    | created => omega
  | @created spec isRegister _ absent sessions more fresh =>
    by_cases new : object = node.count
    · rw [entry, new, fresh, sessions, allocate_sessions]
      exact iff_of_true rfl (if_pos rfl)
    have existing : object < node.count := by omega
    rw [entry, (object_of_step step existing).1, sessions, allocate_sessions]
    cases descends step existing' with
    | unchanged _ same _ =>
      rw [same, registered object existing, entry]
      split_ifs with isNew
      · rw [isNew]
        exact iff_of_false (by simp [show node.sessions _ = none from absent])
          fun equal => new (some.inj equal).symm
      · rfl
    | stepped _ fired _ =>
      subst isRegister
      cases fired
    | created _ _ last _ => exact absurd last new
  | deleted isDelete sessions same =>
    subst isDelete
    exact registered_of_erase listed registered step (.inr rfl) rfl sessions
      (same ▸ existing') existing'
  | removed isRemoval _ _ sessions same =>
    subst isRemoval
    exact registered_of_erase listed registered step (.inl rfl) rfl sessions
      (same ▸ existing') existing'

theorem registered_of_reaches (reached : Reaches step ok (new opts) node) : Registered node := by
  refine reached.invariant (fun _ existing => absurd existing (Nat.not_lt_zero _)) ?_
  intro node event node' before registered _ step
  exact registered_step (listed_of_reaches before) registered step

/-- `create` registers an id only when the provisioning goroutines of all earlier
sessions with that id have returned. -/
def createsAfterReturn (node : Node) : Event → Bool
  | .register =>
    match node.dispatch with
    | .creating spec =>
      (node.find spec.sessionId).isSome || (List.range node.count).all fun object =>
        (node.objects object).id ≠ trimSpace spec.sessionId ||
          (node.objects object).life.provision.returned
    | _ => true
  | _ => true

/-- The provisioning goroutines of all but the latest session of an id have
returned. -/
def Latest (node : Node) : Prop :=
  ∀ first second, first < second → second < node.count →
    (node.objects first).id = (node.objects second).id →
      (node.objects first).life.provision.returned = true

theorem latest_step (latest : Latest node) (allowed : node.createsAfterReturn event = true)
    (step : node.step event = some node') : Latest node' := by
  intro first second earlier existing named
  have kept (before : second < node.count) :
      (node'.objects first).life.provision.returned = true := by
    obtain ⟨secondId, -⟩ := object_of_step step before
    obtain ⟨firstId, returned⟩ := object_of_step step (Nat.lt_trans earlier before)
    rw [firstId, secondId] at named
    exact returned (latest first second earlier before named)
  cases mapChange_of_step step with
  | kept _ _ same | deleted _ _ same | removed _ _ _ _ same => exact kept (same ▸ existing)
  | @created spec isRegister creating absent _ more fresh =>
    by_cases old : second < node.count
    · exact kept old
    obtain rfl : second = node.count := by omega
    obtain ⟨firstId, returned⟩ := object_of_step step earlier
    rw [fresh, firstId] at named
    subst isRegister
    refine returned ?_
    simp only [createsAfterReturn, creating, absent, isSome_none, Bool.false_or,
      List.all_eq_true, List.mem_range, Bool.or_eq_true, decide_eq_true_eq] at allowed
    exact (allowed first earlier).resolve_left fun other => other named

theorem latest_of_reaches
    (reached : Reaches step (checked createsAfterReturn) (new opts) node) : Latest node :=
  reached.invariant (fun _ _ _ existing => absurd existing (Nat.not_lt_zero _))
    fun _ latest allowed step => latest_step latest allowed step

/-! ## Calls of provisioning goroutines -/

theorem setCall_calls (node : Node) (called : Nat) (call : Call) (object : Nat) :
    (node.setCall called call).calls object = if object = called then call else node.calls object :=
  Function.update_apply ..

theorem allocate_calls (node : Node) (spec : CreateSession) (object : Nat) :
    (node.allocate spec).calls object =
      if object = node.count then .pending else node.calls object :=
  Function.update_apply ..

/-- A provisioning goroutine comes to hold a session by calling `startRuntime`. -/
theorem holding_of_control (moved : node.control event = some node') {target : Nat}
    (held : node'.calls object = .holding target) :
    node.calls object = .holding target ∨ event = .provisionLookup object ∧ object < node.count ∧
        (node.objects object).life.provision = .starting := by
  cases event with
  | provisionLookup called =>
    obtain ⟨⟨existing, starting, -⟩, rfl⟩ := guarded_eq_some_iff.mp moved
    by_cases same : object = called
    · subst same
      exact .inr ⟨rfl, existing, starting⟩
    · refine .inl ?_
      split at held <;> rwa [setCall_calls, if_neg same] at held
  | provisionStart =>
    simp only [control] at moved
    split at moved <;> cases moved
    rw [setCall_calls] at held
    split_ifs at held
    exact .inl held
  | removeFailed =>
    obtain ⟨-, rfl⟩ := guarded_eq_some_iff.mp moved
    rw [setCall_calls] at held
    split_ifs at held
    exact .inl held
  | register =>
    simp only [control] at moved
    split at moved
    · split at moved <;> cases moved
      · rw [allocate_calls] at held
        split_ifs at held
        exact .inl held
      · exact .inl held
    · cases moved
  | serve =>
    simp only [control] at moved
    split at moved
    · obtain ⟨-, rfl⟩ := guarded_eq_some_iff.mp moved
      split at held <;> exact .inl held
    · cases moved
  | create | stopAll | complete | act | provisionReturn | removeReturn | createFailed | start
  | startLocked | restart | delete | deliver | stopNext | restartLookup =>
    simp only [control, serveFound] at moved
    repeat' split at moved
    all_goals
      first
      | (obtain ⟨-, rfl⟩ := guarded_eq_some_iff.mp moved; exact .inl held)
      | (cases moved; exact .inl held)
      | cases moved

/-- A provisioning goroutine returns after its last call has. -/
theorem returned_of_fires (moved : node.control event = some node')
    (fired : node.fires event = some (object, .provision .finish)) :
    node.calls object = .returned := by
  cases event with
  | act =>
    obtain ⟨⟨-, background⟩, -⟩ := guarded_eq_some_iff.mp moved
    cases fired
    cases background
  | provisionReturn =>
    obtain ⟨returned, -⟩ := guarded_eq_some_iff.mp moved
    cases fired
    exact returned
  | startLocked | stopNext | serve | provisionStart =>
    simp only [fires] at fired
    split at fired <;> cases fired
  | restartLookup =>
    simp only [fires] at fired
    split at fired
    · obtain ⟨_, _, equal⟩ := map_eq_some_iff.mp fired
      cases equal
    · cases fired
  | start | restart | delete | deliver | provisionLookup | removeFailed =>
    obtain ⟨_, _, equal⟩ := map_eq_some_iff.mp fired
    cases equal
  | create | createFailed | register | stopAll | complete | removeReturn => cases fired

/-- A provisioning goroutine that holds a session is in `startRuntime`. -/
def Calling (node : Node) : Prop :=
  ∀ object target, node.calls object = .holding target →
    object < node.count ∧ (node.objects object).life.provision = .starting

theorem calling_step (calling : Calling node) (step : node.step event = some node') :
    Calling node' := by
  intro object target held
  have parts := stepped step
  have before : object < node.count ∧ (node.objects object).life.provision = .starting ∧
      (node.calls object = .holding target ∨ event = .provisionLookup object) := by
    have inverted : node.calls object = .holding target ∨ event = .provisionLookup object ∧
        object < node.count ∧ (node.objects object).life.provision = .starting := by
      cases parts with
      | manager moved | object moved => exact holding_of_control moved held
    rcases inverted with held | ⟨lookup, existing, starting⟩
    · obtain ⟨existing, starting⟩ := calling object target held
      exact ⟨existing, starting, .inl held⟩
    · exact ⟨existing, starting, .inr lookup⟩
  obtain ⟨existing, starting, source⟩ := before
  refine ⟨Nat.lt_of_lt_of_le existing (count_le_of_step step), ?_⟩
  cases descends step (Nat.lt_of_lt_of_le existing (count_le_of_step step)) with
  | unchanged _ same => rw [same, starting]
  | @stepped taken _ fired moved =>
    rcases Lifecycle.starting_of_step (Session.stepped moved).life starting with same | rfl
    · exact same
    have returned : node.calls object = .returned := by
      cases parts with
      | manager control | object control => exact returned_of_fires control fired
    rcases source with held | rfl
    · cases held.symm.trans returned
    · obtain ⟨_, _, equal⟩ := map_eq_some_iff.mp fired
      cases equal
  | created => omega

theorem calling_of_reaches (reached : Reaches step ok (new opts) node) : Calling node :=
  reached.invariant nofun fun _ calling _ step => calling_step calling step

/-- A provisioning goroutine starts a runtime only when its provisioning has
succeeded. -/
theorem starts_of_calling (calling : Calling node)
    (failed : (node.objects object).life.provision ≠ .starting) :
    node.step (.provisionLookup object) = none ∧
      ∀ installed, node.step (.provisionStart object installed) = none := by
  refine ⟨?_, fun installed => ?_⟩
  · by_contra enabled
    obtain ⟨node', step⟩ := ne_none_iff_exists'.mp enabled
    cases stepped step with
    | manager moved | object moved =>
      obtain ⟨⟨-, starting, -⟩, -⟩ := guarded_eq_some_iff.mp moved
      exact failed starting
  · by_contra enabled
    obtain ⟨node', step⟩ := ne_none_iff_exists'.mp enabled
    cases stepped step with
    | manager moved | object moved =>
      simp only [control] at moved
      split at moved
      next target held => exact failed (calling object target held).2
      next => cases moved

/-! ## Sessions leave the map for their own reasons -/

/-- A session leaves the map only by a delete of its id or by the failure of its
own provisioning, and a goroutine whose provisioning failed starts nothing. -/
structure OwnRemoval (node : Node) : Prop where
  leaves : ∀ event node' id object, node.step event = some node' →
    node.sessions id = some object → node'.sessions id ≠ some object →
      (∃ given, event = .delete given ∧ trimSpace given = id) ∨ event = .removeFailed object
  starts : ∀ object, (node.objects object).life.provision = .removing ∨
      (node.objects object).life.provision = .failed →
    node.step (.provisionLookup object) = none ∧
      ∀ installed, node.step (.provisionStart object installed) = none

theorem leaves_of_latest (listed : Listed node) (latest : Latest node)
    (step : node.step event = some node') {id : String} (found : node.sessions id = some object)
    (gone : node'.sessions id ≠ some object) :
    (∃ given, event = .delete given ∧ trimSpace given = id) ∨ event = .removeFailed object := by
  cases mapChange_of_step step with
  | kept _ same _ =>
    rw [same] at gone
    exact absurd found gone
  | created _ _ absent sessions _ _ =>
    rw [sessions, allocate_sessions] at gone
    split_ifs at gone with isNew
    · rw [Node.find, ← isNew, found] at absent
      cases absent
    · exact absurd found gone
  | @deleted given isDelete sessions _ =>
    rw [sessions, erase_sessions] at gone
    split_ifs at gone with same
    · exact .inl ⟨given, isDelete, same.symm⟩
    · exact absurd found gone
  | @removed failing isRemoval existing removing sessions _ =>
    rw [sessions, erase_sessions] at gone
    split_ifs at gone with same
    · refine .inr ?_
      obtain ⟨registered, named, last⟩ := listed id object found
      have notLater := last failing existing same.symm
      have notEarlier : ¬failing < object := fun earlier => by
        have returned := latest failing object earlier registered (same.symm.trans named.symm)
        rw [removing] at returned
        cases returned
      rw [isRemoval, show failing = object by omega]
    · exact absurd found gone

/-- If ids are registered again only after earlier provisioning goroutines have
returned, sessions leave the map for their own reasons. -/
theorem session_ownRemoval {opts : SessionOptions}
    (reached : Reaches step (checked createsAfterReturn) (new opts) node) : OwnRemoval node where
  leaves := fun _ _ _ _ step found gone =>
    leaves_of_latest (listed_of_reaches reached) (latest_of_reaches reached) step found gone
  starts := by
    intro object failed
    refine starts_of_calling (calling_of_reaches reached) fun starting => ?_
    rcases failed with removing | failed
    · cases starting.symm.trans removing
    · cases starting.symm.trans failed

/-- A session whose checkout clones a repository. -/
def clonedSpec : CreateSession :=
  { oneShotSpec with git := some "repo" }

theorem session_ownRemoval_cloned :
    ∃ node, Reaches step (checked createsAfterReturn) (new claudeOptions) node ∧
      node.sessions "s" = some 1 ∧ OwnRemoval node := by
  refine exists_reaches_and_of_run (created clonedSpec ++
        [.act 0 (.provision (.checkout false)), .removeFailed 0, .removeReturn 0] ++
        created clonedSpec)
      (by decide +kernel) ?_
  intro node reached _
  exact session_ownRemoval reached

/-- A session is deleted during its checkout and its id is created again; when
the checkout fails, the new session is removed. -/
theorem session_not_ownRemoval :
    ¬∀ (opts : SessionOptions) (node : Node), Reaches step unrestricted (new opts) node →
      OwnRemoval node := by
  intro ownRemoval
  obtain ⟨node, reached, registered, removal⟩ :
      ∃ node, Reaches step unrestricted (new claudeOptions) node ∧ node.sessions "s" = some 1 ∧
        (node.step (.removeFailed 0)).map (fun node' => node'.sessions "s") = some none :=
    exists_reaches_of_run (created clonedSpec ++ deleted "s" ++ created clonedSpec ++
        [.act 0 (.provision (.checkout false))])
      (by decide +kernel)
  obtain ⟨node', step, gone⟩ := map_eq_some_iff.mp removal
  rcases (ownRemoval _ node reached).leaves _ node' "s" 1 step registered (by simp [gone]) with
    ⟨_, isDelete, -⟩ | isOwn
  · cases isDelete
  · cases isOwn

end Node

end LubricantNodes.Execution
