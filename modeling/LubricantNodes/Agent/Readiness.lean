import LubricantNodes.Agent.Changes
import LubricantNodes.Execution.Resources

/-!
# The control link and the state of the runner

A phone is reported with two axes: whether the link for its control is up, and the
state of the runner that is installed on it.  The axes are written in many places,
but only in a few ways, the *moves* of this module; every step of the manager makes
one move on each phone.

The axes are meant to agree: a phone that is ready has its link up, and a phone with
its link up is never reported as broken.  Some moves touch one axis only, and these
are the ones that break it.
-/

namespace LubricantNodes.Agent

open Go Transition List Phone Phones

/-! ## The axes -/

/-- What is reported about the control of a phone. -/
structure Axes where
  on : Bool := false
  wda : WdaState := .unspecified
  deriving DecidableEq

/-- The ways in which the axes are written. -/
inductive AxisMove
  | keep
  /-- Only the link is taken down. -/
  | clear
  | release
  /-- The link comes up. -/
  | online
  /-- The link is reported down. -/
  | offline
  /-- A date has passed. -/
  | expire
  | renew
  /-- A job begins. -/
  | prepare
  /-- A job is cancelled. -/
  | abort
  /-- A job has installed the runner. -/
  | succeed
  /-- A job has failed. -/
  | fail
  deriving DecidableEq

/-- The axes after a move. -/
def AxisMove.apply (axes : Axes) : AxisMove → Axes
  | keep => axes
  | clear => { axes with on := false }
  | release => {}
  | online => ⟨true, if axes.wda = .preparing then .preparing else .ready⟩
  | offline => ⟨false, if axes.wda = .ready then .installed else axes.wda⟩
  | expire => { axes with wda := .expired }
  | renew => { axes with wda := .renewalDue }
  | prepare => { axes with wda := .preparing }
  | abort => if axes.wda = .preparing then { axes with wda := .missing } else axes
  | succeed => { axes with wda := if axes.on then .ready else .installed }
  | fail => { axes with wda := .failed }

namespace Axes

/-- A phone that is ready has its link up. -/
def Controllable (axes : Axes) : Prop :=
  axes.wda = .ready → axes.on = true
  deriving Decidable

/-- A phone whose link is up is not reported as broken. -/
def Honest (axes : Axes) : Prop :=
  axes.on = true → axes.wda ≠ .failed ∧ axes.wda ≠ .missing
  deriving Decidable

variable {axes : Axes}

/-- Only a move that takes the link down and nothing else makes a ready phone
uncontrollable. -/
theorem Controllable.apply (controllable : axes.Controllable) {move : AxisMove}
    (mild : move = .clear → axes.wda ≠ .ready) : (move.apply axes).Controllable := by
  rcases axes with ⟨on, wda⟩
  cases move with
  | keep => exact controllable
  | clear =>
    intro ready
    cases mild rfl ready
  | release | expire | renew | prepare | fail =>
    rintro ⟨⟩
  | online =>
    intro _
    rfl
  | offline =>
    intro ready
    dsimp only [AxisMove.apply] at ready
    split_ifs at ready with before
    cases before ready
  | abort =>
    intro ready
    by_cases preparing : wda = .preparing
    · subst preparing
      cases ready
    · have same : AxisMove.abort.apply ⟨on, wda⟩ = ⟨on, wda⟩ := if_neg preparing
      rw [same] at ready ⊢
      exact controllable ready
  | succeed =>
    intro ready
    cases on with
    | true => rfl
    | false => cases ready

/-- Only a job that fails or is cancelled makes a phone with its link up look broken. -/
theorem Honest.apply (honest : axes.Honest) {move : AxisMove}
    (failing : move = .fail → axes.on = false)
    (cancelled : move = .abort → axes.wda = .preparing → axes.on = false) :
    (move.apply axes).Honest := by
  rcases axes with ⟨on, wda⟩
  cases move with
  | keep => exact honest
  | clear | release | offline =>
    rintro ⟨⟩
  | online =>
    intro _
    dsimp only [AxisMove.apply]
    split_ifs <;> decide
  | expire | renew | prepare => simp [Honest, AxisMove.apply]
  | abort =>
    intro up
    dsimp only [AxisMove.apply] at up ⊢
    split_ifs at up ⊢ with preparing
    · rw [cancelled rfl preparing] at up
      cases up
    · exact honest up
  | succeed =>
    intro up
    dsimp only [AxisMove.apply] at up ⊢
    simp [up]
  | fail =>
    intro up
    have down : on = false := failing rfl
    rw [down] at up
    cases up

end Axes

/-! ## The moves of the manager -/

namespace Phone

variable (calendar : Calendar) (now : Int) (phone : Phone)

/-- The axes of a phone. -/
def axes : Axes :=
  ⟨phone.deviceControlOn, phone.wdaState⟩

/-- The move of the clock. -/
def clockMove : AxisMove :=
  if phone.wdaState = .ready ∨ phone.wdaState = .installed ∨ phone.wdaState = .renewalDue then
    match calendar.parse (trimSpace phone.profileExpiresAt) with
    | none => .keep
    | some expiry =>
      let window := if 0 < phone.renewBeforeDays then phone.renewBeforeDays else 14
      if expiry < now then .expire
      else if expiry < calendar.addDays now window then .renew
      else .keep
  else .keep

/-- The move of the clock depends on the state of the runner and its dates. -/
theorem clockMove_congr {phone other : Phone} (axes : phone.axes = other.axes)
    (expires : phone.profileExpiresAt = other.profileExpiresAt)
    (days : phone.renewBeforeDays = other.renewBeforeDays) :
    phone.clockMove calendar now = other.clockMove calendar now := by
  have state : phone.wdaState = other.wdaState := congrArg Axes.wda axes
  unfold clockMove
  rw [state, expires, days]

/-- The clock does not move a new phone. -/
theorem clockMove_of_fresh {phone : Phone}
    (fresh : phone.axes = {}) : phone.clockMove calendar now = .keep := by
  have state : phone.wdaState = .unspecified := congrArg Axes.wda fresh
  unfold clockMove
  rw [state, if_neg (by decide)]

/-- The move of the callback `OnState`. -/
def stateMove (online : Bool) (phone : Phone) : AxisMove :=
  if online = phone.deviceControlOn then .keep else if online then .online else .offline

theorem axes_refreshWdaExpiry : (phone.refreshWdaExpiry calendar now).axes =
      (phone.clockMove calendar now).apply phone.axes := by
  unfold refreshWdaExpiry clockMove
  by_cases dated :
      phone.wdaState = .ready ∨ phone.wdaState = .installed ∨ phone.wdaState = .renewalDue
  · rw [if_pos dated, if_pos dated]
    cases calendar.parse (trimSpace phone.profileExpiresAt) with
    | none => rfl
    | some =>
      dsimp only
      generalize (if 0 < phone.renewBeforeDays then phone.renewBeforeDays else 14) = window
      split_ifs <;> rfl
  · rw [if_neg dated, if_neg dated]
    rfl

theorem axes_onState (online : Bool) (phone : Phone) :
    (phone.onState online).axes = (phone.stateMove online).apply phone.axes := by
  unfold onState stateMove
  by_cases same : online = phone.deviceControlOn
  · rw [if_pos same, if_pos same]
    rfl
  · rw [if_neg same, if_neg same]
    cases online with
    | true =>
      by_cases preparing : phone.wdaState = .preparing <;>
        simp [preparing, AxisMove.apply, axes]
    | false =>
      by_cases ready : phone.wdaState = .ready <;> simp [ready, AxisMove.apply, axes]

theorem axes_configure (request : ConfigureDevice) (phone : Phone) :
    (phone.configure request).axes = phone.axes := by
  simp only [axes, configure, Device.configure]

theorem axes_detach :
    phone.detach.axes = (if phone.present then AxisMove.clear else .keep).apply phone.axes := by
  unfold detach
  split_ifs <;> rfl

theorem axes_noteWdaJobProgress (percent : Int) (stage : String) (phone : Phone) :
    (phone.noteWdaJobProgress percent stage).axes = phone.axes := by
  unfold noteWdaJobProgress
  split_ifs <;> rfl

/-- The move of the end of a job. -/
def resultMove (ok cancelled installed : Bool) : AxisMove :=
  if cancelled then .abort else if ok ∨ installed then .succeed else .fail

theorem axes_noteWdaJobResult (ok cancelled installed : Bool)
    (errorCode message profileExpiresAt : String) (phone : Phone) :
    (phone.noteWdaJobResult ok cancelled installed errorCode message profileExpiresAt).axes =
      (resultMove ok cancelled installed).apply phone.axes := by
  unfold noteWdaJobResult resultMove
  by_cases aborted : cancelled = true
  · rw [if_pos aborted, if_pos aborted]
    by_cases preparing : phone.wdaState = .preparing
    · rw [if_pos preparing]
      exact (if_pos preparing).symm
    · rw [if_neg preparing]
      exact (if_neg preparing).symm
  · rw [if_neg aborted, if_neg aborted]
    by_cases done : ok = true ∨ installed = true
    · rw [if_pos done, if_pos done]
      rfl
    · rw [if_neg done, if_neg done]
      rfl

theorem axes_noteLanPairingPending : phone.noteLanPairingPending.axes = phone.axes := by
  unfold noteLanPairingPending
  split_ifs <;> rfl

end Phone

namespace Phones

/-- The move of STOP and RESTART. -/
def controlMove (action : RunnerAction) (phone : Phone) : AxisMove :=
  match action with
  | .stop => if phone.credentialPath = "" then .keep else .clear
  | .restart => if phone.credentialPath = "" then .keep else .clear
  | .start => .keep
  | .other _ => .keep

/-- A move of one phone only. -/
def moveAt (index : Option Nat) (own : Phone → AxisMove) (number : Nat) (phone : Phone) :
    AxisMove :=
  if index = some number then own phone else .keep

variable (calendar : Calendar)

/-- The move that a step makes on a phone. -/
def move (manager : Phones) : PhoneEvent → Nat → Phone → AxisMove
  | .release request =>
    moveAt (manager.findLocked request.deviceId request.udid) fun _ => .release
  | .control request =>
    moveAt (manager.findLocked request.deviceId request.udid) (controlMove request.action)
  | .detached udid =>
    moveAt (manager.indexOf udid) fun phone => if phone.present then .clear else .keep
  | .snapshot _ now => fun _ phone => phone.clockMove calendar now
  | .onState loop online => moveAt (manager.phoneOf loop) fun phone => phone.stateMove online
  | .onWipe loop => moveAt (manager.phoneOf loop) fun _ => .clear
  | .record loop _ => moveAt (manager.phoneOf loop) fun _ => .clear
  | .jobStarted udid => moveAt (manager.findLocked "" udid) fun _ => .prepare
  | .jobResult udid ok cancelled installed _ _ _ =>
    moveAt (manager.findLocked "" udid) fun _ => Phone.resultMove ok cancelled installed
  | _ => fun _ _ => .keep

/-- The phones of `after` are those of `before`, each after its move, and new ones. -/
def Moved (before : Phones) (move : Nat → Phone → AxisMove) (after : Phones) : Prop :=
  ∀ number phone, after.phones[number]? = some phone →
    (∃ old, before.phones[number]? = some old ∧ phone.axes = (move number old).apply old.axes) ∨
      before.phones[number]? = none ∧ phone.axes = {}

variable {before middle after : Phones} {move : Nat → Phone → AxisMove}

/-- The axes of all phones. -/
def axes (manager : Phones) : List Axes :=
  manager.phones.map Phone.axes

variable {number : Nat} {change : Phone → Phone} {manager : Phones} {event : PhoneEvent}

variable {phone : Phone} {agrees : Axes → Prop}

theorem exists_of_axes_eq (same : after.axes = middle.axes)
    (present : after.phones[number]? = some phone) :
    ∃ old, middle.phones[number]? = some old ∧ phone.axes = old.axes := by
  have mapped : after.axes[number]? = some phone.axes := by
    unfold axes
    rw [getElem?_map, present]
    rfl
  rw [same] at mapped
  unfold axes at mapped
  rw [getElem?_map] at mapped
  rcases Option.map_eq_some_iff.mp mapped with ⟨old, there, equal⟩
  exact ⟨old, there, equal.symm⟩

/-- What leaves the axes alone can follow a move. -/
theorem Moved.trans_eq (moved : Moved before move middle) (same : after.axes = middle.axes) :
    Moved before move after := by
  intro number phone present
  rcases exists_of_axes_eq same present with ⟨old, there, equal⟩
  rw [equal]
  exact moved number old there

theorem moved_refl (manager : Phones) : Moved manager (fun _ _ => .keep) manager := by
  intro number phone present
  exact .inl ⟨phone, present, rfl⟩

theorem moved_of_axes_eq (same : after.axes = before.axes) :
    Moved before (fun _ _ => .keep) after :=
  (moved_refl before).trans_eq same

/-- One phone is changed. -/
theorem moved_edit {own : Phone → AxisMove} (moves : ∀ phone, before.phones[number]? = some phone →
      (change phone).axes = (own phone).apply phone.axes) :
    Moved before (moveAt (some number) own) (before.edit number change) := by
  intro other phone present
  rcases getElem?_modify_eq_some_iff.mp present with ⟨old, there, changed⟩
  refine .inl ⟨old, there, ?_⟩
  unfold moveAt
  rw [changed]
  by_cases same : number = other
  · subst same
    rw [if_pos rfl, if_pos rfl]
    exact moves old there
  · rw [if_neg same, if_neg fun equal => same (Option.some.inj equal)]
    rfl

theorem axes_edit_of_same (same : ∀ phone, (change phone).axes = phone.axes) :
    (manager.edit number change).axes = manager.axes := by
  have unchanged : (manager.edit number change).axes = (manager.edit number id).axes :=
    map_modify_congr fun phone _ => same phone
  rw [unchanged, edit, modify_id]

theorem Akin.axes (akin : Akin before after) : after.axes = before.axes :=
  akin.map_eq Phone.axes fun _ => rfl

/-! ### Snapshots -/

/-- The phones of `after` are those of `before`, as far as the clock looks at them, and
new ones. -/
structure Upserted (before after : Phones) : Prop where
  grown : before.phones.length ≤ after.phones.length
  kept : ∀ {number : Nat} {phone : Phone}, after.phones[number]? = some phone →
    (∃ old, before.phones[number]? = some old ∧ phone.axes = old.axes ∧
      phone.profileExpiresAt = old.profileExpiresAt ∧
      phone.renewBeforeDays = old.renewBeforeDays) ∨
      before.phones[number]? = none ∧ phone.axes = {}

theorem Upserted.refl (manager : Phones) : Upserted manager manager where
  grown := Nat.le_refl _
  kept := fun present => .inl ⟨_, present, rfl, rfl, rfl⟩

theorem Upserted.upsert (upserted : Upserted before after) (seen : String × String) :
    Upserted before (after.upsert seen) := by
  unfold Phones.upsert
  split
  · constructor
    · unfold edit
      rw [length_modify]
      exact upserted.grown
    · intro number phone present
      rcases getElem?_modify_eq_some_iff.mp present with ⟨middle, there, rfl⟩
      have same := upserted.kept there
      split_ifs <;> exact same
  · constructor
    · rw [length_append]
      exact Nat.le_add_right_of_le upserted.grown
    · intro number phone present
      rcases getElem?_concat_eq_some_iff.mp present with old | ⟨newest, rfl⟩
      · exact upserted.kept old
      · apply Or.inr
        rw [newest]
        exact ⟨getElem?_eq_none upserted.grown, rfl⟩

theorem upserted_foldl (manager : Phones) (seen : List (String × String)) :
    Upserted manager (seen.foldl Phones.upsert manager) := by
  suffices general : ∀ after, Upserted manager after →
      Upserted manager (seen.foldl upsert after) from general manager (.refl manager)
  induction seen with
  | nil =>
    intro after upserted
    exact upserted
  | cons first rest ih =>
    intro after upserted
    exact ih _ (upserted.upsert first)

theorem snapshot_moved (manager : Phones) (seen : List (String × String)) (now : Int) :
    Moved manager (manager.move calendar (.snapshot seen now))
      (manager.snapshot calendar seen now) := by
  intro number phone present
  unfold snapshot at present
  rw [getElem?_map] at present
  rcases Option.map_eq_some_iff.mp present with ⟨middle, there, rfl⟩
  have moved : ((if middle.udid ∈ seen.map Prod.fst then middle
      else { middle with present := false }).refreshWdaExpiry calendar now).axes =
        (middle.clockMove calendar now).apply middle.axes := by
    split_ifs
    · exact axes_refreshWdaExpiry calendar now middle
    · exact axes_refreshWdaExpiry calendar now { middle with present := false }
  rw [moved]
  rcases (upserted_foldl manager seen).kept there with ⟨old, before, axes, expires, days⟩ |
    ⟨absent, fresh⟩
  · refine .inl ⟨old, before, ?_⟩
    rw [clockMove_congr calendar now axes expires days, axes]
    rfl
  · refine .inr ⟨absent, ?_⟩
    rw [fresh, clockMove_of_fresh calendar now fresh]
    rfl

/-! ### Every step -/

/-- The change of a section is its move. -/
theorem moved_of_makes (makes : manager.Makes event number change) :
    Moved manager (manager.move calendar event) (manager.edit number change) := by
  cases makes with
  | release found | jobStarted found =>
    rw [Phones.move, found]
    exact moved_edit fun _ _ => rfl
  | configure => exact moved_of_axes_eq (axes_edit_of_same (Phone.axes_configure _))
  | halt halts stopped =>
    rw [Phones.move, halts.found]
    apply moved_edit
    intro phone present
    cases present.symm.trans halts.present
    rcases halts.action with action | action <;>
      simp [action, controlMove, halts.paired, Phone.halt, Phone.axes, AxisMove.apply]
  | detach found =>
    rw [Phones.move, found]
    exact moved_edit fun phone _ => Phone.axes_detach phone
  | onState present online =>
    rw [Phones.move, phoneOf, present]
    exact moved_edit fun phone _ => Phone.axes_onState online phone
  | onWipe present | exit present severed error =>
    rw [Phones.move, phoneOf, present]
    exact moved_edit fun _ _ => rfl
  | jobProgress found percent stage =>
    exact moved_of_axes_eq (axes_edit_of_same (Phone.axes_noteWdaJobProgress percent stage))
  | jobResult found ok cancelled installed errorCode message profileExpiresAt =>
    rw [Phones.move, found]
    exact moved_edit fun phone _ =>
      Phone.axes_noteWdaJobResult ok cancelled installed errorCode message profileExpiresAt phone
  | lanReachable => exact moved_of_axes_eq (axes_edit_of_same fun _ => rfl)
  | lanPairingPending =>
    exact moved_of_axes_eq (axes_edit_of_same Phone.axes_noteLanPairingPending)

/-- A section without a change makes no move. -/
theorem move_of_unchanged (quiet : ∀ seen now, event ≠ .snapshot seen now)
    (unchanged : ∀ number change, ¬manager.Makes event number change)
    (present : manager.phones[number]? = some phone) :
    manager.move calendar event number phone = .keep := by
  have looped {index : Nat} (absent : manager.loops[index]? = none) (own : Phone → AxisMove) :
      moveAt (manager.phoneOf index) own number phone = .keep := by
    simp [moveAt, phoneOf, absent]
  cases event with
  | release => exact if_neg fun found => unchanged _ _ (.release found)
  | control request =>
    rw [move, moveAt]
    split
    · rename_i found
      by_contra moved
      cases action : request.action <;> simp [controlMove, action] at moved
      · exact unchanged _ _ (.halt ⟨found, present, moved, .inl action⟩ true)
      · exact unchanged _ _ (.halt ⟨found, present, moved, .inr action⟩ true)
    · rfl
  | detached => exact if_neg fun found => unchanged _ _ (.detach found)
  | snapshot seen now => exact absurd rfl (quiet seen now)
  | onState loop online =>
    apply looped
    rw [Option.eq_none_iff_forall_ne_some]
    exact fun found there => unchanged _ _ (.onState there online)
  | onWipe =>
    apply looped
    rw [Option.eq_none_iff_forall_ne_some]
    exact fun found there => unchanged _ _ (.onWipe there)
  | record loop severed =>
    apply looped
    rw [Option.eq_none_iff_forall_ne_some]
    exact fun found there => unchanged _ _ (.exit there severed none)
  | jobStarted => exact if_neg fun found => unchanged _ _ (.jobStarted found)
  | jobResult udid ok cancelled installed errorCode message profileExpiresAt =>
    exact if_neg fun found => unchanged _ _ (.jobResult found ok cancelled installed errorCode
      message profileExpiresAt)
  | _ => rfl

/-- Every step makes one move on each phone. -/
theorem step_moved {calendar : Calendar} (stepped : step calendar manager event = some after) :
    Moved manager (manager.move calendar event) after := by
  cases step_changes stepped with
  | same unchanged unpaired akin =>
    by_cases discovery : ∃ seen now, event = .snapshot seen now
    · rcases discovery with ⟨seen, now, rfl⟩
      cases stepped
      exact (snapshot_moved calendar manager seen now).trans_eq rfl
    · intro number phone present
      rcases exists_of_axes_eq akin.axes present with ⟨old, there, equal⟩
      have quiet : ∀ seen now, event ≠ .snapshot seen now :=
        fun seen now same => discovery ⟨seen, now, same⟩
      refine .inl ⟨old, there, ?_⟩
      rw [move_of_unchanged calendar quiet unchanged there]
      exact equal
  | found akin => exact (snapshot_moved calendar manager _ _).trans_eq akin.axes
  | reserve reserves akin | giveUp underWay failed akin | adopt underWay paired akin =>
    exact moved_of_axes_eq (akin.axes.trans (axes_edit_of_same fun _ => rfl))
  | change makes akin => exact (moved_of_makes calendar makes).trans_eq akin.axes

/-! ## Runs -/

/-- All phones agree with a condition on their axes. -/
def All (agrees : Axes → Prop) (manager : Phones) : Prop :=
  ∀ phone ∈ manager.phones, agrees phone.axes

instance (agrees : Axes → Prop) [DecidablePred agrees] (manager : Phones) :
    Decidable (manager.All agrees) :=
  inferInstanceAs (Decidable (∀ phone ∈ manager.phones, _))

/-- A condition on the axes that new phones meet and that the moves keep. -/
theorem All.moved (all : before.All agrees) (moved : Moved before move after) (fresh : agrees {})
    (kept : ∀ entry ∈ before.phones.zipIdx, agrees entry.1.axes →
      agrees ((move entry.2 entry.1).apply entry.1.axes)) : after.All agrees := by
  intro phone member
  rcases mem_iff_getElem?.mp member with ⟨number, present⟩
  rcases moved number phone present with ⟨old, there, axes⟩ | ⟨_, axes⟩ <;> rw [axes]
  · apply kept (old, number)
    · exact mk_mem_zipIdx_iff_getElem?.mpr there
    · exact all old (mem_of_getElem? there)
  · exact fresh

/-- New phones have both axes at rest. -/
theorem all_new (fresh : agrees {}) (configDir : String)
    (configs : List DeviceConfig) : (new configDir configs).All agrees := by
  intro phone member
  rcases exists_config_of_mem_new member with ⟨config, rfl⟩
  exact fresh

/-- The link of a ready phone is not taken down alone. -/
def LinkKept : Discipline Phones PhoneEvent := fun manager event =>
  ∀ entry ∈ manager.phones.zipIdx, manager.move calendar event entry.2 entry.1 = .clear →
    entry.1.wdaState ≠ .ready
  deriving Decidable

/-- As long as the link of no ready phone is taken down alone, every ready phone has
its link up. -/
theorem ready_controllable {calendar : Calendar} {configDir : String}
    {configs : List DeviceConfig} {manager : Phones}
    (reached : Reaches (step calendar) (LinkKept calendar) (new configDir configs) manager) :
    manager.All Axes.Controllable := by
  apply reached.invariant (P := All Axes.Controllable)
    (all_new (fun ready => by cases ready) configDir configs)
  intro state event next _ all kept stepped
  apply all.moved (step_moved stepped) (fun ready => by cases ready)
  intro entry member controllable
  exact controllable.apply (kept entry member)

/-- No job fails or is cancelled for a phone whose link is up. -/
def JobsSpareLinks : Discipline Phones PhoneEvent := fun manager event =>
  ∀ entry ∈ manager.phones.zipIdx,
    (manager.move calendar event entry.2 entry.1 = .fail → entry.1.deviceControlOn = false) ∧
      (manager.move calendar event entry.2 entry.1 = .abort → entry.1.wdaState = .preparing →
        entry.1.deviceControlOn = false)
  deriving Decidable

/-- As long as no job fails or is cancelled for a phone whose link is up, no phone
whose link is up is reported as broken. -/
theorem live_link_honest {calendar : Calendar} {configDir : String}
    {configs : List DeviceConfig} {manager : Phones}
    (reached : Reaches (step calendar) (JobsSpareLinks calendar) (new configDir configs) manager) :
    manager.All Axes.Honest := by
  apply reached.invariant (P := All Axes.Honest) (all_new (fun up => by cases up) configDir configs)
  intro state event next _ all spare stepped
  apply all.moved (step_moved stepped) (fun up => by cases up)
  intro entry member honest
  exact honest.apply (spare entry member).1 (spare entry member).2

/-! ## Samples -/

/-- The phone is ready, and its link goes down and comes up. -/
theorem ready_controllable_reconnected :
    ∃ manager, Reaches (step noDates) (LinkKept noDates) (new "" []) manager ∧
      (manager.phones.map Phone.axes = [⟨true, .ready⟩]) ∧
      manager.All Axes.Controllable := by
  refine exists_reaches_and_of_run
      (connected ++ [.onState 0 false, .detached "u", .onState 0 true]) (by decide +kernel) ?_
  intro manager reached _
  exact ready_controllable reached

/-- A ready phone is detached. -/
theorem ready_uncontrollable : ∃ manager, Reaches (step noDates) unrestricted (new "" []) manager ∧
      ¬manager.All Axes.Controllable :=
  exists_reaches_of_run (connected ++ [.detached "u"]) (by decide +kernel)

/-- A job fails while the link is down, and the link comes up later. -/
theorem live_link_honest_recovered :
    ∃ manager, Reaches (step noDates) (JobsSpareLinks noDates) (new "" []) manager ∧
      (manager.phones.map Phone.axes = [⟨true, .ready⟩]) ∧
      manager.All Axes.Honest := by
  refine exists_reaches_and_of_run (connected ++ [.onState 0 false, .jobStarted "u",
        .jobResult "u" false false false "sign_failed" "" "", .onState 0 true])
      (by decide +kernel) ?_
  intro manager reached _
  exact live_link_honest reached

/-- A renewal fails for a phone whose link is up. -/
theorem live_link_dishonest : ∃ manager, Reaches (step noDates) unrestricted (new "" []) manager ∧
      ¬manager.All Axes.Honest :=
  exists_reaches_of_run
    (connected ++ [.jobStarted "u", .jobResult "u" false false false "sign_failed" "" ""])
    (by decide +kernel)

end Phones

/-! ## Jobs -/

/-- What the error of a stage is classified as. -/
inductive StageError
  | sha256Mismatch
  | downloadFailed
  | ascUnauthorized
  | signingMaterialMissing
  | manualActionRequired
  | ascUnavailable
  | signingFailed
  | deviceNotPresent
  | installFailed
  | developerModeRequired
  | wdaUnreachable

/-- The answers of `classifyFetchError`, `classifySigningError`, `classifyInstallError` and
`classifyLaunchError`, and the code of an error of `Sign`. -/
def StageError.code : StageError → String
  | .sha256Mismatch => "sha256_mismatch"
  | .downloadFailed => "download_failed"
  | .ascUnauthorized => "asc_unauthorized"
  | .signingMaterialMissing => "signing_material_missing"
  | .manualActionRequired => "manual_action_required"
  | .ascUnavailable => "asc_unavailable"
  | .signingFailed => "signing_failed"
  | .deviceNotPresent => "device_not_present"
  | .installFailed => "install_failed"
  | .developerModeRequired => "developer_mode_required"
  | .wdaUnreachable => "wda_unreachable"

theorem StageError.code_ne_cancelled (error : StageError) : error.code ≠ "cancelled" := by
  cases error <;> decide

/-- A stage of a job, as the job meets it. -/
structure JobStage where
  /-- The context is found cancelled in front of the stage. -/
  cancelled : Bool := false
  /-- The context is cancelled while the stage runs. -/
  interrupted : Bool := false
  /-- The error of the stage, with its text without secrets. -/
  error : Option (StageError × String) := none
  /-- The expiry that `PrepareSigning` answers. -/
  expires : Option String := none

/-- `jobOutcome`. -/
structure JobOutcome where
  errCode : String := ""
  err : Option String := none
  installed : Bool := false
  profileExpiresAt : String := ""

/-- What the loop of `waitForDevice` comes across before its deadline. -/
inductive Poll
  /-- The context is cancelled. -/
  | done
  /-- A tick at which the phone is there. -/
  | online
  | absent
  deriving DecidableEq

/-- What a job meets.  `stages` has those from `Fetch` to `Install` that the request asks
for; `EnableDeveloperMode` gives no error. -/
structure WdaJob where
  /-- The error of making the work directory. -/
  workDir : Option String := none
  artifact : Bool := true
  /-- The phone is there, or nobody can tell. -/
  present : Bool := true
  polls : List Poll := []
  /-- The runner is there already, and the action is to prepare. -/
  skipProvisioning : Bool := false
  stages : List JobStage := []
  launch : JobStage := {}

/-- `cancelled`. -/
def JobOutcome.cancelled (out : JobOutcome) : JobOutcome :=
  { out with errCode := "cancelled", err := some "job cancelled" }

/-- A stage, and what comes after it. -/
def JobStage.run (stage : JobStage) (next : JobOutcome → JobOutcome) (out : JobOutcome) :
    JobOutcome :=
  if stage.cancelled then out.cancelled
  else
    match stage.error with
    | some (error, text) => { out with errCode := error.code, err := some text }
    | none => next { out with profileExpiresAt := stage.expires.getD out.profileExpiresAt }

/-- The loop of `waitForDevice`. -/
def pollDevice : List Poll → Bool
  -- The deadline has passed, and the phone is still not there.
  | [] => false
  | .done :: _ => false
  | .online :: _ => true
  | .absent :: polls => pollDevice polls

namespace WdaJob

variable (job : WdaJob)

/-- `waitForDevice`. -/
def waitForDevice : Bool :=
  job.present || pollDevice job.polls

/-- The last part of `execute`: the runner is installed. -/
def launched (out : JobOutcome) : JobOutcome :=
  job.launch.run id { out with installed := true }

/-- `execute`. -/
def execute : JobOutcome :=
  if ¬job.artifact then
    { errCode := "artifact_missing", err := some "no WDA artifact supplied" }
  else if ¬job.waitForDevice then JobOutcome.cancelled {}
  else if job.skipProvisioning then job.launched {}
  else job.stages.foldr JobStage.run job.launched {}

/-- `runJob`, up to `finish`. -/
def runJob : JobOutcome :=
  match job.workDir with
  | some text => { errCode := "workdir_failed", err := some text }
  | none => job.execute

/-- What `finish` notes. -/
def finish (out : JobOutcome) (phone : Phone) : Phone :=
  let message := out.err.getD ""
  if out.installed then
    phone.noteWdaJobResult true false true out.errCode message out.profileExpiresAt
  else
    phone.noteWdaJobResult (out.err = none ∧ out.errCode = "") (out.errCode = "cancelled") false
      out.errCode message out.profileExpiresAt

/-- The notes of a job from its dispatch on, with the progress in between. -/
def notes (events : List (Int × String)) (phone : Phone) : Phone :=
  let started := if phone.present ∨ phone.lanOn then phone.noteWdaJobStarted else phone
  finish job.runJob
    (events.foldl (fun phone event => phone.noteWdaJobProgress event.1 event.2) started)

/-- The move of `finish`. -/
def move (out : JobOutcome) : AxisMove :=
  if out.installed then .succeed
  else resultMove (out.err = none ∧ out.errCode = "") (out.errCode = "cancelled") false

theorem axes_finish (out : JobOutcome) (phone : Phone) :
    (finish out phone).axes = (move out).apply phone.axes := by
  unfold finish move
  split_ifs <;> exact axes_noteWdaJobResult ..

theorem axes_foldl_progress (events : List (Int × String)) (phone : Phone) :
    (events.foldl (fun phone event => phone.noteWdaJobProgress event.1 event.2) phone).axes =
      phone.axes := by
  induction events generalizing phone with
  | nil => rfl
  | cons event events ih => rw [foldl_cons, ih, axes_noteWdaJobProgress]

/-- A job leaves the state of the runner as it was exactly if its last note happens to
write that state.  A cancelled job restores nothing: a phone that can be reached is
missing the runner afterwards. -/
theorem notes_wdaState_iff (events : List (Int × String)) (phone : Phone) :
    (job.notes events phone).wdaState = phone.wdaState ↔
      match move job.runJob with
      | .abort =>
        if phone.present ∨ phone.lanOn then phone.wdaState = .missing
        else phone.wdaState ≠ .preparing
      | .succeed => phone.wdaState = if phone.deviceControlOn then .ready else .installed
      | _ => phone.wdaState = .failed := by
  have started : (if phone.present ∨ phone.lanOn then phone.noteWdaJobStarted else phone).axes =
      ⟨phone.deviceControlOn, if phone.present ∨ phone.lanOn then .preparing else phone.wdaState⟩ :=
    by split_ifs <;> rfl
  have last : (job.notes events phone).wdaState = ((move job.runJob).apply ⟨phone.deviceControlOn,
      if phone.present ∨ phone.lanOn then .preparing else phone.wdaState⟩).wda := by
    rw [← started, ← axes_foldl_progress events, ← axes_finish]
    rfl
  have ends : move job.runJob = .abort ∨ move job.runJob = .succeed ∨ move job.runJob = .fail := by
    unfold move resultMove
    split_ifs <;> simp
  rw [last]
  rcases ends with ends | ends | ends
  · rw [ends]
    by_cases preparing : phone.wdaState = .preparing <;> split_ifs <;>
      simp [AxisMove.apply, preparing, eq_comm]
  · rw [ends, eq_comm]
    rfl
  · rw [ends, eq_comm]
    rfl

/-- A renewal that is cancelled before anything is fetched, on a ready phone. -/
theorem cancelled_forgets_ready : let job : WdaJob := { stages := [{ cancelled := true }] }
    let phone : Phone := { udid := "u", present := true, wdaState := .ready }
    job.runJob.errCode = "cancelled" ∧ job.runJob.installed = false ∧
      (job.notes [] phone).wdaState = .missing := by
  decide

/-! ### What a failed job leaves -/

/-- What a phone is to show after a job that has installed the runner and failed. -/
structure Explains (out : JobOutcome) (before after : Phone) : Prop where
  wdaState : after.wdaState = if before.deviceControlOn then .ready else .installed
  lastError : after.lastError = jobError out.errCode (out.err.getD "") ""
  expires : trimSpace out.profileExpiresAt ≠ "" →
    after.profileExpiresAt = trimSpace out.profileExpiresAt

section Scratch

variable (stateDir : List String) (id first second : String)

/-- The directory that `runJob` makes, and removes with all that is below it. -/
def workDirOf : List String :=
  Execution.joinName (stateDir ++ ["wda-jobs"]) (sanitizeFileName id)

theorem sanitizeFileName_plain : sanitizeFileName id ≠ "" ∧ '/' ∉ (sanitizeFileName id).toList := by
  simp only [sanitizeFileName]
  split_ifs with empty
  · decide
  · refine ⟨by simpa using empty, fun member => ?_⟩
    rw [String.toList_ofList] at member
    rcases mem_map.mp member with ⟨rune, _, slash⟩
    split_ifs at slash with admitted
    · rw [slash] at admitted
      exact absurd admitted (by decide)
    · exact absurd slash (by decide)

/-- A name of dots leads out of the directory of the jobs. -/
theorem workDirOf_eq : workDirOf stateDir id =
    if sanitizeFileName id = "." then stateDir ++ ["wda-jobs"]
    else if sanitizeFileName id = ".." then stateDir
    else stateDir ++ ["wda-jobs", sanitizeFileName id] := by
  rcases sanitizeFileName_plain id with ⟨named, plain⟩
  have single : segments (sanitizeFileName id) = [sanitizeFileName id] := by
    have whole := splitOn_intercalate '/' (forall_mem_singleton.mpr plain) (by simp)
    rw [intercalate_singleton] at whole
    rw [segments, whole, map_singleton, String.ofList_toList]
  rw [workDirOf, Execution.joinName, single, foldl_cons, foldl_nil, reverse_append]
  unfold cleanSegment
  split_ifs <;> simp_all

/-- No job removes what is another's, or anything outside the directory of the jobs. -/
structure Scratch : Prop where
  apart : ∀ path, workDirOf stateDir first <+: path → ¬workDirOf stateDir second <+: path
  inside : ∀ id ∈ [first, second],
    ∃ name, workDirOf stateDir id = stateDir ++ ["wda-jobs", name]

theorem scratch_iff : Scratch stateDir first second ↔
    sanitizeFileName first ≠ sanitizeFileName second ∧
      ∀ id ∈ [first, second], sanitizeFileName id ∉ [".", ".."] := by
  have below : ∀ id, (∃ name, workDirOf stateDir id = stateDir ++ ["wda-jobs", name]) ↔
      sanitizeFileName id ∉ [".", ".."] := by
    intro id
    rw [workDirOf_eq]
    split_ifs <;> simp_all
  constructor
  · intro scratch
    refine ⟨fun same => ?_, fun id member => (below id).mp (scratch.inside id member)⟩
    have shared : workDirOf stateDir first = workDirOf stateDir second := by
      rw [workDirOf, same, workDirOf]
    have apart := scratch.apart (workDirOf stateDir second)
    rw [shared] at apart
    exact apart prefix_rfl prefix_rfl
  · rintro ⟨different, named⟩
    refine ⟨fun path mine yours => different ?_, fun id member => (below id).mpr (named id member)⟩
    have own : ∀ id ∈ [first, second],
        workDirOf stateDir id = stateDir ++ ["wda-jobs", sanitizeFileName id] := by
      intro id member
      have dotted := named id member
      rw [workDirOf_eq, if_neg, if_neg] <;> simp_all
    rw [own first (by simp)] at mine
    rw [own second (by simp)] at yours
    have same := (prefix_of_prefix_length_le mine yours (by simp)).eq_of_length (by simp)
    simpa using same

theorem scratch_shared : workDirOf ["state"] "a/b" = workDirOf ["state"] "a_b" ∧
    workDirOf ["state"] ".." = ["state"] := by
  decide +kernel

end Scratch

/-! ### Cancellation -/

/-- The phone is not there, and does not come before the context is cancelled or the
deadline has passed. -/
def Unseen : Prop :=
  job.present = false ∧ Poll.online ∉ job.polls.takeWhile (· ≠ .done)

/-- The stages that the job is going to take. -/
def plan : List JobStage :=
  (if job.skipProvisioning then [] else job.stages) ++ [job.launch]

/-- All stages of the plan in front of the stage go well. -/
def Meets (stage : JobStage) : Prop :=
  ∃ before after, job.plan = before ++ stage :: after ∧
    ∀ passed ∈ before, passed.cancelled = false ∧ passed.error = none

/-- The code that stages end with. -/
def codeOf : List JobStage → String
  | [] => ""
  | stage :: rest =>
    if stage.cancelled then "cancelled"
    else
      match stage.error with
      | some (error, _) => error.code
      | none => codeOf rest

theorem pollDevice_eq_false_iff (polls : List Poll) :
    pollDevice polls = false ↔ Poll.online ∉ polls.takeWhile (· ≠ .done) := by
  induction polls with
  | nil => simp [pollDevice]
  | cons poll polls ih => cases poll <;> simp_all [pollDevice]

theorem errCode_foldr (stages : List JobStage) (out : JobOutcome) (fresh : out.errCode = "") :
    (stages.foldr JobStage.run job.launched out).errCode = codeOf (stages ++ [job.launch]) := by
  induction stages generalizing out with
  | nil =>
    simp only [foldr_nil, launched, JobStage.run, nil_append, codeOf]
    split_ifs
    · rfl
    · split
      · rfl
      · exact fresh
  | cons stage rest ih =>
    simp only [foldr_cons, JobStage.run, cons_append, codeOf]
    split_ifs
    · rfl
    · split
      · rfl
      · exact ih _ fresh

theorem errCode_execute : job.execute.errCode =
    if job.artifact = false then "artifact_missing"
    else if job.waitForDevice = false then "cancelled" else codeOf job.plan := by
  simp only [execute, plan, Bool.not_eq_true]
  split_ifs
  · rfl
  · rfl
  · exact job.errCode_foldr [] {} rfl
  · exact job.errCode_foldr job.stages {} rfl

theorem codeOf_append {before : List JobStage}
    (clear : ∀ passed ∈ before, passed.cancelled = false ∧ passed.error = none)
    (rest : List JobStage) : codeOf (before ++ rest) = codeOf rest := by
  induction before with
  | nil => rfl
  | cons stage before ih =>
    rcases forall_mem_cons.mp clear with ⟨⟨live, well⟩, others⟩
    rw [cons_append, codeOf, live, well]
    exact ih others

theorem exists_of_codeOf_eq_cancelled {stages : List JobStage}
    (code : codeOf stages = "cancelled") :
    ∃ before stage after, stages = before ++ stage :: after ∧ stage.cancelled = true ∧
      ∀ passed ∈ before, passed.cancelled = false ∧ passed.error = none := by
  induction stages with
  | nil => exact absurd code (by decide)
  | cons stage rest ih =>
    rw [codeOf] at code
    split_ifs at code with cancelled
    · exact ⟨[], stage, rest, rfl, cancelled, forall_mem_nil _⟩
    · split at code
      · rename_i error _ _
        exact absurd code error.code_ne_cancelled
      · rename_i well
        rcases ih code with ⟨before, found, after, rfl, stops, clear⟩
        exact ⟨stage :: before, found, after, rfl, stops,
          forall_mem_cons.mpr ⟨⟨eq_false_of_ne_true cancelled, well⟩, clear⟩⟩

theorem execute_code :
    (job.execute.errCode = "cancelled" ↔ job.artifact = true ∧
      (job.Unseen ∨ ∃ stage, job.Meets stage ∧ stage.cancelled = true)) ∧
    ∀ stage error text, job.artifact = true → ¬job.Unseen → job.Meets stage →
      stage.cancelled = false → stage.error = some (error, text) →
      job.execute.errCode = error.code ∧ job.execute.errCode ≠ "cancelled" := by
  have unseen : job.waitForDevice = false ↔ job.Unseen := by
    rw [waitForDevice, Bool.or_eq_false_iff, pollDevice_eq_false_iff, Unseen]
  rw [errCode_execute]
  constructor
  · split_ifs with missing absent
    · simp [missing]
    · simp [missing, unseen.mp absent]
    · rw [unseen] at absent
      constructor
      · intro code
        rcases exists_of_codeOf_eq_cancelled code with ⟨before, stage, after, split, stops, clear⟩
        exact ⟨eq_true_of_ne_false missing, .inr ⟨stage, ⟨before, after, split, clear⟩, stops⟩⟩
      · rintro ⟨_, waited | ⟨stage, ⟨before, after, split, clear⟩, stops⟩⟩
        · exact absurd waited absent
        · rw [split, codeOf_append clear, codeOf, if_pos stops]
  · rintro stage error text artifact seen ⟨before, after, split, clear⟩ live fails
    rw [if_neg (by simp [artifact]), if_neg (fun absent => seen (unseen.mp absent)), split,
      codeOf_append clear, codeOf, live, fails]
    exact ⟨rfl, error.code_ne_cancelled⟩

/-- A job has the code of a cancelled one exactly if the phone has not come in time or a stage
has not been started for the cancelled context; a stage that fails has the code of its own error,
whether or not the context is cancelled by then. -/
theorem cancelled_code :
    (job.runJob.errCode = "cancelled" ↔ job.workDir = none ∧ job.artifact = true ∧
      (job.Unseen ∨ ∃ stage, job.Meets stage ∧ stage.cancelled = true)) ∧
    ∀ stage error text, job.workDir = none → job.artifact = true → ¬job.Unseen →
      job.Meets stage → stage.cancelled = false → stage.error = some (error, text) →
      job.runJob.errCode = error.code ∧ job.runJob.errCode ≠ "cancelled" := by
  cases made : job.workDir with
  | some text =>
    have code : job.runJob.errCode = "workdir_failed" := by simp only [runJob, made]
    constructor
    · rw [code]
      exact iff_of_false (by decide) nofun
    · rintro _ _ _ ⟨⟩
  | none =>
    have same : job.runJob = job.execute := by simp only [runJob, made]
    rw [same, job.execute_code.1]
    constructor
    · exact (and_iff_right rfl).symm
    · intro stage error text _
      exact job.execute_code.2 stage error text

/-- The phone does not come in time, and nobody has cancelled the job; the context is cancelled
while the artifact is fetched, which fails; and there is no artifact in the first place. -/
theorem timeout_cancelled :
    (execute { present := false, polls := [.absent] }).errCode = "cancelled" ∧
      (execute
        { stages := [{ interrupted := true, error := some (.downloadFailed, "") }] }).errCode =
        "download_failed" ∧
      (execute { artifact := false, present := false, polls := [.done] }).errCode =
        "artifact_missing" := by
  decide

end WdaJob

end LubricantNodes.Agent
