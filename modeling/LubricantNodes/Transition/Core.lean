import Mathlib.Logic.Relation

/-!
# Labelled partial transitions

A concurrent program is modelled as a partial function of a state and an event:
the event names the goroutine that moves, the atomic action it takes and the
outcome of whatever the action asks of the outside world.  An interleaving is
then a list of events, and a property of every interleaving is a property of
every state reached by such lists.

Reachability carries a *discipline*: a condition on each step's source state
and event.  The trivial discipline gives all executions; a proper one gives the
executions all of whose steps meet the condition.
-/

namespace LubricantNodes.Transition

universe u v w x

/-- A partial transition: `none` when the event is not enabled. -/
abbrev Step (σ : Type u) (ε : Type v) := σ → ε → Option σ

/-- A condition on the steps of an execution. -/
abbrev Discipline (σ : Type u) (ε : Type v) := σ → ε → Prop

/-- The discipline met by every step. -/
def unrestricted {σ : Type u} {ε : Type v} : Discipline σ ε := fun _ _ => True
  deriving Decidable

/-- The discipline of a check that can be run. -/
def checked {σ : Type u} {ε : Type v} (check : σ → ε → Bool) : Discipline σ ε :=
  fun state event => check state event = true
  deriving Decidable

/-! ## Guarded results -/

/-- The result of an action that is enabled exactly when `guard` holds. -/
def guarded {σ : Type u} (guard : Prop) [Decidable guard] (result : σ) : Option σ :=
  if guard then some result else none

@[simp]
theorem guarded_eq_some_iff {σ : Type u} {guard : Prop} [Decidable guard]
    {result target : σ} : guarded guard result = some target ↔ guard ∧ result = target := by
  by_cases enabled : guard <;> simp [guarded, enabled]

/-! ## Executions -/

section Executions

variable {σ : Type u} {ε : Type v} {next : Step σ ε} {ok good : Discipline σ ε}

/-- Fold a list of events through the transition. -/
def execute (next : Step σ ε) : σ → List ε → Option σ
  | state, [] => some state
  | state, event :: rest => (next state event).bind fun target => execute next target rest

/-- `target` is reached from `source` by steps that all meet `ok`. -/
inductive Reaches (next : Step σ ε) (ok : Discipline σ ε) (source : σ) : σ → Prop
  | refl : Reaches next ok source source
  | tail {middle target : σ} {event : ε} : Reaches next ok source middle →
      ok middle event → next middle event = some target → Reaches next ok source target

namespace Reaches

/-- A weaker discipline admits more executions. -/
theorem mono {source target : σ} (reached : Reaches next ok source target)
    (weaker : ∀ state event, ok state event → good state event) :
    Reaches next good source target := by
  induction reached with
  | refl => exact .refl
  | tail _ meets step ih => exact .tail ih (weaker _ _ meets) step

theorem single {source target : σ} {event : ε} (step : next source event = some target)
    (meets : ok source event) : Reaches next ok source target :=
  .tail .refl meets step

theorem trans {source middle target : σ} (first : Reaches next ok source middle)
    (second : Reaches next ok middle target) : Reaches next ok source target := by
  induction second with
  | refl => exact first
  | tail _ meets step ih => exact .tail ih meets step

/-- Induction over an execution: a property that holds at the source and is
preserved by every disciplined step from a reached state holds at the target. -/
theorem invariant {source target : σ} {P : σ → Prop}
    (reached : Reaches next ok source target) (base : P source)
    (preserved : ∀ {state event state'}, Reaches next ok source state → P state →
      ok state event → next state event = some state' → P state') : P target := by
  induction reached with
  | refl => exact base
  | tail before meets step ih => exact preserved before ih meets step

/-- Strengthen a discipline by an invariant of the executions it admits. -/
theorem strengthen {source target : σ} {P : σ → Prop} (reached : Reaches next ok source target)
    (holds : ∀ {state}, Reaches next ok source state → P state) :
    Reaches next (fun state event => P state ∧ ok state event) source target := by
  induction reached with
  | refl => exact .refl
  | tail before meets step ih => exact .tail ih ⟨holds before, meets⟩ step

end Reaches

/-- Fold a list of events, checking the discipline before every step. -/
def executeWith (next : Step σ ε) (ok : Discipline σ ε)
    [∀ state event, Decidable (ok state event)] :
    σ → List ε → Option σ :=
  execute fun state event => if ok state event then next state event else none

section Runs

variable [∀ state event, Decidable (ok state event)] {source : σ}

theorem reaches_of_executeWith {target : σ} {events : List ε}
    (run : executeWith next ok source events = some target) : Reaches next ok source target := by
  induction events generalizing source with
  | nil =>
    cases run
    exact .refl
  | cons event rest ih =>
    rcases Option.bind_eq_some_iff.mp run with ⟨middle, first, remaining⟩
    change (if ok source event then next source event else none) = some middle at first
    by_cases meets : ok source event
    · rw [if_pos meets] at first
      exact (Reaches.single first meets).trans (ih remaining)
    · rw [if_neg meets] at first
      contradiction

variable {goal result : σ → Prop} [DecidablePred goal] (events : List ε)
  (run : (executeWith next ok source events).map (fun state => decide (goal state)) = some true)

include run

/-- A disciplined list of events that ends in a state with property `goal`. -/
theorem exists_reaches_of_run : ∃ target, Reaches next ok source target ∧ goal target := by
  rcases Option.map_eq_some_iff.mp run with ⟨target, reached, holds⟩
  exact ⟨target, reaches_of_executeWith reached, of_decide_eq_true holds⟩

variable (follows : ∀ target, Reaches next ok source target → goal target → result target)

include follows

/-- Such a list, and what follows in the state it leads to. -/
theorem exists_reaches_and_of_run :
    ∃ target, Reaches next ok source target ∧ goal target ∧ result target := by
  rcases exists_reaches_of_run events run with ⟨target, reached, holds⟩
  exact ⟨target, reached, holds, follows target reached holds⟩

variable (goal)

/-- What follows in the state that such a list leads to. -/
theorem exists_reaches_imp_of_run : ∃ target, Reaches next ok source target ∧ result target := by
  rcases exists_reaches_and_of_run events run follows with ⟨target, reached, -, holds⟩
  exact ⟨target, reached, holds⟩

end Runs

end Executions

/-! ## Components -/

section Components

variable {σ : Type u} {ε : Type v} {τ : Type w} {δ : Type x}

/-- A step of a component that need not take part in a step of the whole. -/
def optional (part : Step τ δ) (state : τ) : Option δ → Option τ
  | none => some state
  | some event => part state event

variable {part : Step τ δ}

@[simp]
theorem optional_some {source : τ} {event : δ} :
    optional part source (some event) = part source event :=
  rfl

@[simp]
theorem optional_none_eq_some_iff {source target : τ} :
    optional part source none = some target ↔ target = source := by
  simp [optional, eq_comm]

/-- A component is observed through `view`: during every disciplined step of
the whole it runs a disciplined execution of its own, mostly of no or of one
step. -/
theorem Reaches.project {next : Step σ ε} {ok : Discipline σ ε} {partOk : Discipline τ δ}
    (view : σ → τ) {source target : σ}
    (simulates : ∀ {state event state'}, ok state event → next state event = some state' →
      Reaches part partOk (view state) (view state'))
    (reached : Reaches next ok source target) :
    Reaches part partOk (view source) (view target) := by
  induction reached with
  | refl => exact .refl
  | tail _ meets step ih => exact ih.trans (simulates meets step)

/-- An optional step of a component is an execution of it. -/
theorem reaches_of_optional {partOk : Discipline τ δ} {source target : τ}
    {event : Option δ} (meets : ∀ taken, event = some taken → partOk source taken)
    (step : optional part source event = some target) : Reaches part partOk source target := by
  cases event with
  | none =>
    cases step
    exact .refl
  | some taken => exact .single step (meets taken rfl)

end Components

end LubricantNodes.Transition
