import Mathlib.Order.WellFounded
import LubricantNodes.Transition.Core

/-!
# Fair executions

Infinite executions of a partial transition system, weak fairness of a class of
actions, and the rule that derives progress from it: if a class of actions
stays enabled until a goal is reached, and each of its steps lowers a
well-founded rank that no other step raises, then the goal is reached.
-/

namespace LubricantNodes.Transition

universe u v w

variable {σ : Type u} {ε : Type v} {next : Step σ ε} {ok : Discipline σ ε}

/-- An infinite execution.  At a time without a label nothing moves. -/
structure Trace (next : Step σ ε) (ok : Discipline σ ε) where
  state : Nat → σ
  label : Nat → Option ε
  moves : ∀ time, optional next (state time) (label time) = some (state (time + 1))
  meets : ∀ time event, label time = some event → ok (state time) event

namespace Trace

/-- Every state of a trace is reached from the first one. -/
theorem reaches (trace : Trace next ok) (time : Nat) :
    Reaches next ok (trace.state 0) (trace.state time) := by
  induction time with
  | zero => exact .refl
  | succ time ih => exact ih.trans (reaches_of_optional (trace.meets time) (trace.moves time))

/-- What happens at a time: nothing, or a disciplined step. -/
theorem cases_label (trace : Trace next ok) (time : Nat) :
    (trace.label time = none ∧ trace.state (time + 1) = trace.state time) ∨
      ∃ event, trace.label time = some event ∧ ok (trace.state time) event ∧
        next (trace.state time) event = some (trace.state (time + 1)) := by
  have moved := trace.moves time
  cases label : trace.label time with
  | none =>
    rw [label, optional_none_eq_some_iff] at moved
    exact .inl ⟨rfl, moved⟩
  | some event =>
    rw [label, optional_some] at moved
    exact .inr ⟨event, rfl, trace.meets time event label, moved⟩

/-- Nothing moves. -/
def rest (state : σ) : Trace next ok where
  state _ := state
  label _ := none
  moves _ := rfl
  meets _ _ absurd := by cases absurd

/-- A step, and then a trace. -/
def cons {source : σ} {event : ε} (trace : Trace next ok)
    (step : next source event = some (trace.state 0)) (allowed : ok source event) :
    Trace next ok where
  state
    | 0 => source
    | time + 1 => trace.state time
  label
    | 0 => some event
    | time + 1 => trace.label time
  moves
    | 0 => step
    | time + 1 => trace.moves time
  meets
    | 0, _, rfl => allowed
    | time + 1, event, label => trace.meets time event label

/-- A run that keeps `P`, and then rest. -/
theorem exists_of_run [∀ state event, Decidable (ok state event)] {P : σ → Prop}
    [DecidablePred P] {source target : σ} (events : List ε)
    (run : executeWith next (fun state event => P state ∧ ok state event) source events =
      some target) (last : P target) :
    ∃ trace : Trace next ok, trace.state 0 = source ∧ (∀ time, P (trace.state time)) ∧
      ∀ time, events.length ≤ time → trace.state time = target := by
  induction events generalizing source with
  | nil =>
    cases run
    exact ⟨rest target, rfl, fun _ => last, fun _ _ => rfl⟩
  | cons event events ih =>
    rcases Option.bind_eq_some_iff.mp run with ⟨middle, first, remaining⟩
    dsimp only at first
    split_ifs at first with meets
    rcases ih remaining with ⟨trace, rfl, keeps, rests⟩
    refine ⟨cons trace first meets.2, rfl, ?_, ?_⟩
    · rintro (_ | time)
      · exact meets.1
      · exact keeps time
    · rintro (_ | time) late
      · cases late
      · exact rests time (Nat.le_of_succ_le_succ late)

/-- Some action of a class is enabled. -/
def Enabled (next : Step σ ε) (acts : ε → Prop) (state : σ) : Prop :=
  ∃ event, acts event ∧ (next state event).isSome

/-- Weak fairness: actions that stay enabled are taken. -/
def Fair (trace : Trace next ok) (acts : ε → Prop) : Prop :=
  ∀ start, (∀ time, start ≤ time → Enabled next acts (trace.state time)) →
    ∃ time event, start ≤ time ∧ trace.label time = some event ∧ acts event

/-- A trace that comes to rest where no action of a class is enabled. -/
theorem fair_of_rest {trace : Trace next ok} {acts : ε → Prop} {target : σ} {bound : Nat}
    (rests : ∀ time, bound ≤ time → trace.state time = target)
    (idle : ¬Enabled next acts target) : trace.Fair acts := by
  intro start enabled
  have late := enabled (start + bound) (Nat.le_add_right ..)
  rw [rests _ (Nat.le_add_left ..)] at late
  exact absurd late idle

/-- The rule of progress under weak fairness, for an execution of which `I` holds from `start`
on. -/
theorem Fair.eventually {trace : Trace next ok} {acts : ε → Prop} (fair : trace.Fair acts)
    {ρ : Type w} [Preorder ρ] [WellFoundedLT ρ] {I P Q : σ → Prop} {r : σ → ρ} {start : Nat}
    (always : ∀ time, start ≤ time → I (trace.state time))
    (enabled : ∀ {state}, I state → P state → ¬Q state → Enabled next acts state)
    (moves : ∀ {state event target}, I state → I target → P state → ¬Q state →
      next state event = some target →
        r target ≤ r state ∧ (acts event → r target < r state) ∧ (¬Q target → P target))
    (holds : P (trace.state start)) : ∃ time, start ≤ time ∧ Q (trace.state time) := by
  induction ranked : r (trace.state start) using WellFoundedLT.induction generalizing start with
  | ind bound ih =>
    by_contra never
    have notYet : ∀ time, start ≤ time → ¬Q (trace.state time) := fun time later reached =>
      never ⟨time, later, reached⟩
    have keeps : ∀ time, start ≤ time → P (trace.state time) ∧ r (trace.state time) ≤ bound := by
      intro time later
      induction time, later using Nat.le_induction with
      | base => exact ⟨holds, ranked.le⟩
      | succ time later keep =>
        rcases trace.cases_label time with ⟨-, same⟩ | ⟨event, -, -, step⟩
        · rwa [same]
        · obtain ⟨lower, -, kept⟩ := moves (always time later) (always _ (by omega)) keep.1
            (notYet time later) step
          exact ⟨kept (notYet _ (by omega)), lower.trans keep.2⟩
    obtain ⟨time, event, later, label, act⟩ := fair start fun time later =>
      enabled (always time later) (keeps time later).1 (notYet time later)
    have step := trace.moves time
    rw [label, optional_some] at step
    obtain ⟨still, below⟩ := keeps time later
    obtain ⟨-, lower, -⟩ := moves (always time later) (always _ (by omega)) still
      (notYet time later) step
    obtain ⟨goal, goalLater, reached⟩ := ih _ ((lower act).trans_le below)
      (fun time later => always time (by omega)) (keeps (time + 1) (by omega)).1 rfl
    exact notYet goal (by omega) reached

end Trace

end LubricantNodes.Transition
