import Mathlib.Logic.Function.Basic

/-!
# Contexts of the Go standard library

The part of `context` that decides when work is cancelled.  A context made by
`WithCancel` or `WithTimeout` ends with its parent, one made by `WithoutCancel`
does not, and every context is known by its *lineage*: the contexts whose end
ends it.  Contexts are named by `ι`, and a context ends for a reason in `ρ`.
-/

namespace LubricantNodes.Go

variable {ι ρ : Type} [DecidableEq ι]

/-- The contexts made so far.  The lineage of a name that is not in use is
empty, as is that of a context that never ends. -/
structure Contexts (ι ρ : Type) where
  lineage : ι → List ι
  /-- The contexts whose own cancel function was called or whose deadline has
  passed, latest first. -/
  ended : List (ι × ρ)

namespace Contexts

variable (contexts : Contexts ι ρ) {name other parent : ι} {reason : ρ}

/-- `context.Background` under every name in `roots`, each with a cancel
function. -/
def new (roots : List ι) : Contexts ι ρ where
  lineage name := if name ∈ roots then [name] else []
  ended := []

/-- `context.WithCancel`, and `context.WithTimeout` before its deadline. -/
def withCancel (name parent : ι) : Contexts ι ρ :=
  { contexts with
    lineage := Function.update contexts.lineage name (name :: contexts.lineage parent) }

/-- `context.WithoutCancel`. -/
def withoutCancel (name : ι) : Contexts ι ρ :=
  { contexts with lineage := Function.update contexts.lineage name [] }

/-- The cancel function of a context, or its deadline. -/
def cancel (name : ι) (reason : ρ) : Contexts ι ρ :=
  { contexts with ended := (name, reason) :: contexts.ended }

/-- The context ended by itself, not with another one. -/
def endedAt (name : ι) : Bool :=
  contexts.ended.any fun entry => entry.1 = name

/-- `ctx.Err() != nil`. -/
def done (name : ι) : Bool :=
  (contexts.lineage name).any contexts.endedAt

variable {contexts}

theorem endedAt_iff : contexts.endedAt name = true ↔ ∃ reason, (name, reason) ∈ contexts.ended := by
  simp [endedAt]

theorem done_iff : contexts.done name = true ↔
      ∃ ancestor ∈ contexts.lineage name, ∃ reason, (ancestor, reason) ∈ contexts.ended := by
  simp [done, endedAt_iff]

@[simp]
theorem lineage_withCancel :
    (contexts.withCancel name parent).lineage name = name :: contexts.lineage parent :=
  Function.update_self ..

theorem lineage_withCancel_of_ne (different : other ≠ name) :
    (contexts.withCancel name parent).lineage other = contexts.lineage other :=
  Function.update_of_ne different ..

@[simp]
theorem lineage_withoutCancel : (contexts.withoutCancel name).lineage name = [] :=
  Function.update_self ..

theorem lineage_withoutCancel_of_ne (different : other ≠ name) :
    (contexts.withoutCancel name).lineage other = contexts.lineage other :=
  Function.update_of_ne different ..

end Contexts

end LubricantNodes.Go
