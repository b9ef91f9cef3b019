import LubricantNodes.Files.Runs

/-!
# A logic of file programs

A contract says which trees and outcomes the operations of a program meet, what others
may do to the tree between two of them, and what each of them must do.  A
program secures a postcondition from a tree when, under the contract, every
operation keeps its word and the postcondition holds whenever the program ends.

A crash may come between any two operations, so what must survive one belongs
into the guarantee and not into the postcondition.
-/

namespace LubricantNodes.Files

variable {ν κ χ ρ ε δ α β : Type} [DecidableEq ν]

/-- What a program may assume and what it must keep. -/
structure Contract (ν κ χ ρ : Type) where
  /-- What operations meet. -/
  env : Tree ν κ → Op ν κ χ → Outcome ν κ ρ → Prop
  /-- What happens to the tree between two operations. -/
  rely : Tree ν κ → Tree ν κ → Prop
  /-- What an operation may do to the tree. -/
  guar : Tree ν κ → Tree ν κ → Prop
  rely_refl : ∀ tree, rely tree tree
  rely_trans : ∀ {first second third}, rely first second → rely second third → rely first third

/-- The contract of a program that runs alone. -/
def Contract.alone (env : Tree ν κ → Op ν κ χ → Outcome ν κ ρ → Prop)
    (guar : Tree ν κ → Tree ν κ → Prop) : Contract ν κ χ ρ where
  env := env
  rely := Eq
  guar := guar
  rely_refl := fun _ => rfl
  rely_trans := Eq.trans

namespace Prog

/-- The program keeps the contract and ends with the postcondition. -/
inductive Secures (contract : Contract ν κ χ ρ) (post : Except ε α → Tree ν κ → Prop) :
    Prog ν κ χ ρ ε α → Tree ν κ → Prop
  | ret {value : α} {tree : Tree ν κ} :
      (∀ later, contract.rely tree later → post (.ok value) later) →
      Secures contract post (ret value) tree
  | fail {error : ε} {tree : Tree ν κ} :
      (∀ later, contract.rely tree later → post (.error error) later) →
      Secures contract post (fail error) tree
  | ask {op : Op ν κ χ} {next : op.Reply ρ → Prog ν κ χ ρ ε α} {tree : Tree ν κ} :
      (∀ later outcome, contract.rely tree later → contract.env later op outcome →
        contract.guar later (op.effect outcome later)) →
      (∀ later outcome, contract.rely tree later → contract.env later op outcome →
        Secures contract post (next (op.reply outcome later)) (op.effect outcome later)) →
      Secures contract post (ask op next) tree

variable {contract : Contract ν κ χ ρ} {post weaker : Except ε α → Tree ν κ → Prop}
  {prog : Prog ν κ χ ρ ε α} {tree tree' : Tree ν κ}

namespace Secures

section Bind

variable {rest : α → Prog ν κ χ ρ ε β} {final : Except ε β → Tree ν κ → Prop}
  (secures : prog.Secures contract post tree)
  (goesOn : ∀ value later, post (.ok value) later → (rest value).Secures contract final later)
  (failed : ∀ error later, post (.error error) later → final (.error error) later)

include secures goesOn failed

/-- The rule of composition. -/
theorem bind : (prog.bind rest).Secures contract final tree := by
  induction secures with
  | ret holds => exact goesOn _ _ (holds _ (contract.rely_refl _))
  | fail holds => exact .fail fun later relied => failed _ _ (holds later relied)
  | ask keeps _ ih => exact .ask keeps ih

/-- `Secures.bind` for `do` blocks. -/
theorem andThen : (prog >>= rest).Secures contract final tree := secures.bind goesOn failed

end Bind

theorem mapError {wrap : ε → δ} {final : Except δ α → Tree ν κ → Prop}
    (secures : prog.Secures contract post tree)
    (succeeded : ∀ value later, post (.ok value) later → final (.ok value) later)
    (wrapped : ∀ error later, post (.error error) later → final (.error (wrap error)) later) :
    (prog.mapError wrap).Secures contract final tree := by
  induction secures with
  | ret holds => exact .ret fun later relied => succeeded _ _ (holds later relied)
  | fail holds => exact .fail fun later relied => wrapped _ _ (holds later relied)
  | ask keeps _ ih => exact .ask keeps ih

theorem attempt {final : Except ε (Except ε α) → Tree ν κ → Prop}
    (secures : prog.Secures contract post tree)
    (ended : ∀ result later, post result later → final (.ok result) later) :
    prog.attempt.Secures contract final tree := by
  induction secures with
  | ret holds | fail holds => exact .ret fun later relied => ended _ _ (holds later relied)
  | ask keeps _ ih => exact .ask keeps ih

end Secures

/-! ## Operations -/

section Operations

variable {path : List ν}

theorem secures_readDir {final : Except ε (Except Errno (List (ν × Bool))) → Tree ν κ → Prop}
    (keeps : ∀ later, contract.rely tree later → contract.guar later later)
    (holds : ∀ later outcome after, contract.rely tree later →
      contract.env later (.readDir path) outcome → contract.rely later after →
      final (.ok ((Op.readDir path : Op ν κ χ).reply outcome later)) after) :
    (readDir path).Secures contract final tree := by
  apply Secures.ask
  · intro later outcome relied _
    rw [Op.effect_readDir]
    exact keeps later relied
  · intro later outcome relied admitted
    rw [Op.effect_readDir]
    exact .ret fun after => holds later outcome after relied admitted

end Operations

/-- An invariant that all operations of a program keep is secured. -/
theorem Issues.secures {ok : Op ν κ χ → Prop} {inv : Tree ν κ → Prop} (issues : prog.Issues ok)
    (holds : inv tree)
    (relied : ∀ first second, inv first → contract.rely first second → inv second)
    (kept : ∀ op outcome later, ok op → contract.env later op outcome → inv later →
      inv (op.effect outcome later) ∧ contract.guar later (op.effect outcome later)) :
    prog.Secures contract (fun _ later => inv later) tree := by
  induction issues generalizing tree with
  | ret => exact .ret fun later => relied _ later holds
  | fail => exact .fail fun later => relied _ later holds
  | ask met _ ih =>
    apply Secures.ask
    · exact fun later outcome further admitted =>
        (kept _ outcome later met admitted (relied _ later holds further)).2
    · exact fun later outcome further admitted =>
        ih _ (kept _ outcome later met admitted (relied _ later holds further)).1

/-! ## Programs that run alone -/

section Alone

variable {env : Tree ν κ → Op ν κ χ → Outcome ν κ ρ → Prop} {guar : Tree ν κ → Tree ν κ → Prop}

theorem secures_orFail {wrap : Errno → ε} (holds : ∀ result, post result tree)
    (reply : Except Errno α) :
    (orFail wrap reply : Prog ν κ χ ρ ε α).Secures (.alone env guar) post tree := by
  cases reply with
  | ok => exact .ret fun later same => same ▸ holds _
  | error => exact .fail fun later same => same ▸ holds _

section Removals

variable {paths : List ν → Prop} {path : List ν} {wrap : Errno → ε}

theorem secures_preserving {op : Op ν κ χ} {next : op.Reply ρ → Prog ν κ χ ρ ε α}
    (preserves : Preserves paths op) (direct : op.Direct tree)
    (goesOn : ∀ outcome, (next (op.reply outcome tree)).Secures (.alone env (Kept paths)) post
      (op.effect outcome tree)) :
    (ask op next).Secures (.alone env (Kept paths)) post tree := by
  apply Secures.ask
  · rintro _ outcome rfl _
    exact preserves.kept direct outcome
  · rintro _ outcome rfl _
    exact goesOn outcome

/-- `os.RemoveAll` of a path on which no link lies keeps what is outside, and makes no link. -/
theorem secures_removeAll (direct : tree.Direct false path)
    (outside : ∀ other, paths other → ¬path <+: other) :
    (removeAll wrap path : Prog ν κ χ ρ ε Unit).Secures (.alone env (Kept paths))
      (fun _ later => Tree.LinkFree tree later) tree := by
  have preserves : Preserves paths (.removeAll path : Op ν κ χ) := outside
  apply secures_preserving preserves direct
  intro outcome
  exact secures_orFail (fun _ => Op.linkFree_removeAll direct outcome) _

/-- A request below roots on which no link lies keeps what is outside them. -/
theorem secures_request {roots : List (List ν)} {what : χ}
    (direct : ∀ root ∈ roots, tree.Direct true root)
    (outside : ∀ other, paths other → ∀ root ∈ roots, ¬root <+: other) :
    (request wrap roots what : Prog ν κ χ ρ ε ρ).Secures (.alone env (Kept paths))
      (fun _ _ => True) tree := by
  have preserves : Preserves paths (.request roots what : Op ν κ χ) := by
    rintro other among ⟨root, member, below⟩
    exact outside other among root member below
  apply secures_preserving preserves direct
  intro outcome
  exact secures_orFail (fun _ => trivial) _

end Removals

/-- Wherever a program that runs alone has come to, it has kept its guarantee. -/
theorem Secures.guar_of_steps {prog' : Prog ν κ χ ρ ε α}
    (secures : prog.Secures (.alone env guar) post tree)
    (steps : Steps env prog tree prog' tree') (refl : ∀ tree, guar tree tree)
    (trans : ∀ {first second third}, guar first second → guar second third → guar first third) :
    guar tree tree' := by
  induction steps with
  | refl => exact refl _
  | ask outcome admitted _ ih =>
    cases secures with
    | ask keeps after =>
      exact trans (keeps _ outcome rfl admitted) (ih (after _ outcome rfl admitted))

end Alone

end Prog

end LubricantNodes.Files
