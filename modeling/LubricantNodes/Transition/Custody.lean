import Mathlib.Data.List.Nodup
import Mathlib.Data.List.Perm.Basic

/-!
# Custody

Items are handed from place to place.  A history function says where each item
is; some of the places are containers that list what they hold.  The books
agree when every container lists exactly the items that are there, each once.

An action hands a list of items from one place to another, so one lemma carries
the agreement over every action.
-/

namespace LubricantNodes.Transition

universe u v

variable {ι : Type u} {κ : Type v}

/-- Every container lists exactly the items that are there, each once.  A place
without contents is not a container. -/
def Agrees (place : ι → κ) (contents : κ → Option (List ι)) : Prop :=
  ∀ container listed, contents container = some listed →
    listed.Nodup ∧ ∀ item, place item = container ↔ item ∈ listed

namespace Agrees

variable {place : ι → κ} {contents contents' : κ → Option (List ι)}

/-- An action that hands nothing on may reorder containers. -/
theorem rearrange (agrees : Agrees place contents)
    (same : ∀ container listed', contents' container = some listed' →
      ∃ listed, contents container = some listed ∧ listed.Perm listed') :
    Agrees place contents' := by
  intro container listed' found
  obtain ⟨listed, before, perm⟩ := same container listed' found
  obtain ⟨once, there⟩ := agrees container listed before
  exact ⟨perm.nodup once, fun item => (there item).trans perm.mem_iff⟩

section Transfer

variable [DecidableEq ι] {moved : List ι} (agrees : Agrees place contents) (source target : κ)
  (different : source ≠ target)
  (gives : ∀ listed', contents' target = some listed' →
    ∃ listed, contents target = some listed ∧ listed'.Perm (listed ++ moved))
  (keeps : ∀ other, other ≠ source → other ≠ target → contents' other = contents other)

include agrees different gives keeps

/-- An action hands items from one place to another. -/
theorem transfer (once : moved.Nodup) (there : ∀ item ∈ moved, place item = source)
    (takes : ∀ listed', contents' source = some listed' →
      ∃ listed, contents source = some listed ∧ listed.Perm (moved ++ listed')) :
    Agrees (fun item => if item ∈ moved then target else place item) contents' := by
  intro container listed' found
  by_cases isSource : container = source
  · subst isSource
    obtain ⟨listed, before, perm⟩ := takes listed' found
    obtain ⟨nodup, holds⟩ := agrees container listed before
    obtain ⟨-, restOnce, apart⟩ := List.nodup_append'.mp (perm.nodup nodup)
    refine ⟨restOnce, fun item => ?_⟩
    by_cases leaves : item ∈ moved
    · simp only [if_pos leaves]
      exact iff_of_false different.symm fun stays => apart leaves stays
    · simp only [if_neg leaves]
      rw [holds item, perm.mem_iff, List.mem_append]
      simp [leaves]
  · by_cases isTarget : container = target
    · subst isTarget
      obtain ⟨listed, before, perm⟩ := gives listed' found
      obtain ⟨nodup, holds⟩ := agrees container listed before
      have apart : List.Disjoint listed moved := fun item listedThere movedThere =>
        different ((there item movedThere).symm.trans ((holds item).mpr listedThere))
      refine ⟨perm.symm.nodup (List.nodup_append'.mpr ⟨nodup, once, apart⟩), fun item => ?_⟩
      rw [perm.mem_iff, List.mem_append]
      by_cases arrives : item ∈ moved
      · simp [arrives]
      · simp [arrives, holds item]
    · rw [keeps container isSource isTarget] at found
      obtain ⟨nodup, holds⟩ := agrees container listed' found
      refine ⟨nodup, fun item => ?_⟩
      by_cases leaves : item ∈ moved
      · simp only [if_pos leaves]
        refine iff_of_false (Ne.symm isTarget) fun listedThere => isSource ?_
        exact ((holds item).mpr listedThere).symm.trans (there item leaves)
      · simp only [if_neg leaves]
        exact holds item

/-- The same between two places the first of which is a container. -/
theorem handOver {listed rest : List ι} (before : contents source = some listed)
    (after : contents' source = some rest) (split : listed.Perm (moved ++ rest)) :
    Agrees (fun item => if item ∈ moved then target else place item) contents' := by
  obtain ⟨nodup, holds⟩ := agrees source listed before
  refine agrees.transfer source target different gives keeps
    (List.nodup_append'.mp (split.nodup nodup)).1 (fun item leaves => ?_) (fun listed' found => ?_)
  · exact (holds item).mpr (split.mem_iff.mpr (List.mem_append_left _ leaves))
  · cases after.symm.trans found
    exact ⟨listed, before, split⟩

end Transfer

end Agrees

end LubricantNodes.Transition
