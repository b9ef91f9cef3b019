import Mathlib.Data.List.Basic

/-!
# Dated logs

A state has a content and a date, and writes both into a log from time to time.  A
state that changes its content only together with its date writes a log in which a
date determines the content.
-/

namespace LubricantNodes.Transition

universe u

variable {κ : Type u} {log : List (Nat × κ)} {date later : Nat} {content next : κ}

/-- The log, latest first, is in the order of its dates, a date determines the content,
and the present date has the present content. -/
structure Dated (log : List (Nat × κ)) (date : Nat) (content : κ) : Prop where
  past : ∀ entry ∈ log, entry.1 ≤ date ∧ (entry.1 = date → entry.2 = content)
  ordered : log.Pairwise fun newer older =>
    older.1 ≤ newer.1 ∧ (older.1 = newer.1 → older.2 = newer.2)

namespace Dated

theorem nil (date : Nat) (content : κ) : Dated [] date content where
  past := by
    rintro _ ⟨⟩
  ordered := List.Pairwise.nil

section Dated

variable (dated : Dated log date content)

include dated

/-- Date and content are written. -/
theorem write : Dated ((date, content) :: log) date content where
  past := by
    intro entry member
    rcases List.mem_cons.mp member with rfl | old
    · exact ⟨Nat.le_refl _, fun _ => rfl⟩
    · exact dated.past entry old
  ordered := List.pairwise_cons.mpr ⟨dated.past, dated.ordered⟩

/-- The content changes, and the date with it. -/
theorem advance (newer : date < later) : Dated log later next where
  past := by
    intro entry member
    have before := (dated.past entry member).1
    refine ⟨Nat.le_trans before (Nat.le_of_lt newer), ?_⟩
    intro same
    rw [same] at before
    exact absurd newer (Nat.not_lt.mpr before)
  ordered := dated.ordered

/-- A date determines the content. -/
theorem content_eq {entry other : Nat × κ}
    (member : entry ∈ log) (also : other ∈ log) (same : entry.1 = other.1) : entry.2 = other.2 := by
  have ordered := dated.ordered
  clear dated
  induction ordered with
  | nil => cases member
  | @cons first rest older _ ih =>
    rcases List.mem_cons.mp member with rfl | behind
    · rcases List.mem_cons.mp also with rfl | alsoBehind
      · rfl
      · exact ((older other alsoBehind).2 same.symm).symm
    · rcases List.mem_cons.mp also with rfl | alsoBehind
      · exact (older entry behind).2 same
      · exact ih behind alsoBehind

/-- Dates never go back. -/
theorem dates : log.Pairwise fun newer older => older.1 ≤ newer.1 :=
  dated.ordered.imp fun both => both.1

end Dated

end Dated

end LubricantNodes.Transition
