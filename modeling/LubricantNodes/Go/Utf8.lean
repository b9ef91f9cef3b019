import Mathlib.Data.List.Basic

/-!
# UTF-8 of the Go standard library

A Go string is a list of bytes.  It is valid when it is a sequence of runes; the
table of runes is that of `unicode/utf8`.
-/

namespace LubricantNodes.Go

open List

/-- A Go string. -/
abbrev Bytes := List UInt8

/-! ## Runes -/

/-- The byte is in a range. -/
def within (low high byte : UInt8) : Bool :=
  low ≤ byte && byte ≤ high

/-- The size of a rune and the range of its second byte, by its first. -/
def leading (byte : UInt8) : Option (Nat × UInt8 × UInt8) :=
  if byte ≤ 0x7f then some (1, 0x80, 0xbf)
  else if within 0xc2 0xdf byte then some (2, 0x80, 0xbf)
  else if byte = 0xe0 then some (3, 0xa0, 0xbf)
  else if byte = 0xed then some (3, 0x80, 0x9f)
  else if within 0xe1 0xef byte then some (3, 0x80, 0xbf)
  else if byte = 0xf0 then some (4, 0x90, 0xbf)
  else if within 0xf1 0xf3 byte then some (4, 0x80, 0xbf)
  else if byte = 0xf4 then some (4, 0x80, 0x8f)
  else none

/-- The bytes after the first complete a rune of the size. -/
def continues (low high : UInt8) : Nat → Bytes → Bool
  | 0, _ => true
  | _ + 1, [] => false
  | size + 1, byte :: rest => within low high byte && continues 0x80 0xbf size rest

/-- The size of the rune that a string starts with; zero if it starts with none. -/
def runeSize : Bytes → Nat
  | [] => 0
  | byte :: rest =>
    match leading byte with
    | none => 0
    | some (size, low, high) => if continues low high (size - 1) rest then size else 0

/-- The string is one rune. -/
def IsRune (text : Bytes) : Prop :=
  text ≠ [] ∧ runeSize text = text.length

/-- The string is a sequence of runes. -/
inductive Valid : Bytes → Prop
  | nil : Valid []
  | cons {rune rest : Bytes} : IsRune rune → Valid rest → Valid (rune ++ rest)

variable {high low : UInt8} {size : Nat} {text rest : Bytes}

theorem length_of_continues
    (complete : continues low high size text = true) : size ≤ text.length := by
  induction size generalizing text low high with
  | zero => exact Nat.zero_le _
  | succ size ih =>
    cases text with
    | nil => cases complete
    | cons byte rest =>
      have further := (Bool.and_eq_true_iff.mp complete).2
      exact Nat.succ_le_succ (ih further)

theorem continues_take :
    continues low high size (text.take size) = continues low high size text := by
  induction size generalizing text low high with
  | zero => rfl
  | succ size ih =>
    cases text with
    | nil => rfl
    | cons byte rest => simp only [take_succ_cons, continues, ih]

/-- What follows a rune does not matter. -/
theorem continues_append :
    continues low high text.length (text ++ rest) = continues low high text.length text := by
  rw [← continues_take, take_left]

variable {byte : UInt8} {replacement : Bytes}

/-- The cases of `runeSize`. -/
theorem runeSize_cons_pos (positive : 0 < runeSize (byte :: rest)) :
    ∃ low high, leading byte = some (runeSize (byte :: rest), low, high) ∧
      continues low high (runeSize (byte :: rest) - 1) rest = true := by
  simp only [runeSize] at positive ⊢
  cases found : leading byte with
  | none =>
    rw [found] at positive
    cases positive
  | some entry =>
    rcases entry with ⟨size, low, high⟩
    rw [found] at positive
    dsimp only at positive ⊢
    by_cases complete : continues low high (size - 1) rest = true
    · rw [if_pos complete]
      exact ⟨low, high, rfl, complete⟩
    · rw [if_neg complete] at positive
      cases positive

theorem runeSize_le (text : Bytes) : runeSize text ≤ text.length := by
  cases text with
  | nil => exact Nat.le_refl _
  | cons byte rest =>
    rcases Nat.eq_zero_or_pos (runeSize (byte :: rest)) with zero | positive
    · rw [zero]
      exact Nat.zero_le _
    · rcases runeSize_cons_pos positive with ⟨low, high, _, complete⟩
      have enough := length_of_continues complete
      simp only [length_cons]
      omega

theorem runeSize_of_continues (found : leading byte = some (size, low, high))
    (complete : continues low high (size - 1) rest = true) : runeSize (byte :: rest) = size := by
  simp only [runeSize, found, complete, if_true]

/-- The rune that a string starts with. -/
theorem isRune_take (positive : 0 < runeSize text) : IsRune (text.take (runeSize text)) := by
  have fits := runeSize_le text
  cases text with
  | nil => cases positive
  | cons byte rest =>
    rcases runeSize_cons_pos positive with ⟨low, high, found, complete⟩
    generalize runeSize (byte :: rest) = size at positive fits found complete
    cases size with
    | zero => cases positive
    | succ size =>
      constructor
      · simp
      · rw [take_succ_cons]
        have short : continues low high size (rest.take size) = true := by
          rw [continues_take]
          exact complete
        rw [runeSize_of_continues found short]
        simp only [length_cons, length_take] at fits ⊢
        omega

theorem runeSize_append {rune : Bytes} (isRune : IsRune rune) (rest : Bytes) :
    runeSize (rune ++ rest) = rune.length := by
  rcases isRune with ⟨nonempty, whole⟩
  cases rune with
  | nil => exact absurd rfl nonempty
  | cons byte tail =>
    have positive : 0 < runeSize (byte :: tail) := by
      rw [whole]
      exact Nat.succ_pos _
    rcases runeSize_cons_pos positive with ⟨low, high, found, complete⟩
    rw [whole] at found complete
    apply runeSize_of_continues found
    change continues low high tail.length (tail ++ rest) = true
    rw [continues_append]
    exact complete

/-! ## Valid strings -/

/-- `utf8.ValidString`, with fuel. -/
def validFrom : Nat → Bytes → Bool
  | _, [] => true
  | 0, _ :: _ => false
  | fuel + 1, byte :: rest =>
    let size := runeSize (byte :: rest)
    size ≠ 0 && validFrom fuel ((byte :: rest).drop size)

/-- `utf8.ValidString`. -/
def validString (text : Bytes) : Bool :=
  validFrom text.length text

theorem validFrom_iff {fuel : Nat} (enough : text.length ≤ fuel) :
    validFrom fuel text = true ↔ Valid text := by
  constructor
  · intro accepted
    induction fuel generalizing text with
    | zero =>
      cases text with
      | nil => exact .nil
      | cons byte rest => cases accepted
    | succ fuel ih =>
      cases text with
      | nil => exact .nil
      | cons byte rest =>
        simp only [validFrom, Bool.and_eq_true, decide_eq_true_eq] at accepted
        have positive := Nat.pos_of_ne_zero accepted.1
        rw [← take_append_drop (runeSize (byte :: rest)) (byte :: rest)]
        apply Valid.cons (isRune_take positive)
        apply ih _ accepted.2
        simp only [length_drop, length_cons] at enough ⊢
        omega
  · intro valid
    induction valid generalizing fuel with
    | nil => cases fuel <;> rfl
    | @cons rune rest isRune _ ih =>
      have size := runeSize_append isRune rest
      cases rune with
      | nil => exact absurd rfl isRune.1
      | cons byte tail =>
        cases fuel with
        | zero => simp at enough
        | succ fuel =>
          have after : ((byte :: tail) ++ rest).drop (byte :: tail).length = rest := drop_left
          rw [cons_append] at size after ⊢
          simp only [validFrom, size, after, Bool.and_eq_true, decide_eq_true_eq]
          constructor
          · simp
          · apply ih
            simp only [cons_append, length_cons, length_append] at enough
            omega

theorem validString_iff : validString text = true ↔ Valid text := validFrom_iff (Nat.le_refl _)

instance (text : Bytes) : Decidable (Valid text) :=
  decidable_of_iff _ validString_iff

/-! ## Replacing what is invalid -/

/-- The loop of `strings.ToValidUTF8`, with fuel; `invalid` tells whether the byte
before was. -/
def toValidFrom (replacement : Bytes) : Nat → Bool → Bytes → Bytes
  | _, _, [] => []
  | 0, _, _ :: _ => []
  | fuel + 1, invalid, byte :: rest =>
    let size := runeSize (byte :: rest)
    if size = 0 then
      (if invalid then [] else replacement) ++ toValidFrom replacement fuel true rest
    else
      (byte :: rest).take size ++
        toValidFrom replacement fuel false ((byte :: rest).drop size)

/-- `strings.ToValidUTF8`. -/
def toValidUTF8 (text replacement : Bytes) : Bytes :=
  toValidFrom replacement text.length false text

theorem Valid.append {first second : Bytes} (valid : Valid first) (also : Valid second) :
    Valid (first ++ second) := by
  induction valid with
  | nil => exact also
  | cons isRune _ ih =>
    rw [append_assoc]
    exact .cons isRune ih

theorem valid_toValidFrom (valid : Valid replacement) (fuel : Nat) (invalid : Bool)
    (text : Bytes) : Valid (toValidFrom replacement fuel invalid text) := by
  induction fuel generalizing invalid text with
  | zero => cases text <;> exact .nil
  | succ fuel ih =>
    cases text with
    | nil => exact .nil
    | cons byte rest =>
      simp only [toValidFrom]
      split_ifs with zero already
      · exact ih _ _
      · exact valid.append (ih _ _)
      · exact .cons (isRune_take (Nat.pos_of_ne_zero zero)) (ih _ _)

theorem valid_toValidUTF8 (valid : Valid replacement) (text : Bytes) :
    Valid (toValidUTF8 text replacement) :=
  valid_toValidFrom valid _ _ _

end LubricantNodes.Go
