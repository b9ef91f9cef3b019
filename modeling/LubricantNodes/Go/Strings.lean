import Mathlib.Algebra.Order.Ring.Int
import Mathlib.Data.Bool.AllAny
import Mathlib.Data.List.Basic

/-!
# Strings of the Go standard library

The parts of `strings` and `fmt` that the node's text handling rests on.  A Go
string that arrives in a protobuf field is valid UTF-8, so it is modelled by
`String` and processed rune by rune.
-/

namespace LubricantNodes.Go

open List

/-- `unicode.IsSpace`: the code points with the White_Space property. -/
def isSpace (rune : Char) : Bool :=
  rune.toNat ∈ [0x09, 0x0a, 0x0b, 0x0c, 0x0d, 0x20, 0x85, 0xa0, 0x1680, 0x2028, 0x2029,
    0x202f, 0x205f, 0x3000] ||
    (0x2000 ≤ rune.toNat && rune.toNat ≤ 0x200a)

/-- `len`, in bytes. -/
def len (text : String) : Nat :=
  (text.toList.map Char.utf8Size).sum

/-- `strings.TrimSpace`. -/
def trimSpace (text : String) : String :=
  String.ofList ((text.toList.dropWhile isSpace).reverse.dropWhile isSpace).reverse

/-- The text does not start with a space. -/
def BareFront (text : String) : Prop :=
  ∀ rune ∈ text.toList.head?, isSpace rune = false

/-- The text does not end with a space. -/
def BareBack (text : String) : Prop :=
  ∀ rune ∈ text.toList.getLast?, isSpace rune = false

theorem dropWhile_of_head? {runes : List Char} (bare : ∀ rune ∈ runes.head?, isSpace rune = false) :
    runes.dropWhile isSpace = runes := by
  cases runes with
  | nil => rfl
  | cons rune rest => rw [dropWhile_cons_of_neg (by simp [bare rune rfl])]

theorem head?_dropWhile_bare (runes : List Char) :
    ∀ rune ∈ (runes.dropWhile isSpace).head?, isSpace rune = false := by
  intro rune member
  have first := head?_dropWhile_not isSpace runes
  rw [Option.mem_def.mp member] at first
  exact first

variable {text : String} {rune : Char}

theorem trimSpace_of_bare (front : BareFront text) (back : BareBack text) :
    trimSpace text = text := by
  unfold trimSpace
  rw [dropWhile_of_head? front, dropWhile_of_head?, reverse_reverse, String.ofList_toList]
  rw [head?_reverse]
  exact back

theorem bareBack_trimSpace (text : String) : BareBack (trimSpace text) := by
  intro rune member
  rw [trimSpace, String.toList_ofList, getLast?_reverse] at member
  exact head?_dropWhile_bare _ rune member

theorem bareFront_of_prefix {longer : String} (bare : BareFront longer)
    (front : text.toList <+: longer.toList) : BareFront text := by
  intro rune member
  apply bare
  rcases front with ⟨rest, whole⟩
  rw [← whole, head?_append]
  simp [Option.mem_def.mp member]

theorem bareFront_trimSpace (text : String) : BareFront (trimSpace text) := by
  intro rune member
  apply head?_dropWhile_bare text.toList rune
  have front : (trimSpace text).toList <+: text.toList.dropWhile isSpace := by
    rw [trimSpace, String.toList_ofList, ← reverse_suffix, reverse_reverse]
    exact dropWhile_suffix _
  rcases front with ⟨rest, whole⟩
  rw [← whole, head?_append]
  simp [Option.mem_def.mp member]

@[simp]
theorem trimSpace_trimSpace (text : String) : trimSpace (trimSpace text) = trimSpace text :=
  trimSpace_of_bare (bareFront_trimSpace text) (bareBack_trimSpace text)

/-- The runes without the spaces at their end. -/
def trimEnd (runes : List Char) : List Char :=
  (runes.reverse.dropWhile isSpace).reverse

theorem toList_trimSpace (text : String) :
    (trimSpace text).toList = trimEnd (text.toList.dropWhile isSpace) := by
  rw [trimSpace, String.toList_ofList]
  rfl

theorem mem_of_mem_trimSpace (member : rune ∈ (trimSpace text).toList) : rune ∈ text.toList := by
  rw [toList_trimSpace, trimEnd, mem_reverse] at member
  have inner := (dropWhile_sublist _).subset member
  exact (dropWhile_sublist _).subset (mem_reverse.mp inner)

theorem isSpace_of_isAlphanum (letter : rune.isAlphanum = true) : isSpace rune = false := by
  delta Char.isAlphanum Char.isAlpha Char.isUpper Char.isLower Char.isDigit at letter
  simp only [Bool.or_eq_true, Bool.and_eq_true, decide_eq_true_eq, ge_iff_le,
    UInt32.le_iff_toNat_le] at letter
  simp at letter
  simp [isSpace]
  omega

/-- `unicode.ToUpper`, exact on every rune whose upper case is ASCII: besides
the ASCII letters these are the dotless i and the long s. -/
def toUpperRune (rune : Char) : Char :=
  if rune.toNat = 0x131 then 'I' else if rune.toNat = 0x17f then 'S' else rune.toUpper

/-- `unicode.ToLower`, exact on every rune whose lower case is ASCII: besides
the ASCII capitals these are the Kelvin sign and the dotted capital I. -/
def toLowerRune (rune : Char) : Char :=
  if rune.toNat = 0x212a then 'k' else if rune.toNat = 0x130 then 'i' else rune.toLower

/-- `strings.ToLower`, used by the node only against ASCII constants. -/
def toLower (text : String) : String :=
  String.ofList (text.toList.map toLowerRune)

/-- The representative of a rune under simple case folding, exact on every rune
that folds to an ASCII letter: the ASCII capitals, the Kelvin sign and the long
s. -/
def foldRune (rune : Char) : Char :=
  if rune.toNat = 0x212a then 'k' else if rune.toNat = 0x17f then 's' else rune.toLower

/-- `strings.EqualFold`, on names of ASCII letters. -/
def equalFold (first second : String) : Bool :=
  first.toList.map foldRune = second.toList.map foldRune

theorem toLower_rune_of_not_ascii (large : 128 ≤ rune.toNat) : rune.toLower = rune := by
  have upper : ¬(rune.val ≥ 'A'.val ∧ rune.val ≤ 'Z'.val) := by
    rintro ⟨-, below⟩
    have : rune.toNat ≤ 'Z'.toNat := below
    have : 'Z'.toNat = 90 := rfl
    omega
  exact dif_neg upper

/-- A rune whose lower case is an ASCII letter other than `k` and `i` folds to
that letter. -/
theorem foldRune_of_toLowerRune {letter : Char} (lower : toLowerRune rune = letter)
    (notK : letter ≠ 'k') (notI : letter ≠ 'i') (small : letter.toNat < 128) :
    foldRune rune = letter := by
  unfold toLowerRune at lower
  split_ifs at lower with kelvin dotted
  · exact absurd lower.symm notK
  · exact absurd lower.symm notI
  unfold foldRune
  rw [if_neg kelvin]
  split_ifs with long
  · have same : rune.toLower = rune := toLower_rune_of_not_ascii (by omega)
    rw [← lower, same] at small
    omega
  · exact lower

/-- A text whose lower case is a name of such letters folds to that name. -/
theorem map_foldRune_of_toLower {name : String} (lower : toLower text = name)
    (letters : ∀ letter ∈ name.toList, letter ≠ 'k' ∧ letter ≠ 'i' ∧ letter.toNat < 128) :
    text.toList.map foldRune = name.toList := by
  subst lower
  rw [toLower, String.toList_ofList] at letters ⊢
  apply map_congr_left
  intro rune member
  rcases letters _ (mem_map_of_mem member) with ⟨notK, notI, small⟩
  exact foldRune_of_toLowerRune rfl notK notI small

/-- `strings.TrimLeft`, for one rune. -/
def trimLeft (text : String) (cut : Char) : String :=
  String.ofList (text.toList.dropWhile (· = cut))

/-- `strings.TrimRight`, for one rune. -/
def trimRight (text : String) (cut : Char) : String :=
  String.ofList (text.toList.reverse.dropWhile (· = cut)).reverse

theorem prefix_trimRight (text : String) (cut : Char) :
    (trimRight text cut).toList <+: text.toList := by
  rw [trimRight, String.toList_ofList, ← reverse_suffix, reverse_reverse]
  exact dropWhile_suffix _

/-- `strings.HasPrefix`. -/
def hasPrefix (text part : String) : Bool :=
  part.toList.isPrefixOf text.toList

/-- `strings.HasSuffix`. -/
def hasSuffix (text part : String) : Bool :=
  part.toList.isSuffixOf text.toList

/-- `strings.Index`, counted in runes. -/
def index (text part : String) : Option Nat :=
  text.toList.tails.findIdx? part.toList.isPrefixOf

/-- `strings.Split`, for one rune. -/
def split (text : String) (separator : Char) : List String :=
  (text.toList.splitOn separator).map String.ofList

/-! ## Decimal suffixes -/

theorem notMem_toDigits (other : rune.isDigit = false) (n : Nat) : rune ∉ Nat.toDigits 10 n := by
  intro member
  have digit := Nat.isDigit_of_mem_toDigits (by decide) (by decide) member
  rw [other] at digit
  cases digit

theorem colon_notMem_toDigits (n : Nat) : ':' ∉ Nat.toDigits 10 n := notMem_toDigits (by decide) n

theorem toDigits_ten_injective {m n : Nat}
    (equal : Nat.toDigits 10 m = Nat.toDigits 10 n) : m = n := by
  have decoded := congrArg (fun digits => Nat.ofDigitChars 10 digits 0) equal
  simpa only [Nat.ofDigitChars_ten_toDigits] using decoded

/-- Two lists agree on both sides of their last separator. -/
theorem append_cons_injective_of_notMem {α : Type*} {separator : α}
    {left right suffix tail : List α}
    (suffixFree : separator ∉ suffix) (tailFree : separator ∉ tail)
    (equal : left ++ separator :: suffix = right ++ separator :: tail) :
    left = right ∧ suffix = tail := by
  rcases append_eq_append_iff.mp equal with
    ⟨middle, rightEq, suffixEq⟩ | ⟨middle, leftEq, tailEq⟩
  · cases middle with
    | nil => simp_all
    | cons first rest => simp_all
  · cases middle with
    | nil => simp_all
    | cons first rest => simp_all

/-- Two lists agree on both sides of their first separator. -/
theorem append_cons_injective_of_notMem_left {α : Type*} {separator : α}
    {front left suffix tail : List α}
    (frontFree : separator ∉ front) (leftFree : separator ∉ left)
    (equal : front ++ separator :: suffix = left ++ separator :: tail) :
    front = left ∧ suffix = tail := by
  have backwards := congrArg reverse equal
  rw [reverse_append, reverse_append, reverse_cons, reverse_cons,
    append_assoc, append_assoc] at backwards
  have split := append_cons_injective_of_notMem (fun member => frontFree (mem_reverse.mp member))
    (fun member => leftFree (mem_reverse.mp member)) backwards
  exact ⟨reverse_injective split.2, reverse_injective split.1⟩

/-- `fmt.Sprintf("%d", n)` has no rune besides digits and the sign. -/
theorem notMem_toString_int (other : rune.isDigit = false) (unsigned : rune ≠ '-')
    (n : Int) : rune ∉ (toString n).toList := by
  rw [Int.toString_eq_repr, Int.repr_eq_if]
  split_ifs
  · rw [Nat.toList_repr]
    exact notMem_toDigits other _
  · rw [String.toList_append, Nat.toList_repr]
    simp [unsigned, notMem_toDigits other]

/-- `fmt.Sprintf("%s:%d", text, n)` determines both of its arguments: a decimal
numeral has no colon, so the last colon separates them. -/
theorem colonDecimal_injective {left right : String} {m n : Nat}
    (equal : left ++ ":" ++ toString m = right ++ ":" ++ toString n) : left = right ∧ m = n := by
  have lists : left.toList ++ ':' :: Nat.toDigits 10 m =
      right.toList ++ ':' :: Nat.toDigits 10 n := by
    have unfolded := congrArg String.toList equal
    simpa [Nat.toString_eq_ofList_toDigits] using unfolded
  obtain ⟨textEq, digitsEq⟩ := append_cons_injective_of_notMem
    (colon_notMem_toDigits m) (colon_notMem_toDigits n) lists
  exact ⟨String.toList_inj.mp textEq, toDigits_ten_injective digitsEq⟩

end LubricantNodes.Go
