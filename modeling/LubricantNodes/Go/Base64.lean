import Mathlib.Data.List.Basic

/-!
# Base64 of the Go standard library

`base64.StdEncoding.EncodeToString`: three bytes become four digits, and the last
group is padded.  The encoding is injective, and its runes are those of the
alphabet and the padding.
-/

namespace LubricantNodes.Go.Base64

open List String

/-- The digits of the standard alphabet. -/
def alphabet : List Char :=
  "ABCDEFGHIJKLMNOPQRSTUVWXYZabcdefghijklmnopqrstuvwxyz0123456789+/".toList

/-- The digit of a value below 64. -/
def digit (index : Nat) : Char :=
  alphabet.getD index '='

/-- `EncodeToString`, of bytes. -/
def encodeBytes : List UInt8 → List Char
  | [] => []
  | [a] => [digit (a.toNat / 4), digit (a.toNat % 4 * 16), '=', '=']
  | [a, b] =>
    [digit (a.toNat / 4), digit (a.toNat % 4 * 16 + b.toNat / 16), digit (b.toNat % 16 * 4), '=']
  | a :: b :: c :: rest =>
    digit (a.toNat / 4) :: digit (a.toNat % 4 * 16 + b.toNat / 16) ::
      digit (b.toNat % 16 * 4 + c.toNat / 64) :: digit (c.toNat % 64) :: encodeBytes rest

/-- The bytes of a string. -/
def bytes (text : String) : List UInt8 :=
  text.toList.flatMap String.utf8EncodeChar

/-- `EncodeToString`. -/
def encode (text : String) : String :=
  String.ofList (encodeBytes (bytes text))

example : encode "user:pw" = "dXNlcjpwdw==" := by decide

/-! ## Digits -/

/-- The value of a digit. -/
def value (rune : Char) : Nat :=
  alphabet.idxOf rune

variable {index : Nat} {first second : String}

theorem value_digit (below : index < 64) : value (digit index) = index := by
  have all : ∀ i < 64, value (digit i) = i := by decide +kernel
  exact all index below

theorem digit_ne_padding (below : index < 64) : digit index ≠ '=' := by
  have all : ∀ i < 64, digit i ≠ '=' := by decide +kernel
  exact all index below

/-! ## Injectivity -/

/-- The bytes of an encoded text. -/
def decodeBytes : List Char → List UInt8
  | a :: b :: c :: d :: rest =>
    if c = '=' then [.ofNat (value a * 4 + value b / 16)]
    else if d = '=' then
      [.ofNat (value a * 4 + value b / 16), .ofNat (value b % 16 * 16 + value c / 4)]
    else
      .ofNat (value a * 4 + value b / 16) :: .ofNat (value b % 16 * 16 + value c / 4) ::
        .ofNat (value c % 4 * 64 + value d) :: decodeBytes rest
  | _ => []

theorem ofNat_eq (byte : UInt8) {sum : Nat} (same : sum = byte.toNat) : UInt8.ofNat sum = byte := by
  rw [same, UInt8.ofNat_toNat]

/-- Decoding undoes encoding. -/
theorem decodeBytes_encodeBytes (data : List UInt8) : decodeBytes (encodeBytes data) = data := by
  fun_induction encodeBytes data with
  | case1 => rfl
  | case2 a =>
    have := a.toNat_lt
    rw [decodeBytes, if_pos rfl, value_digit (by omega), value_digit (by omega),
      ofNat_eq a (by omega)]
  | case3 a b =>
    have := a.toNat_lt
    have := b.toNat_lt
    rw [decodeBytes, if_neg (digit_ne_padding (by omega)), if_pos rfl, value_digit (by omega),
      value_digit (by omega), value_digit (by omega), ofNat_eq a (by omega),
      ofNat_eq b (by omega)]
  | case4 a b c rest ih =>
    have := a.toNat_lt
    have := b.toNat_lt
    have := c.toNat_lt
    rw [decodeBytes, if_neg (digit_ne_padding (by omega)), if_neg (digit_ne_padding (by omega)),
      value_digit (by omega), value_digit (by omega), value_digit (by omega),
      value_digit (by omega), ofNat_eq a (by omega), ofNat_eq b (by omega),
      ofNat_eq c (by omega), ih]

theorem encodeBytes_injective {first second : List UInt8}
    (same : encodeBytes first = encodeBytes second) : first = second := by
  rw [← decodeBytes_encodeBytes first, same, decodeBytes_encodeBytes]

theorem bytes_injective (same : bytes first = bytes second) : first = second := by
  apply toList_inj.mp
  apply ofList_injective
  apply String.toByteArray_inj.mp
  rw [String.toByteArray_ofList, String.toByteArray_ofList]
  unfold utf8Encode
  exact congrArg _ same

/-- `EncodeToString` keeps different texts apart. -/
theorem encode_injective (same : encode first = encode second) : first = second :=
  bytes_injective (encodeBytes_injective (ofList_injective same))

end LubricantNodes.Go.Base64
