import Mathlib.Data.List.Forall2
import LubricantNodes.Go.Utf8

/-!
# Sanitizing messages

A frame with a string that is not valid UTF-8 cannot be marshalled, so every
upstream frame is walked and its invalid strings are repaired.  The walk goes
through singular messages; it does not enter repeated messages and the values of
maps, and it leaves the keys of maps alone.
-/

namespace LubricantNodes.Agent

open Go List

/-! ## Strings -/

/-- The replacement character. -/
def replacement : Bytes := [0xef, 0xbf, 0xbd]

section Strings

variable (decode : Bytes → Option Bytes)

/-- `SanitizeUTF8`; `decode` is the GBK decoder. -/
def sanitizeUTF8 (text : Bytes) : Bytes :=
  if text = [] ∨ Valid text then text
  else
    match decode text with
    | some decoded => if Valid decoded then decoded else toValidUTF8 text replacement
    | none => toValidUTF8 text replacement

theorem valid_sanitizeUTF8 (text : Bytes) : Valid (sanitizeUTF8 decode text) := by
  have replaced : Valid (toValidUTF8 text replacement) := valid_toValidUTF8 (by decide) text
  unfold sanitizeUTF8
  split_ifs with fine
  · rcases fine with rfl | valid
    · exact .nil
    · exact valid
  · cases decode text with
    | none => exact replaced
    | some =>
      dsimp only
      split_ifs with decodes
      · exact decodes
      · exact replaced

end Strings

/-! ## Messages -/

mutual

/-- The value of a field; `scalar` stands for all values that are no strings. -/
inductive Value
  | scalar (data : Bytes)
  | string (text : Bytes)
  | message (fields : Message)
  | scalars (items : List Bytes)
  | strings (items : List Bytes)
  | messages (items : List Message)
  | scalarMap (entries : List (Bytes × Bytes))
  | stringMap (entries : List (Bytes × Bytes))
  | messageMap (entries : List (Bytes × Message))

/-- A message: its populated fields, by their numbers. -/
inductive Message
  | empty
  | field (number : Nat) (value : Value) (rest : Message)

end

section Sanitize

variable (decode : Bytes → Option Bytes)

/-- What the walk does to a string it meets. -/
def repair (text : Bytes) : Bytes :=
  if Valid text then text else sanitizeUTF8 decode text

mutual

/-- The cases of `sanitizeReflect`. -/
def Value.sanitize : Value → Value
  | .string text => .string (repair decode text)
  | .message fields => .message fields.sanitize
  | .strings items => .strings (items.map (repair decode))
  | .stringMap entries => .stringMap (entries.map fun entry => (entry.1, repair decode entry.2))
  | value => value

/-- `sanitizeReflect`. -/
def Message.sanitize : Message → Message
  | .empty => .empty
  | .field number value rest => .field number value.sanitize rest.sanitize

end

end Sanitize

/-! ## The strings of a message -/

mutual

/-- The strings that can be reached in a value. -/
inductive Value.Holds : Value → Bytes → Prop
  | string {text} : Value.Holds (.string text) text
  | message {fields text} : Message.Holds fields text →
      Value.Holds (.message fields) text
  | strings {items text} : text ∈ items → Value.Holds (.strings items) text
  | messages {items item text} : item ∈ items →
      Message.Holds item text → Value.Holds (.messages items) text
  | scalarKey {entries : List (Bytes × Bytes)} {entry : Bytes × Bytes} : entry ∈ entries →
      Value.Holds (.scalarMap entries) entry.1
  | stringKey {entries : List (Bytes × Bytes)} {entry : Bytes × Bytes} : entry ∈ entries →
      Value.Holds (.stringMap entries) entry.1
  | stringValue {entries : List (Bytes × Bytes)} {entry : Bytes × Bytes} : entry ∈ entries →
      Value.Holds (.stringMap entries) entry.2
  | messageKey {entries : List (Bytes × Message)} {entry : Bytes × Message} : entry ∈ entries →
      Value.Holds (.messageMap entries) entry.1
  | messageValue {entries : List (Bytes × Message)} {entry : Bytes × Message} {text : Bytes} :
      entry ∈ entries → Message.Holds entry.2 text → Value.Holds (.messageMap entries) text

/-- The strings that can be reached in a message. -/
inductive Message.Holds : Message → Bytes → Prop
  | value {number value rest text} :
      Value.Holds value text → Message.Holds (.field number value rest) text
  | rest {number value rest text} :
      Message.Holds rest text → Message.Holds (.field number value rest) text

end

mutual

/-- The strings of a value that the walk does not come to. -/
inductive Value.Skips : Value → Bytes → Prop
  | message {fields text} : Message.Skips fields text →
      Value.Skips (.message fields) text
  | messages {items item text} : item ∈ items →
      Message.Holds item text → Value.Skips (.messages items) text
  | scalarKey {entries : List (Bytes × Bytes)} {entry : Bytes × Bytes} : entry ∈ entries →
      Value.Skips (.scalarMap entries) entry.1
  | stringKey {entries : List (Bytes × Bytes)} {entry : Bytes × Bytes} : entry ∈ entries →
      Value.Skips (.stringMap entries) entry.1
  | messageKey {entries : List (Bytes × Message)} {entry : Bytes × Message} : entry ∈ entries →
      Value.Skips (.messageMap entries) entry.1
  | messageValue {entries : List (Bytes × Message)} {entry : Bytes × Message} {text : Bytes} :
      entry ∈ entries → Message.Holds entry.2 text → Value.Skips (.messageMap entries) text

/-- The strings of a message that the walk does not come to. -/
inductive Message.Skips : Message → Bytes → Prop
  | value {number value rest text} :
      Value.Skips value text → Message.Skips (.field number value rest) text
  | rest {number value rest text} :
      Message.Skips rest text → Message.Skips (.field number value rest) text

end

/-- Only an invalid string may change. -/
def Mends (text mended : Bytes) : Prop :=
  mended = text ∨ ¬Valid text

mutual

/-- The values differ in invalid strings only. -/
inductive Value.Mends : Value → Value → Prop
  | refl {value} : Value.Mends value value
  | string {text mended} : Agent.Mends text mended →
      Value.Mends (.string text) (.string mended)
  | message {fields mended} : Message.Mends fields mended →
      Value.Mends (.message fields) (.message mended)
  | strings {items mended} : List.Forall₂ Agent.Mends items mended →
      Value.Mends (.strings items) (.strings mended)
  | messages {items mended} : List.Forall₂ Message.Mends items mended →
      Value.Mends (.messages items) (.messages mended)
  | stringMap {entries mended : List (Bytes × Bytes)} :
      List.Forall₂ (fun entry after => Agent.Mends entry.1 after.1 ∧ Agent.Mends entry.2 after.2)
        entries mended →
      Value.Mends (.stringMap entries) (.stringMap mended)
  | scalarMap {entries mended : List (Bytes × Bytes)} :
      List.Forall₂ (fun entry after => Agent.Mends entry.1 after.1 ∧ after.2 = entry.2)
        entries mended →
      Value.Mends (.scalarMap entries) (.scalarMap mended)
  | messageMap {entries mended : List (Bytes × Message)} :
      List.Forall₂ Agent.Mends (entries.map Prod.fst) (mended.map Prod.fst) →
      List.Forall₂ Message.Mends (entries.map Prod.snd) (mended.map Prod.snd) →
      Value.Mends (.messageMap entries) (.messageMap mended)

/-- The messages differ in invalid strings only. -/
inductive Message.Mends : Message → Message → Prop
  | empty : Message.Mends .empty .empty
  | field {number value value' rest rest'} :
      Value.Mends value value' → Message.Mends rest rest' →
      Message.Mends (.field number value rest) (.field number value' rest')

end

/-! ## What the walk does -/

section Walk

variable {decode : Bytes → Option Bytes}

theorem valid_repair (text : Bytes) : Valid (repair decode text) := by
  unfold repair
  split_ifs with valid
  · exact valid
  · exact valid_sanitizeUTF8 decode text

theorem mends_repair (text : Bytes) : Mends text (repair decode text) := by
  unfold repair
  split_ifs with valid
  · exact .inl rfl
  · exact .inr valid

mutual

/-- A string of a sanitized value is valid, or the walk has not come to it. -/
theorem Value.valid_or_skips {value : Value} {text : Bytes}
    (holds : (value.sanitize decode).Holds text) : Valid text ∨ value.Skips text := by
  cases value with
  | scalar | scalars => cases holds
  | string original =>
    cases holds with
    | string => exact .inl (valid_repair original)
  | message fields =>
    cases holds with
    | message inside =>
      rcases fields.valid_or_skips inside with valid | skipped
      · exact .inl valid
      · exact .inr (.message skipped)
  | strings =>
    cases holds with
    | strings member =>
      rcases mem_map.mp member with ⟨original, _, rfl⟩
      exact .inl (valid_repair original)
  | messages =>
    cases holds with
    | messages member inside => exact .inr (.messages member inside)
  | scalarMap =>
    cases holds with
    | scalarKey member => exact .inr (.scalarKey member)
  | stringMap entries =>
    cases holds with
    | stringKey member =>
      rcases mem_map.mp member with ⟨original, among, rfl⟩
      have skipped : Value.Skips (.stringMap entries) original.1 := .stringKey among
      exact .inr skipped
    | stringValue member =>
      rcases mem_map.mp member with ⟨original, _, rfl⟩
      exact .inl (valid_repair original.2)
  | messageMap =>
    cases holds with
    | messageKey member => exact .inr (.messageKey member)
    | messageValue member inside => exact .inr (.messageValue member inside)

theorem Message.valid_or_skips (message : Message) {text : Bytes}
    (holds : (message.sanitize decode).Holds text) : Valid text ∨ message.Skips text := by
  cases message with
  | empty => cases holds
  | field number value rest =>
    cases holds with
    | value inside =>
      rcases value.valid_or_skips inside with valid | skipped
      · exact .inl valid
      · exact .inr (.value skipped)
    | rest later =>
      rcases rest.valid_or_skips later with valid | skipped
      · exact .inl valid
      · exact .inr (.rest skipped)

end

mutual

/-- What the walk does not come to is still there. -/
theorem Value.holds_of_skips (value : Value) {text : Bytes} (skips : value.Skips text) :
    (value.sanitize decode).Holds text := by
  cases value with
  | scalar | string | scalars | strings => cases skips
  | message fields =>
    cases skips with
    | message inside => exact .message (fields.holds_of_skips inside)
  | messages =>
    cases skips with
    | messages member inside => exact .messages member inside
  | scalarMap =>
    cases skips with
    | scalarKey member => exact .scalarKey member
  | stringMap entries =>
    cases skips with
    | @stringKey _ entry member =>
      have kept : (entry.1, repair decode entry.2) ∈
          entries.map fun entry => (entry.1, repair decode entry.2) :=
        mem_map_of_mem member
      have holds : Value.Holds (.stringMap _) (entry.1, repair decode entry.2).1 := .stringKey kept
      exact holds
  | messageMap =>
    cases skips with
    | messageKey member => exact .messageKey member
    | messageValue member inside => exact .messageValue member inside

theorem Message.holds_of_skips (message : Message) {text : Bytes} (skips : message.Skips text) :
    (message.sanitize decode).Holds text := by
  cases message with
  | empty => cases skips
  | field number value rest =>
    cases skips with
    | value inside => exact .value (value.holds_of_skips inside)
    | rest later => exact .rest (rest.holds_of_skips later)

end

mutual

/-- The walk changes nothing but invalid strings. -/
theorem Value.mends_sanitize (value : Value) : value.Mends (value.sanitize decode) := by
  cases value with
  | scalar | scalars | messages | scalarMap | messageMap =>
    exact .refl
  | string text => exact .string (mends_repair text)
  | message fields => exact .message fields.mends_sanitize
  | strings =>
    apply Value.Mends.strings
    rw [forall₂_map_right_iff, forall₂_same]
    exact fun text _ => mends_repair text
  | stringMap =>
    apply Value.Mends.stringMap
    rw [forall₂_map_right_iff, forall₂_same]
    exact fun entry _ => ⟨.inl rfl, mends_repair entry.2⟩

theorem Message.mends_sanitize (message : Message) : message.Mends (message.sanitize decode) := by
  cases message with
  | empty => exact .empty
  | field number value rest => exact .field value.mends_sanitize rest.mends_sanitize

end

end Walk

/-! ## Marshalling -/

/-- Every string of the message is valid. -/
def Message.Marshallable (message : Message) : Prop :=
  ∀ text, message.Holds text → Valid text

/-- A sanitized message can be marshalled, with nothing but invalid strings
changed, exactly when the strings the walk does not come to are valid. -/
theorem sanitize_marshallable_iff (decode : Bytes → Option Bytes) (message : Message) :
    ((message.sanitize decode).Marshallable ∧ message.Mends (message.sanitize decode)) ↔
      ∀ text, message.Skips text → Valid text := by
  constructor
  · rintro ⟨marshallable, _⟩ text skips
    exact marshallable text (message.holds_of_skips skips)
  · intro fine
    refine ⟨?_, message.mends_sanitize⟩
    intro text holds
    rcases message.valid_or_skips holds with valid | skips
    · exact valid
    · exact fine text skips

/-- A frame with a command ack whose error text is not UTF-8. -/
def failedAck : Message :=
  .field 5 (.message (.field 3 (.string [0x6e, 0xb4]) .empty)) .empty

/-- A frame with a command ack that lists a resource whose name is not UTF-8. -/
def inventoryAck : Message :=
  .field 5 (.message (.field 9 (.messages [.field 2 (.string [0x6e, 0xb4]) .empty]) .empty)) .empty

/-- The error text is repaired. -/
theorem sanitize_marshallable_failedAck :
    ¬failedAck.Marshallable ∧ (failedAck.sanitize fun _ => none).Marshallable := by
  constructor
  · intro marshallable
    exact absurd (marshallable _ (.value (.message (.value .string)))) (by decide)
  · apply ((sanitize_marshallable_iff (fun _ => none) failedAck).mpr _).1
    intro text skips
    cases skips with
    | rest later => cases later
    | value inside =>
      cases inside with
      | message further =>
        cases further with
        | rest later => cases later
        | value string => cases string

/-- The name in the list is not. -/
theorem sanitize_not_marshallable : ¬∀ (decode : Bytes → Option Bytes) (message : Message),
      (message.sanitize decode).Marshallable ∧ message.Mends (message.sanitize decode) := by
  intro always
  have marshallable := (always (fun _ => none) inventoryAck).1
  have holds : (inventoryAck.sanitize fun _ => none).Holds [0x6e, 0xb4] :=
    .value (.message (.value (.messages mem_cons_self (.value .string))))
  exact absurd (marshallable _ holds) (by decide)

end LubricantNodes.Agent
