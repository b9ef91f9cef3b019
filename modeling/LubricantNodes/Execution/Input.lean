import LubricantNodes.Go.Strings
import LubricantNodes.Execution.Spec

/-!
# Session inputs

The frames a caller sends to an interactive session, the NDJSON frames they
become on the runtime's stdin, the key that deduplicates them and the reasons a
frame is reported failed.
-/

namespace LubricantNodes.Execution

open Go

/-- `NodeSessionInput`. -/
structure SessionInput where
  sessionId : String := ""
  kind : String := ""
  text : String := ""
  clientMessageId : String := ""
  deliveryAttempt : Nat := 0
  model : String := ""
  mode : String := ""
  llm : Option LLMConfig := none
  deriving DecidableEq

namespace SessionInput

variable (input : SessionInput)

/-- The trimmed `client_message_id`; blank for a legacy caller. -/
def messageId : String :=
  trimSpace input.clientMessageId

/-- `delivery_attempt`, zero counting as one. -/
def attempt : Nat :=
  if input.deliveryAttempt = 0 then 1 else input.deliveryAttempt

/-- The frame is a user turn: `kind == "human_message" || kind == ""`. -/
def human : Bool :=
  trimSpace input.kind = "human_message" || trimSpace input.kind = ""

/-- The frame takes part in deduplication. -/
def dedupes : Bool :=
  input.messageId ≠ "" && input.human

/-- `messageKey`. -/
def messageKey : String :=
  if input.messageId = "" then "" else input.messageId ++ ":" ++ toString input.attempt

/-- What a key stands for: the logical id and the attempt. -/
def message : String × Nat :=
  (input.messageId, input.attempt)

/-- Frames of different messages have different keys. -/
theorem message_eq_of_messageKey_eq {first second : SessionInput}
    (firstId : first.messageId ≠ "") (secondId : second.messageId ≠ "")
    (equal : first.messageKey = second.messageKey) : first.message = second.message := by
  simp only [messageKey, if_neg firstId, if_neg secondId] at equal
  obtain ⟨idEq, attemptEq⟩ := colonDecimal_injective equal
  exact Prod.ext idEq attemptEq

theorem messageKey_eq_of_message_eq {first second : SessionInput}
    (equal : first.message = second.message) : first.messageKey = second.messageKey := by
  obtain ⟨idEq, attemptEq⟩ := Prod.mk.inj equal
  simp only [messageKey, idEq, attemptEq]

/-- `stampInputSnapshot`: fill in the session's mode and LLM service, and the
model of that service or else of the create command. -/
def stamp (mode : String) (llm : Option LLMConfig) (specModel : String) : SessionInput :=
  let live := trimSpace ((llm.map LLMConfig.model).getD "")
  let model := if live = "" then trimSpace specModel else live
  { input with
    model := if trimSpace input.model = "" ∧ model ≠ "" then model else input.model
    mode := if trimSpace input.mode = "" ∧ mode ≠ "" then mode else input.mode
    llm := if input.llm = none ∧ llm ≠ none then llm else input.llm }

/-- The frame as `deliverInput` buffers it: only a user turn is stamped.  The
session's mode and LLM service are those of its create command. -/
def stamped (spec : CreateSession) : SessionInput :=
  if input.human then input.stamp (trimSpace spec.mode) spec.llm spec.model else input

end SessionInput

/-! ## Frames on the runtime's stdin -/

/-- The NDJSON frames written to a stream process. -/
inductive Frame
  /-- The start frame.  The session's paths and resource names are left out. -/
  | start (seq : Nat) (provider sessionId taskId : String)
  | humanMessage (seq : Nat) (message : String) (messageId : Option (String × Nat))
      (model mode : Option String) (llm : Option LLMConfig)
  | eof (seq : Nat)
  | cancel (seq : Nat)
  deriving DecidableEq

namespace Frame

/-- The `seq` field. -/
def seq : Frame → Nat
  | start seq .. => seq
  | humanMessage seq .. => seq
  | eof seq => seq
  | cancel seq => seq

/-- The frame is a start frame. -/
def isStart : Frame → Bool
  | start .. => true
  | _ => false

end Frame

/-- The optional string fields of a frame: present when not blank. -/
def nonBlank (text : String) : Option String :=
  if trimSpace text = "" then none else some (trimSpace text)

/-- The frame `streamExecutor.deliver` builds with sequence number `seq`, or the
kind it does not know. -/
def SessionInput.frame (input : SessionInput) (seq : Nat) : Except String Frame :=
  let kind := trimSpace input.kind
  if kind = "human_message" ∨ kind = "" then
    .ok (.humanMessage seq input.text
      ((nonBlank input.clientMessageId).map fun id => (id, input.attempt))
      (nonBlank input.model) (nonBlank input.mode) input.llm)
  else if kind = "eof" then .ok (.eof seq)
  else if kind = "cancel" then .ok (.cancel seq)
  else .error kind

theorem SessionInput.frame_seq {input : SessionInput} {seq : Nat} {frame : Frame}
    (built : input.frame seq = .ok frame) : frame.seq = seq ∧ frame.isStart = false := by
  unfold SessionInput.frame at built
  dsimp only at built
  split_ifs at built <;> cases built <;> exact ⟨rfl, rfl⟩

/-! ## Failures -/

/-- The reasons given in an `input_status(failed)`. -/
inductive FailReason
  | notInteractive
  | streamClosed
  | unknownKind (kind : String)
  | write (error : String)
  | spawn (error : String)
  | runtimeExited
  | sessionDeleted
  deriving DecidableEq

/-- The text of a reason; `quote` is the `%q` verb. -/
def FailReason.text (quote : String → String) : FailReason → String
  | notInteractive => "session is not interactive"
  | streamClosed => "stream process is closed"
  | unknownKind kind => "unknown session input kind " ++ quote kind
  | write error => error
  | spawn error => error
  | runtimeExited => "session runtime exited before the message was delivered"
  | sessionDeleted => "session deleted before the message was delivered"

end LubricantNodes.Execution
