import Mathlib.Data.List.Range
import LubricantNodes.Execution.Delivery

/-!
# Structured events

The numbering of the structured events of a session.  Two emitters share the
counter `structSeq` of a session object: `emitStructuredEvent`, called by the
stdout pump for every frame it parses, holds the object itself, while
`emitInputStatus` is given a session id and takes the number from whatever
object the map has under that id, or zero when it has none.

`emitted` is history: the events in the order their numbers were taken, each
with the object it was emitted for.
-/

namespace LubricantNodes.Execution

open Transition List UInt64 Node

/-- The action calls `emitInputStatus` with a message id. -/
def Inbox.reports (inbox : Inbox) : Inbox.Event → Bool
  | .dedupe =>
    match inbox.delivery with
    | .arrived ticket =>
      (inbox.input ticket).dedupes && inbox.seen (inbox.input ticket).messageKey
    | _ => false
  | .ack =>
    match inbox.delivery with
    | .queued ticket => (inbox.input ticket).messageId ≠ ""
    | _ => false
  | .emit _ => true
  | _ => false

/-- The session's action calls `emitInputStatus` with a message id. -/
def Session.reports (session : Session) (event : SessionEvent) : Bool :=
  (session.input event).any session.inbox.reports

/-- The object on whose behalf the action calls `emitInputStatus`. -/
def Node.reporting (node : Node) (event : Node.Event) : Option Nat :=
  match node.fires event with
  | some (object, taken) => if (node.objects object).reports taken then some object else none
  | none => none

/-- The node with the event counters of its session objects. -/
structure Numbering where
  node : Node
  structSeq : Nat → UInt64
  emitted : List (Nat × UInt64)

namespace Numbering

/-- A manager without sessions. -/
def new (opts : SessionOptions) : Numbering where
  node := .new opts
  structSeq := fun _ => 0
  emitted := []

/-- The actions of the node and of the parsers. -/
inductive Event
  | act (event : Node.Event)
  /-- The stdout pump of a run of an object calls `emitStructuredEvent`. -/
  | parse (object index : Nat)

variable (state : Numbering)

variable (object : Nat)

/-- An event for `object` takes its number from the counter of `target`. -/
def take (target : Nat) : Numbering :=
  { state with
    structSeq := Function.update state.structSeq target (state.structSeq target + 1)
    emitted := state.emitted ++ [(object, state.structSeq target)] }

/-- `emitInputStatus`, called for `object`. -/
def emitInputStatus : Numbering :=
  match state.node.entry object with
  | some target => state.take object target
  | none => { state with emitted := state.emitted ++ [(object, 0)] }

/-- The stdout pump of the run is reading. -/
def parsing (index : Nat) : Prop :=
  state.node.crashed = false ∧ object < state.node.count ∧
    index < (state.node.objects object).life.launched ∧
    ((state.node.objects object).life.run index).pc = .pumping ∧
    ((state.node.objects object).life.run index).stdoutDone = false
  deriving Decidable

/-- The counters after an action of the node. -/
def number (event : Node.Event) : Numbering :=
  match state.node.reporting event with
  | some object => state.emitInputStatus object
  | none => state

/-- One atomic action. -/
def step : Step Numbering Event
  | state, .act event =>
    (state.node.step event).map fun node => { state.number event with node := node }
  | state, .parse object index => guarded (state.parsing object index) (state.take object object)

/-- The numbers of the events emitted for an object, in order. -/
def seqs : List UInt64 :=
  (state.emitted.filter (·.1 = object)).map Prod.snd

/-! ## Own counters -/

/-- An event is numbered by the counter of the object it is for, before that
counter wraps around. -/
def ownCounter (state : Numbering) : Event → Bool
  | .act event =>
    (state.node.reporting event).all fun object =>
      state.node.entry object = some object && state.structSeq object ≠ UInt64.ofNat (2 ^ 64 - 1)
  | .parse object _ => state.structSeq object ≠ UInt64.ofNat (2 ^ 64 - 1)

/-- The events of every object are numbered without gaps. -/
def Counted : Prop :=
  ∀ object, state.seqs object =
    (List.range (state.structSeq object).toNat).map UInt64.ofNat

variable {state} {state' : Numbering}

theorem toNat_succ {seq : UInt64} (unwrapped : seq ≠ UInt64.ofNat (2 ^ 64 - 1)) :
    (seq + 1).toNat = seq.toNat + 1 := by
  have bound := seq.toNat_lt
  have notLast : seq.toNat ≠ 2 ^ 64 - 1 := by
    intro last
    apply unwrapped
    rw [← last, UInt64.ofNat_toNat]
  rw [UInt64.toNat_add, UInt64.toNat_one]
  exact Nat.mod_eq_of_lt (by omega)

theorem counted_take {object : Nat} (counted : state.Counted)
    (unwrapped : state.structSeq object ≠ UInt64.ofNat (2 ^ 64 - 1)) :
    (state.take object object).Counted := by
  intro other
  by_cases same : other = object
  · subst same
    have before := counted other
    rw [seqs] at before
    simp only [seqs, take, filter_append, map_append, before, Function.update_self,
      toNat_succ unwrapped, range_succ]
    simp
  · have before := counted other
    rw [seqs] at before
    simp only [seqs, take, filter_append, map_append, before, Function.update_of_ne same]
    simp [Ne.symm same]

theorem counted_step {event : Event} (counted : state.Counted)
    (own : state.ownCounter event = true) (moved : state.step event = some state') :
    state'.Counted := by
  cases event with
  | parse object index =>
    rcases guarded_eq_some_iff.mp moved with ⟨-, rfl⟩
    exact counted_take counted (of_decide_eq_true own)
  | act event =>
    rcases Option.map_eq_some_iff.mp moved with ⟨node, -, rfl⟩
    cases reporting : state.node.reporting event with
    | none =>
      have quiet : state.number event = state := by rw [number, reporting]
      rw [quiet]
      exact counted
    | some object =>
      simp only [ownCounter, reporting, Option.all_some, Bool.and_eq_true, decide_eq_true_eq] at own
      rcases own with ⟨registered, unwrapped⟩
      have taken : state.number event = state.take object object := by
        rw [number, reporting]
        dsimp only
        rw [emitInputStatus, registered]
      rw [taken]
      exact counted_take counted unwrapped

theorem counted_of_reaches {opts : SessionOptions}
    (reached : Reaches step (checked ownCounter) (new opts) state) : state.Counted := by
  induction reached with
  | refl =>
    intro object
    rfl
  | tail _ own moved ih => exact counted_step ih own moved

/-! ## Sequences -/

/-- The numbers start at zero and increase, so that none occurs twice. -/
def Sequenced (seqs : List UInt64) : Prop :=
  seqs.Pairwise (· < ·) ∧ ∀ first ∈ seqs.head?, first = 0
  deriving Decidable

theorem sequenced_range {count : Nat} (bound : count ≤ 2 ^ 64) :
    Sequenced ((List.range count).map UInt64.ofNat) := by
  constructor
  · rw [pairwise_map]
    refine List.Pairwise.imp_of_mem ?_ pairwise_lt_range
    intro first second firstMem secondMem less
    rw [mem_range] at firstMem secondMem
    rw [lt_iff_toNat_lt, toNat_ofNat', toNat_ofNat',
      Nat.mod_eq_of_lt (by omega), Nat.mod_eq_of_lt (by omega)]
    exact less
  · cases count with
    | zero => simp
    | succ rest => simp [range_succ_eq_map]

/-- If every status is emitted while its session is in the map, the events of
each session object are numbered from zero upwards. -/
theorem events_sequenced {opts : SessionOptions} {state : Numbering}
    (reached : Reaches step (checked ownCounter) (new opts) state) (object : Nat) :
    Sequenced (state.seqs object) := by
  rw [counted_of_reaches reached object]
  apply sequenced_range
  exact (toNat_lt _).le

/-- An acknowledgement, a parsed frame and another acknowledgement. -/
theorem events_sequenced_acked :
    ∃ state, Reaches step (checked ownCounter) (new Node.claudeOptions) state ∧
      state.seqs 0 = [0, 1, 2] ∧ Sequenced (state.seqs 0) := by
  refine exists_reaches_and_of_run ((streamStarted ++ buffered greeting ++ wroteNext 0 ++
          returned 0).map .act ++
        [.parse 0 0] ++
        (Node.buffered { Node.greeting with clientMessageId := "n" }).map .act)
      (by decide +kernel) ?_
  intro state reached _
  exact events_sequenced reached 0

/-- `delete` of a session without a run fails its first pending input. -/
def failedByDelete (id : String) : List Node.Event :=
  [.delete id, .serve .deleteRead, .serve .deleteCancel, .serve .deleteWait, .serve .deleteSweep,
    .act object (.report .dispatch .release), .act object (.report .dispatch .emit)]

/-- `delete` takes the session out of the map before it fails the inputs still
pending, so their statuses are numbered zero again. -/
theorem events_not_sequenced : ¬∀ (opts : SessionOptions) (state : Numbering) (object : Nat),
      Reaches step unrestricted (new opts) state → Sequenced (state.seqs object) := by
  intro sequenced
  obtain ⟨state, reached, numbers⟩ :
      ∃ state, Reaches step unrestricted (new claudeOptions) state ∧ state.seqs 0 = [0, 0] :=
    exists_reaches_of_run ((created streamSpec ++ buffered greeting ++ returned 0 ++
        failedByDelete 0 "s").map .act)
      (by decide +kernel)
  have both := sequenced _ state 0 reached
  rw [numbers] at both
  exact absurd both (by decide)

end Numbering

end LubricantNodes.Execution
