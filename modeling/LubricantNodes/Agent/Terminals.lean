import Mathlib.Algebra.Order.Ring.Int
import Mathlib.Data.List.AList
import LubricantNodes.Go.Utf8
import LubricantNodes.Transition.Core
import LubricantNodes.Transition.Table

/-!
# Host terminals

`TerminalManager` keeps the shells that run on the host of the node.  Each has a
pump, which reads the output, gives it a sequence number, keeps it in a bounded
buffer and emits it; `Attach` replays the buffer after a reconnect, `DetachAll`
marks every terminal as unwatched when the stream drops, and the reaper closes the
terminals that have been unwatched for too long.

Every goroutine moves by single atomic operations: a critical section, one store to
an atomic field, one read of a map or one emitted frame.
-/

namespace LubricantNodes.Agent

open Go Transition

/-! ## Frames and clock -/

/-- `termReadChunk`. -/
def termReadChunk : Nat := 32 * 1024

/-- `termReplayLimit`. -/
def termReplayLimit : Nat := 256 * 1024

/-- `termDetachTimeout`, in nanoseconds. -/
def termDetachTimeout : Int := 30 * 60 * 1000000000

/-- A reading of the clock in nanoseconds; the code takes 0 for "not detached". -/
abbrev Instant := { nanos : Int // nanos ≠ 0 }

/-- `terminalEntry`. -/
structure TerminalEntry where
  seq : Nat
  data : Bytes
  deriving DecidableEq

/-- `NodeTerminalOutput`. -/
structure TerminalOutput where
  terminalId : String
  data : Bytes
  sequence : Nat
  replayTruncated : Bool := false
  deriving DecidableEq

/-- The entry that an output frame carries. -/
def TerminalOutput.entry (frame : TerminalOutput) : TerminalEntry :=
  ⟨frame.sequence, frame.data⟩

/-- The upstream frames of terminals. -/
inductive TerminalFrame
  | output (frame : TerminalOutput)
  | exit (terminalId : String) (exitCode : Int) (error : String)
  deriving DecidableEq

/-! ## The replay buffer -/

/-- `terminalBuffer`. -/
structure TerminalBuffer where
  entries : List TerminalEntry := []
  limit : Nat
  size : Nat := 0
  deriving DecidableEq

namespace TerminalBuffer

/-- The loop of `append`: the oldest entries go until the rest is within the limit. -/
def evict (limit : Nat) : Nat → List TerminalEntry → TerminalBuffer
  | size, [] => ⟨[], limit, size⟩
  | size, entry :: rest =>
    if limit < size then evict limit (size - entry.data.length) rest
    else ⟨entry :: rest, limit, size⟩

/-- `append`. -/
def append (buffer : TerminalBuffer) (entry : TerminalEntry) : TerminalBuffer :=
  evict buffer.limit (buffer.size + entry.data.length) (buffer.entries ++ [entry])

/-- `replay`. -/
def replay (buffer : TerminalBuffer) (afterSeq : UInt64) : List TerminalEntry × Bool :=
  match buffer.entries with
  | [] => ([], false)
  | oldest :: _ =>
    (buffer.entries.filter fun entry => afterSeq.toNat < entry.seq,
      (afterSeq + 1).toNat < oldest.seq)

end TerminalBuffer

/-! ## State -/

/-- Where the pump of a terminal is; `last` says that the read had also returned an
error. -/
inductive PumpPhase
  | reading
  /-- The output has its sequence number. -/
  | counted (entry : TerminalEntry) (last : Bool)
  | buffered (entry : TerminalEntry) (last : Bool)
  /-- The frame was emitted without an error. -/
  | emitted (last : Bool)
  /-- `attached` is stored. -/
  | marking (last : Bool)
  | ended
  | waited (exitCode : Int) (error : String)
  | removed (exitCode : Int) (error : String)
  | finished
  deriving DecidableEq

namespace PumpPhase

/-- The pump has emitted a frame and not finished `markAttached` for it. -/
def marks : PumpPhase → Bool
  | .emitted _ | .marking _ => true
  | _ => false

/-- The entry that is in the buffer and not emitted. -/
def pending : PumpPhase → List TerminalEntry
  | .buffered entry _ => [entry]
  | _ => []

/-- The terminal is not removed. -/
def alive : PumpPhase → Bool
  | .removed .. | .finished => false
  | _ => true

/-- The pump reads again, or its loop has ended. -/
def next (last : Bool) : PumpPhase :=
  if last then .ended else .reading

end PumpPhase

/-- What an observer of the output of a terminal sees from the start of its latest
`Attach` on. -/
structure Reattach where
  /-- The call of `Attach`. -/
  call : Nat
  afterSeq : UInt64
  /-- The entries above `afterSeq` that the buffer had at the start. -/
  retained : List TerminalEntry
  /-- An entry above `afterSeq` had been evicted. -/
  evicted : Bool
  /-- Another `Attach` of the terminal was in progress at the start. -/
  overlaps : Bool
  /-- An emit of the terminal has failed. -/
  failed : Bool := false
  /-- The entries that were put into the buffer. -/
  produced : List TerminalEntry := []
  /-- The frames that were emitted. -/
  frames : List TerminalOutput := []
  /-- Those of them that `Attach` has emitted. -/
  replayed : List TerminalOutput := []
  deriving DecidableEq

/-- The observer of a terminal sees an output frame, or that an emit has failed. -/
def Reattach.observe (frame : TerminalOutput) (passes replay : Bool) (reattach : Reattach) :
    Reattach :=
  if passes then
    { reattach with
      frames := reattach.frames ++ [frame]
      replayed := if replay then reattach.replayed ++ [frame] else reattach.replayed }
  else { reattach with failed := true }

/-- An entry is put into the buffer. -/
def Reattach.produce (entry : TerminalEntry) (reattach : Reattach) : Reattach :=
  { reattach with produced := reattach.produced ++ [entry] }

/-- `terminalSession`, with its pump and its buffer. -/
structure TerminalSession where
  id : String
  attached : Bool := false
  detachedAt : Int
  seq : Nat := 0
  buffer : TerminalBuffer := { limit := termReplayLimit }
  pump : PumpPhase := .reading
  /-- The shell was killed. -/
  closed : Bool := false
  /-- Everything that was put into the buffer. -/
  output : List TerminalEntry := []
  reattach : Option Reattach := none
  deriving DecidableEq

/-- The observer of a terminal starts anew. -/
def TerminalSession.observed (session : TerminalSession) (index : Nat) (afterSeq : UInt64)
    (overlaps : Bool) : Reattach where
  call := index
  afterSeq := afterSeq
  retained := session.buffer.entries.filter fun entry => afterSeq.toNat < entry.seq
  evicted := session.output.any fun entry =>
    afterSeq.toNat < entry.seq && !session.buffer.entries.contains entry
  overlaps := overlaps

/-- Where a call of `Open` is. -/
inductive OpenPhase
  | entered
  | checked
  /-- The shell runs, and `detachedAt` is stored. -/
  | started (now : Instant)
  | failed (error : String)
  | returned
  deriving DecidableEq

/-- A call of `Open`. -/
structure OpenCall where
  id : String
  phase : OpenPhase := .entered
  deriving DecidableEq

/-- Where a call of `Attach` is. -/
inductive AttachPhase
  | entered
  | missing
  | found (session : Nat)
  /-- It has read the buffer of the terminal from the map. -/
  | holding (session buffer : Nat)
  | replaying (session : Nat) (rest : List TerminalEntry) (truncated : Bool)
  /-- `attached` is stored. -/
  | marking (session : Nat)
  | returned
  deriving DecidableEq

namespace AttachPhase

/-- The terminal that the call works on. -/
def session : AttachPhase → Option Nat
  | .found session | .holding session _ | .replaying session .. | .marking session => some session
  | .entered | .missing | .returned => none

/-- The call has not taken its copy of the buffer yet. -/
def early : AttachPhase → Bool
  | .found _ | .holding .. => true
  | _ => false

/-- The call may still emit. -/
def emits : AttachPhase → Bool
  | .found _ | .holding .. => true
  | .replaying _ rest _ => !rest.isEmpty
  | _ => false

end AttachPhase

/-- A call of `Attach`. -/
structure AttachCall where
  id : String
  afterSeq : UInt64
  phase : AttachPhase := .entered
  deriving DecidableEq

/-- Where a call of `DetachAll` is. -/
inductive DetachPhase
  /-- The terminals that are not marked yet. -/
  | sweeping (rest : List Nat)
  /-- `attached` of a terminal was swapped from true to false. -/
  | storing (session : Nat) (rest : List Nat)
  deriving DecidableEq

/-- A call of `DetachAll`. -/
structure DetachCall where
  phase : DetachPhase
  /-- The stream was down when the call began. -/
  down : Bool
  /-- How often the stream had been connected then. -/
  connections : Nat
  /-- The calls of `Open` and `Attach` that had begun then. -/
  opens : Nat
  attaches : Nat
  deriving DecidableEq

/-- The call has returned. -/
def DetachCall.returned (call : DetachCall) : Bool :=
  match call.phase with
  | .sweeping [] => true
  | _ => false

/-- `TerminalManager`, with the terminals it has opened and the calls of its
methods. -/
structure Terminals where
  sessions : List TerminalSession
  terms : AList fun _ : String => Nat
  /-- The map of buffers: the terminal whose buffer it is. -/
  buffers : AList fun _ : String => Nat
  opens : List OpenCall
  attaches : List AttachCall
  detaches : List DetachCall
  /-- The stream is up. -/
  up : Bool
  connections : Nat
  emitted : List TerminalFrame

/-- What the outside world decides about a step of a pump. -/
structure PumpOutcome where
  /-- What the read returns. -/
  data : Bytes := []
  failed : Bool := false
  /-- The emit returns no error. -/
  sent : Bool := true
  exitCode : Int := 0
  error : String := ""

namespace Terminals

/-- `NewTerminalManager`. -/
def new : Terminals where
  sessions := []
  terms := ∅
  buffers := ∅
  opens := []
  attaches := []
  detaches := []
  up := false
  connections := 0
  emitted := []

variable (state : Terminals)

/-! ## Steps -/

/-- A terminal changes. -/
def modify (number : Nat) (change : TerminalSession → TerminalSession) : Terminals :=
  { state with sessions := state.sessions.modify number change }

/-- A frame that is not output is emitted; it is lost when the stream is down. -/
def emit (frame : TerminalFrame) (sent : Bool) : Terminals :=
  if sent && state.up then { state with emitted := state.emitted ++ [frame] } else state

section Emit

variable {state}

variable {frame : TerminalFrame} {sent : Bool}

@[simp]
theorem up_emit : (state.emit frame sent).up = state.up := by
  unfold emit
  split_ifs <;> rfl

@[simp]
theorem sessions_emit : (state.emit frame sent).sessions = state.sessions := by
  unfold emit
  split_ifs <;> rfl

@[simp]
theorem attaches_emit : (state.emit frame sent).attaches = state.attaches := by
  unfold emit
  split_ifs <;> rfl

end Emit

variable (index number : Nat) (call : AttachCall)

/-- An output frame of a terminal is emitted. -/
def emitOutput (frame : TerminalOutput) (sent replay : Bool) : Terminals :=
  (state.emit (.output frame) sent).modify number fun session =>
    { session with
      reattach := session.reattach.map (Reattach.observe frame (sent && state.up) replay) }

/-- The pump of a terminal goes on. -/
def setPump (phase : PumpPhase) : Terminals :=
  state.modify number fun session => { session with pump := phase }

/-- The pump keeps an entry in the buffer that the map has for its id. -/
def keep (session : TerminalSession) (entry : TerminalEntry) : Terminals :=
  match state.buffers.lookup session.id with
  | none => state
  | some owner =>
    (state.modify owner fun target =>
      { target with buffer := target.buffer.append entry }).modify number fun session =>
        { session with
          output := session.output ++ [entry]
          reattach := session.reattach.map (Reattach.produce entry) }

/-- The pump of a terminal takes its next step. -/
def advancePump (session : TerminalSession) (outcome : PumpOutcome) : Option Terminals :=
  match session.pump with
  | .reading =>
    if outcome.data = [] then
      some (state.setPump number (PumpPhase.next outcome.failed))
    else
      guarded (outcome.data.length ≤ termReadChunk ∧ session.seq + 1 < 2 ^ 64)
        (state.modify number fun session =>
          { session with
            seq := session.seq + 1
            pump := .counted ⟨session.seq + 1, outcome.data⟩ outcome.failed })
  | .counted entry last =>
    some ((state.keep number session entry).setPump number (.buffered entry last))
  | .buffered entry last =>
    some ((state.emitOutput number ⟨session.id, entry.data, entry.seq, false⟩ outcome.sent
      false).setPump number
        (if outcome.sent && state.up then .emitted last else PumpPhase.next last))
  | .emitted last =>
    some (state.modify number fun session =>
      { session with attached := true, pump := .marking last })
  | .marking last =>
    some (state.modify number fun session =>
      { session with detachedAt := 0, pump := PumpPhase.next last })
  | .ended => some (state.setPump number (.waited outcome.exitCode outcome.error))
  | .waited exitCode error =>
    some { state.setPump number (.removed exitCode error) with
      terms := state.terms.erase session.id
      buffers := state.buffers.erase session.id }
  | .removed exitCode error =>
    some ((state.emit (.exit session.id exitCode error) outcome.sent).setPump number .finished)
  | .finished => none

/-- A call of `Open` goes on. -/
def setOpen (id : String) (phase : OpenPhase) : Terminals :=
  { state with opens := state.opens.set index ⟨id, phase⟩ }

/-- The terminal is entered in the maps, and its pump starts. -/
def register (id : String) (now : Instant) : Terminals :=
  { state with
    sessions := state.sessions ++ [{ id := id, detachedAt := now.val }]
    terms := state.terms.insert id state.sessions.length
    buffers := state.buffers.insert id state.sessions.length }

/-- A call of `Open` takes its next step; `shell` is the error of the start of the
shell. -/
def advanceOpen (call : OpenCall) (shell : Option String) (now : Instant)
    (sent : Bool) : Option Terminals :=
  match call.phase with
  | .entered =>
    if call.id = "" ∨ call.id ∈ state.terms then some (state.setOpen index call.id .returned)
    else some (state.setOpen index call.id .checked)
  | .checked =>
    match shell with
    | some error => some (state.setOpen index call.id (.failed error))
    | none => some (state.setOpen index call.id (.started now))
  | .started began =>
    if call.id ∈ state.terms then some (state.setOpen index call.id .returned)
    else some ((state.register call.id began).setOpen index call.id .returned)
  | .failed error =>
    some ((state.emit (.exit call.id (-1) error) sent).setOpen index call.id .returned)
  | .returned => none

/-- `Open` changes its call, and may enter the terminal or report an exit. -/
theorem advanceOpen_cases {call : OpenCall} {shell : Option String} {now : Instant} {sent : Bool}
    {later : Terminals} (taken : state.advanceOpen index call shell now sent = some later) :
    ∃ middle id phase, later = setOpen middle index id phase ∧
      (middle = state ∨ (∃ began, id ∉ state.terms ∧ middle = state.register id began) ∨
        ∃ error, middle = state.emit (.exit id (-1) error) sent) := by
  rcases call with ⟨id, phase⟩
  unfold advanceOpen at taken
  cases phase with
  | entered => split_ifs at taken <;> cases taken <;> exact ⟨_, _, _, rfl, .inl rfl⟩
  | checked =>
    cases shell with
    | some | none =>
      cases taken
      exact ⟨_, _, _, rfl, .inl rfl⟩
  | started began =>
    dsimp only at taken
    split_ifs at taken with known
    · cases taken
      exact ⟨_, _, _, rfl, .inl rfl⟩
    · cases taken
      exact ⟨_, _, _, rfl, .inr (.inl ⟨began, known, rfl⟩)⟩
  | failed error =>
    cases taken
    exact ⟨_, _, _, rfl, .inr (.inr ⟨error, rfl⟩)⟩
  | returned => cases taken

/-- A call of `Attach` goes on. -/
def setAttach (phase : AttachPhase) : Terminals :=
  { state with attaches := state.attaches.set index { call with phase := phase } }

/-- No call of `Attach` is at work on the terminal. -/
def unattended : Bool :=
  state.attaches.all fun call => call.phase.session ≠ some number

/-- `Attach` has found its terminal. -/
def beginAttach : Terminals :=
  (state.modify number fun session =>
    { session with
      reattach := some (session.observed index call.afterSeq (!state.unattended number))
    }).setAttach index call (.found number)

/-- A call of `Attach` takes its next step. -/
def advanceAttach (sent : Bool) : Option Terminals :=
  match call.phase with
  | .entered =>
    if call.id = "" then some (state.setAttach index call .returned)
    else
      match state.terms.lookup call.id with
      | none => some (state.setAttach index call .missing)
      | some number => some (state.beginAttach index number call)
  | .missing =>
    some ((state.emit (.exit call.id (-1) "terminal_not_found") sent).setAttach index call
      .returned)
  | .found number =>
    match state.buffers.lookup call.id with
    | none => some (state.setAttach index call (.replaying number [] false))
    | some owner => some (state.setAttach index call (.holding number owner))
  | .holding number owner =>
    (state.sessions[owner]?).map fun session =>
      let copy := session.buffer.replay call.afterSeq
      state.setAttach index call (.replaying number copy.1 copy.2)
  | .replaying number (entry :: rest) truncated =>
    some ((state.emitOutput number ⟨call.id, entry.data, entry.seq, truncated⟩ sent
      true).setAttach index call (.replaying number rest false))
  | .replaying number [] _ =>
    some ((state.modify number fun session => { session with attached := true }).setAttach index
      call (.marking number))
  | .marking number =>
    some ((state.modify number fun session => { session with detachedAt := 0 }).setAttach index
      call .returned)
  | .returned => none

/-- A call of `DetachAll` goes on. -/
def setDetach (call : DetachCall) (phase : DetachPhase) : Terminals :=
  { state with detaches := state.detaches.set index { call with phase := phase } }

/-- `DetachAll` takes the terminals from the map. -/
def beginDetach : Terminals :=
  { state with
    detaches := state.detaches ++
      [{ phase := .sweeping (state.terms.entries.map Sigma.snd)
         down := !state.up
         connections := state.connections
         opens := state.opens.length
         attaches := state.attaches.length }] }

/-- A call of `DetachAll` takes its next step: `markDetached` of the terminal at
`position` begins, or the one that has begun ends. -/
def advanceDetach (call : DetachCall) (position : Nat) (now : Instant) : Option Terminals :=
  match call.phase with
  | .sweeping rest =>
    (rest[position]?).bind fun number =>
      (state.sessions[number]?).map fun session =>
        if session.attached then
          (state.modify number fun session => { session with attached := false }).setDetach index
            call (.storing number (rest.eraseIdx position))
        else state.setDetach index call (.sweeping (rest.eraseIdx position))
  | .storing number rest =>
    some ((state.modify number fun session => { session with detachedAt := now.val }).setDetach
      index call (.sweeping rest))

/-- `reapDetached` closes the terminal. -/
def overdue (now : Int) (session : TerminalSession) : Bool :=
  session.detachedAt ≠ 0 && termDetachTimeout ≤ now - session.detachedAt

/-- `reapDetached`. -/
def reapDetached (now : Int) : Terminals :=
  { state with
    sessions := state.sessions.mapIdx fun number session =>
      if number ∈ state.terms.entries.map Sigma.snd ∧ overdue now session then
        { session with closed := true }
      else session }

/-- What can happen. -/
inductive Event
  | connect
  | drop
  | openTerminal (id : String)
  | advanceOpen (index : Nat) (shell : Option String) (now : Instant) (sent : Bool)
  | attach (id : String) (afterSeq : UInt64)
  | advanceAttach (index : Nat) (sent : Bool)
  | advancePump (number : Nat) (outcome : PumpOutcome)
  | close (id : String)
  | detachAll
  | advanceDetach (index position : Nat) (now : Instant)
  | reap (now : Int)

/-- One event. -/
def step : Step Terminals Event
  | state, .connect => some { state with up := true, connections := state.connections + 1 }
  | state, .drop => some { state with up := false }
  | state, .openTerminal id => some { state with opens := state.opens ++ [{ id := id }] }
  | state, .advanceOpen index shell now sent =>
    (state.opens[index]?).bind fun call => state.advanceOpen index call shell now sent
  | state, .attach id afterSeq =>
    some { state with attaches := state.attaches ++ [{ id := id, afterSeq := afterSeq }] }
  | state, .advanceAttach index sent =>
    (state.attaches[index]?).bind fun call => state.advanceAttach index call sent
  | state, .advancePump number outcome =>
    (state.sessions[number]?).bind fun session => state.advancePump number session outcome
  | state, .close id =>
    some (match state.terms.lookup id with
      | none => state
      | some number => state.modify number fun session => { session with closed := true })
  | state, .detachAll => some state.beginDetach
  | state, .advanceDetach index position now =>
    (state.detaches[index]?).bind fun call => state.advanceDetach index call position now
  | state, .reap now => some (state.reapDetached now)

/-- A reading of the clock. -/
def noon : Instant := ⟨12, by decide⟩

/-- A terminal is opened while the stream is up. -/
def openedRun : List Event :=
  [.connect, .openTerminal "t", .advanceOpen 0 none noon true, .advanceOpen 0 none noon true,
    .advanceOpen 0 none noon true]

end Terminals

end LubricantNodes.Agent
