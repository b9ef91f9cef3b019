import LubricantNodes.Agent.Terminals

/-!
# Output after a reattach

`Attach` replays a copy of the buffer while the pump goes on: the pump puts an entry
into the buffer and emits it in two steps, and neither waits for the other.  An entry
that is in the buffer and not yet emitted is sent twice, and an entry that the pump
emits during the replay comes too early.  `reattach_continues` says for which runs the
frames from the start of `Attach` on are the wanted ones, in order and without
repetition.
-/

namespace LubricantNodes.Agent

open Go Transition List

/-! ## The buffer -/

namespace TerminalBuffer

/-- What is left after an eviction is the newest part. -/
theorem evict_suffix (limit size : Nat) (entries : List TerminalEntry) :
    (evict limit size entries).entries <:+ entries := by
  induction entries generalizing size with
  | nil => exact suffix_rfl
  | cons entry rest ih =>
    rw [evict]
    split_ifs
    · exact (ih _).trans (suffix_cons entry rest)
    · exact suffix_rfl

theorem append_suffix (buffer : TerminalBuffer) (entry : TerminalEntry) :
    (buffer.append entry).entries <:+ buffer.entries ++ [entry] :=
  evict_suffix _ _ _

/-- The bytes of entries. -/
def total (entries : List TerminalEntry) : Nat :=
  (entries.map fun entry => entry.data.length).sum

/-- A buffer has the longest part at the end of some output that is within a limit. -/
structure Retains (buffer : TerminalBuffer) (limit : Nat) (output : List TerminalEntry) :
    Prop where
  suffix : buffer.entries <:+ output
  within : total buffer.entries ≤ limit
  longest : ∀ part, part <:+ output → total part ≤ limit → part <:+ buffer.entries
  size : buffer.size = total buffer.entries
  limit : buffer.limit = limit

theorem retains_evict (limit : Nat) (entries : List TerminalEntry) :
    (evict limit (total entries) entries).Retains limit entries := by
  induction entries with
  | nil => exact ⟨suffix_rfl, Nat.zero_le _, fun _ part _ => part, rfl, rfl⟩
  | cons entry rest ih =>
    have size : total (entry :: rest) - entry.data.length = total rest := by simp [total]
    rw [evict, size]
    split_ifs with large
    · refine { ih with suffix := ih.suffix.trans (suffix_cons entry rest), longest := ?_ }
      intro part newest within
      rcases suffix_cons_iff.mp newest with rfl | newest
      · omega
      · exact ih.longest part newest within
    · exact ⟨suffix_rfl, Nat.le_of_not_lt large, fun _ part _ => part, rfl, rfl⟩

variable {output : List TerminalEntry} {buffer : TerminalBuffer}

/-- What was evicted before is not within the limit later. -/
theorem Retains.append {limit : Nat}
    (retains : buffer.Retains limit output) (entry : TerminalEntry) :
    (buffer.append entry).Retains limit (output ++ [entry]) := by
  have size : buffer.size + entry.data.length = total (buffer.entries ++ [entry]) := by
    simp [total, retains.size]
  have evicted := retains_evict limit (buffer.entries ++ [entry])
  rw [TerminalBuffer.append, retains.limit, size]
  refine { evicted with suffix := evicted.suffix.trans ?_, longest := ?_ }
  · exact suffix_concat_iff.mpr (.inr ⟨_, rfl, retains.suffix⟩)
  · intro part newest within
    rcases suffix_concat_iff.mp newest with rfl | ⟨earlier, rfl, before⟩
    · exact nil_suffix
    · have shorter : total earlier ≤ limit := by
        simp only [total, map_append, sum_append] at within ⊢
        omega
      refine evicted.longest _ (suffix_concat_iff.mpr (.inr ⟨earlier, rfl, ?_⟩)) within
      exact retains.longest earlier before shorter

theorem Retains.foldl {limit : Nat}
    (retains : buffer.Retains limit output) (later : List TerminalEntry) :
    (later.foldl TerminalBuffer.append buffer).Retains limit (output ++ later) := by
  induction later generalizing buffer output with
  | nil => simpa using retains
  | cons entry later ih => simpa using ih (retains.append entry)

/-- The replayed entries are those above the requested number. -/
theorem replay_fst (buffer : TerminalBuffer) (afterSeq : UInt64) : (buffer.replay afterSeq).1 =
      buffer.entries.filter fun entry => afterSeq.toNat < entry.seq := by
  rw [replay]
  cases buffer.entries with
  | nil | cons => rfl

/-- The flag of a replay says whether an entry above the requested number is gone. -/
theorem replay_snd {afterSeq : UInt64}
    (numbers : output.map TerminalEntry.seq = List.range' 1 output.length)
    (suffix : buffer.entries <:+ output) (nonempty : buffer.entries ≠ [])
    (small : afterSeq.toNat + 1 < 2 ^ 64) :
    (buffer.replay afterSeq).2 = true ↔
      ∃ entry ∈ output, entry ∉ buffer.entries ∧ afterSeq.toNat < entry.seq := by
  obtain ⟨gone, rfl⟩ := suffix
  rw [map_append, length_append, ← range'_append_1] at numbers
  obtain ⟨old, new⟩ := append_inj numbers (by simp)
  have oldSeq : ∀ seq, (∃ entry ∈ gone, entry.seq = seq) ↔ 1 ≤ seq ∧ seq < 1 + gone.length := by
    intro seq
    rw [← mem_map, old, mem_range'_1]
  have newSeq : ∀ entry ∈ buffer.entries, gone.length < entry.seq := by
    intro entry member
    have inside := mem_map_of_mem (f := TerminalEntry.seq) member
    rw [new, mem_range'_1] at inside
    omega
  have next : (afterSeq + 1).toNat = afterSeq.toNat + 1 := by
    rw [UInt64.toNat_add]
    exact Nat.mod_eq_of_lt small
  obtain ⟨oldest, rest, entries⟩ := exists_cons_of_ne_nil nonempty
  have first : oldest.seq = 1 + gone.length := by
    rw [entries, map_cons, length_cons, range'_succ] at new
    exact (cons.inj new).1
  have flag : (buffer.replay afterSeq).2 = decide ((afterSeq + 1).toNat < oldest.seq) := by
    rw [replay, entries]
  rw [flag, next, first, decide_eq_true_iff]
  constructor
  · intro fewer
    obtain ⟨entry, member, last⟩ := (oldSeq gone.length).mpr (by omega)
    refine ⟨entry, mem_append_left _ member, fun again => ?_, by omega⟩
    have later := newSeq entry again
    omega
  · rintro ⟨entry, member, lost, above⟩
    have old := (oldSeq entry.seq).mp ⟨entry, (mem_append.mp member).resolve_right lost, rfl⟩
    omega

/-- Chunks numbered from 1. -/
def numbered (chunks : List Bytes) : List TerminalEntry :=
  chunks.mapIdx fun index chunk => ⟨index + 1, chunk⟩

theorem seq_numbered (chunks : List Bytes) :
    (numbered chunks).map TerminalEntry.seq = List.range' 1 (numbered chunks).length := by
  apply ext_getElem <;> simp [numbered, Nat.add_comm]

/-- The buffer retains the newest chunks that are within the limit, and replays those
above a number; the flag says whether another one was above it. -/
theorem replay_spec (limit : Nat) (chunks : List Bytes)
    (fits : ∀ chunk ∈ chunks, chunk.length ≤ limit) :
    let buffer := (numbered chunks).foldl append { limit }
    buffer.Retains limit (numbered chunks) ∧ ∀ afterSeq : UInt64, afterSeq.toNat < 2 ^ 64 - 1 →
        (buffer.replay afterSeq).1 =
            buffer.entries.filter (fun entry => afterSeq.toNat < entry.seq) ∧
          ((buffer.replay afterSeq).2 = true ↔ ∃ entry ∈ numbered chunks, entry ∉ buffer.entries ∧
              afterSeq.toNat < entry.seq) := by
  intro buffer
  have retains : buffer.Retains limit (numbered chunks) :=
    Retains.foldl ⟨suffix_rfl, Nat.zero_le _, fun _ part _ => part, rfl, rfl⟩ (numbered chunks)
  refine ⟨retains, fun afterSeq small => ⟨replay_fst _ _, ?_⟩⟩
  rcases eq_nil_or_concat chunks with rfl | ⟨earlier, chunk, rfl⟩
  · simp [buffer, numbered, replay]
  · have last : [⟨earlier.length + 1, chunk⟩] <:+ buffer.entries := by
      apply retains.longest
      · simp [numbered]
      · simpa [total] using fits chunk (by simp)
    refine replay_snd (seq_numbered _) retains.suffix ?_ (by omega)
    intro nothing
    simp [nothing] at last

theorem replay_spec_two : ((numbered [[1, 2], [3, 4]]).foldl append { limit := 3 }).Retains 3
      (numbered [[1, 2], [3, 4]]) :=
  (replay_spec 3 [[1, 2], [3, 4]] (by decide)).1

end TerminalBuffer

/-- The sequence number that the pump has given to an entry it has not kept yet. -/
def PumpPhase.ahead : PumpPhase → List TerminalEntry
  | .counted entry _ => [entry]
  | _ => []

/-- The call has not read the map of buffers yet. -/
def AttachPhase.seeks : AttachPhase → Bool
  | .found _ => true
  | _ => false

/-- The output is numbered from 1, and the buffer has its newest part. -/
structure TerminalSession.Numbered (session : TerminalSession) : Prop where
  numbers : session.output.map TerminalEntry.seq = List.range' 1 session.output.length
  counter : session.seq = session.output.length + session.pump.ahead.length
  ahead : ∀ entry ∈ session.pump.ahead, entry.seq = session.output.length + 1
  bounded : session.seq < 2 ^ 64
  suffix : session.buffer.entries <:+ session.output

namespace TerminalSession.Numbered

variable {session : TerminalSession}

theorem increasing (numbered : session.Numbered) :
    (session.output.map TerminalEntry.seq).Pairwise (· < ·) := by
  rw [numbered.numbers]
  exact pairwise_lt_range'

/-- The flag of a replay says whether an entry above the requested number was
evicted. -/
theorem evicted_eq (numbered : session.Numbered) {afterSeq : UInt64} (index : Nat)
    (overlaps : Bool) (nonempty : (session.buffer.replay afterSeq).1 ≠ []) :
    (session.buffer.replay afterSeq).2 = (session.observed index afterSeq overlaps).evicted := by
  rw [TerminalBuffer.replay_fst] at nonempty
  rcases exists_mem_of_ne_nil _ nonempty with ⟨entry, member⟩
  rcases mem_filter.mp member with ⟨retained, above⟩
  -- An entry is to be replayed, so that the requested number plus one does not wrap.
  have small : afterSeq.toNat + 1 < 2 ^ 64 := by
    have kept := mem_map_of_mem (f := TerminalEntry.seq) (numbered.suffix.mem retained)
    rw [numbered.numbers, mem_range'_1] at kept
    have bounded := numbered.bounded
    have counter := numbered.counter
    have larger := of_decide_eq_true above
    omega
  rw [Bool.eq_iff_iff, TerminalBuffer.replay_snd numbered.numbers numbered.suffix
    (ne_nil_of_mem retained) small, TerminalSession.observed, any_eq_true]
  simp [and_comm]

end TerminalSession.Numbered

namespace Terminals

/-! ## The property and its condition -/

section ReattachSpec

variable (state : Terminals)

/-- Nothing that belongs to the observed output is in progress. -/
def CaughtUp (session : TerminalSession) (reattach : Reattach) : Prop :=
  (∀ call ∈ state.attaches[reattach.call]?, call.phase.emits = false) ∧ session.pump.pending = []

/-- From the start of the latest `Attach` of a terminal on, as long as no emit fails,
the frames have increasing numbers; when nothing is in progress, every entry above the
requested number that was retained then or produced later is in exactly one frame; and
the first replayed frame says whether such an entry had been evicted. -/
def Continues : Prop :=
  ∀ (number : Nat) session reattach, state.sessions[number]? = some session →
    session.reattach = some reattach → reattach.overlaps = false → reattach.failed = false →
      (reattach.frames.map TerminalOutput.sequence).Pairwise (· < ·) ∧
        (state.CaughtUp session reattach →
          ∀ entry ∈ reattach.retained ++ reattach.produced,
            reattach.afterSeq.toNat < entry.seq →
              (reattach.frames.map TerminalOutput.sequence).count entry.seq = 1 ∧
                entry ∈ reattach.frames.map TerminalOutput.entry) ∧
          ∀ first ∈ reattach.replayed.head?, first.replayTruncated = reattach.evicted

variable (number : Nat)

/-- No call of `Attach` that works on the terminal is in such a phase. -/
def noAttach (phases : AttachPhase → Bool) : Prop :=
  ∀ call ∈ state.attaches, call.phase.session = some number → phases call.phase = false
  deriving Decidable

/-- The pump keeps nothing between the start of an `Attach` and its copy of the buffer,
emits nothing before the end of its replay, and is not removed before it has found the
buffer. -/
def PumpWaits : PumpPhase → Prop
  | .counted .. => state.noAttach number AttachPhase.early
  | .buffered .. => state.noAttach number AttachPhase.emits
  | .waited .. => state.noAttach number AttachPhase.seeks
  | .reading | .emitted _ | .marking _ | .ended | .removed .. | .finished => True

instance (phase : PumpPhase) : Decidable (state.PumpWaits number phase) := by
  unfold PumpWaits
  split <;> infer_instance

/-- `Attach` begins only when the pump has emitted all it has kept, and the pump
waits for it. -/
def PumpPauses : Discipline Terminals Event
  | state, .advanceAttach index _ =>
    ∀ call ∈ state.attaches[index]?, call.phase = .entered →
      ∀ number ∈ state.terms.lookup call.id, ∀ session ∈ state.sessions[number]?,
        session.pump.pending = []
  | state, .advancePump number _ =>
    ∀ session ∈ state.sessions[number]?, state.PumpWaits number session.pump
  | _, _ => True

instance (event : Event) : Decidable (PumpPauses state event) := by
  delta PumpPauses
  rcases event with _ | _ <;> infer_instance

end ReattachSpec

/-! ## The invariant -/

/-- What a call of `Attach` has yet to replay. -/
def remaining (session : TerminalSession) (call : AttachCall) : List TerminalEntry :=
  match call.phase with
  | .found _ | .holding .. =>
    session.buffer.entries.filter fun entry => call.afterSeq.toNat < entry.seq
  | .replaying _ rest _ => rest
  | .entered | .missing | .marking _ | .returned => []

/-- The first replayed frame has the right flag. -/
def Flagged (reattach : Reattach) : Prop :=
  ∀ first ∈ reattach.replayed.head?, first.replayTruncated = reattach.evicted

/-- The call has replayed nothing, and the buffer is as it was at the start. -/
structure Fresh (session : TerminalSession) (reattach : Reattach) (call : AttachCall) : Prop where
  replayed : reattach.replayed = []
  afterSeq : call.afterSeq = reattach.afterSeq
  evicted : reattach.evicted =
    (session.observed reattach.call reattach.afterSeq reattach.overlaps).evicted

/-- What the observer of a terminal knows about the call of `Attach`. -/
def Stage (number : Nat) (session : TerminalSession) (reattach : Reattach) (call : AttachCall) :
    Prop :=
  match call.phase with
  | .found other =>
    other = number ∧ call.id = session.id ∧ session.pump.alive = true ∧
      Fresh session reattach call
  | .holding other owner => other = number ∧ owner = number ∧ Fresh session reattach call
  | .replaying other rest truncated =>
    other = number ∧
      (reattach.replayed = [] → rest ≠ [] → truncated = reattach.evicted) ∧ Flagged reattach
  | .marking _ | .returned => Flagged reattach
  | .entered | .missing => False

/-- The frames so far, what the call has yet to replay and what the pump has yet to
emit are together what is wanted. -/
structure Replays (state : Terminals) (number : Nat) (session : TerminalSession)
    (reattach : Reattach) (call : AttachCall) : Prop where
  called : state.attaches[reattach.call]? = some call
  sole : ∀ {index other}, state.attaches[index]? = some other →
    other.phase.session = some number → index = reattach.call
  wanted : (reattach.retained ++ reattach.produced).Sublist session.output
  progress : reattach.frames.map TerminalOutput.entry ++ remaining session call ++
    session.pump.pending = reattach.retained ++ reattach.produced
  stage : Stage number session reattach call

/-- What the steps that meet the condition keep. -/
structure Sound (state : Terminals) : Prop where
  named : ∀ {id number}, state.terms.lookup id = some number →
    ∃ session, state.sessions[number]? = some session ∧ session.id = id ∧
      session.pump.alive = true
  listed : ∀ {number : Nat} {session : TerminalSession}, state.sessions[number]? = some session →
    session.pump.alive = true → state.terms.lookup session.id = some number ∧
      state.buffers.lookup session.id = some number
  numbered : ∀ {number : Nat} {session : TerminalSession},
    state.sessions[number]? = some session → session.Numbered
  attended : ∀ {call number}, call ∈ state.attaches → call.phase.session = some number →
    number < state.sessions.length
  replays : ∀ {number : Nat} {session : TerminalSession} {reattach : Reattach},
    state.sessions[number]? = some session → session.reattach = some reattach →
      reattach.overlaps = false → reattach.failed = false →
        ∃ call, state.Replays number session reattach call

theorem sound_new : new.Sound where
  named found := by cases found
  listed found := by cases found
  numbered found := by cases found
  attended member := by cases member
  replays found := by cases found

section ReplayInvariant

variable {state later : Terminals} {before after session : TerminalSession} {call : AttachCall}
  {number index : Nat} {reattach : Reattach} {sent last : Bool} {entry : TerminalEntry}
  {phase : AttachPhase} {now : Instant}

/-- The buffer and the output stay, and the terminal is not removed while the call
looks for the buffer. -/
theorem stage_of_same (stage : Stage number before reattach call)
    (buffer : after.buffer = before.buffer) (output : after.output = before.output)
    (living : call.phase = .found number → after.id = before.id ∧
      after.pump.alive = before.pump.alive) : Stage number after reattach call := by
  have fresh : Fresh before reattach call → Fresh after reattach call := by
    intro fresh
    refine ⟨fresh.replayed, fresh.afterSeq, ?_⟩
    rw [fresh.evicted, TerminalSession.observed, TerminalSession.observed, output, buffer]
  rcases call with ⟨id, afterSeq, phase⟩
  cases phase with
  | found =>
    rcases stage with ⟨rfl, named, alive, start⟩
    rcases living rfl with ⟨sameId, sameAlive⟩
    exact ⟨rfl, named.trans sameId.symm, sameAlive.trans alive, fresh start⟩
  | holding => exact ⟨stage.1, stage.2.1, fresh stage.2.2⟩
  | replaying | marking | returned | entered | missing => exact stage

theorem Replays.of_attaches (replays : state.Replays number session reattach call)
    (attaches : later.attaches = state.attaches) : later.Replays number session reattach call := by
  refine { replays with called := ?_, sole := ?_ }
  · rw [attaches]
    exact replays.called
  · rw [attaches]
    exact replays.sole

/-- A terminal keeps its name and what the invariant says about it. -/
structure KeepsReplays (later : Terminals) (number : Nat) (before after : TerminalSession) :
    Prop where
  id : after.id = before.id
  alive : after.pump.alive = before.pump.alive
  numbered : after.Numbered
  replays : ∀ reattach, after.reattach = some reattach → reattach.overlaps = false →
    reattach.failed = false → ∃ call, later.Replays number after reattach call

/-- What the observer of a terminal depends on. -/
def visible (session : TerminalSession) :
    String × TerminalBuffer × List TerminalEntry × Option Reattach × Bool × List TerminalEntry :=
  (session.id, session.buffer, session.output, session.reattach, session.pump.alive,
    session.pump.pending)

/-- What the invariant is about. -/
def core (session : TerminalSession) :=
  (visible session, session.seq, session.pump.ahead)

@[simp]
theorem alive_next (last : Bool) : (PumpPhase.next last).alive = true := by
  cases last <;> rfl

@[simp]
theorem pending_next (last : Bool) : (PumpPhase.next last).pending = [] := by
  cases last <;> rfl

@[simp]
theorem ahead_next (last : Bool) : (PumpPhase.next last).ahead = [] := by
  cases last <;> rfl

section ChangedSessions

variable (sound : state.Sound)

include sound

/-- The maps stay, and so do the terminals but for what they may change. -/
theorem Sound.update (terms : later.terms = state.terms) (buffers : later.buffers = state.buffers)
    (size : later.sessions.length = state.sessions.length)
    (attended : ∀ {call number}, call ∈ later.attaches → call.phase.session = some number →
      number < state.sessions.length)
    (each : ∀ {number : Nat} {before after}, state.sessions[number]? = some before →
      later.sessions[number]? = some after → later.KeepsReplays number before after) :
    later.Sound := by
  have earlier : ∀ {number : Nat} {after}, later.sessions[number]? = some after →
      ∃ before, state.sessions[number]? = some before ∧ later.KeepsReplays number before after := by
    intro number after found
    have inside := (List.getElem?_eq_some_iff.mp found).1
    rw [size] at inside
    have present := getElem?_eq_getElem inside
    exact ⟨_, present, each present found⟩
  constructor
  · intro id number entry
    rw [terms] at entry
    rcases sound.named entry with ⟨before, present, named, alive⟩
    have inside := (List.getElem?_eq_some_iff.mp present).1
    rw [← size] at inside
    have found := getElem?_eq_getElem inside
    exact ⟨_, found, (each present found).id.trans named, (each present found).alive.trans alive⟩
  · intro number after found alive
    rcases earlier found with ⟨before, present, keepsReplays⟩
    rw [terms, buffers, keepsReplays.id]
    exact sound.listed present (keepsReplays.alive.symm.trans alive)
  · intro number after found
    rcases earlier found with ⟨_, _, keepsReplays⟩
    exact keepsReplays.numbered
  · rw [size]
    exact attended
  · intro number after reattach found
    rcases earlier found with ⟨_, _, keepsReplays⟩
    exact keepsReplays.replays reattach

/-- The observer sees no change. -/
theorem Sound.keepsReplays (attaches : later.attaches = state.attaches)
    (present : state.sessions[number]? = some before) (same : visible after = visible before)
    (numbered : after.Numbered) : later.KeepsReplays number before after := by
  simp only [visible, Prod.mk.injEq] at same
  rcases same with ⟨id, buffer, output, reattach, alive, pending⟩
  refine ⟨id, alive, numbered, ?_⟩
  intro seen observed alone unfailed
  rw [reattach] at observed
  rcases sound.replays present observed alone unfailed with ⟨call, replays⟩
  have stage := stage_of_same replays.stage buffer output (fun _ => ⟨id, alive⟩)
  have unchanged : state.Replays number after seen call := by
    refine { replays with wanted := ?_, progress := ?_, stage := stage }
    · rw [output]
      exact replays.wanted
    · unfold remaining
      rw [buffer, pending]
      exact replays.progress
  exact ⟨call, unchanged.of_attaches attaches⟩

theorem Sound.stays (attaches : later.attaches = state.attaches)
    (present : state.sessions[number]? = some before) (same : core after = core before) :
    later.KeepsReplays number before after := by
  simp only [core, Prod.mk.injEq] at same
  rcases same with ⟨shown, seq, ahead⟩
  apply sound.keepsReplays attaches present shown
  simp only [visible, Prod.mk.injEq] at shown
  rcases shown with ⟨_, buffer, output, _⟩
  have numbered := sound.numbered present
  constructor
  · rw [output]
    exact numbered.numbers
  · rw [seq, output, ahead]
    exact numbered.counter
  · rw [output, ahead]
    exact numbered.ahead
  · rw [seq]
    exact numbered.bounded
  · rw [buffer, output]
    exact numbered.suffix

/-- Frames, the calls of `Open` and `DetachAll`, and the stream do not matter. -/
theorem Sound.keep (sessions : later.sessions = state.sessions) (terms : later.terms = state.terms)
    (buffers : later.buffers = state.buffers) (attaches : later.attaches = state.attaches) :
    later.Sound := by
  apply sound.update terms buffers (congrArg length sessions)
  · rw [attaches]
    exact sound.attended
  · intro number before after present found
    rw [sessions, present] at found
    cases found
    exact sound.stays attaches present rfl

omit sound in
theorem modify_sessions (state : Terminals) (number : Nat)
    (change : TerminalSession → TerminalSession) :
    (state.modify number change).sessions = state.sessions.modify number change :=
  rfl

/-- One terminal changes, and the calls of `Attach` do not. -/
theorem Sound.change {change : TerminalSession → TerminalSession}
    (sessions : later.sessions = state.sessions.modify number change)
    (terms : later.terms = state.terms) (buffers : later.buffers = state.buffers)
    (attaches : later.attaches = state.attaches)
    (changed : ∀ session, state.sessions[number]? = some session →
      later.KeepsReplays number session (change session)) : later.Sound := by
  apply sound.update terms buffers
  · rw [sessions, length_modify]
  · rw [attaches]
    exact sound.attended
  · intro index before after present found
    rw [sessions] at found
    rcases of_getElem?_modify_eq_some found with ⟨rfl, _, listed, rfl⟩ | ⟨_, listed⟩
    · cases present.symm.trans listed
      exact changed before present
    · cases present.symm.trans listed
      exact sound.stays attaches present rfl

theorem Sound.modify {change : TerminalSession → TerminalSession}
    (same : ∀ session, state.sessions[number]? = some session →
      core (change session) = core session) : (state.modify number change).Sound := by
  apply sound.change (modify_sessions ..) rfl rfl rfl
  intro session present
  exact sound.stays rfl present (same session present)

theorem Sound.emit {frame : TerminalFrame} : (state.emit frame sent).Sound := by
  unfold Terminals.emit
  split_ifs
  · exact sound.keep rfl rfl rfl rfl
  · exact sound

/-! ## Pumps -/

theorem Sound.setPump {earlier phase : PumpPhase} (present : state.sessions[number]? = some session)
    (current : session.pump = earlier) (alive : phase.alive = earlier.alive)
    (pending : phase.pending = earlier.pending) (ahead : phase.ahead = earlier.ahead) :
    (state.setPump number phase).Sound := by
  apply sound.modify
  intro other found
  cases present.symm.trans found
  simp only [core, visible, current, alive, pending, ahead]

/-- The output of a read gets its number. -/
theorem Sound.count {data : Bytes} (present : state.sessions[number]? = some session)
    (reading : session.pump = .reading) (room : session.seq + 1 < 2 ^ 64) :
    (state.modify number fun session =>
      { session with
        seq := session.seq + 1
        pump := .counted ⟨session.seq + 1, data⟩ last }).Sound := by
  refine sound.change (modify_sessions ..) rfl rfl rfl ?_
  intro other found
  cases present.symm.trans found
  refine sound.keepsReplays rfl present ?_ ?_
  · rw [visible, visible, reading]
    rfl
  · have numbered := sound.numbered present
    have counter := numbered.counter
    rw [reading] at counter
    have next : session.seq + 1 = session.output.length + 1 := congrArg (· + 1) counter
    refine { numbered with counter := next, ahead := ?_, bounded := room }
    intro entry member
    rw [mem_singleton.mp member]
    exact next

end ChangedSessions

/-- The terminal after the pump has kept an entry. -/
def kept (entry : TerminalEntry) (last : Bool) (session : TerminalSession) : TerminalSession :=
  { session with
    buffer := session.buffer.append entry
    output := session.output ++ [entry]
    reattach := session.reattach.map (Reattach.produce entry)
    pump := .buffered entry last }

theorem numbered_kept (numbered : session.Numbered) (counted : session.pump = .counted entry last) :
    (kept entry last session).Numbered := by
  have counter := numbered.counter
  have ahead := numbered.ahead
  rw [counted] at counter ahead
  have seq : entry.seq = session.output.length + 1 := ahead entry (mem_singleton_self _)
  constructor
  · change (session.output ++ [entry]).map TerminalEntry.seq =
      range' 1 (session.output ++ [entry]).length
    rw [map_append, numbered.numbers, length_append, length_singleton,
      range'_1_concat, map_singleton, seq, Nat.add_comm]
  · change session.seq = (session.output ++ [entry]).length + 0
    rw [length_append]
    exact counter
  · rintro _ ⟨⟩
  · exact numbered.bounded
  · apply (TerminalBuffer.append_suffix _ _).trans
    rcases numbered.suffix with ⟨gone, split⟩
    refine ⟨gone, ?_⟩
    change gone ++ (session.buffer.entries ++ [entry]) = session.output ++ [entry]
    rw [← append_assoc, split]

/-- Once the call has its copy of the buffer, the terminal may change. -/
theorem stage_of_late {later : Reattach} (stage : Stage number session reattach call)
    (late : call.phase.session = some number → call.phase.early = false)
    (replayed : later.replayed = reattach.replayed) (evicted : later.evicted = reattach.evicted) :
    Stage number after later call ∧ remaining after call = remaining session call := by
  unfold Stage Flagged at stage ⊢
  rw [replayed, evicted]
  rcases call with ⟨id, afterSeq, phase⟩
  cases phase with
  | found | holding => cases late (congrArg some stage.1)
  | replaying | marking | returned => exact ⟨stage, rfl⟩
  | entered | missing => exact stage.elim

/-- A call that emits nothing more has nothing left to replay. -/
theorem remaining_of_silent (silent : call.phase.emits = false) : remaining session call = [] := by
  rcases call with ⟨id, afterSeq, phase⟩
  cases phase with
  | found | holding => cases silent
  | replaying =>
    rw [AttachPhase.emits, Bool.not_eq_false', List.isEmpty_iff] at silent
    exact silent
  | _ => rfl

theorem early_of_silent (silent : phase.emits = false) : phase.early = false := by
  cases phase with
  | found | holding => cases silent
  | _ => rfl

/-- A call that works on another terminal, or on none, has ended its replay. -/
theorem remaining_of_elsewhere (stage : Stage number session reattach call)
    (elsewhere : call.phase.session ≠ some number) : remaining session call = [] := by
  rcases call with ⟨id, afterSeq, phase⟩
  cases phase with
  | found | holding | replaying => exact absurd (congrArg some stage.1) elsewhere
  | _ => rfl

section KeepingReplays

variable (sound : state.Sound)

include sound

/-- The pump keeps its entry after every `Attach` at work has its copy. -/
theorem Sound.keepEntry (present : state.sessions[number]? = some session)
    (counted : session.pump = .counted entry last)
    (copied : state.noAttach number AttachPhase.early) :
    ((state.keep number session entry).setPump number (.buffered entry last)).Sound := by
  have alive : session.pump.alive = true := by
    rw [counted]
    rfl
  have numbered := sound.numbered present
  unfold Terminals.keep
  rw [(sound.listed present alive).2]
  refine sound.change (?_ : _ = state.sessions.modify number (kept entry last)) rfl rfl rfl ?_
  · change ((state.sessions.modify number _).modify number _).modify number _ = _
    rw [modify_modify_eq, modify_modify_eq]
    rfl
  · intro other found
    cases present.symm.trans found
    refine ⟨rfl, alive.symm, numbered_kept numbered counted, ?_⟩
    intro later observed alone unfailed
    rcases Option.map_eq_some_iff.mp observed with ⟨reattach, before, rfl⟩
    rcases sound.replays present before alone unfailed with ⟨call, replays⟩
    have late : call.phase.session = some number → call.phase.early = false :=
      copied call (mem_of_getElem? replays.called)
    have progress := replays.progress
    have same : Stage number (kept entry last session) (Reattach.produce entry reattach) call ∧
        remaining (kept entry last session) call = remaining session call :=
      stage_of_late replays.stage late rfl rfl
    refine ⟨call, replays.called, replays.sole, ?_, ?_, same.1⟩
    · change (reattach.retained ++ (reattach.produced ++ [entry])).Sublist
        (session.output ++ [entry])
      rw [← append_assoc]
      exact replays.wanted.append (List.Sublist.refl _)
    · change reattach.frames.map TerminalOutput.entry ++ remaining (kept entry last session) call ++
        [entry] = reattach.retained ++ (reattach.produced ++ [entry])
      rw [counted] at progress
      change reattach.frames.map TerminalOutput.entry ++ remaining session call ++ [] = _
        at progress
      rw [append_nil] at progress
      rw [same.2, progress, append_assoc]

/-- The terminal after its pump has emitted an entry. -/
def sentOut (frame : TerminalOutput) (passes : Bool) (phase : PumpPhase)
    (session : TerminalSession) : TerminalSession :=
  { session with
    reattach := session.reattach.map (Reattach.observe frame passes false)
    pump := phase }

namespace Sound

/-- The pump emits its entry after every `Attach` at work has ended its replay. -/
theorem emitEntry {phase : PumpPhase} (present : state.sessions[number]? = some session)
    (buffered : session.pump = .buffered entry last)
    (ended : state.noAttach number AttachPhase.emits) (alive : phase.alive = true)
    (pending : phase.pending = []) (ahead : phase.ahead = []) :
    ((state.emitOutput number ⟨session.id, entry.data, entry.seq, false⟩ sent false).setPump number
      phase).Sound := by
  let frame : TerminalOutput := ⟨session.id, entry.data, entry.seq, false⟩
  have listed : (state.emit (.output frame) sent).sessions[number]? = some session := by
    rw [sessions_emit]
    exact present
  refine sound.emit.change
    (?_ : _ = List.modify _ number (sentOut frame (sent && state.up) phase)) rfl rfl rfl ?_
  · change ((state.emit (.output frame) sent).sessions.modify number _).modify number _ = _
    rw [modify_modify_eq]
    rfl
  intro other found
  cases listed.symm.trans found
  refine ⟨rfl, ?_, ?_, ?_⟩
  · rw [buffered]
    exact alive
  · have numbered := sound.numbered present
    have counter := numbered.counter
    rw [buffered] at counter
    refine { numbered with counter := ?_, ahead := ?_ }
    · change session.seq = session.output.length + phase.ahead.length
      rw [ahead]
      exact counter
    · change ∀ entry ∈ phase.ahead, _
      rw [ahead]
      exact forall_mem_nil _
  · intro later observed alone unfailed
    rcases Option.map_eq_some_iff.mp observed with ⟨reattach, before, rfl⟩
    unfold Reattach.observe at alone unfailed ⊢
    by_cases passes : (sent && state.up) = true
    · rw [if_pos passes] at alone unfailed ⊢
      rcases sound.emit.replays listed before alone unfailed with ⟨call, replays⟩
      have silent : call.phase.session = some number → call.phase.emits = false := by
        apply ended call
        rw [← attaches_emit]
        exact mem_of_getElem? replays.called
      have none : remaining session call = [] := by
        by_cases here : call.phase.session = some number
        · exact remaining_of_silent (silent here)
        · exact remaining_of_elsewhere replays.stage here
      have progress := replays.progress
      rw [none, buffered, append_nil] at progress
      refine ⟨call, replays.called, replays.sole, replays.wanted, ?_, ?_⟩
      · change (reattach.frames ++ [frame]).map TerminalOutput.entry ++ remaining session call ++
          phase.pending = reattach.retained ++ reattach.produced
        rw [none, pending, append_nil, append_nil, map_append]
        exact progress
      · have late : call.phase.session = some number → call.phase.early = false :=
          fun here => early_of_silent (silent here)
        refine (stage_of_late replays.stage late ?_ ?_).1 <;> rfl
    · rw [if_neg passes] at unfailed
      cases unfailed

/-- The terminal is removed after every `Attach` at work has found the buffer. -/
theorem remove {exitCode : Int} {error : String} (present : state.sessions[number]? = some session)
    (waited : session.pump = .waited exitCode error)
    (found : state.noAttach number AttachPhase.seeks) :
    ({ state.setPump number (.removed exitCode error) with
      terms := state.terms.erase session.id
      buffers := state.buffers.erase session.id } : Terminals).Sound := by
  have alive : session.pump.alive = true := by
    rw [waited]
    rfl
  have own := sound.listed present alive
  constructor
  · intro id index entry
    have different : id ≠ session.id := by
      rintro rfl
      rw [AList.lookup_erase] at entry
      cases entry
    rw [AList.lookup_erase_ne different] at entry
    rcases sound.named entry with ⟨other, listed, named, living⟩
    have apart : number ≠ index := by
      rintro rfl
      rw [present] at listed
      cases listed
      exact different named.symm
    exact ⟨other, getElem?_modify_eq_some_iff.mpr ⟨other, listed, (if_neg apart).symm⟩, named,
      living⟩
  · intro index after listed living
    rcases of_getElem?_modify_eq_some listed with ⟨_, _, _, rfl⟩ | ⟨apart, earlier⟩
    · cases living
    · have entries := sound.listed earlier living
      have different : after.id ≠ session.id := by
        intro equal
        rw [equal, own.1] at entries
        exact apart (Option.some.inj entries.1)
      rw [AList.lookup_erase_ne different, AList.lookup_erase_ne different]
      exact entries
  · intro index after listed
    rcases of_getElem?_modify_eq_some listed with ⟨rfl, _, earlier, rfl⟩ | ⟨_, earlier⟩
    · cases present.symm.trans earlier
      have numbered := sound.numbered present
      have counter := numbered.counter
      rw [waited] at counter
      exact { numbered with counter := counter, ahead := forall_mem_nil _ }
    · exact sound.numbered earlier
  · intro call index member named
    change index < (state.sessions.modify number _).length
    rw [length_modify]
    exact sound.attended member named
  · intro index after reattach listed observed alone unfailed
    rcases of_getElem?_modify_eq_some listed with ⟨rfl, _, earlier, rfl⟩ | ⟨_, earlier⟩
    · cases present.symm.trans earlier
      rcases sound.replays present observed alone unfailed with ⟨call, replays⟩
      have progress := replays.progress
      rw [waited] at progress
      refine ⟨call, replays.called, replays.sole, replays.wanted, progress, ?_⟩
      refine stage_of_same replays.stage rfl rfl ?_
      intro seeking
      have sought := found call (mem_of_getElem? replays.called)
      rw [seeking] at sought
      cases sought rfl
    · rcases sound.replays earlier observed alone unfailed with ⟨call, replays⟩
      exact ⟨call, { replays with }⟩

theorem advancePump {outcome : PumpOutcome} (present : state.sessions[number]? = some session)
    (waits : state.PumpWaits number session.pump)
    (taken : state.advancePump number session outcome = some later) : later.Sound := by
  unfold Terminals.advancePump at taken
  generalize phase : session.pump = pump at taken waits
  cases pump with
  | reading =>
    by_cases empty : outcome.data = []
    · rw [if_pos empty] at taken
      cases taken
      exact sound.setPump present phase (alive_next _) (pending_next _) (ahead_next _)
    · rw [if_neg empty] at taken
      rcases guarded_eq_some_iff.mp taken with ⟨⟨_, room⟩, rfl⟩
      exact sound.count present phase room
  | counted =>
    cases taken
    exact sound.keepEntry present phase waits
  | buffered entry last =>
    cases taken
    apply sound.emitEntry present phase waits
    · split_ifs
      · rfl
      · exact alive_next last
    · split_ifs
      · rfl
      · exact pending_next last
    · split_ifs
      · rfl
      · exact ahead_next last
  | emitted =>
    cases taken
    apply sound.modify
    intro other found
    cases present.symm.trans found
    rw [core, core, visible, visible, phase]
    rfl
  | marking =>
    cases taken
    apply sound.modify
    intro other found
    cases present.symm.trans found
    simp only [core, visible, phase, alive_next, pending_next, ahead_next]
    rfl
  | ended =>
    cases taken
    exact sound.setPump present phase rfl rfl rfl
  | waited =>
    cases taken
    exact sound.remove present phase waits
  | removed =>
    cases taken
    refine sound.emit.setPump ?_ phase rfl rfl rfl
    rw [sessions_emit]
    exact present
  | finished => cases taken

/-! ## Calls of `Open` and `Attach` -/

/-- A terminal is entered in the maps. -/
theorem register {id : String} (fresh : id ∉ state.terms) : (state.register id now).Sound := by
  have size : (state.register id now).sessions.length = state.sessions.length + 1 := length_append
  have unknown : state.terms.lookup id = none := AList.lookup_eq_none.mpr fresh
  constructor
  · intro name number entry
    change (state.terms.insert id state.sessions.length).lookup name = _ at entry
    by_cases same : name = id
    · subst same
      rw [AList.lookup_insert] at entry
      cases entry
      exact ⟨_, getElem?_concat_eq_some_iff.mpr (.inr ⟨rfl, rfl⟩), rfl, rfl⟩
    · rw [AList.lookup_insert_ne same] at entry
      rcases sound.named entry with ⟨session, found, named, alive⟩
      exact ⟨session, getElem?_concat_eq_some_iff.mpr (.inl found), named, alive⟩
  · intro number session found alive
    change (state.terms.insert id state.sessions.length).lookup session.id = _ ∧
      (state.buffers.insert id state.sessions.length).lookup session.id = _
    rcases getElem?_concat_eq_some_iff.mp found with before | ⟨rfl, rfl⟩
    · have entries := sound.listed before alive
      have different : session.id ≠ id := by
        intro same
        rw [same, unknown] at entries
        cases entries.1
      rw [AList.lookup_insert_ne different, AList.lookup_insert_ne different]
      exact entries
    · rw [AList.lookup_insert, AList.lookup_insert]
      exact ⟨rfl, rfl⟩
  · intro number session found
    rcases getElem?_concat_eq_some_iff.mp found with before | ⟨rfl, rfl⟩
    · exact sound.numbered before
    · constructor
      · rfl
      · rfl
      · rintro _ ⟨⟩
      · exact Nat.two_pow_pos 64
      · exact suffix_rfl
  · intro call number member named
    rw [size]
    exact Nat.lt_succ_of_lt (sound.attended member named)
  · intro number session reattach found observed alone unfailed
    rcases getElem?_concat_eq_some_iff.mp found with before | ⟨_, rfl⟩
    · rcases sound.replays before observed alone unfailed with ⟨call, replays⟩
      exact ⟨call, { replays with }⟩
    · cases observed

theorem advanceOpen {call : OpenCall} {shell : Option String}
    (taken : state.advanceOpen index call shell now sent = some later) : later.Sound := by
  rcases state.advanceOpen_cases index taken with ⟨middle, id, phase, rfl, origin⟩
  have kept : middle.Sound := by
    rcases origin with rfl | ⟨began, fresh, rfl⟩ | ⟨error, rfl⟩
    · exact sound
    · exact sound.register fresh
    · exact sound.emit
  exact kept.keep rfl rfl rfl rfl

/-- A call of `Attach` begins. -/
theorem enter (entered : call.phase = .entered) :
    ({ state with attaches := state.attaches ++ [call] } : Terminals).Sound := by
  refine { sound with attended := ?_, replays := ?_ }
  · intro other number member named
    rcases mem_append.mp member with before | last
    · exact sound.attended before named
    · rw [mem_singleton.mp last, entered] at named
      cases named
  · intro number session reattach found observed alone unfailed
    rcases sound.replays found observed alone unfailed with ⟨own, replays⟩
    refine ⟨own, ?_, ?_, replays.wanted, replays.progress, replays.stage⟩
    · exact getElem?_concat_eq_some_iff.mpr (.inl replays.called)
    · intro index other listed named
      rcases getElem?_concat_eq_some_iff.mp listed with before | ⟨_, rfl⟩
      · exact replays.sole before named
      · rw [entered] at named
        cases named

/-- A call of `Attach` goes on without a change of the terminal. -/
theorem setAttach (present : state.attaches[index]? = some call)
    (same : ∀ number, phase.session = some number → call.phase.session = some number)
    (own : ∀ {number : Nat} {session reattach}, state.sessions[number]? = some session →
      state.Replays number session reattach call →
      remaining session { call with phase := phase } = remaining session call ∧
      Stage number session reattach { call with phase := phase }) :
    (state.setAttach index call phase).Sound := by
  refine { sound with attended := ?_, replays := ?_ }
  · intro other number member named
    rcases mem_or_eq_of_mem_set member with before | rfl
    · exact sound.attended before named
    · exact sound.attended (mem_of_getElem? present) (same number named)
  · intro number session reattach found observed alone unfailed
    rcases sound.replays found observed alone unfailed with ⟨before, replays⟩
    have sole : ∀ {position other},
        (state.setAttach index call phase).attaches[position]? = some other →
          other.phase.session = some number → position = reattach.call := by
      intro position other listed named
      rcases of_getElem?_set_eq_some listed with ⟨rfl, rfl⟩ | ⟨_, old⟩
      · exact replays.sole present (same number named)
      · exact replays.sole old named
    by_cases here : index = reattach.call
    · subst here
      have called := replays.called
      rw [present] at called
      cases called
      rcases own found replays with ⟨left, stage⟩
      refine ⟨_, List.getElem?_set_self (List.getElem?_eq_some_iff.mp present).1, sole,
        replays.wanted, ?_, stage⟩
      rw [left]
      exact replays.progress
    · exact ⟨before, (getElem?_set_ne here).trans replays.called, sole, replays.wanted,
        replays.progress, replays.stage⟩

/-- A call of `Attach` goes on, and the observer of its terminal sees it. -/
theorem observe {seen : TerminalSession → Option Reattach}
    (called : state.attaches[index]? = some call) (found : state.sessions[number]? = some session)
    (inside : ∀ other, phase.session = some other → other = number)
    (foreign : ∀ {other : Nat} {session reattach}, number ≠ other →
      ¬Stage other session reattach call)
    (own : ∀ reattach, seen session = some reattach → reattach.overlaps = false →
      reattach.failed = false → ∃ attach,
      (state.setAttach index call phase).Replays number
      { session with reattach := seen session } reattach attach) :
    ((state.modify number fun session => { session with reattach := seen session }).setAttach index
      call phase).Sound := by
  refine sound.update rfl rfl (length_modify ..) ?_ ?_
  · intro attach other member named
    rcases mem_or_eq_of_mem_set member with before | rfl
    · exact sound.attended before named
    · rw [inside other named]
      exact (List.getElem?_eq_some_iff.mp found).1
  · intro other before after present listed
    have numbered := sound.numbered present
    rcases of_getElem?_modify_eq_some listed with ⟨rfl, _, earlier, rfl⟩ | ⟨same, earlier⟩
    · cases present.symm.trans earlier
      cases present.symm.trans found
      refine ⟨rfl, rfl, { numbered with }, ?_⟩
      intro reattach observed alone unfailed
      rcases own reattach observed alone unfailed with ⟨attach, replays⟩
      exact ⟨attach, { replays with }⟩
    cases present.symm.trans earlier
    refine ⟨rfl, rfl, numbered, ?_⟩
    intro reattach observed alone unfailed
    rcases sound.replays present observed alone unfailed with ⟨attach, replays⟩
    have apart : index ≠ reattach.call := by
      rintro rfl
      cases called.symm.trans replays.called
      exact foreign same replays.stage
    refine ⟨attach,
      { replays with called := (getElem?_set_ne apart).trans replays.called, sole := ?_ }⟩
    intro position another listed named
    rcases of_getElem?_set_eq_some listed with ⟨_, rfl⟩ | ⟨_, old⟩
    · exact absurd (inside other named).symm same
    · exact replays.sole old named

/-- `Attach` has found its terminal, whose pump has nothing to emit. -/
theorem beginAttach (present : state.attaches[index]? = some call)
    (entered : call.phase = .entered) (entry : state.terms.lookup call.id = some number)
    (idle : ∀ session ∈ state.sessions[number]?, session.pump.pending = []) :
    (state.beginAttach index number call).Sound := by
  rcases sound.named entry with ⟨session, found, named, alive⟩
  apply sound.observe present found
  · intro other inside
    exact (Option.some.inj inside).symm
  · intro other _ _ _ stage
    unfold Stage at stage
    rw [entered] at stage
    exact stage
  · intro reattach observed alone _
    cases observed
    have free : state.unattended number = true := by
      rw [← Bool.not_eq_false']
      exact alone
    refine ⟨_, List.getElem?_set_self (List.getElem?_eq_some_iff.mp present).1, ?_, ?_, ?_, ?_⟩
    · intro position other listed working
      rcases of_getElem?_set_eq_some listed with ⟨here, _⟩ | ⟨_, old⟩
      · exact here.symm
      · have away := all_eq_true.mp free other (mem_of_getElem? old)
        exact absurd working (of_decide_eq_true away)
    · change ((session.buffer.entries.filter _) ++ []).Sublist session.output
      rw [append_nil]
      exact filter_sublist.trans (sound.numbered found).suffix.sublist
    · change [] ++ session.buffer.entries.filter _ ++ session.pump.pending =
        session.buffer.entries.filter _ ++ []
      rw [idle session found, nil_append]
    · exact ⟨rfl, named.symm, alive, rfl, rfl, rfl⟩

/-- `Attach` replays one entry. -/
theorem replayEntry {rest : List TerminalEntry} {truncated : Bool}
    (present : state.attaches[index]? = some call)
    (replaying : call.phase = .replaying number (entry :: rest) truncated) :
    ((state.emitOutput number ⟨call.id, entry.data, entry.seq, truncated⟩ sent true).setAttach index
      call (.replaying number rest false)).Sound := by
  let frame : TerminalOutput := ⟨call.id, entry.data, entry.seq, truncated⟩
  have working : call.phase.session = some number := congrArg AttachPhase.session replaying
  have called : (state.emit (.output frame) sent).attaches[index]? = some call := by
    rw [attaches_emit]
    exact present
  have inside := sound.attended (mem_of_getElem? present) working
  have found : (state.emit (.output frame) sent).sessions[number]? =
      some (state.sessions.get ⟨number, inside⟩) := by
    rw [sessions_emit]
    exact getElem?_eq_getElem inside
  apply sound.emit.observe called found
  · intro other named
    exact (Option.some.inj named).symm
  · intro other _ _ different stage
    unfold Stage at stage
    rw [replaying] at stage
    exact different stage.1
  · intro later observed alone unfailed
    rcases Option.map_eq_some_iff.mp observed with ⟨reattach, before, rfl⟩
    unfold Reattach.observe at alone unfailed ⊢
    by_cases passes : (sent && state.up) = true
    · rw [if_pos passes] at alone unfailed ⊢
      rcases sound.emit.replays found before alone unfailed with ⟨attach, replays⟩
      have here : index = reattach.call := replays.sole called working
      have same := replays.called
      rw [← here, called] at same
      cases same
      have stage := replays.stage
      have progress := replays.progress
      unfold Stage at stage
      unfold remaining at progress
      rw [replaying] at stage progress
      refine ⟨{ call with phase := .replaying number rest false }, ?_, ?_, replays.wanted, ?_, ?_⟩
      · exact here ▸ List.getElem?_set_self (List.getElem?_eq_some_iff.mp called).1
      · intro position other listed named
        rcases of_getElem?_set_eq_some listed with ⟨same, _⟩ | ⟨_, old⟩
        · exact same.symm.trans here
        · exact replays.sole old named
      · change (reattach.frames ++ [frame]).map TerminalOutput.entry ++ rest ++
          (state.sessions.get ⟨number, inside⟩).pump.pending =
            reattach.retained ++ reattach.produced
        rw [← progress, map_append]
        simp only [append_assoc, cons_append]
        rfl
      · refine ⟨rfl, ?_, ?_⟩
        · intro empty
          exact absurd empty (append_ne_nil_of_right_ne_nil _ (cons_ne_nil _ _))
        · -- The first replayed frame is this one, or it was emitted before.
          intro first head
          cases replayed : reattach.replayed with
          | nil =>
            rw [replayed] at head
            cases head
            exact stage.2.1 replayed (cons_ne_nil _ _)
          | cons =>
            rw [replayed] at head
            cases head
            apply stage.2.2 first
            rw [replayed]
            rfl
    · rw [if_neg passes] at unfailed
      cases unfailed

theorem advanceAttach (present : state.attaches[index]? = some call)
    (idle : call.phase = .entered → ∀ number ∈ state.terms.lookup call.id,
      ∀ session ∈ state.sessions[number]?, session.pump.pending = [])
    (taken : state.advanceAttach index call sent = some later) : later.Sound := by
  rcases call with ⟨terminal, afterSeq, phase⟩
  cases phase with
  | entered =>
    have ends : ∀ {next : AttachPhase}, next.session = none →
        (state.setAttach index ⟨terminal, afterSeq, .entered⟩ next).Sound := by
      intro next idleToo
      apply sound.setAttach present
      · intro number named
        cases idleToo.symm.trans named
      · intro number session reattach _ replays
        exact replays.stage.elim
    unfold Terminals.advanceAttach at taken
    by_cases blank : terminal = ""
    · rw [if_pos blank] at taken
      cases taken
      exact ends rfl
    rw [if_neg blank] at taken
    cases entry : state.terms.lookup terminal with
    | none =>
      rw [entry] at taken
      cases taken
      exact ends rfl
    | some number =>
      rw [entry] at taken
      cases taken
      exact sound.beginAttach present rfl entry (idle rfl number entry)
  | missing =>
    cases taken
    apply sound.emit.setAttach
    · rw [attaches_emit]
      exact present
    · rintro _ ⟨⟩
    · intro number session reattach _ replays
      exact replays.stage.elim
  | found number =>
    have own : ∀ {other : Nat} {session : TerminalSession} {reattach : Reattach},
        state.sessions[other]? = some session →
        state.Replays other session reattach ⟨terminal, afterSeq, .found number⟩ →
          other = number ∧ state.buffers.lookup terminal = some number ∧
            Fresh session reattach ⟨terminal, afterSeq, .found number⟩ := by
      intro other session reattach listed replays
      rcases replays.stage with ⟨rfl, rfl, alive, fresh⟩
      exact ⟨rfl, (sound.listed listed alive).2, fresh⟩
    unfold Terminals.advanceAttach at taken
    cases entry : state.buffers.lookup terminal with
    | none =>
      rw [entry] at taken
      cases taken
      apply sound.setAttach present
      · exact fun _ => id
      · intro other session reattach listed replays
        rw [entry] at own
        cases (own listed replays).2.1
    | some =>
      rw [entry] at taken
      cases taken
      apply sound.setAttach present
      · exact fun _ => id
      · intro other session reattach listed replays
        rcases own listed replays with ⟨rfl, same, fresh⟩
        rw [entry] at same
        cases same
        exact ⟨rfl, rfl, rfl, fresh.replayed, fresh.afterSeq, fresh.evicted⟩
  | holding number owner =>
    rcases Option.map_eq_some_iff.mp taken with ⟨copied, held, rfl⟩
    apply sound.setAttach present
    · exact fun _ => id
    · intro other session reattach listed replays
      rcases replays.stage with ⟨rfl, rfl, fresh⟩
      rw [listed] at held
      cases held
      refine ⟨TerminalBuffer.replay_fst _ _, rfl, ?_, ?_⟩
      · intro _ some
        rw [fresh.evicted, ← fresh.afterSeq]
        exact (sound.numbered listed).evicted_eq _ _ some
      · intro first head
        rw [fresh.replayed] at head
        cases head
  | replaying number rest truncated =>
    cases rest with
    | cons =>
      cases taken
      exact sound.replayEntry present rfl
    | nil =>
      cases taken
      have attached : (state.modify number fun session =>
          { session with attached := true }).Sound :=
        sound.modify fun _ _ => rfl
      apply attached.setAttach present
      · exact fun _ => id
      · intro other session reattach _ replays
        exact ⟨rfl, replays.stage.2.2⟩
  | marking number =>
    cases taken
    have cleared : (state.modify number fun session =>
        { session with detachedAt := 0 }).Sound :=
      sound.modify fun _ _ => rfl
    apply cleared.setAttach present
    · rintro _ ⟨⟩
    · intro other session reattach _ replays
      exact ⟨rfl, replays.stage⟩
  | returned => cases taken

/-! ## Runs -/

theorem reapDetached {now : Int} : (state.reapDetached now).Sound := by
  refine sound.update rfl rfl length_mapIdx sound.attended ?_
  intro number before after present found
  change (state.sessions.mapIdx _)[number]? = _ at found
  rw [getElem?_mapIdx, present, Option.map_some] at found
  refine sound.stays rfl present ?_
  rw [← Option.some.inj found]
  split_ifs <;> rfl

theorem advanceDetach {position : Nat} {call : DetachCall}
    (taken : state.advanceDetach index call position now = some later) : later.Sound := by
  have swapped : ∀ number, (state.modify number fun session =>
      { session with attached := false }).Sound :=
    fun _ => sound.modify fun _ _ => rfl
  have stamped : ∀ number, (state.modify number fun session =>
      { session with detachedAt := now.val }).Sound :=
    fun _ => sound.modify fun _ _ => rfl
  rcases call with ⟨phase, _⟩
  cases phase with
  | sweeping =>
    rcases Option.bind_eq_some_iff.mp taken with ⟨number, _, marked⟩
    rcases Option.map_eq_some_iff.mp marked with ⟨session, _, rfl⟩
    split_ifs
    · exact (swapped number).keep rfl rfl rfl rfl
    · exact sound.keep rfl rfl rfl rfl
  | storing number rest =>
    cases taken
    exact (stamped number).keep rfl rfl rfl rfl

theorem step {event : Event} (pauses : PumpPauses state event)
    (taken : Terminals.step state event = some later) : later.Sound := by
  cases event with
  | connect | drop | openTerminal | detachAll =>
    cases taken
    exact sound.keep rfl rfl rfl rfl
  | advanceOpen =>
    rcases Option.bind_eq_some_iff.mp taken with ⟨call, _, advanced⟩
    exact sound.advanceOpen advanced
  | attach =>
    cases taken
    exact sound.enter rfl
  | advanceAttach =>
    rcases Option.bind_eq_some_iff.mp taken with ⟨call, present, advanced⟩
    exact sound.advanceAttach present (pauses call present) advanced
  | advancePump =>
    rcases Option.bind_eq_some_iff.mp taken with ⟨session, present, advanced⟩
    exact sound.advancePump present (pauses session present) advanced
  | close id =>
    cases taken
    cases state.terms.lookup id with
    | none => exact sound
    | some => exact sound.modify fun _ _ => rfl
  | advanceDetach =>
    rcases Option.bind_eq_some_iff.mp taken with ⟨call, _, advanced⟩
    exact sound.advanceDetach advanced
  | reap =>
    cases taken
    exact sound.reapDetached

end Sound

end KeepingReplays

/-- The replayed frames have the right flag at every stage. -/
theorem flagged_of_stage (stage : Stage number session reattach call) : Flagged reattach := by
  have fresh : Fresh session reattach call → Flagged reattach := by
    intro fresh first head
    rw [fresh.replayed] at head
    cases head
  unfold Stage at stage
  split at stage
  · exact fresh stage.2.2.2
  · exact fresh stage.2.2
  · exact stage.2.2
  · exact stage
  · exact stage
  · exact stage.elim
  · exact stage.elim

theorem Sound.continues (sound : state.Sound) : state.Continues := by
  intro number session reattach found observed alone unfailed
  rcases sound.replays found observed alone unfailed with ⟨call, replays⟩
  have numbers :
      ((reattach.retained ++ reattach.produced).map TerminalEntry.seq).Pairwise (· < ·) :=
    (sound.numbered found).increasing.sublist (replays.wanted.map _)
  have sequences : reattach.frames.map TerminalOutput.sequence =
      (reattach.frames.map TerminalOutput.entry).map TerminalEntry.seq := by
    rw [map_map]
    rfl
  refine ⟨?_, ?_, flagged_of_stage replays.stage⟩
  · rw [← replays.progress, append_assoc, map_append] at numbers
    rw [sequences]
    exact (pairwise_append.mp numbers).1
  · rintro ⟨ended, emitted⟩ entry wanted _
    have progress := replays.progress
    rw [emitted, remaining_of_silent (ended call replays.called), append_nil,
      append_nil] at progress
    rw [← progress] at wanted numbers
    refine ⟨?_, wanted⟩
    rw [sequences]
    apply count_eq_one_of_mem
    · exact numbers.imp Nat.ne_of_lt
    · exact mem_map.mpr ⟨entry, wanted, rfl⟩

end ReplayInvariant

/-- In every run all of whose steps meet the condition, the output goes on after a
reattach. -/
theorem reattach_continues (state : Terminals) (reached : Reaches step PumpPauses new state) :
    state.Continues := by
  have sound : state.Sound :=
    reached.invariant (P := Sound) sound_new (fun _ sound pauses taken => sound.step pauses taken)
  exact sound.continues

/-- The sequence numbers of the frames since the latest `Attach`. -/
def seen (session : TerminalSession) : Option (List Nat) :=
  session.reattach.map fun reattach => reattach.frames.map TerminalOutput.sequence

/-- `Attach` replays the first chunk, and the pump emits the second. -/
theorem reattach_continues_resumed :
    ∃ state, Reaches step PumpPauses new state ∧ state.sessions.map seen = [some [1, 2]] ∧
      state.Continues := by
  refine exists_reaches_and_of_run
      (openedRun ++ [.advancePump 0 { data := [65] }, .advancePump 0 {}, .advancePump 0 {},
        .attach "t" 0, .advanceAttach 0 true, .advanceAttach 0 true, .advanceAttach 0 true,
        .advanceAttach 0 true, .advancePump 0 {}, .advancePump 0 {},
        .advancePump 0 { data := [66] }, .advancePump 0 {}, .advancePump 0 {}])
      (by decide +kernel) ?_
  intro state reached _
  exact reattach_continues state reached

/-- The pump has kept the first chunk in the buffer when `Attach` begins, and emits it
after `Attach` has replayed it. -/
theorem reattach_repeats :
    ∃ state, Reaches step unrestricted new state ∧ state.sessions.map seen = [some [1, 1]] ∧
      ¬state.Continues := by
  have run : ∃ state, Reaches step unrestricted new state ∧
      (state.sessions.map seen = [some [1, 1]] ∧
        (state.sessions[0]?).any (fun session => session.reattach.any fun reattach =>
          !reattach.overlaps && !reattach.failed &&
            reattach.frames.map TerminalOutput.sequence = [1, 1]) = true) :=
    exists_reaches_of_run
      (openedRun ++ [.advancePump 0 { data := [65] }, .advancePump 0 {}, .attach "t" 0,
        .advanceAttach 0 true, .advanceAttach 0 true, .advanceAttach 0 true, .advanceAttach 0 true,
        .advancePump 0 {}])
      (by decide +kernel)
  rcases run with ⟨state, reached, frames, clean⟩
  refine ⟨state, reached, frames, ?_⟩
  intro continues
  rcases (Option.any_eq_true _ _).mp clean with ⟨session, found, observed⟩
  rcases (Option.any_eq_true _ _).mp observed with ⟨reattach, given, facts⟩
  rw [Bool.and_eq_true_iff, Bool.and_eq_true_iff, Bool.not_eq_true', Bool.not_eq_true',
    decide_eq_true_iff] at facts
  rcases facts with ⟨⟨alone, unfailed⟩, repeated⟩
  have increasing := (continues 0 session reattach found given alone unfailed).1
  rw [repeated] at increasing
  exact absurd increasing (by decide)

end Terminals

end LubricantNodes.Agent
