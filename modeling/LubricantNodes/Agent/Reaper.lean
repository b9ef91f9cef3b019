import LubricantNodes.Agent.Terminals

/-!
# Unwatched terminals

`attached` and `detachedAt` are two atomic fields.  `markAttached` stores both, in
this order, after a frame was emitted and at the end of `Attach`; `markDetached`
swaps the first and then stores the second.  When the two run at the same time, a
terminal can end up attached after `DetachAll` has run, or detached without a time;
the reaper closes neither.  `detached_reapable` says for which runs every terminal
is closed in the end.
-/

namespace LubricantNodes.Agent

open Transition List

namespace DetachPhase

/-- The terminals that are not marked yet. -/
def rest : DetachPhase → List Nat
  | .sweeping rest | .storing _ rest => rest

/-- The terminal whose time is to be stored. -/
def target : DetachPhase → Option Nat
  | .sweeping _ => none
  | .storing session _ => some session

end DetachPhase

namespace Terminals

/-! ## The property and its condition -/

section DetachSpec

variable (state : Terminals)

/-- Every emit, `Open` and `Attach` that began before the call has finished. -/
structure Finished (call : DetachCall) : Prop where
  opens : ∀ index < call.opens, ∀ opening ∈ state.opens[index]?, opening.phase = .returned
  attaches : ∀ index < call.attaches, ∀ attach ∈ state.attaches[index]?,
    attach.phase = .returned
  emits : ∀ session ∈ state.sessions, session.pump.marks = false

/-- The stream is down, `DetachAll` began then and has run, and the emits and calls
that began before have finished: then every registered terminal is detached, and the
reaper closes it after the timeout. -/
def Reapable : Prop :=
  state.up = false → ∀ call ∈ state.detaches, call.down = true →
    call.connections = state.connections → call.returned = true → state.Finished call →
      ∀ id number session, state.terms.lookup id = some number →
        state.sessions[number]? = some session →
          session.attached = false ∧ session.detachedAt ≠ 0 ∧
            ∀ now, termDetachTimeout ≤ now - session.detachedAt →
              (state.reapDetached now).sessions[number]? = some { session with closed := true }

/-- No goroutine is about to mark the terminal as attached, or in the middle of
marking it as detached. -/
def Untouched (number : Nat) : Prop :=
  (∀ session ∈ state.sessions[number]?, session.pump.marks = false) ∧
    state.unattended number = true ∧
      ∀ call ∈ state.detaches, call.phase.target ≠ some number
  deriving Decidable

/-- The terminal that the next step of a call of `DetachAll` begins to mark. -/
def swaps (position : Nat) : DetachPhase → Option Nat
  | .sweeping rest => rest[position]?
  | .storing .. => none

/-- `DetachAll` begins to mark a terminal only when nobody else is marking it, and
`Attach` begins only when the stream is up. -/
def MarkedAlone : Discipline Terminals Event
  | state, .advanceAttach index _ =>
    ∀ call ∈ state.attaches[index]?, call.phase = .entered → state.up = true
  | state, .advanceDetach index position _ =>
    ∀ call ∈ state.detaches[index]?, ∀ number ∈ swaps position call.phase,
      state.Untouched number
  | _, _ => True

instance (event : Event) : Decidable (MarkedAlone state event) := by
  unfold MarkedAlone
  split <;> infer_instance

end DetachSpec

/-! ## The invariant -/

/-- A call of `DetachAll` has marked the terminal, or need not: it is detached, and
nobody else is about to change that. -/
structure Passed (state : Terminals) (index number : Nat) (session : TerminalSession) : Prop where
  detached : session.attached = false
  quiet : session.pump.marks = false
  unattended : state.unattended number = true
  only : ∀ other call, state.detaches[other]? = some call → call.phase.target = some number →
    other = index

/-- What the steps that meet the condition keep. -/
structure Tracked (state : Terminals) : Prop where
  registered : ∀ {id number}, state.terms.lookup id = some number →
    number < state.sessions.length
  attended : ∀ {call number}, call ∈ state.attaches → call.phase.session = some number →
    number < state.sessions.length
  stored : ∀ {call number}, call ∈ state.detaches → call.phase.target = some number →
    number < state.sessions.length
  stamped : ∀ {number session}, state.sessions[number]? = some session →
    session.attached = false → session.detachedAt ≠ 0 ∨
      ∃ call ∈ state.detaches, call.phase.target = some number
  pumped : ∀ {number : Nat} {session : TerminalSession} {last : Bool},
    state.sessions[number]? = some session → session.pump = .marking last →
      session.attached = true
  marked : ∀ {call number session}, call ∈ state.attaches → call.phase = .marking number →
    state.sessions[number]? = some session → session.attached = true
  bound : ∀ {call}, call ∈ state.detaches → call.connections ≤ state.connections
  past : ∀ {call}, call ∈ state.detaches → call.down = true → state.up = true →
    call.connections ≠ state.connections
  passed : state.up = false → ∀ {index call}, state.detaches[index]? = some call →
    call.down = true → call.connections = state.connections →
      ∀ {id number session}, state.terms.lookup id = some number →
        state.sessions[number]? = some session →
          number ∈ call.phase.rest ∨ state.Passed index number session

theorem tracked_new : new.Tracked where
  registered found := by cases found
  attended member := by cases member
  stored member := by cases member
  stamped found := by cases found
  pumped found := by cases found
  marked member := by cases member
  bound member := by cases member
  past member := by cases member
  passed _ _ _ found := by cases found

section MarkInvariant

variable {state : Terminals}

theorem unattended_iff {number : Nat} : state.unattended number = true ↔
      ∀ call ∈ state.attaches, call.phase.session ≠ some number := by
  simp [unattended]

/-- A terminal changes: the times and marks stay in order, and one that was passed
stays detached. -/
structure Follows (state : Terminals) (number : Nat) (before after : TerminalSession) : Prop where
  stamped : after.attached = false → after.detachedAt ≠ 0 ∨
    ∃ call ∈ state.detaches, call.phase.target = some number
  pumped : ∀ last, after.pump = .marking last → after.attached = true
  marked : ∀ call ∈ state.attaches, call.phase = .marking number → after.attached = true
  passed : state.up = false → before.attached = false → before.pump.marks = false →
    state.unattended number = true → after.attached = false ∧ after.pump.marks = false

variable {before after session : TerminalSession} {number : Nat} {later : Terminals}
  {phase : AttachPhase} {sent : Bool}
  {id : String}

/-- The terminals change, and of the rest only the frames, the calls of `Open` and the
map of buffers. -/
theorem Tracked.relate (tracked : state.Tracked) (terms : later.terms = state.terms)
    (attaches : later.attaches = state.attaches) (detaches : later.detaches = state.detaches)
    (up : later.up = state.up) (connections : later.connections = state.connections)
    (size : later.sessions.length = state.sessions.length)
    (each : ∀ number after, later.sessions[number]? = some after →
      ∃ before, state.sessions[number]? = some before ∧ state.Follows number before after) :
    later.Tracked := by
  constructor
  · rw [terms, size]
    exact tracked.registered
  · rw [attaches, size]
    exact tracked.attended
  · rw [detaches, size]
    exact tracked.stored
  · intro number session found
    rcases each number session found with ⟨_, _, follows⟩
    rw [detaches]
    exact follows.stamped
  · intro number session last found
    rcases each number session found with ⟨_, _, follows⟩
    exact follows.pumped last
  · intro call number session member phase found
    rcases each number session found with ⟨_, _, follows⟩
    rw [attaches] at member
    exact follows.marked call member phase
  · rw [detaches, connections]
    exact tracked.bound
  · rw [detaches, up, connections]
    exact tracked.past
  · intro down index call listed began current id number session entry found
    rcases each number session found with ⟨before, present, follows⟩
    rw [detaches] at listed
    rw [up] at down
    rw [terms] at entry
    rw [connections] at current
    rcases tracked.passed down listed began current entry present with left | past
    · exact .inl left
    rcases follows.passed down past.detached past.quiet past.unattended with ⟨detached, quiet⟩
    refine .inr ⟨detached, quiet, ?_, ?_⟩
    · rw [unattended, attaches]
      exact past.unattended
    · rw [detaches]
      exact past.only

/-- Both fields stay; the pump begins to mark only while the stream is up. -/
theorem Tracked.follows (tracked : state.Tracked)
    (present : state.sessions[number]? = some before) (attached : after.attached = before.attached)
    (detachedAt : after.detachedAt = before.detachedAt)
    (pump : after.pump = before.pump ∨ after.pump.marks = false ∨
      state.up = true ∧ ∃ last, after.pump = .emitted last) :
    state.Follows number before after := by
  constructor
  · rw [attached, detachedAt]
    exact tracked.stamped present
  · intro last phase
    rw [attached]
    rcases pump with same | quiet | ⟨_, other, emitted⟩
    · rw [same] at phase
      exact tracked.pumped present phase
    · rw [phase] at quiet
      cases quiet
    · rw [phase] at emitted
      cases emitted
  · intro call member phase
    rw [attached]
    exact tracked.marked member phase present
  · intro down detached quiet _
    rw [attached]
    rcases pump with same | still | ⟨up, _⟩
    · rw [same]
      exact ⟨detached, quiet⟩
    · exact ⟨detached, still⟩
    · rw [down] at up
      cases up

/-- A terminal is attached afterwards: it was before, or somebody is marking it. -/
theorem follows_of_attached (attached : after.attached = true)
    (busy : before.attached = true ∨ before.pump.marks = true ∨ state.unattended number = false) :
    state.Follows number before after where
  stamped detached := by cases attached.symm.trans detached
  pumped _ _ := attached
  marked _ _ _ := attached
  passed _ detached quiet free := by
    rcases busy with already | marks | attended
    · cases already.symm.trans detached
    · cases marks.symm.trans quiet
    · cases attended.symm.trans free

/-- Frames and calls of `Open` do not matter. -/
theorem Tracked.keep (tracked : state.Tracked) (sessions : later.sessions = state.sessions)
    (terms : later.terms = state.terms) (attaches : later.attaches = state.attaches)
    (detaches : later.detaches = state.detaches) (up : later.up = state.up)
    (connections : later.connections = state.connections) : later.Tracked := by
  apply tracked.relate terms attaches detaches up connections (congrArg length sessions)
  intro number session found
  rw [sessions] at found
  exact ⟨session, found, tracked.follows found rfl rfl (.inl rfl)⟩

theorem Tracked.modify {change : TerminalSession → TerminalSession} (tracked : state.Tracked)
    (changed : ∀ session, state.sessions[number]? = some session →
      state.Follows number session (change session)) : (state.modify number change).Tracked := by
  refine tracked.relate rfl rfl rfl rfl rfl (length_modify ..) ?_
  intro index session found
  rcases of_getElem?_modify_eq_some found with ⟨rfl, before, present, rfl⟩ | ⟨_, present⟩
  · exact ⟨before, present, changed before present⟩
  · exact ⟨session, present, tracked.follows present rfl rfl (.inl rfl)⟩

/-- A terminal is in nobody's past while a goroutine is about to mark it. -/
theorem Tracked.setAttach {index : Nat} {call : AttachCall} (tracked : state.Tracked)
    (present : state.attaches[index]? = some call)
    (attended : ∀ number, phase.session = some number → number < state.sessions.length)
    (marked : ∀ number session, phase = .marking number →
      state.sessions[number]? = some session → session.attached = true)
    (same : state.up = false → ∀ number, phase.session = some number →
      call.phase.session = some number) : (state.setAttach index call phase).Tracked := by
  refine { tracked with attended := ?_, marked := ?_, passed := ?_ }
  · intro other number member named
    rcases mem_or_eq_of_mem_set member with before | rfl
    · exact tracked.attended before named
    · exact attended number named
  · intro other number session member named found
    rcases mem_or_eq_of_mem_set member with before | rfl
    · exact tracked.marked before named found
    · exact marked number session named found
  · intro down other detach listed began current id number session entry found
    rcases tracked.passed down listed began current entry found with left | past
    · exact .inl left
    refine .inr ⟨past.detached, past.quiet, ?_, past.only⟩
    rw [unattended_iff]
    intro attach member named
    rcases mem_or_eq_of_mem_set member with before | rfl
    · exact unattended_iff.mp past.unattended attach before named
    · exact unattended_iff.mp past.unattended call (mem_of_getElem? present)
        (same down number named)

/-! ## Pumps -/

@[simp]
theorem marks_next (last : Bool) : (PumpPhase.next last).marks = false := by
  cases last <;> rfl

section KeepingMarks

variable (tracked : state.Tracked)

include tracked

namespace Tracked

theorem setPump {phase : PumpPhase}
    (quiet : phase.marks = false ∨ state.up = true ∧ ∃ last, phase = .emitted last) :
    (state.setPump number phase).Tracked := by
  apply tracked.modify
  intro session present
  exact tracked.follows present rfl rfl (.inr quiet)

theorem emit {frame : TerminalFrame} : (state.emit frame sent).Tracked := by
  unfold Terminals.emit
  split_ifs
  · exact tracked.keep rfl rfl rfl rfl rfl rfl
  · exact tracked

theorem emitOutput {frame : TerminalOutput} {replay : Bool} :
    (state.emitOutput number frame sent replay).Tracked := by
  apply tracked.emit.modify
  intro session present
  exact tracked.emit.follows present rfl rfl (.inl rfl)

theorem bufferOutput {entry : TerminalEntry} : (state.keep number session entry).Tracked := by
  unfold Terminals.keep
  cases state.buffers.lookup session.id with
  | none => exact tracked
  | some owner =>
    have appended : (state.modify owner fun target =>
        { target with buffer := target.buffer.append entry }).Tracked := by
      apply tracked.modify
      intro target present
      exact tracked.follows present rfl rfl (.inl rfl)
    apply appended.modify
    intro session present
    exact appended.follows present rfl rfl (.inl rfl)

/-- A terminal is removed from the maps. -/
theorem erase : ({ state with
      terms := state.terms.erase id
      buffers := state.buffers.erase id } : Terminals).Tracked := by
  have before : ∀ {other number}, (state.terms.erase id).lookup other = some number →
      state.terms.lookup other = some number := by
    intro other number entry
    by_cases same : other = id
    · subst same
      rw [AList.lookup_erase] at entry
      cases entry
    · rw [AList.lookup_erase_ne same] at entry
      exact entry
  refine { tracked with registered := ?_, passed := ?_ }
  · intro other number entry
    exact tracked.registered (before entry)
  · intro down index call listed began current other number session entry found
    rcases tracked.passed down listed began current (before entry) found with left | past
    · exact .inl left
    · exact .inr { past with }

theorem advancePump {outcome : PumpOutcome} (present : state.sessions[number]? = some session)
    (taken : state.advancePump number session outcome = some later) : later.Tracked := by
  unfold Terminals.advancePump at taken
  generalize phase : session.pump = pump at taken
  cases pump with
  | reading =>
    by_cases empty : outcome.data = []
    · rw [if_pos empty] at taken
      cases taken
      exact tracked.setPump (.inl (marks_next _))
    · rw [if_neg empty] at taken
      rcases guarded_eq_some_iff.mp taken with ⟨_, rfl⟩
      apply tracked.modify
      intro session present
      exact tracked.follows present rfl rfl (.inr (.inl rfl))
  | counted =>
    cases taken
    exact tracked.bufferOutput.setPump (.inl rfl)
  | buffered entry last =>
    cases taken
    apply tracked.emitOutput.setPump
    by_cases passes : (outcome.sent && state.up) = true
    · rw [if_pos passes]
      exact .inr ⟨up_emit.trans (Bool.and_eq_true_iff.mp passes).2, last, rfl⟩
    · rw [if_neg passes]
      exact .inl (marks_next last)
  | emitted =>
    cases taken
    apply tracked.modify
    intro other found
    cases present.symm.trans found
    exact follows_of_attached rfl (.inr (.inl (congrArg PumpPhase.marks phase)))
  | marking =>
    cases taken
    apply tracked.modify
    intro other found
    cases present.symm.trans found
    have attached := tracked.pumped present phase
    exact follows_of_attached attached (.inl attached)
  | ended =>
    cases taken
    exact tracked.setPump (.inl rfl)
  | waited exitCode error =>
    cases taken
    have moved : (state.setPump number (.removed exitCode error)).Tracked :=
      tracked.setPump (.inl rfl)
    exact moved.erase
  | removed =>
    cases taken
    exact tracked.emit.setPump (.inl rfl)
  | finished => cases taken

/-! ## Calls of `Open` and `Attach` -/

/-- A terminal is entered in the maps. -/
theorem register {now : Instant} : (state.register id now).Tracked := by
  have size : (state.register id now).sessions.length = state.sessions.length + 1 := length_append
  refine { tracked with
    registered := ?_, attended := ?_, stored := ?_, stamped := ?_, pumped := ?_, marked := ?_,
    passed := ?_ }
  · intro other number entry
    rw [size]
    change (state.terms.insert id state.sessions.length).lookup other = _ at entry
    by_cases same : other = id
    · subst same
      rw [AList.lookup_insert] at entry
      cases entry
      exact Nat.lt_succ_self _
    · rw [AList.lookup_insert_ne same] at entry
      exact Nat.lt_succ_of_lt (tracked.registered entry)
  · intro call number member named
    rw [size]
    exact Nat.lt_succ_of_lt (tracked.attended member named)
  · intro call number member named
    rw [size]
    exact Nat.lt_succ_of_lt (tracked.stored member named)
  · intro number session found detached
    rcases getElem?_concat_eq_some_iff.mp found with before | ⟨_, rfl⟩
    · exact tracked.stamped before detached
    · exact .inl now.property
  · intro number session last found phase
    rcases getElem?_concat_eq_some_iff.mp found with before | ⟨_, rfl⟩
    · exact tracked.pumped before phase
    · cases phase
  · intro call number session member phase found
    rcases getElem?_concat_eq_some_iff.mp found with before | ⟨rfl, _⟩
    · exact tracked.marked member phase before
    · have below := tracked.attended member (congrArg AttachPhase.session phase)
      exact absurd below (Nat.lt_irrefl _)
  · intro down index call listed began current other number session entry found
    rcases getElem?_concat_eq_some_iff.mp found with before | ⟨rfl, rfl⟩
    · change (state.terms.insert id state.sessions.length).lookup other = _ at entry
      have old : other ≠ id := by
        rintro rfl
        rw [AList.lookup_insert] at entry
        cases entry
        exact absurd (List.getElem?_eq_some_iff.mp before).1 (Nat.lt_irrefl _)
      rw [AList.lookup_insert_ne old] at entry
      rcases tracked.passed down listed began current entry before with left | past
      · exact .inl left
      · exact .inr { past with }
    · -- Nobody knows the number of the new terminal yet.
      refine .inr ⟨rfl, rfl, ?_, ?_⟩
      · rw [unattended_iff]
        intro attach member named
        exact absurd (tracked.attended member named) (Nat.lt_irrefl _)
      · intro position detach present named
        have below := tracked.stored (mem_of_getElem? present) named
        exact absurd below (Nat.lt_irrefl _)

end Tracked

variable {index : Nat} {call : AttachCall}

namespace Tracked

theorem advanceOpen {call : OpenCall} {shell : Option String} {now : Instant}
    (taken : state.advanceOpen index call shell now sent = some later) : later.Tracked := by
  rcases state.advanceOpen_cases index taken with ⟨middle, id, phase, rfl, origin⟩
  have kept : middle.Tracked := by
    rcases origin with rfl | ⟨began, fresh, rfl⟩ | ⟨error, rfl⟩
    · exact tracked
    · exact tracked.register
    · exact tracked.emit
  exact kept.keep rfl rfl rfl rfl rfl rfl

section Attaching

variable (present : state.attaches[index]? = some call)

include present

/-- A call of `Attach` that works on no terminal any more. -/
theorem leave (free : phase.session = none) : (state.setAttach index call phase).Tracked := by
  apply tracked.setAttach present
  · intro number named
    rw [free] at named
    cases named
  · intro number session marking
    rw [marking] at free
    cases free
  · intro _ number named
    rw [free] at named
    cases named

/-- A call of `Attach` that goes on with its terminal. -/
theorem proceed (before : call.phase.session = some number) (after : phase.session = some number)
    (marked : ∀ session, phase = .marking number → state.sessions[number]? = some session →
      session.attached = true) : (state.setAttach index call phase).Tracked := by
  have inside := tracked.attended (mem_of_getElem? present) before
  apply tracked.setAttach present
  · intro other named
    rw [after] at named
    cases named
    exact inside
  · intro other session marking
    have same : other = number := by
      rw [marking] at after
      exact Option.some.inj after
    subst same
    exact marked session marking
  · intro _ other named
    rw [after] at named
    cases named
    exact before

theorem beginAttach (up : state.up = true) (entry : state.terms.lookup call.id = some number) :
    (state.beginAttach index number call).Tracked := by
  have observed : (state.modify number fun session =>
      { session with
        reattach := some (session.observed index call.afterSeq (!state.unattended number))
      }).Tracked := by
    apply tracked.modify
    intro session found
    exact tracked.follows found rfl rfl (.inl rfl)
  apply observed.setAttach present
  · intro other named
    cases named
    exact (length_modify ..).symm ▸ tracked.registered entry
  · rintro _ _ ⟨⟩
  · intro down
    cases up.symm.trans down

theorem advanceAttach (markedAlone : call.phase = .entered → state.up = true)
    (taken : state.advanceAttach index call sent = some later) : later.Tracked := by
  rcases call with ⟨terminal, afterSeq, phase⟩
  have member := mem_of_getElem? present
  cases phase with
  | entered =>
    unfold Terminals.advanceAttach at taken
    by_cases blank : terminal = ""
    · rw [if_pos blank] at taken
      cases taken
      exact tracked.leave present rfl
    rw [if_neg blank] at taken
    cases entry : state.terms.lookup terminal with
    | none =>
      rw [entry] at taken
      cases taken
      exact tracked.leave present rfl
    | some =>
      rw [entry] at taken
      cases taken
      exact tracked.beginAttach present (markedAlone rfl) entry
  | missing =>
    cases taken
    apply tracked.emit.leave _ rfl
    rw [attaches_emit]
    exact present
  | found number =>
    unfold Terminals.advanceAttach at taken
    cases entry : state.buffers.lookup terminal with
    | none | some =>
      rw [entry] at taken
      cases taken
      apply tracked.proceed present rfl rfl
      rintro _ ⟨⟩
  | holding =>
    rcases Option.map_eq_some_iff.mp taken with ⟨session, _, rfl⟩
    apply tracked.proceed present rfl rfl
    rintro _ ⟨⟩
  | replaying number rest truncated =>
    cases rest with
    | cons =>
      cases taken
      apply tracked.emitOutput.proceed _ rfl rfl
      · rintro _ ⟨⟩
      · exact (congrArg (·[index]?) attaches_emit).trans present
    | nil =>
      cases taken
      have attached : (state.modify number fun session =>
          { session with attached := true }).Tracked := by
        apply tracked.modify
        intro session found
        apply follows_of_attached rfl (.inr (.inr _))
        rw [← Bool.not_eq_true, unattended_iff]
        intro free
        exact free _ member rfl
      apply attached.proceed present rfl rfl
      intro session _ found
      rcases getElem?_modify_eq_some_iff.mp found with ⟨earlier, _, rfl⟩
      rw [if_pos rfl]
  | marking number =>
    cases taken
    have cleared : (state.modify number fun session =>
        { session with detachedAt := 0 }).Tracked := by
      apply tracked.modify
      intro session found
      have attached : session.attached = true := tracked.marked member rfl found
      exact follows_of_attached attached (.inl attached)
    exact cleared.leave present rfl
  | returned => cases taken

end Attaching

/-! ## Calls of `DetachAll` -/

theorem beginDetach : state.beginDetach.Tracked := by
  have members : ∀ {call}, call ∈ state.beginDetach.detaches →
      call ∈ state.detaches ∨ call.down = (!state.up) ∧ call.connections = state.connections ∧
        call.phase = .sweeping (state.terms.entries.map Sigma.snd) := by
    intro call member
    rcases mem_append.mp member with before | last
    · exact .inl before
    · rw [mem_singleton.mp last]
      exact .inr ⟨rfl, rfl, rfl⟩
  refine { tracked with stored := ?_, stamped := ?_, bound := ?_, past := ?_, passed := ?_ }
  · intro call number member named
    rcases members member with before | ⟨_, _, phase⟩
    · exact tracked.stored before named
    · rw [phase] at named
      cases named
  · intro number session found detached
    rcases tracked.stamped found detached with nonzero | ⟨call, member, named⟩
    · exact .inl nonzero
    · exact .inr ⟨call, mem_append_left _ member, named⟩
  · intro call member
    rcases members member with before | ⟨_, same, _⟩
    · exact tracked.bound before
    · exact Nat.le_of_eq same
  · intro call member began up
    rcases members member with before | ⟨down, _⟩
    · exact tracked.past before began up
    · change state.up = true at up
      rw [down, up] at began
      cases began
  · intro down index call listed began current id number session entry found
    rcases getElem?_concat_eq_some_iff.mp listed with before | ⟨_, rfl⟩
    · rcases tracked.passed down before began current entry found with left | past
      · exact .inl left
      · refine .inr ⟨past.detached, past.quiet, past.unattended, ?_⟩
        intro other detach present named
        rcases getElem?_concat_eq_some_iff.mp present with earlier | ⟨_, rfl⟩
        · exact past.only other detach earlier named
        · cases named
    · apply Or.inl
      apply mem_map.mpr
      exact ⟨⟨id, number⟩, AList.mem_lookup_iff.mp entry, rfl⟩

end Tracked

end KeepingMarks

section DetachAllCalls

variable {index number position : Nat} {call : DetachCall} {rest : List Nat}

theorem mem_eraseIdx_or (listed : rest[position]? = some number) {other : Nat}
    (member : other ∈ rest) : other ∈ rest.eraseIdx position ∨ other = number := by
  rcases mem_iff_getElem?.mp member with ⟨place, found⟩
  by_cases same : place = position
  · subst same
    rw [listed] at found
    exact .inr (Option.some.inj found).symm
  · apply Or.inl
    apply mem_eraseIdx_iff_getElem?.mpr
    exact ⟨place, same, found⟩

/-- The calls keep their dates. -/
theorem of_mem_setDetach {phase : DetachPhase} {other : DetachCall} (member : call ∈ state.detaches)
    (listed : other ∈ (state.setDetach index call phase).detaches) :
    ∃ before ∈ state.detaches, other.connections = before.connections ∧
      other.down = before.down := by
  rcases mem_or_eq_of_mem_set listed with old | rfl
  · exact ⟨other, old, rfl, rfl⟩
  · exact ⟨call, member, rfl, rfl⟩

section DetachAllSteps

variable (tracked : state.Tracked) (present : state.detaches[index]? = some call)

include tracked present

/-- A call goes on: it has stored the time it was to store, and it begins to mark only a
terminal that is attached. -/
theorem Tracked.setDetach (phase : DetachPhase)
    (begins : ∀ number, phase.target = some number → call.phase.target = some number ∨
      ∃ session, state.sessions[number]? = some session ∧ session.attached = true)
    (stamped : ∀ {number session}, state.sessions[number]? = some session →
      call.phase.target = some number → session.detachedAt ≠ 0 ∨ phase.target = some number)
    (left : ∀ {number session}, state.sessions[number]? = some session →
      number ∈ call.phase.rest → number ∈ phase.rest ∨ state.Passed index number session) :
    (state.setDetach index call phase).Tracked := by
  have member := mem_of_getElem? present
  have only : ∀ {position number session}, state.sessions[number]? = some session →
      state.Passed position number session →
        (state.setDetach index call phase).Passed position number session := by
    intro position number session found past
    refine ⟨past.detached, past.quiet, past.unattended, ?_⟩
    intro other detach listed named
    rcases of_getElem?_set_eq_some listed with ⟨rfl, rfl⟩ | ⟨_, before⟩
    · rcases begins number named with same | ⟨again, foundToo, attached⟩
      · exact past.only _ call present same
      · rw [found] at foundToo
        cases foundToo
        cases attached.symm.trans past.detached
    · exact past.only other detach before named
  refine { tracked with stored := ?_, stamped := ?_, bound := ?_, past := ?_, passed := ?_ }
  · intro other number listed named
    rcases mem_or_eq_of_mem_set listed with before | rfl
    · exact tracked.stored before named
    · rcases begins number named with same | ⟨_, found, _⟩
      · exact tracked.stored member same
      · exact (List.getElem?_eq_some_iff.mp found).1
  · intro number session found detached
    rcases tracked.stamped found detached with nonzero | ⟨other, listed, named⟩
    · exact .inl nonzero
    by_cases same : other = call
    · subst same
      rcases stamped found named with nonzero | still
      · exact .inl nonzero
      · exact .inr ⟨_, List.mem_set (List.getElem?_eq_some_iff.mp present).1 _, still⟩
    · exact .inr ⟨other, mem_set_of_ne listed present same, named⟩
  · intro other listed
    rcases of_mem_setDetach member listed with ⟨before, old, same, _⟩
    rw [same]
    exact tracked.bound old
  · intro other listed
    rcases of_mem_setDetach member listed with ⟨before, old, same, began⟩
    rw [same, began]
    exact tracked.past old
  · intro down position other listed began current id number session entry found
    rcases of_getElem?_set_eq_some listed with ⟨rfl, rfl⟩ | ⟨_, before⟩
    · rcases tracked.passed down present began current entry found with ahead | past
      · exact (left found ahead).imp_right (only found)
      · exact .inr (only found past)
    · exact (tracked.passed down before began current entry found).imp_right (only found)

/-- `markDetached` of a terminal that is detached already. -/
theorem Tracked.skip {session : TerminalSession} (phase : call.phase = .sweeping rest)
    (listed : rest[position]? = some number)
    (found : state.sessions[number]? = some session) (detached : session.attached = false)
    (untouched : state.Untouched number) :
    (state.setDetach index call (.sweeping (rest.eraseIdx position))).Tracked := by
  apply tracked.setDetach present _
  · rintro _ ⟨⟩
  · intro other _ _ named
    rw [phase] at named
    cases named
  · intro other otherSession otherFound ahead
    rw [phase] at ahead
    rcases mem_eraseIdx_or listed ahead with still | rfl
    · exact .inl still
    · rw [found] at otherFound
      cases otherFound
      refine .inr ⟨detached, untouched.1 session found, untouched.2.1, ?_⟩
      intro place detach stored named
      exact absurd named (untouched.2.2 detach (mem_of_getElem? stored))

/-- `markDetached` of an attached terminal: the time is stored. -/
theorem Tracked.stamp {now : Instant} (phase : call.phase = .storing number rest) :
    ((state.modify number fun session => { session with detachedAt := now.val }).setDetach index
      call (.sweeping rest)).Tracked := by
  have stamped : (state.modify number fun session =>
      { session with detachedAt := now.val }).Tracked := by
    apply tracked.modify
    intro session found
    have same : state.Follows number session session := tracked.follows found rfl rfl (.inl rfl)
    exact ⟨fun _ => .inl now.property, same.pumped, same.marked, same.passed⟩
  apply stamped.setDetach present _
  · rintro _ ⟨⟩
  · intro other session found named
    rw [phase] at named
    cases named
    rcases getElem?_modify_eq_some_iff.mp found with ⟨before, _, rfl⟩
    rw [if_pos rfl]
    exact .inl now.property
  · intro other session _ ahead
    rw [phase] at ahead
    exact .inl ahead

/-- `markDetached` of an attached terminal: the swap. -/
theorem Tracked.swap {session : TerminalSession} (phase : call.phase = .sweeping rest)
    (listed : rest[position]? = some number)
    (found : state.sessions[number]? = some session) (attached : session.attached = true)
    (untouched : state.Untouched number) :
    ((state.modify number fun session => { session with attached := false }).setDetach index call
      (.storing number (rest.eraseIdx position))).Tracked := by
  -- The terminal is named, then it is detached, and then it is taken off the list.
  have named : (state.setDetach index call (.storing number rest)).Tracked := by
    apply tracked.setDetach present _
    · rintro _ ⟨⟩
      exact .inr ⟨session, found, attached⟩
    · intro other _ _ targeted
      rw [phase] at targeted
      cases targeted
    · intro other _ _ ahead
      rw [phase] at ahead
      exact .inl ahead
  have inside := (List.getElem?_eq_some_iff.mp present).1
  have swapped : ((state.setDetach index call (.storing number rest)).modify number fun session =>
      { session with attached := false }).Tracked := by
    apply named.modify
    intro before earlier
    constructor
    · intro _
      exact .inr ⟨_, mem_set inside _, rfl⟩
    · intro last pump
      have quiet := untouched.1 before earlier
      rw [show before.pump = _ from pump] at quiet
      cases quiet
    · intro attach attending marking
      have busy := unattended_iff.mp untouched.2.1 attach attending
      rw [marking] at busy
      exact absurd rfl busy
    · intro _ _ quiet _
      exact ⟨rfl, quiet⟩
  have taken := swapped.setDetach (getElem?_set_self inside)
    (.storing number (rest.eraseIdx position)) (fun _ => .inl) (fun _ => .inr)
  simp only [Terminals.setDetach, Terminals.modify, set_set] at taken
  apply taken
  intro other later changed ahead
  rcases getElem?_modify_eq_some_iff.mp changed with ⟨before, earlier, rfl⟩
  rcases mem_eraseIdx_or listed ahead with still | rfl
  · exact .inl still
  rw [if_pos rfl]
  refine .inr ⟨rfl, untouched.1 before earlier, untouched.2.1, ?_⟩
  intro place detach stored targeted
  rcases of_getElem?_set_eq_some stored with ⟨here, _⟩ | ⟨_, old⟩
  · exact here.symm
  · exact absurd targeted (untouched.2.2 detach (mem_of_getElem? old))

theorem Tracked.advanceDetach {now : Instant} {later : Terminals}
    (markedAlone : ∀ number ∈ swaps position call.phase, state.Untouched number)
    (taken : state.advanceDetach index call position now = some later) : later.Tracked := by
  rcases call with ⟨phase, _⟩
  cases phase with
  | sweeping =>
    rcases Option.bind_eq_some_iff.mp taken with ⟨number, listed, marked⟩
    rcases Option.map_eq_some_iff.mp marked with ⟨session, found, rfl⟩
    by_cases attached : session.attached = true
    · rw [if_pos attached]
      exact tracked.swap present rfl listed found attached (markedAlone number listed)
    · rw [if_neg attached]
      exact tracked.skip present rfl listed found (eq_false_of_ne_true attached)
        (markedAlone number listed)
  | storing =>
    cases taken
    exact tracked.stamp present rfl

end DetachAllSteps

end DetachAllCalls

/-! ## Runs -/

namespace Tracked

section MarkedRuns

variable (tracked : state.Tracked)

include tracked

/-- A terminal is killed. -/
theorem kill {number : Nat} :
    (state.modify number fun session => { session with closed := true }).Tracked := by
  apply tracked.modify
  intro session found
  exact tracked.follows found rfl rfl (.inl rfl)

theorem reapDetached {now : Int} : (state.reapDetached now).Tracked := by
  refine tracked.relate rfl rfl rfl rfl rfl length_mapIdx ?_
  intro number session found
  change (state.sessions.mapIdx _)[number]? = _ at found
  rw [getElem?_mapIdx] at found
  rcases Option.map_eq_some_iff.mp found with ⟨before, present, rfl⟩
  refine ⟨before, present, ?_⟩
  split_ifs <;> exact tracked.follows present rfl rfl (.inl rfl)

theorem connect :
    ({ state with up := true, connections := state.connections + 1 } : Terminals).Tracked := by
  refine { tracked with bound := ?_, past := ?_, passed := ?_ }
  · intro call member
    exact Nat.le_succ_of_le (tracked.bound member)
  · intro call member _ _
    exact Nat.ne_of_lt (Nat.lt_succ_of_le (tracked.bound member))
  · rintro ⟨⟩

theorem drop : ({ state with up := false } : Terminals).Tracked := by
  refine { tracked with past := ?_, passed := ?_ }
  · rintro _ _ _ ⟨⟩
  · intro _ index call listed began current id number session entry found
    cases up : state.up with
    | true => exact absurd current (tracked.past (mem_of_getElem? listed) began up)
    | false =>
      rcases tracked.passed up listed began current entry found with left | past
      · exact .inl left
      · exact .inr { past with }

/-- A call of `Attach` begins. -/
theorem enter {call : AttachCall} (entered : call.phase = .entered) :
    ({ state with attaches := state.attaches ++ [call] } : Terminals).Tracked := by
  have members : ∀ {other}, other ∈ state.attaches ++ [call] →
      other ∈ state.attaches ∨ other.phase = .entered := by
    intro other member
    rcases mem_append.mp member with before | last
    · exact .inl before
    · rw [mem_singleton.mp last]
      exact .inr entered
  refine { tracked with attended := ?_, marked := ?_, passed := ?_ }
  · intro other number member named
    rcases members member with before | fresh
    · exact tracked.attended before named
    · rw [fresh] at named
      cases named
  · intro other number session member marking
    rcases members member with before | fresh
    · exact tracked.marked before marking
    · rw [fresh] at marking
      cases marking
  · intro down index detach listed began current id number session entry found
    rcases tracked.passed down listed began current entry found with left | past
    · exact .inl left
    refine .inr ⟨past.detached, past.quiet, ?_, past.only⟩
    rw [unattended_iff]
    intro other member named
    rcases members member with before | fresh
    · exact unattended_iff.mp past.unattended other before named
    · rw [fresh] at named
      cases named

theorem step {event : Event} (markedAlone : MarkedAlone state event)
    (taken : Terminals.step state event = some later) : later.Tracked := by
  cases event with
  | connect =>
    cases taken
    exact tracked.connect
  | drop =>
    cases taken
    exact tracked.drop
  | openTerminal =>
    cases taken
    exact tracked.keep rfl rfl rfl rfl rfl rfl
  | advanceOpen =>
    rcases Option.bind_eq_some_iff.mp taken with ⟨call, _, advanced⟩
    exact tracked.advanceOpen advanced
  | attach =>
    cases taken
    exact tracked.enter rfl
  | advanceAttach =>
    rcases Option.bind_eq_some_iff.mp taken with ⟨call, present, advanced⟩
    exact tracked.advanceAttach present (markedAlone call present) advanced
  | advancePump =>
    rcases Option.bind_eq_some_iff.mp taken with ⟨session, present, advanced⟩
    exact tracked.advancePump present advanced
  | close id =>
    cases taken
    cases state.terms.lookup id with
    | none => exact tracked
    | some => exact tracked.kill
  | detachAll =>
    cases taken
    exact tracked.beginDetach
  | advanceDetach =>
    rcases Option.bind_eq_some_iff.mp taken with ⟨call, present, advanced⟩
    exact tracked.advanceDetach present (markedAlone call present) advanced
  | reap =>
    cases taken
    exact tracked.reapDetached

end MarkedRuns

end Tracked

/-- The reaper closes a registered terminal whose time is over. -/
theorem reapDetached_closes {number : Nat} {now : Int} (entry : state.terms.lookup id = some number)
    (found : state.sessions[number]? = some session) (nonzero : session.detachedAt ≠ 0)
    (late : termDetachTimeout ≤ now - session.detachedAt) :
    (state.reapDetached now).sessions[number]? = some { session with closed := true } := by
  have listed : number ∈ state.terms.entries.map Sigma.snd :=
    mem_map.mpr ⟨⟨id, number⟩, AList.mem_lookup_iff.mp entry, rfl⟩
  have due : overdue now session = true := by
    simp [overdue, nonzero, late]
  change (state.sessions.mapIdx _)[number]? = _
  rw [getElem?_mapIdx, found, Option.map_some, if_pos ⟨listed, due⟩]

theorem Tracked.reapable (tracked : state.Tracked) : state.Reapable := by
  intro down call member began current returned _ id number session entry found
  rcases mem_iff_getElem?.mp member with ⟨index, listed⟩
  have isOver : call.phase.rest = [] ∧ call.phase.target = none := by
    unfold DetachCall.returned at returned
    split at returned
    next phase =>
      rw [phase]
      exact ⟨rfl, rfl⟩
    next => cases returned
  rcases tracked.passed down listed began current entry found with left | past
  · rw [isOver.1] at left
    cases left
  have nonzero : session.detachedAt ≠ 0 := by
    rcases tracked.stamped found past.detached with nonzero | ⟨other, stores, named⟩
    · exact nonzero
    · -- Only the call itself could be about to store the time, and it has returned.
      rcases mem_iff_getElem?.mp stores with ⟨position, place⟩
      have same := past.only position other place named
      subst same
      rw [listed] at place
      cases place
      cases isOver.2.symm.trans named
  refine ⟨past.detached, nonzero, ?_⟩
  intro now late
  exact reapDetached_closes entry found nonzero late

end MarkInvariant

/-- In every run all of whose steps meet the condition, the reaper closes every
terminal that was left behind by a dropped stream. -/
theorem detached_reapable (state : Terminals) (reached : Reaches step MarkedAlone new state) :
    state.Reapable := by
  have tracked : state.Tracked := reached.invariant (P := Tracked) tracked_new
      (fun _ tracked markedAlone taken => tracked.step markedAlone taken)
  exact tracked.reapable

/-- A terminal is opened and emits a frame. -/
def watchedRun : List Event :=
  openedRun ++ [.advancePump 0 { data := [65] }, .advancePump 0 {}, .advancePump 0 {},
    .advancePump 0 {}, .advancePump 0 {}]

/-- The pump ends `markAttached` before `DetachAll` begins. -/
theorem detached_reapable_idle : ∃ state, Reaches step MarkedAlone new state ∧ state.up = false ∧
      (state.sessions.map fun session => (session.attached, session.detachedAt)) = [(false, 12)] ∧
        state.Reapable := by
  refine exists_reaches_imp_of_run (fun state => state.up = false ∧
        (state.sessions.map fun session => (session.attached, session.detachedAt)) = [(false, 12)])
      (watchedRun ++ [.drop, .detachAll, .advanceDetach 0 0 noon, .advanceDetach 0 0 noon])
      (by decide +kernel) ?_
  rintro state reached ⟨down, flags⟩
  exact ⟨down, flags, detached_reapable state reached⟩

/-- The pump has emitted a frame, the stream drops, `DetachAll` runs, and then the pump
ends `markAttached`: nothing is in progress, and the terminal stays attached. -/
theorem detached_unreapable : ∃ state, Reaches step unrestricted new state ∧ ¬state.Reapable := by
  refine exists_reaches_imp_of_run (fun state => state.up = false ∧
        state.terms.lookup "t" = some 0 ∧
        (state.sessions[0]?).any (fun session => session.attached) = true ∧
        state.detaches = [⟨.sweeping [], true, 1, 1, 0⟩] ∧ state.connections = 1 ∧
        state.opens = [⟨"t", .returned⟩] ∧
        state.sessions.all (fun session => !session.pump.marks) = true)
      (watchedRun ++ [.advancePump 0 { data := [66] }, .advancePump 0 {}, .advancePump 0 {}, .drop,
        .detachAll, .advanceDetach 0 0 noon, .advanceDetach 0 0 noon, .advancePump 0 {},
        .advancePump 0 {}])
      (by decide +kernel) ?_
  rintro state reached ⟨down, entry, watched, calls, connected, opens, quiet⟩ reapable
  rcases (Option.any_eq_true _ _).mp watched with ⟨session, found, attached⟩
  have finished : state.Finished ⟨.sweeping [], true, 1, 1, 0⟩ := by
    constructor
    · intro index _ opening listed
      rw [opens] at listed
      rw [mem_singleton.mp (mem_of_getElem? listed)]
    · intro index below
      exact absurd below (Nat.not_lt_zero index)
    · intro other member
      have silent := all_eq_true.mp quiet other member
      rw [Bool.not_eq_true'] at silent
      exact silent
  have member : (⟨.sweeping [], true, 1, 1, 0⟩ : DetachCall) ∈ state.detaches := by
    rw [calls]
    exact mem_singleton_self _
  have detached := (reapable down _ member rfl connected.symm rfl finished "t" 0 session entry
    found).1
  cases attached.symm.trans detached

end Terminals

end LubricantNodes.Agent
