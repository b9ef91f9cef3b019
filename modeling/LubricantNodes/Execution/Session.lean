import LubricantNodes.Execution.Queue
import LubricantNodes.Execution.Inbox
import LubricantNodes.Execution.Lifecycle

/-!
# Sessions

A session object is the synchronous product of its lifecycle, its output queue
and its inbox: every action of one of its goroutines is a step of the
lifecycle, together with at most one step of the queue and at most one of the
inbox.
-/

namespace LubricantNodes.Execution

open Transition Go Option Lifecycle

/-- `nodeSession`. -/
structure Session where
  spec : CreateSession
  life : Lifecycle
  queue : OutputQueue
  inbox : Inbox

namespace Session

/-- The session `create` builds and registers. -/
def new (spec : CreateSession) : Session where
  spec := spec
  life := .new
  queue := .new
  inbox := .new

/-- `session.id`. -/
def id (session : Session) : String :=
  trimSpace session.spec.sessionId

/-- The part of an action that happens in the output queue. -/
def output : SessionEvent → Option OutputQueue.Event
  | .run index .startQueue => some (.start index)
  | .run _ (.append data stream time) => some (.append data stream time)
  | .run _ .stopQueue => some .stop
  | .flush index action => some (.flush index action)
  | _ => none

/-- The reason `run` passes to `failPendingInputs`. -/
def sweepReason (run : Run) : FailReason :=
  match run.spawnError with
  | some error => .spawn error
  | none => .runtimeExited

/-- The part of a run's action that happens in the inbox. -/
def runInput (session : Session) (index : Nat) : Run.Action → Option Inbox.Event
  | .attach => some (.attach index)
  | .sequence => some (.sequence index)
  | .greet error =>
    some (.greet index (trimSpace session.spec.provider) session.id
      (trimSpace session.spec.taskId) (error = none))
  | .lock => some (.lock (.run index))
  | .wait _ _ racing =>
    if (session.life.run index).kind = .stream then some (.close index racing) else none
  | .sweep => some (.sweep (.run index) (sweepReason (session.life.run index)))
  | _ => none

/-- The part of a command's action that happens in the inbox. -/
def commandInput (session : Session) : Command.Action → Option Inbox.Event
  | .deleteSweep => some (.sweep .dispatch .sessionDeleted)
  | .deliver input => some (.arrive (input.stamped session.spec))
  | .dedupe => some .dedupe
  | .enqueue => some .enqueue
  | .ack => some .ack
  | .lock => some (.lock .dispatch)
  | .finish => some .finish
  | _ => none

/-- The part of an action that happens in the inbox. -/
def input (session : Session) : SessionEvent → Option Inbox.Event
  | .start _ selected => (session.life.launches selected).map .install
  | .run index action => session.runInput index action
  | .drain .check => some .check
  | .drain .deliver => some .deliver
  | .drain (.write error) => some (.write error)
  | .drain .proceed => some .proceed
  | .report goroutine .release => some (.release goroutine)
  | .report goroutine .emit => some (.emit goroutine)
  | .command action => session.commandInput action
  | _ => none

/-- What an action of the lifecycle waits for in the queue or the inbox. -/
def ready (session : Session) : SessionEvent → Bool
  | .run index .resume => session.inbox.drainer.owner ≠ some (.run index)
  | .run _ .drained => session.queue.drained
  | .run index .swept => (session.inbox.reporter (.run index)).todo = []
  | .command .deleteSwept => (session.inbox.reporter .dispatch).todo = []
  | .command .delivered => session.inbox.delivery = .idle
  | _ => true

/-- One atomic action on a session.  Nothing happens after a panic. -/
def step : Step Session SessionEvent := fun session event =>
  if session.queue.panicked = false ∧ session.ready event = true then
    (session.life.step session.spec event).bind fun life =>
      (optional OutputQueue.step session.queue (output event)).bind fun queue =>
        (optional Inbox.step session.inbox (session.input event)).map fun inbox =>
          { session with life := life, queue := queue, inbox := inbox }
  else none

/-- What a step of a session consists of. -/
structure Stepped (session : Session) (event : SessionEvent) (session' : Session) : Prop where
  running : session.queue.panicked = false
  ready : session.ready event = true
  spec : session'.spec = session.spec
  life : session.life.step session.spec event = some session'.life
  queue : optional OutputQueue.step session.queue (output event) = some session'.queue
  inbox : optional Inbox.step session.inbox (session.input event) = some session'.inbox

variable {event : SessionEvent} {session source target : Session} {index : Nat}

variable {session' : Session}

theorem stepped (step : session.step event = some session') : Stepped session event session' := by
  unfold Session.step at step
  split_ifs at step with enabled
  obtain ⟨life, lifeStep, step⟩ := bind_eq_some_iff.mp step
  obtain ⟨queue, queueStep, step⟩ := bind_eq_some_iff.mp step
  obtain ⟨inbox, inboxStep, rfl⟩ := map_eq_some_iff.mp step
  exact ⟨enabled.1, enabled.2, rfl, lifeStep, queueStep, inboxStep⟩

/-- An action is enabled when all of its parts are. -/
theorem isSome_step (running : session.queue.panicked = false) (ready : session.ready event = true)
    (life : (session.life.step session.spec event).isSome)
    (queue : (optional OutputQueue.step session.queue (output event)).isSome)
    (inbox : (optional Inbox.step session.inbox (session.input event)).isSome) :
    (session.step event).isSome := by
  obtain ⟨life', lifeStep⟩ := isSome_iff_exists.mp life
  obtain ⟨queue', queueStep⟩ := isSome_iff_exists.mp queue
  obtain ⟨inbox', inboxStep⟩ := isSome_iff_exists.mp inbox
  simp [step, running, ready, lifeStep, queueStep, inboxStep]

/-- The inbox is left alone, or takes the step that belongs to the action. -/
theorem Stepped.inbox_cases (parts : Stepped session event session') :
    session'.inbox = session.inbox ∨
      ∃ taken, session.input event = some taken ∧
        session.inbox.step taken = some session'.inbox := by
  have moved := parts.inbox
  cases taken : session.input event with
  | none =>
    rw [taken, optional_none_eq_some_iff] at moved
    exact .inl moved
  | some inboxEvent =>
    rw [taken, optional_some] at moved
    exact .inr ⟨inboxEvent, rfl, moved⟩

/-- The queue is left alone, or takes the step that belongs to the action. -/
theorem Stepped.queue_cases (parts : Stepped session event session') :
    session'.queue = session.queue ∨
      ∃ taken, output event = some taken ∧ session.queue.step taken = some session'.queue := by
  have moved := parts.queue
  cases taken : output event with
  | none =>
    rw [taken, optional_none_eq_some_iff] at moved
    exact .inl moved
  | some queueEvent =>
    rw [taken, optional_some] at moved
    exact .inr ⟨queueEvent, rfl, moved⟩

/-! ## Components of an execution -/

/-- A condition on the steps of the output queue, as one on session steps. -/
def OnOutput (ok : Discipline OutputQueue OutputQueue.Event) : Discipline Session SessionEvent :=
  fun session event => ∀ taken, output event = some taken → ok session.queue taken

/-- A condition on the steps of the inbox, as one on session steps. -/
def OnInput (ok : Discipline Inbox Inbox.Event) : Discipline Session SessionEvent :=
  fun session event => ∀ taken, session.input event = some taken → ok session.inbox taken

theorem reaches_queue {ok : Discipline OutputQueue OutputQueue.Event}
    (reached : Reaches step (OnOutput ok) source target) :
    Reaches OutputQueue.step ok source.queue target.queue :=
  reached.project Session.queue fun meets step =>
    reaches_of_optional meets (stepped step).queue

theorem reaches_inbox {ok : Discipline Inbox Inbox.Event}
    (reached : Reaches step (OnInput ok) source target) :
    Reaches Inbox.step ok source.inbox target.inbox :=
  reached.project Session.inbox fun meets step =>
    reaches_of_optional meets (stepped step).inbox

variable {ok : Discipline Session SessionEvent}

theorem reaches_inbox_unrestricted (reached : Reaches step ok source target) :
    Reaches Inbox.step unrestricted source.inbox target.inbox :=
  reaches_inbox (reached.mono fun _ _ _ _ _ => trivial)

/-- A check of the steps of the inbox, as one of session steps. -/
def onInput (check : Inbox → Inbox.Event → Bool) (session : Session) (event : SessionEvent) :
    Bool :=
  (session.input event).all (check session.inbox)

theorem reaches_inbox_checked {check : Inbox → Inbox.Event → Bool}
    (reached : Reaches step (checked (onInput check)) source target) :
    Reaches Inbox.step (checked check) source.inbox target.inbox := by
  refine reaches_inbox (reached.mono ?_)
  intro session event allowed taken fires
  simpa [checked, onInput, fires] using allowed

/-! ## Indices -/

theorem output_eq_start_iff :
    output event = some (.start index) ↔ event = .run index .startQueue := by
  constructor
  · intro started
    unfold output at started
    split at started <;> cases started
    rfl
  · rintro rfl
    rfl

theorem output_eq_flush_iff {action : OutputQueue.FlushAction} :
    output event = some (.flush index action) ↔ event = .flush index action := by
  constructor
  · intro flushed
    unfold output at flushed
    split at flushed <;> cases flushed
    rfl
  · rintro rfl
    rfl

theorem flusher_absent_iff_of_step (step : session.step event = some session') (index : Nat) :
    session'.queue.flusher index = .absent ↔
      session.queue.flusher index = .absent ∧ event ≠ .run index .startQueue := by
  have moved := (stepped step).queue
  rw [ne_eq, ← output_eq_start_iff]
  cases taken : output event with
  | none =>
    rw [taken, optional_none_eq_some_iff] at moved
    simp [moved]
  | some queueEvent =>
    rw [taken] at moved
    simpa using OutputQueue.flusher_absent_iff_of_step moved index

/-- The action an inbox event belongs to. -/
def Origin (session : Session) (event : SessionEvent) : Inbox.Event → Prop
  | .install kind => session.life.launching event = some kind
  | .attach index => event = .run index .attach
  | .sequence index => event = .run index .sequence
  | .greet index _ _ _ ok =>
    ∃ error, event = .run index (.greet error) ∧ ok = decide (error = none)
  | .close index racing => ∃ exitCode error, event = .run index (.wait exitCode error racing)
  | .arrive _ => ∃ input, event = .command (.deliver input)
  | .dedupe => event = .command .dedupe
  | .enqueue => event = .command .enqueue
  | .ack => event = .command .ack
  | .finish => event = .command .finish
  | .lock .dispatch => event = .command .lock
  | .lock (.run index) => event = .run index .lock
  | .check => event = .drain .check
  | .deliver => event = .drain .deliver
  | .write error => event = .drain (.write error)
  | .proceed => event = .drain .proceed
  | .sweep .dispatch _ => event = .command .deleteSweep
  | .sweep (.run index) _ => event = .run index .sweep
  | .release goroutine => event = .report goroutine .release
  | .emit goroutine => event = .report goroutine .emit

theorem origin_of_input {taken : Inbox.Event}
    (fires : session.input event = some taken) : Origin session event taken := by
  cases event with
  | start caller selected =>
    obtain ⟨kind, launches, rfl⟩ := map_eq_some_iff.mp fires
    exact launches
  | run index action =>
    cases action with
    | greet error =>
      cases fires
      exact ⟨error, rfl, rfl⟩
    | wait exitCode error racing =>
      simp only [input, runInput] at fires
      split_ifs at fires
      cases fires
      exact ⟨exitCode, error, rfl⟩
    | _ =>
      cases fires
      try exact rfl
  | command action =>
    cases action with
    | deliver sent =>
      cases fires
      exact ⟨sent, rfl⟩
    | _ =>
      cases fires
      try exact rfl
  | drain action | report goroutine action =>
    cases action <;> cases fires <;> rfl
  | _ => cases fires

theorem input_eq_install_iff {kind : ExecutorKind} :
    session.input event = some (.install kind) ↔ session.life.launching event = some kind := by
  refine ⟨fun fires => origin_of_input fires, fun launches => ?_⟩
  cases event with
  | start caller selected => exact congrArg (Option.map Inbox.Event.install) launches
  | _ => cases launches

theorem installed_of_step (step : session.step event = some session') : session'.inbox.installed =
      session.inbox.installed + if (session.life.launching event).isSome then 1 else 0 := by
  have moved := (stepped step).inbox
  cases launches : session.life.launching event with
  | some kind =>
    rw [input_eq_install_iff.mpr launches, optional_some] at moved
    rcases Inbox.installed_of_step moved with ⟨other, -⟩ | ⟨_, _, count⟩
    · exact absurd rfl (other kind)
    · simpa using count
  | none =>
    cases taken : session.input event with
    | none =>
      rw [taken, optional_none_eq_some_iff] at moved
      simp [moved]
    | some inboxEvent =>
      rw [taken, optional_some] at moved
      rcases Inbox.installed_of_step moved with ⟨-, count⟩ | ⟨kind, rfl, -⟩
      · simpa using count
      · exact absurd (input_eq_install_iff.mp taken) (by simp [launches])

/-- A run, its flusher and its executor come to exist in step with each other. -/
structure Indexed (session : Session) : Prop where
  unlaunched : ∀ index, session.life.launched ≤ index →
    (session.life.run index).pc = .done ∧ (session.life.run index).alive = false
  flusher : ∀ index, session.queue.flusher index = .absent ↔
    session.life.launched ≤ index ∨ (session.life.run index).pc = .launched
  installed : session.inbox.installed = session.life.launched

theorem indexed_new (spec : CreateSession) : Indexed (new spec) where
  unlaunched := fun _ _ => ⟨rfl, rfl⟩
  flusher := fun _ => by simp [new, OutputQueue.new, Lifecycle.new]
  installed := rfl

theorem indexed_step (indexed : Indexed session)
    (step : session.step event = some session') : Indexed session' := by
  have parts := stepped step
  have launched := launched_of_step parts.life
  refine ⟨fun index beyond => ?_, fun index => ?_, ?_⟩
  · cases run_change parts.life index with
    | kept _ _ same | cancelled _ _ same =>
      rw [same]
      exact indexed.unlaunched index (by omega)
    | moved _ moved =>
      obtain ⟨halted, dead⟩ := indexed.unlaunched index (by omega)
      rw [Run.step_eq_none_of_done halted dead] at moved
      contradiction
    | launched chosen last _ =>
      rw [chosen] at launched
      simp only [isSome_some, if_true] at launched
      omega
  · rw [flusher_absent_iff_of_step step, indexed.flusher]
    cases run_change parts.life index with
    | kept still fresh same =>
      rw [same, launched_le_iff_of_step parts.life fresh]
      simp [still]
    | cancelled still quiet same =>
      rw [same, launched_le_iff_of_step parts.life (.inl quiet)]
      simp [still]
    | moved taken moved =>
      subst taken
      have inRange : ¬session.life.launched ≤ index := fun beyond => by
        obtain ⟨halted, dead⟩ := indexed.unlaunched index beyond
        rw [Run.step_eq_none_of_done halted dead] at moved
        contradiction
      rw [launched_le_iff_of_step parts.life (.inl rfl), (Run.flow_of_step moved).launched_iff]
      simp [inRange]
    | launched chosen last fresh =>
      have untouched : event ≠ .run index .startQueue := by
        rintro rfl
        cases chosen
      have newPc : (session'.life.run index).pc = .launched := by rw [fresh]; rfl
      exact iff_of_true ⟨.inl (by omega), untouched⟩ (.inr newPc)
  · rw [installed_of_step step, launched, indexed.installed]

theorem indexed_of_reaches {spec : CreateSession}
    (reached : Reaches step ok (new spec) session) : Indexed session :=
  reached.invariant (indexed_new spec) fun _ indexed _ step => indexed_step indexed step

/-- A flusher that is alive belongs to a launched run. -/
theorem Indexed.lt_of_alive (indexed : Indexed session)
    (alive : (session.queue.flusher index).alive = true) : index < session.life.launched := by
  by_contra beyond
  rw [(indexed.flusher index).mpr (.inl (by omega))] at alive
  contradiction

/-- What a step does to the program counter of a run. -/
inductive PcChange (session : Session) (event : SessionEvent) (index : Nat) (pc : RunPc) : Prop
  | kept : (∀ action, event ≠ .run index action) → pc = (session.life.run index).pc →
      PcChange session event index pc
  | flow {action : Run.Action} : event = .run index action →
      Run.Flow (session.life.run index).pc action pc → PcChange session event index pc
  | launched {kind : ExecutorKind} : session.life.launching event = some kind →
      index = session.life.launched → (session.life.run index).pc = .done → pc = .launched →
      PcChange session event index pc

theorem Indexed.pc_change (indexed : Indexed session)
    (step : session.step event = some session') (index : Nat) :
    PcChange session event index (session'.life.run index).pc := by
  cases run_change (stepped step).life index with
  | kept still _ same | cancelled still _ same => exact .kept still (by rw [same])
  | moved taken moved => exact .flow taken (Run.flow_of_step moved)
  | launched chosen last fresh =>
    exact .launched chosen last (indexed.unlaunched index (by omega)).1 (by rw [fresh]; rfl)

theorem flow_of_run_step {action : Run.Action}
    (step : session.step (.run index action) = some session') :
    Run.Flow (session.life.run index).pc action (session'.life.run index).pc := by
  obtain ⟨run, moved, changed⟩ := map_eq_some_iff.mp (stepped step).life
  have same : session'.life.run index = run := by rw [← changed]; simp
  rw [same]
  exact Run.flow_of_step moved

end Session

end LubricantNodes.Execution
