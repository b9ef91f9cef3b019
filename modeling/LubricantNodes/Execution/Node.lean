import LubricantNodes.Execution.Session

/-!
# The session manager

`sessionManager` and the goroutines around it: the dispatch loop, which handles
one command at a time and calls `stopAll` when a control stream ends, and the
provisioning goroutine of every session object ever created.  Session objects
are numbered in order of creation and outlive their map entries; the map is
keyed by session id.

A command that returns an error without having done anything is not a step.
-/

namespace LubricantNodes.Execution

open Transition Go

/-- Where the dispatch loop is. -/
inductive Dispatch
  | idle
  /-- `create`, past its first look at the map. -/
  | creating (spec : CreateSession)
  /-- `startRuntime`, past its look at the map. -/
  | starting (object : Nat)
  /-- A command on a session object; `rest` is what `stopAll` has yet to stop. -/
  | serving (object : Nat) (rest : List Nat)
  /-- `restartRuntime`, before it calls `startRuntime`. -/
  | restarted (object : Nat)
  /-- The loop of `stopAll`. -/
  | stopping (rest : List Nat)

/-- The call that ends a provisioning goroutine, of `startRuntime` or of
`removeFailedSession`. -/
inductive Call
  | pending
  /-- `startRuntime` has found this session object. -/
  | holding (object : Nat)
  | returned
  deriving DecidableEq

/-- `sessionManager`, with every session object ever created. -/
structure Node where
  opts : SessionOptions
  sessions : String → Option Nat
  count : Nat
  objects : Nat → Session
  dispatch : Dispatch
  calls : Nat → Call

/-- The action is taken by a goroutine other than one that has to look the
session up first. -/
def SessionEvent.background : SessionEvent → Bool
  | .run .. => true
  | .flush .. => true
  | .drain _ => true
  | .report .. => true
  | .provision .finish => false
  | .provision .removed => false
  | .provision _ => true
  | .service _ => true
  | _ => false

/-- The action opens a command. -/
def Command.Action.opens : Command.Action → Bool
  | .restart _ => true
  | .delete => true
  | .deliver _ => true
  | .stop => true
  | _ => false

namespace Node

/-- A manager without sessions. -/
def new (opts : SessionOptions) : Node where
  opts := opts
  sessions := fun _ => none
  count := 0
  objects := fun _ => .new ⟨"", "", "", "", "", "", "", none, false, false, none, []⟩
  dispatch := .idle
  calls := fun _ => .pending

/-- The atomic actions of the node. -/
inductive Event
  /-- `create`, up to its first look at the map. -/
  | create (spec : CreateSession)
  /-- `create` cannot resolve the home or make a directory. -/
  | createFailed
  /-- The registration of `create`. -/
  | register
  /-- `startRuntime` of the dispatch loop, up to its look at the map. -/
  | start (id : String)
  /-- Its critical section; `installed` is the answer of `agent.RuntimeInstalled`. -/
  | startLocked (installed : Except String Unit)
  | restart (id : String) (fresh : Bool)
  | delete (id : String)
  | deliver (input : SessionInput)
  /-- `stopAll` copies the map; `order` is the order of the iteration. -/
  | stopAll (order : List Nat)
  | stopNext
  /-- A step of the command being served. -/
  | serve (action : Command.Action)
  /-- `restartRuntime` calls `startRuntime`. -/
  | restartLookup
  /-- The command returns. -/
  | complete
  /-- A goroutine of a session object moves. -/
  | act (object : Nat) (event : SessionEvent)
  /-- A provisioning goroutine calls `startRuntime`. -/
  | provisionLookup (object : Nat)
  | provisionStart (object : Nat) (installed : Except String Unit)
  | provisionReturn (object : Nat)
  /-- A provisioning goroutine calls `removeFailedSession`. -/
  | removeFailed (object : Nat)
  | removeReturn (object : Nat)

/-- The action deletes an entry of the map. -/
def Event.deletes : Event → Bool
  | .delete _ => true
  | .removeFailed _ => true
  | _ => false

variable (node : Node)

/-- `m.sessions[strings.TrimSpace(id)]`. -/
def find (id : String) : Option Nat :=
  node.sessions (trimSpace id)

/-- `m.sessions[session.id]`. -/
def entry (object : Nat) : Option Nat :=
  node.sessions (node.objects object).id

/-- The session objects in the map. -/
def registered : List Nat :=
  (List.range node.count).filter fun object => node.entry object = some object

/-- Some flusher has panicked. -/
def crashed : Bool :=
  (List.range node.count).any fun object => (node.objects object).queue.panicked

/-- What `selectExecutor` answers for a session object. -/
def select (installed : Except String Unit) (object : Nat) : Except SelectError ExecutorKind :=
  selectExecutor node.opts installed (node.objects object).spec

/-- Replace the call on a session object. -/
def setCall (object : Nat) (call : Call) : Node :=
  { node with calls := Function.update node.calls object call }

/-- `delete(m.sessions, id)`. -/
def erase (id : String) : Node :=
  { node with sessions := Function.update node.sessions id none }

/-- The registration of `create`. -/
def allocate (spec : CreateSession) : Node :=
  { node with
    sessions := Function.update node.sessions (trimSpace spec.sessionId) (some node.count)
    count := node.count + 1
    objects := Function.update node.objects node.count (.new spec)
    calls := Function.update node.calls node.count .pending
    dispatch := .idle }

/-- The dispatch loop opens a command on the session with this id. -/
def serveFound (id : String) : Option Node :=
  match node.dispatch, node.find id with
  | .idle, some object => some { node with dispatch := .serving object [] }
  | _, _ => none

/-- The part of an action that happens in the manager. -/
def control : Event → Option Node
  | .create spec =>
    match node.dispatch with
    | .idle =>
      guarded (trimSpace spec.sessionId ≠ "" ∧ trimSpace spec.provider ≠ "" ∧
          node.find spec.sessionId = none)
        { node with dispatch := .creating spec }
    | _ => none
  | .createFailed =>
    match node.dispatch with
    | .creating _ => some { node with dispatch := .idle }
    | _ => none
  | .register =>
    match node.dispatch with
    | .creating spec =>
      match node.find spec.sessionId with
      | none => some (node.allocate spec)
      | some _ => some { node with dispatch := .idle }
    | _ => none
  | .start id =>
    match node.dispatch, node.find id with
    | .idle, some object => some { node with dispatch := .starting object }
    | _, _ => none
  | .startLocked _ =>
    match node.dispatch with
    | .starting _ => some { node with dispatch := .idle }
    | _ => none
  | .restart id _ => node.serveFound id
  | .delete id =>
    match node.dispatch, node.find id with
    | .idle, some object =>
      some { node.erase (trimSpace id) with dispatch := .serving object [] }
    | _, _ => none
  | .deliver input => node.serveFound input.sessionId
  | .stopAll order =>
    match node.dispatch with
    | .idle => guarded (order.isPerm node.registered) { node with dispatch := .stopping order }
    | _ => none
  | .stopNext =>
    match node.dispatch with
    | .stopping (object :: rest) => some { node with dispatch := .serving object rest }
    | _ => none
  | .serve action =>
    match node.dispatch with
    | .serving object _ =>
      guarded (action.opens = false)
        (if action = .restartReset then { node with dispatch := .restarted object } else node)
    | _ => none
  | .restartLookup =>
    match node.dispatch with
    | .restarted object =>
      match node.entry object with
      | some target => some { node with dispatch := .starting target }
      | none => some { node with dispatch := .idle }
    | _ => none
  | .complete =>
    match node.dispatch with
    | .serving object rest =>
      guarded ((node.objects object).life.command = .idle)
        { node with dispatch := if rest = [] then .idle else .stopping rest }
    | .stopping [] => some { node with dispatch := .idle }
    | _ => none
  | .act object event => guarded (object < node.count ∧ event.background = true) node
  | .provisionLookup object =>
    guarded (object < node.count ∧ (node.objects object).life.provision = .starting ∧
        node.calls object = .pending)
      (match node.entry object with
      | some target => node.setCall object (.holding target)
      | none => node.setCall object .returned)
  | .provisionStart object _ =>
    match node.calls object with
    | .holding _ => some (node.setCall object .returned)
    | _ => none
  | .provisionReturn object => guarded (node.calls object = .returned) node
  | .removeFailed object =>
    guarded (object < node.count ∧ (node.objects object).life.provision = .removing ∧
        node.calls object = .pending)
      ((node.erase (node.objects object).id).setCall object .returned)
  | .removeReturn object => guarded (node.calls object = .returned) node

/-- The part of an action that happens in a session object. -/
def fires : Event → Option (Nat × SessionEvent)
  | .start id => (node.find id).map fun object => (object, .lookup .dispatch)
  | .startLocked installed =>
    match node.dispatch with
    | .starting object => some (object, .start .dispatch (node.select installed object))
    | _ => none
  | .restart id fresh => (node.find id).map fun object => (object, .command (.restart fresh))
  | .delete id => (node.find id).map fun object => (object, .command .delete)
  | .deliver input =>
    (node.find input.sessionId).map fun object => (object, .command (.deliver input))
  | .stopNext =>
    match node.dispatch with
    | .stopping (object :: _) => some (object, .command .stop)
    | _ => none
  | .serve action =>
    match node.dispatch with
    | .serving object _ => some (object, .command action)
    | _ => none
  | .restartLookup =>
    match node.dispatch with
    | .restarted object => (node.entry object).map fun target => (target, .lookup .dispatch)
    | _ => none
  | .act object event => some (object, event)
  | .provisionLookup object =>
    (node.entry object).map fun target => (target, .lookup (.provision object))
  | .provisionStart object installed =>
    match node.calls object with
    | .holding target =>
      some (target, .start (.provision object) (node.select installed target))
    | _ => none
  | .provisionReturn object => some (object, .provision .finish)
  | .removeFailed object => (node.entry object).map fun target => (target, .evict)
  | .removeReturn object => some (object, .provision .removed)
  | _ => none

/-- Replace a session object. -/
def setObject (object : Nat) (session : Session) : Node :=
  { node with objects := Function.update node.objects object session }

@[simp]
theorem erase_count (id : String) : (node.erase id).count = node.count :=
  rfl

@[simp]
theorem erase_objects (id : String) : (node.erase id).objects = node.objects :=
  rfl

@[simp]
theorem setCall_count (object : Nat) (call : Call) :
    (node.setCall object call).count = node.count :=
  rfl

@[simp]
theorem setCall_objects (object : Nat) (call : Call) :
    (node.setCall object call).objects = node.objects :=
  rfl

@[simp]
theorem setCall_sessions (object : Nat) (call : Call) :
    (node.setCall object call).sessions = node.sessions :=
  rfl

@[simp]
theorem allocate_count (spec : CreateSession) : (node.allocate spec).count = node.count + 1 :=
  rfl

@[simp]
theorem allocate_objects (spec : CreateSession) (object : Nat) :
    (node.allocate spec).objects object =
      if object = node.count then .new spec else node.objects object :=
  Function.update_apply ..

@[simp]
theorem setObject_sessions (object : Nat) (session : Session) :
    (node.setObject object session).sessions = node.sessions :=
  rfl

@[simp]
theorem setObject_count (object : Nat) (session : Session) :
    (node.setObject object session).count = node.count :=
  rfl

@[simp]
theorem setObject_objects (object other : Nat) (session : Session) :
    (node.setObject object session).objects other =
      if other = object then session else node.objects other :=
  Function.update_apply ..

/-- One atomic action of the node.  Nothing happens after a panic. -/
def step : Step Node Event := fun node event =>
  if node.crashed then none
  else
    (node.control event).bind fun node' =>
      match node.fires event with
      | none => some node'
      | some (object, taken) =>
        ((node.objects object).step taken).map fun session => node'.setObject object session

/-! ## What a step does -/

/-- What a step of the node consists of. -/
inductive Stepped (node : Node) (event : Event) : Node → Prop
  | manager {node'} : node.control event = some node' → node.fires event = none →
      Stepped node event node'
  | object {node' object taken session} :
      node.control event = some node' → node.fires event = some (object, taken) →
      (node.objects object).step taken = some session →
      Stepped node event (node'.setObject object session)

variable {event : Event}

theorem stepped {node node' : Node} (step : node.step event = some node') :
    Stepped node event node' := by
  unfold Node.step at step
  split at step
  · contradiction
  · obtain ⟨middle, managed, step⟩ := Option.bind_eq_some_iff.mp step
    split at step
    next quiet =>
      cases step
      exact .manager managed quiet
    next object taken fired =>
      obtain ⟨session, moved, rfl⟩ := Option.map_eq_some_iff.mp step
      exact .object managed fired moved

/-- What the manager's part of an action does to the map and the objects. -/
inductive Managed (node : Node) : Event → Node → Prop
  /-- It only moves program counters. -/
  | move {event node'} : event.deletes = false → node'.opts = node.opts →
      node'.sessions = node.sessions → node'.count = node.count →
      node'.objects = node.objects → Managed node event node'
  | register {spec} : node.dispatch = .creating spec →
      node.find spec.sessionId = none → Managed node .register (node.allocate spec)
  | delete {id object} : node.dispatch = .idle → node.find id = some object →
      Managed node (.delete id)
        { node.erase (trimSpace id) with dispatch := .serving object [] }
  | removeFailed {object} : object < node.count →
      (node.objects object).life.provision = .removing → node.calls object = .pending →
      Managed node (.removeFailed object)
        ((node.erase (node.objects object).id).setCall object .returned)

theorem managed {node node' : Node} (moved : node.control event = some node') :
    Managed node event node' := by
  cases event with
  | register =>
    simp only [control] at moved
    split at moved
    next spec creating =>
      split at moved
      next absent =>
        cases moved
        exact .register creating absent
      next => cases moved; exact .move rfl rfl rfl rfl rfl
    next => contradiction
  | delete id =>
    simp only [control] at moved
    split at moved
    next object idle found =>
      cases moved
      exact .delete idle found
    next => contradiction
  | removeFailed object =>
    obtain ⟨⟨existing, removing, pending⟩, rfl⟩ := guarded_eq_some_iff.mp moved
    exact .removeFailed existing removing pending
  | provisionLookup object =>
    obtain ⟨-, rfl⟩ := guarded_eq_some_iff.mp moved
    split <;> exact .move rfl rfl rfl rfl rfl
  | _ =>
    simp only [control, serveFound] at moved
    repeat' split at moved
    all_goals
      first
      | contradiction
      | (obtain ⟨-, rfl⟩ := guarded_eq_some_iff.mp moved; exact .move rfl rfl rfl rfl rfl)
      | (cases moved; exact .move rfl rfl rfl rfl rfl)

/-- Where an object of the next state comes from: it is unchanged, it has taken
one step, or it has just been created. -/
inductive Descends (node : Node) (event : Event) (node' : Node) (object : Nat) : Prop
  | unchanged : object < node.count → node'.objects object = node.objects object →
      (∀ taken, node.fires event ≠ some (object, taken)) → Descends node event node' object
  | stepped {taken} : object < node.count →
      node.fires event = some (object, taken) →
      (node.objects object).step taken = some (node'.objects object) →
      Descends node event node' object
  | created {spec} : event = .register → node.dispatch = .creating spec →
      object = node.count → node'.objects object = .new spec → Descends node event node' object

theorem descends {node node' : Node} (step : node.step event = some node') {object : Nat}
    (existing : object < node'.count) : Descends node event node' object := by
  cases stepped step with
  | manager moved quiet =>
    have idle : ∀ taken, node.fires event ≠ some (object, taken) := by simp [quiet]
    cases managed moved with
    | move _ _ _ countEq objectsEq =>
      exact .unchanged (countEq ▸ existing) (congrFun objectsEq object) idle
    | @register spec creating _ =>
      rw [allocate_count] at existing
      by_cases last : object = node.count
      · exact .created rfl creating last (by rw [allocate_objects, if_pos last])
      · exact .unchanged (by omega) (by rw [allocate_objects, if_neg last]) idle
    | delete => exact .unchanged existing (by rw [erase_objects]) idle
    | removeFailed =>
      rw [setCall_count, erase_count] at existing
      exact .unchanged existing (by rw [setCall_objects, erase_objects]) idle
  | @object middle moved taken session control fired sessionStep =>
    have kept : middle.count = node.count ∧ middle.objects = node.objects := by
      cases managed control with
      | move _ _ _ countEq objectsEq => exact ⟨countEq, objectsEq⟩
      | register => simp [fires] at fired
      | delete =>
        dsimp only
        exact ⟨erase_count .., erase_objects ..⟩
      | removeFailed =>
        rw [setCall_count, setCall_objects]
        exact ⟨erase_count .., erase_objects ..⟩
    have before : object < node.count := kept.1 ▸ existing
    by_cases same : object = moved
    · subst same
      refine .stepped before fired ?_
      rw [sessionStep, setObject_objects, if_pos rfl]
    · refine .unchanged before ?_ fun taken fires => ?_
      · rw [setObject_objects, if_neg same, kept.2]
      · cases fired.symm.trans fires
        exact same rfl

/-- A goroutine of a session object moves the object and nothing else. -/
theorem act_step {node node' : Node} {object : Nat} {event : SessionEvent}
    (step : node.step (.act object event) = some node') :
    object < node.count ∧ (node.objects object).step event = some (node'.objects object) := by
  cases stepped step with
  | manager _ quiet => cases quiet
  | object control fired moved =>
    obtain ⟨⟨existing, -⟩, rfl⟩ := guarded_eq_some_iff.mp control
    cases fired
    exact ⟨existing, by rw [moved, setObject_objects, if_pos rfl]⟩

/-! ## Objects of an execution -/

/-- The check of every session action, as a check of the node's actions. -/
def meets (check : Session → SessionEvent → Bool) (node : Node) (event : Event) : Bool :=
  (node.fires event).all fun fired => check (node.objects fired.1) fired.2

/-- Every session object of an execution of the node has gone through an
execution of its own, since it was created. -/
theorem reaches_object {check : Session → SessionEvent → Bool} {opts : SessionOptions}
    {node : Node} (reached : Reaches step (checked (meets check)) (new opts) node) :
    ∀ {object}, object < node.count →
      ∃ spec, Reaches Session.step (checked check) (.new spec) (node.objects object) := by
  induction reached with
  | refl => exact fun existing => absurd existing (Nat.not_lt_zero _)
  | @tail node node' event _ meets step ih =>
    intro object existing
    cases descends step existing with
    | unchanged before same =>
      rw [same]
      exact ih before
    | @stepped taken before fired moved =>
      obtain ⟨spec, earlier⟩ := ih before
      have allowed : check (node.objects object) taken = true := by
        simpa [checked, Node.meets, fired] using meets
      exact ⟨spec, earlier.tail allowed moved⟩
    | @created spec _ _ _ fresh =>
      rw [fresh]
      exact ⟨spec, .refl⟩

/-! ## Scenarios -/

/-- The dispatch loop creates a session. -/
def created (spec : CreateSession) : List Event :=
  [.create spec, .register]

/-- The provisioning goroutine of an object gets to its flip and takes it. -/
def prepared (object : Nat) : List Event :=
  [.checkout true, .associate false, .serve true, .assign, .configure true, .flip].map
    fun action => .act object (.provision action)

/-- The provisioning goroutine of an object starts the runtime and returns. -/
def autoStarted (object : Nat) : List Event :=
  [.provisionLookup object, .provisionStart object (.ok ()), .provisionReturn object]

/-- A one-shot run gets its process and starts its pumps. -/
def pumping (object index : Nat) : List Event :=
  [.act object (.run index .startQueue), .act object (.run index (.prepare true none)),
    .act object (.run index (.spawn none)), .act object (.run index .lock),
    .act object (.drain .check), .act object (.run index .resume)]

/-- The editor of a run exits and the run gets to `queue.drain`. -/
def exited (object index : Nat) : List Event :=
  [.exit, .eof .stdout "", .eof .stderr "", .join, .wait 0 none false].map
    fun action => .act object (.run index action)

/-- A run goes from `queue.drain` to the end. -/
def tornDown (object index : Nat) : List Event :=
  [.drained, .report, .sweep, .swept, .mark, .clean false, .stopQueue, .close].map
    fun action => .act object (.run index action)

/-- `stopAll` with one session in the map. -/
def stoppedAll (object : Nat) : List Event :=
  [.stopAll [object], .stopNext, .serve .stopCancel, .complete]

/-- `delete` of a session whose run is over or does not exist. -/
def deleted (id : String) : List Event :=
  [.delete id, .serve .deleteRead, .serve .deleteCancel, .serve .deleteWait, .serve .deleteSweep,
    .serve .deleteSwept, .serve .deleteService, .serve (.deleteFiles true), .complete]

/-- `startRuntime` of the dispatch loop. -/
def started (id : String) : List Event :=
  [.start id, .startLocked (.ok ())]

end Node

end LubricantNodes.Execution
