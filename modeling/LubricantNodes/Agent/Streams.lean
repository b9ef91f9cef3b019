import LubricantNodes.Agent.Jobs
import LubricantNodes.Agent.Loops

/-!
# Phones, streams and long work

The node as a system: streams open and end, frames arrive, jobs end, and the manager of
attached phones runs the sections of its commands, its prober, its callbacks and its
loops, each under the context of the goroutine it belongs to.

Work is meant to survive the end of the stream whose frame started it.  The frames for
builds, Xcode installs and phones hand the stream's own context to the work, so that it
does not; `context_outlives_stream` says for which runs the intended property holds.
-/

namespace LubricantNodes.Agent

open Go Transition List Lifetimes

/-! ## State -/

/-- The context that a goroutine was given: that of the stream whose frame it handles;
the prober has none. -/
def Scope.ofOrigin : Option Nat → Scope
  | some number => .stream number
  | none => .background

/-- The reason for which a command cancels a connection loop. -/
def Purpose.ending : Purpose → Ending
  | .stop | .restart .. => .stopped
  | .configure => .reconfigured
  | .release => .released

theorem Purpose.ending_ne_streamEnd (purpose : Purpose) : purpose.ending ≠ .streamEnd := by
  cases purpose <;> simp [ending]

/-- The frames that start or end long work. -/
inductive WorkFrame
  | nodeBuild (request : BuildRequest)
  | nodeBuildCancel (buildId : String)
  | hostToolJob (request : HostToolJob)
  | hostToolJobCancel (jobId : String)
  | iosWdaJob (request : WdaJobRequest)
  | iosJobCancel (jobId : String)
  | iosClaimDevice (request : ClaimDevice)
  | iosReleaseDevice (request : ReleaseDevice)
  | iosConfigureDevice (request : ConfigureDevice)
  | iosRunnerControl (request : RunnerControl)

/-- A node with its runners and its manager of phones. -/
structure Host where
  runners : Runners
  manager : Phones
  /-- `DeviceManager.stopped`. -/
  stopped : Bool
  /-- The goroutines of phones' frames that have not taken the lock yet, with the
  streams they came on. -/
  pending : List (Nat × PhoneEvent)
  /-- The stream that each task of the manager has its context from. -/
  origins : List (Option Nat)
  /-- The work that each connection loop of the manager is. -/
  works : List Nat
  /-- The acknowledgements of jobs, latest first. -/
  acks : List (Option StartError)

namespace Host

variable (host : Host)

/-- A node that has read `devices.json`. -/
def new (configDir : String) (configs : List DeviceConfig) : Host where
  runners := .new
  manager := .new configDir configs
  stopped := false
  pending := []
  origins := []
  works := []
  acks := []

/-- The contexts and works of the node. -/
def life : Lifetimes :=
  host.runners.life

/-- The same node with other contexts. -/
def withLife (life : Lifetimes) : Host :=
  { host with runners := { host.runners with life := life } }

/-- `SendAck`, for a job. -/
def sendAck (error : Option StartError) : Host :=
  { host with acks := error :: host.acks }

/-! ## Sections of the manager -/

/-- The work whose cancel function the section calls, and why. -/
def cancels : PhoneEvent → Option (Nat × Ending)
  | .advance index _ =>
    match host.manager.tasks[index]? with
    | some (.cancelling purpose _ loop) =>
      (host.works[loop]?).map fun work => (work, purpose.ending)
    | _ => none
  | _ => none

/-- What a section of the manager does to the contexts: it cancels the context of a loop, or
starts a loop under `parent`. -/
def follow (parent : Scope) (origin : Option Nat) (event : PhoneEvent) (after : Phones) : Host :=
  let next := { host with
    manager := after
    origins := host.origins ++
      replicate (after.tasks.length - host.manager.tasks.length) origin }
  match host.cancels event, after.loops.drop host.manager.loops.length with
  | some (work, ending), _ => next.withLife (host.life.cancel (.work work) ending)
  | none, loop :: _ =>
    let udid := (after.phones[loop.phone]?.map fun phone => phone.udid).getD ""
    { next.withLife (host.life.launch parent .device udid origin) with
      works := host.works ++ [host.life.works.length] }
  | none, [] => next

/-- A section of the manager.  After `Stop`, none starts a loop. -/
def move (calendar : Calendar) (parent : Scope) (origin : Option Nat) (event : PhoneEvent) :
    Option Host :=
  (Phones.step calendar host.manager event).bind fun after =>
    guarded (host.stopped = true → after.loops.length ≤ host.manager.loops.length)
      (host.follow parent origin event after)

/-- The stream that the goroutine of the section has its context from. -/
def origin : PhoneEvent → Option Nat
  | .advance index _ => (host.origins[index]?).join
  | _ => none

/-- The context under which the section starts a loop; `StartClaimedDevices` is given that of
the process. -/
def parent : PhoneEvent → Scope
  | .startClaimed _ => .process
  | event => .ofOrigin (host.origin event)

/-- The context of the loop has ended. -/
def severed (loop : Nat) : Bool :=
  (host.works[loop]?.map fun work => host.life.contexts.done (.work work)).getD false

/-- The section belongs to no frame, and if it records the exit of a loop, it looks at the
loop's context. -/
def isOwn : PhoneEvent → Bool
  | .claim _ | .release _ | .configure _ | .control _ => false
  | .record loop severed => severed = host.severed loop
  | _ => true

/-- `Stop`, which the node calls at its end: the loops whose cancel functions are kept are
cancelled. -/
def stop : Host :=
  { host.withLife (host.life.cancelAll
      (host.manager.phones.filterMap fun phone => phone.cancel.bind (host.works[·]?))
      .managerStop) with
    stopped := true }

/-! ## Frames -/

/-- `Start` of a runner after its checks, and the acknowledgement. -/
def startJob (parent : Scope) (kind : JobKind) (stream : Nat) (checks : Except StartError String) :
    Host :=
  match checks.bind fun id => host.runners.start parent kind id stream with
  | .ok runners => { host with runners := runners }.sendAck none
  | .error error => host.sendAck (some error)

/-- `Cancel` of a runner, and the acknowledgement. -/
def cancelJob (kind : JobKind) (id : String) : Host :=
  { host with runners := host.runners.cancel kind id }.sendAck none

/-- The goroutine of a phone's frame starts. -/
def spawn (stream : Nat) (event : PhoneEvent) : Host :=
  { host with pending := host.pending ++ [(stream, event)] }

/-- The frame handlers, with the context of the stream.  Only `HandleIosFrame` detaches it, and
only for a WDA job; the marking of the phone as preparing is a section of its own. -/
def handleFrame (stream : Nat) : WorkFrame → Host
  | .nodeBuild request => host.startJob (.stream stream) .build stream request.check
  | .nodeBuildCancel buildId => host.cancelJob .build buildId
  | .hostToolJob request => host.startJob (.stream stream) .xcode stream request.check
  | .hostToolJobCancel jobId => host.cancelJob .xcode jobId
  | .iosWdaJob request =>
    (host.withLife host.life.detach).startJob (.detached host.life.works.length) .wda stream
      request.check
  | .iosJobCancel jobId => host.cancelJob .wda jobId
  | .iosClaimDevice request => host.spawn stream (.claim request)
  | .iosReleaseDevice request => host.spawn stream (.release request)
  | .iosConfigureDevice request => host.spawn stream (.configure request)
  | .iosRunnerControl request => host.spawn stream (.control request)

/-! ## Events -/

/-- What can happen. -/
inductive Event
  | connect
  | drop
  | frame (frame : WorkFrame)
  | timeout (kind : JobKind) (id : String)
  | complete (kind : JobKind) (id : String)
  | stopAll (kind : JobKind)
  /-- The goroutine of a phone's frame runs its first section. -/
  | begin (index : Nat)
  /-- Any other section of the manager. -/
  | section (event : PhoneEvent)
  /-- `DeviceManager.Stop`. -/
  | stop

/-- One event. -/
def step (calendar : Calendar) : Step Host Event
  | host, .connect => guarded (host.life.current = none) (host.withLife host.life.openStream)
  | host, .drop => host.life.current.map fun stream => host.withLife (host.life.endStream stream)
  | host, .frame frame => host.life.current.map fun stream => host.handleFrame stream frame
  | host, .timeout kind id =>
    (host.runners.timeout kind id).map fun runners => { host with runners := runners }
  | host, .complete kind id =>
    (host.runners.complete kind id).map fun runners => { host with runners := runners }
  | host, .stopAll kind => some { host with runners := host.runners.stopAll kind }
  | host, .begin index =>
    (host.pending[index]?).bind fun entry =>
      { host with pending := host.pending.eraseIdx index }.move calendar (.stream entry.1)
        (some entry.1) entry.2
  | host, .section event =>
    if host.isOwn event then host.move calendar (host.parent event) (host.origin event) event
    else none
  | host, .stop => some host.stop

/-- A stream ends when no work that was started by its frames is running, and no connection
loop is started for a stream that has ended. -/
def Sheltered : Discipline Host Event
  | host, .drop => ∀ stream ∈ host.life.current, host.life.WorkOver stream
  | host, .begin index =>
    ∀ entry ∈ host.pending[index]?, host.manager.mayStart entry.2 = true →
      host.life.contexts.done (.stream entry.1) = false
  | host, .section event =>
    host.manager.mayStart event = true → ∀ stream ∈ host.origin event,
      host.life.contexts.done (.stream stream) = false
  | _, _ => True

instance (host : Host) (event : Event) : Decidable (Sheltered host event) := by
  unfold Sheltered
  split <;> infer_instance

/-! ## The manager of the node -/

variable {host} {calendar : Calendar} {next : Host} {event : PhoneEvent} {parent : Scope}
  {origin : Option Nat}

theorem manager_follow (host : Host) (parent : Scope) (origin : Option Nat) (event : PhoneEvent)
    (after : Phones) : (host.follow parent origin event after).manager = after := by
  unfold follow
  dsimp only
  split <;> rfl

/-- A section of the node is one of its manager. -/
theorem step_of_move (moved : host.move calendar parent origin event = some next) :
    Phones.step calendar host.manager event = some next.manager := by
  rcases Option.bind_eq_some_iff.mp moved with ⟨after, stepped, followed⟩
  rcases guarded_eq_some_iff.mp followed with ⟨_, rfl⟩
  rw [manager_follow]
  exact stepped

theorem manager_startJob (host : Host) (parent : Scope) (kind : JobKind) (stream : Nat)
    (checks : Except StartError String) :
    (host.startJob parent kind stream checks).manager = host.manager := by
  unfold startJob
  split <;> rfl

theorem manager_handleFrame (host : Host) (stream : Nat) (frame : WorkFrame) :
    (host.handleFrame stream frame).manager = host.manager := by
  cases frame with
  | nodeBuild | hostToolJob | iosWdaJob => exact manager_startJob ..
  | nodeBuildCancel | hostToolJobCancel | iosJobCancel => rfl
  | iosClaimDevice | iosReleaseDevice | iosConfigureDevice | iosRunnerControl => rfl

/-- Every run of the node is one of its manager: what holds of the manager in all its runs
holds in the node. -/
theorem reaches_manager {ok : Discipline Host Event} {configDir : String}
    {configs : List DeviceConfig}
    (reached : Reaches (step calendar) ok (new configDir configs) host) :
    Reaches (Phones.step calendar) unrestricted (.new configDir configs) host.manager := by
  refine reached.project Host.manager ?_
  intro state event after _ taken
  cases event with
  | begin =>
    rcases Option.bind_eq_some_iff.mp taken with ⟨entry, _, moved⟩
    have stepped := step_of_move moved
    exact .single stepped trivial
  | «section» =>
    dsimp only [step] at taken
    split_ifs at taken
    exact .single (step_of_move taken) trivial
  | connect =>
    rcases guarded_eq_some_iff.mp taken with ⟨_, rfl⟩
    exact .refl
  | drop =>
    rcases Option.map_eq_some_iff.mp taken with ⟨stream, _, rfl⟩
    exact .refl
  | frame frame =>
    rcases Option.map_eq_some_iff.mp taken with ⟨stream, _, rfl⟩
    rw [manager_handleFrame]
    exact .refl
  | timeout | complete =>
    rcases Option.map_eq_some_iff.mp taken with ⟨runners, _, rfl⟩
    exact .refl
  | stopAll | stop =>
    cases taken
    exact .refl

/-! ## Invariants -/

variable (host) in
/-- What holds in every state. -/
structure Sound : Prop where
  runners : host.runners.Sound
  works : ∀ number ∈ host.works, number < host.life.works.length
  pending : ∀ entry ∈ host.pending, entry.1 < host.life.streams
  origins : ∀ origin ∈ host.origins, ∀ stream ∈ origin, stream < host.life.streams

theorem sound_new (configDir : String) (configs : List DeviceConfig) :
    (new configDir configs).Sound where
  runners := Runners.sound_new
  works := nofun
  pending := nofun
  origins := nofun

namespace Sound

variable (sound : host.Sound)

include sound

theorem life : host.life.Sound := sound.runners.life

/-- The runners change, and no work or stream is forgotten. -/
theorem withRunners {runners : Runners} (next : runners.Sound)
    (grows : host.life.Grows runners.life) : Sound { host with runners := runners } where
  runners := next
  works number member := Nat.lt_of_lt_of_le (sound.works number member) grows.works
  pending entry member := Nat.lt_of_lt_of_le (sound.pending entry member) grows.streams
  origins origin member stream same :=
    Nat.lt_of_lt_of_le (sound.origins origin member stream same) grows.streams

/-- The contexts change, and no work or stream is forgotten. -/
theorem withLife {life : Lifetimes} (next : life.Sound) (grows : host.life.Grows life) :
    (host.withLife life).Sound :=
  sound.withRunners (sound.runners.withLife next grows) grows

theorem sendAck (error : Option StartError) : (host.sendAck error).Sound :=
  { sound with }

theorem mem_works_of_cancels {work : Nat} {ending : Ending}
    (cancels : host.cancels event = some (work, ending)) :
    work < host.life.works.length ∧ ending ≠ .streamEnd := by
  unfold Host.cancels at cancels
  split at cancels
  · split at cancels
    · rcases Option.map_eq_some_iff.mp cancels with ⟨number, listed, same⟩
      cases same
      exact ⟨sound.works _ (mem_of_getElem? listed), Purpose.ending_ne_streamEnd _⟩
    · cases cancels
  · cases cancels

/-- A section of the manager; a loop is started under a context that has not ended. -/
theorem move (opened : ∀ stream ∈ origin, stream < host.life.streams)
    (may : host.manager.mayStart event = true → host.life.Parent parent)
    (moved : host.move calendar parent origin event = some next) : next.Sound := by
  rcases Option.bind_eq_some_iff.mp moved with ⟨after, stepped, followed⟩
  rcases guarded_eq_some_iff.mp followed with ⟨_, rfl⟩
  have grown : Sound { host with
      manager := after
      origins := host.origins ++
        replicate (after.tasks.length - host.manager.tasks.length) origin } := by
    refine { sound with origins := forall_mem_append.mpr ⟨sound.origins, ?_⟩ }
    intro other member
    rw [eq_of_mem_replicate member]
    exact opened
  unfold follow
  dsimp only
  split
  · rename_i work ending _ cancels
    rcases sound.mem_works_of_cancels cancels with ⟨below, reason⟩
    exact grown.withLife (sound.life.cancel below (.inl rfl) reason) (.of_eq rfl rfl)
  · rename_i loop rest _ new
    have allowed : host.manager.mayStart event = true := by
      have moves := Phones.step_loops stepped
      by_contra quiet
      have same := moves.length_eq quiet
      rw [drop_eq_nil_of_le (Nat.le_of_eq same)] at new
      cases new
    have launched := grown.withLife (sound.life.launch (may allowed) .device
      ((after.phones[loop.phone]?.map fun phone => phone.udid).getD "") origin)
      (grows_launch _ _ _ _)
    refine { launched with works := forall_mem_append.mpr ⟨launched.works, ?_⟩ }
    rw [forall_mem_singleton]
    change host.life.works.length < (host.life.launch parent .device _ origin).works.length
    rw [length_works_launch]
    exact Nat.lt_succ_self _
  · exact grown

/-! ## Frames and events -/

theorem startJob (may : host.life.Parent parent) (kind : JobKind) (stream : Nat)
    (checks : Except StartError String) : (host.startJob parent kind stream checks).Sound := by
  unfold Host.startJob
  split
  · rename_i runners started
    apply sendAck
    cases checks with
    | error => cases started
    | ok =>
      exact sound.withRunners (sound.runners.start may started) (Runners.grows_start started)
  · exact sound.sendAck _

theorem cancelJob (kind : JobKind) (id : String) : (host.cancelJob kind id).Sound := by
  apply sendAck
  exact sound.withRunners (sound.runners.cancel kind id) (Runners.grows_cancel kind id)

theorem spawn {stream : Nat} (opened : stream < host.life.streams) (event : PhoneEvent) :
    (host.spawn stream event).Sound :=
  { sound with pending := forall_mem_append.mpr ⟨sound.pending, forall_mem_singleton.mpr opened⟩ }

theorem handleFrame {stream : Nat} (up : host.life.current = some stream) (frame : WorkFrame) :
    (host.handleFrame stream frame).Sound := by
  have may := sound.life.parent_current up
  have opened := (sound.life.current stream up).1
  cases frame with
  | nodeBuild | hostToolJob => exact sound.startJob may _ _ _
  | nodeBuildCancel | hostToolJobCancel | iosJobCancel => exact sound.cancelJob _ _
  | iosWdaJob =>
    apply startJob
    · exact sound.withLife sound.life.detach (.of_eq rfl rfl)
    · exact .detached
  | iosClaimDevice | iosReleaseDevice | iosConfigureDevice | iosRunnerControl =>
    exact sound.spawn opened _

theorem stop : host.stop.Sound := by
  have cancelled : (host.withLife (host.life.cancelAll
      (host.manager.phones.filterMap fun phone => phone.cancel.bind (host.works[·]?))
      .managerStop)).Sound := by
    apply sound.withLife
    · apply sound.life.cancelAll
      · intro number handle
        rcases mem_filterMap.mp handle with ⟨phone, _, bound⟩
        rcases Option.bind_eq_some_iff.mp bound with ⟨loop, _, listed⟩
        exact sound.works number (mem_of_getElem? listed)
      · simp
    · exact grows_cancelAll _ _ _
  exact { cancelled with }

theorem opened_origin (event : PhoneEvent) :
    ∀ stream ∈ host.origin event, stream < host.life.streams := by
  intro stream same
  unfold Host.origin at same
  split at same
  · have listed := Option.join_eq_some_iff.mp same
    exact sound.origins _ (mem_of_getElem? listed) stream rfl
  · cases same

/-- A section of no frame runs under the context of the process, or under that of its origin. -/
theorem parent_of_section
    (up : ∀ stream ∈ host.origin event, host.life.contexts.done (.stream stream) = false) :
    host.life.Parent (host.parent event) := by
  have given : host.life.Parent (.ofOrigin (host.origin event)) := by
    cases same : host.origin event with
    | none => exact .background
    | some stream => exact .stream (sound.opened_origin event stream same) (up stream same)
  unfold Host.parent
  split
  · exact .process
  · exact given

/-- One event under the discipline. -/
theorem step {event : Event} (sheltered : Sheltered host event)
    (taken : step calendar host event = some next) : next.Sound := by
  cases event with
  | connect =>
    rcases guarded_eq_some_iff.mp taken with ⟨-, rfl⟩
    exact sound.withLife sound.life.openStream grows_openStream
  | drop =>
    rcases Option.map_eq_some_iff.mp taken with ⟨stream, up, rfl⟩
    exact sound.withLife (sound.life.endStream up (sheltered stream up)) (.of_eq rfl rfl)
  | frame frame =>
    rcases Option.map_eq_some_iff.mp taken with ⟨stream, up, rfl⟩
    exact sound.handleFrame up frame
  | timeout =>
    rcases Option.map_eq_some_iff.mp taken with ⟨runners, passed, rfl⟩
    exact sound.withRunners (sound.runners.timeout passed) (Runners.grows_timeout passed)
  | complete =>
    rcases Option.map_eq_some_iff.mp taken with ⟨runners, completed, rfl⟩
    exact sound.withRunners (sound.runners.complete completed) (Runners.grows_complete completed)
  | stopAll kind =>
    cases taken
    exact sound.withRunners (sound.runners.stopAll kind) (grows_cancelAll _ _ _)
  | begin index =>
    rcases Option.bind_eq_some_iff.mp taken with ⟨entry, listed, moved⟩
    have opened := sound.pending entry (mem_of_getElem? listed)
    have erased : Sound { host with pending := host.pending.eraseIdx index } :=
      { sound with
        pending := fun other member => sound.pending other (mem_of_mem_eraseIdx member) }
    apply erased.move (fun _ same => Option.mem_some_iff.mp same ▸ opened) _ moved
    exact fun starts => .stream opened (sheltered entry listed starts)
  | «section» event =>
    dsimp only [Host.step] at taken
    split_ifs at taken
    apply sound.move (sound.opened_origin event) _ taken
    exact fun starts => sound.parent_of_section (sheltered starts)
  | stop =>
    cases taken
    exact sound.stop

end Sound

/-! ## Work and streams -/

/-- Every work whose context is cancelled has had a context of its own cancelled: by its cancel,
stop or release command, its deadline, its end or a stop of its manager. -/
def SelfEnding (host : Host) : Prop :=
  ∀ work ∈ host.life.works, host.life.contexts.done work.context = true →
    host.life.OwnEnd work.number
  deriving Decidable

/-- In every run in which streams end only when the work of their frames is over, and no loop
is started for an ended stream, the end of a stream cancels no work. -/
theorem context_outlives_stream (calendar : Calendar) (configDir : String)
    (configs : List DeviceConfig) (host : Host)
    (reached : Reaches (step calendar) Sheltered (new configDir configs) host) :
    host.SelfEnding := by
  have sound : host.Sound := by
    apply reached.invariant (P := Host.Sound)
    · exact sound_new configDir configs
    · intro state event next _ sound sheltered taken
      exact sound.step sheltered taken
  exact sound.life.own

/-- A request that passes the checks. -/
def sampleBuild : BuildRequest where
  buildId := "b1"
  sourceUrl := "https://git.example/app.git"
  steps := ["make"]
  uploadUrl := "https://store.example/b1"
  uploadToken := "t"

/-- A WDA job outlives two streams, a build that ended before its stream did was not ended by
it, and neither was the loop of a phone that was stopped. -/
theorem context_outlives_stream_wdaJob :
    ∃ host, Reaches (step Phones.noDates) Sheltered (new "/etc/ios" []) host ∧
      (host.life.works.length = 3 ∧ host.life.streams = 2 ∧ host.life.current = none) ∧
      host.SelfEnding := by
  refine exists_reaches_and_of_run
      [.connect, .frame (.iosWdaJob ⟨"j1", "u"⟩), .drop, .connect, .frame (.nodeBuild sampleBuild),
        .complete .build "b1", .section (.snapshot [("u", "phone")] 0),
        .frame (.iosClaimDevice { udid := "u", pairingCode := "code", serverUrl := "server" }),
        .begin 0, .section (.advance 1 { paired := .ok "id" }),
        .frame (.iosRunnerControl ⟨"", "u", .stop⟩), .begin 0, .section (.advance 2 {}), .drop]
      (by decide +kernel) ?_
  intro host reached _
  exact context_outlives_stream _ _ _ host reached

/-- A build is accepted, and the end of the stream cancels it. -/
theorem build_ends_with_stream :
    ∃ host, Reaches (step Phones.noDates) unrestricted (new "/etc/ios" []) host ∧
      (host.acks = [none] ∧ ¬host.SelfEnding) :=
  exists_reaches_of_run [.connect, .frame (.nodeBuild sampleBuild), .drop] (by decide +kernel)

end Host

end LubricantNodes.Agent
