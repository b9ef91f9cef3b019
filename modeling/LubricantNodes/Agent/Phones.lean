import LubricantNodes.Agent.Devices
import LubricantNodes.Transition.Core
import LubricantNodes.Transition.Table

/-!
# The connection loops of phones

`DeviceManager` at the granularity of its lock: the sections of the commands, of the
prober and of discovery, the callbacks and the end of connection loops, and the
notes of the jobs that prepare a phone.  A phone keeps its number, which stands for
the pointer that closures hold; so does a connection loop, which stands for its
cancel function and its `done` channel.
-/

namespace LubricantNodes.Agent

open Go Transition

/-! ## State -/

/-- `managedDevice`, with what an observer notes about it. -/
structure Phone extends Device where
  lanOn : Bool := false
  profileExpiresAt : String := ""
  wdaProgress : Int := 0
  wdaStage : String := ""
  lastError : String := ""
  /-- Noted: a STOP was acknowledged, and no START, RESTART, claim or attach event of
  the phone has begun since. -/
  silenced : Bool := false
  deriving DecidableEq

/-- Where a connection loop is. -/
inductive LoopPhase
  | running
  /-- `Run` has returned, and the exit is not recorded. -/
  | returned (error : Option String)
  /-- The exit is recorded, and `done` is closed. -/
  | finished
  deriving DecidableEq

/-- The goroutine of `startDeviceLocked`. -/
structure DeviceLoop where
  phone : Nat
  phase : LoopPhase := .running
  /-- Its cancel function has been called. -/
  cancelled : Bool := false
  deriving DecidableEq

/-- Why a loop is cancelled. -/
inductive Purpose
  | stop
  | restart (deviceId udid : String)
  | configure
  | release
  deriving DecidableEq

/-- What a goroutine does next when it has given up the lock. -/
inductive PhoneTask
  /-- `Claim` redeems the pairing code. -/
  | pairing (phone : Nat) (request : ClaimDevice) (name : String)
  /-- The cancel function that was taken is called. -/
  | cancelling (purpose : Purpose) (phone loop : Nat)
  /-- Wait for `done`, at most ten seconds. -/
  | waiting (purpose : Purpose) (phone loop : Nat)
  /-- Start the loop again. -/
  | resuming (purpose : Purpose) (phone : Nat)
  /-- A STOP is acknowledged. -/
  | acking (phone : Nat)
  /-- `probeControl` collects the phones. -/
  | collecting
  /-- `probeControl` starts the loops of the phones it has collected. -/
  | probing (udids : List String)
  | ended

/-- What the outside decides about a task. -/
structure TaskAnswer where
  /-- The outcome of the pairing. -/
  paired : Except String String := .ok ""
  /-- The ten seconds are over. -/
  timedOut : Bool := false

/-- `DeviceManager`. -/
structure Phones where
  /-- The directory of `devices.json`. -/
  configDir : String := ""
  phones : List Phone := []
  loops : List DeviceLoop := []
  tasks : List PhoneTask := []
  /-- The errors with which commands have returned, latest first. -/
  acks : List (Option DeviceError) := []

/-- Readings of the clock: `time.Parse` of a certificate's date, and `AddDate` of
days. -/
structure Calendar where
  parse : String → Option Int
  addDays : Int → Int → Int

/-- The steps of the manager. -/
inductive PhoneEvent
  | claim (request : ClaimDevice)
  | release (request : ReleaseDevice)
  | configure (request : ConfigureDevice)
  | control (request : RunnerControl)
  /-- One turn of the loop of `StartClaimedDevices`. -/
  | startClaimed (phone : Nat)
  /-- A task goes on. -/
  | advance (task : Nat) (answer : TaskAnswer)
  | attached (udid : String)
  | detached (udid : String)
  /-- `applySnapshot` of the phones that are seen, each with its own name. -/
  | snapshot (seen : List (String × String)) (now : Int)
  /-- The callback `OnState` of a loop. -/
  | onState (loop : Nat) (online : Bool)
  /-- The callback `OnWipe` of a loop. -/
  | onWipe (loop : Nat)
  /-- `Run` of a loop returns. -/
  | returns (loop : Nat) (error : Option String)
  /-- The exit of a loop is recorded; the context it was started with may have ended. -/
  | record (loop : Nat) (severed : Bool)
  | jobStarted (udid : String)
  | jobProgress (udid : String) (percent : Int) (stage : String)
  | jobResult (udid : String) (ok cancelled installed : Bool)
      (errorCode message profileExpiresAt : String)
  | lanReachable (udid : String) (on : Bool)
  | lanPairingPending (udid : String)

namespace Phone

/-! ## Changes of a phone -/

/-- `Claim` with a redeemed code. -/
def adopt (request : ClaimDevice) (name deviceId credentialPath : String) (phone : Phone) : Phone :=
  { phone with
    claiming := false
    claimed := true
    deviceId := deviceId
    credentialPath := credentialPath
    name := name
    lastError := ""
    transport := setting request.transport phone.transport
    wdaBundle := setting request.wdaBundleId phone.wdaBundle
    xctest := setting request.xctestConfigName phone.xctest
    configRevision := request.configRevision }

/-- `Release`. -/
def release (deleteCredential : Bool) (phone : Phone) : Phone :=
  { phone with
    cancel := none
    claimed := false
    deviceId := ""
    deviceControlOn := false
    wdaState := .unspecified
    credentialPath := if deleteCredential then "" else phone.credentialPath }

/-- The settings of `ConfigureDevice`. -/
def configure (request : ConfigureDevice) (phone : Phone) : Phone :=
  { phone with toDevice := phone.toDevice.configure request }

variable (phone : Phone)

/-- The handle is taken. -/
def dropHandle : Phone :=
  { phone with cancel := none }

/-- STOP and RESTART take the handle. -/
def halt (userStopped : Bool) (phone : Phone) : Phone :=
  { phone with cancel := none, userStopped := userStopped, deviceControlOn := false }

/-- The callback `onDeviceState`. -/
def onState (online : Bool) (phone : Phone) : Phone :=
  if online = phone.deviceControlOn then phone
  else if online ∧ phone.wdaState ≠ .preparing then
    { phone with deviceControlOn := online, wdaState := .ready, lastError := "" }
  else if ¬online ∧ phone.wdaState = .ready then
    { phone with deviceControlOn := online, wdaState := .installed }
  else { phone with deviceControlOn := online }

/-- The callback `onDeviceWipe`. -/
def onWipe : Phone :=
  { phone with
    claimed := false
    deviceId := ""
    deviceControlOn := false
    lastError := "credential wiped by server; re-claim required" }

/-- The exit of a loop, with the error that is kept. -/
def exit (error : Option String) (phone : Phone) : Phone :=
  { phone with deviceControlOn := false, lastError := error.getD phone.lastError }

/-- `applyEvent` of a detach event. -/
def detach : Phone :=
  if phone.present then { phone with present := false, deviceControlOn := false } else phone

/-- `upsertLocked` of a phone that is known. -/
def upsert (ownName : String) (phone : Phone) : Phone :=
  { phone with
    present := true
    name := if ownName ≠ "" ∧ phone.name = "" then ownName else phone.name }

/-- `refreshWdaExpiryLocked`, for one phone. -/
def refreshWdaExpiry (calendar : Calendar) (now : Int) (phone : Phone) : Phone :=
  if phone.wdaState = .ready ∨ phone.wdaState = .installed ∨ phone.wdaState = .renewalDue then
    match calendar.parse (trimSpace phone.profileExpiresAt) with
    | none => phone
    | some expiry =>
      let window := if 0 < phone.renewBeforeDays then phone.renewBeforeDays else 14
      if expiry < now then { phone with wdaState := .expired }
      else if expiry < calendar.addDays now window then { phone with wdaState := .renewalDue }
      else phone
  else phone

/-- The clock changes at most the state. -/
theorem exists_refreshWdaExpiry_eq (calendar : Calendar) (now : Int) :
    ∃ state, phone.refreshWdaExpiry calendar now =
      { phone with toDevice := { phone.toDevice with wdaState := state } } := by
  unfold refreshWdaExpiry
  generalize (if 0 < phone.renewBeforeDays then phone.renewBeforeDays else 14) = window
  split
  · split
    · exact ⟨phone.wdaState, rfl⟩
    · dsimp only
      split_ifs
      · exact ⟨.expired, rfl⟩
      · exact ⟨.renewalDue, rfl⟩
      · exact ⟨phone.wdaState, rfl⟩
  · exact ⟨phone.wdaState, rfl⟩

/-- `NoteWdaJobStarted`. -/
def noteWdaJobStarted : Phone :=
  { phone with wdaState := .preparing, wdaProgress := 0, wdaStage := "queued" }

/-- `NoteWdaJobProgress`. -/
def noteWdaJobProgress (percent : Int) (stage : String) (phone : Phone) : Phone :=
  if phone.wdaState = .preparing then
    { phone with
      wdaProgress := max 0 (min 100 percent)
      wdaStage := setting stage phone.wdaStage }
  else phone

/-- The error that a job leaves: its message, or else its code. -/
def jobError (errorCode message current : String) : String :=
  setting message (setting errorCode current)

/-- `NoteWdaJobResult`. -/
def noteWdaJobResult (ok cancelled installed : Bool)
    (errorCode message profileExpiresAt : String) (phone : Phone) : Phone :=
  let idle := { phone with wdaProgress := 0, wdaStage := "" }
  if cancelled then
    if phone.wdaState = .preparing then { idle with wdaState := .missing } else idle
  else if ok ∨ installed then
    { idle with
      wdaState := if phone.deviceControlOn then .ready else .installed
      profileExpiresAt := setting profileExpiresAt phone.profileExpiresAt
      lastError := if ok then "" else jobError errorCode message phone.lastError }
  else
    { idle with wdaState := .failed, lastError := jobError errorCode message phone.lastError }

/-- `lanPairingHint`. -/
def lanPairingHint : String :=
  "局域网配对：请在 iPhone 上点按「信任」，允许此电脑控制设备（仅首次）"

/-- `NoteLanReachable`. -/
def noteLanReachable (on : Bool) (phone : Phone) : Phone :=
  { phone with
    lanOn := on
    lastError := if phone.lanOn ≠ on ∧ on then "" else phone.lastError }

/-- `NoteLanPairingPending`. -/
def noteLanPairingPending : Phone :=
  if phone.lanOn then phone else { phone with lastError := lanPairingHint }

end Phone

namespace Phones

variable (manager : Phones)

/-! ## The tables -/

variable (number : Nat) (purpose : Purpose) (udid : String) (change : Phone → Phone)

/-- Change a phone. -/
def edit : Phones :=
  { manager with phones := manager.phones.modify number change }

/-- The silence of a phone ends. -/
def endSilence : Phones :=
  manager.edit number fun phone => { phone with silenced := false }

/-- A goroutine gives up the lock. -/
def spawn (task : PhoneTask) : Phones :=
  { manager with tasks := manager.tasks ++ [task] }

/-- A task goes on. -/
def setTask (task : PhoneTask) : Phones :=
  { manager with tasks := manager.tasks.set number task }

/-- A command returns. -/
def sendAck (error : Option DeviceError) : Phones :=
  { manager with acks := error :: manager.acks }

/-- The entry of the map of phones. -/
def indexOf : Option Nat :=
  manager.phones.findIdx? fun phone => phone.udid = udid

/-- `findLocked`. -/
def findLocked (deviceId udid : String) : Option Nat :=
  let id := trimSpace deviceId
  let byId :=
    if id ≠ "" then manager.phones.findIdx? fun phone => phone.deviceId = id else none
  match byId with
  | some number => some number
  | none => if trimSpace udid ≠ "" then manager.indexOf (trimSpace udid) else none

/-- `startDeviceLocked`. -/
def startDeviceLocked : Phones :=
  match manager.phones[number]? with
  | none => manager
  | some phone =>
    if phone.cancel.isSome then manager
    else
      { manager.edit number fun phone => { phone with cancel := some manager.loops.length } with
        loops := manager.loops ++ [{ phone := number }] }

/-- `adoptConfiguredDevices`, for one entry of `devices.json`. -/
def adopt (config : DeviceConfig) : Phones :=
  if trimSpace config.udid = "" then manager
  else
    match manager.indexOf config.udid with
    | some number => manager.edit number fun _ => { toDevice := config.adopt }
    | none => { manager with phones := manager.phones ++ [{ toDevice := config.adopt }] }

/-- `NewDeviceManager`. -/
def new (configDir : String) (configs : List DeviceConfig) : Phones :=
  configs.foldl adopt { configDir := configDir }

/-- The phones of a new manager are those of `devices.json`. -/
theorem exists_config_of_mem_new {configDir : String} {configs : List DeviceConfig} {phone : Phone}
    (member : phone ∈ (new configDir configs).phones) :
    ∃ config : DeviceConfig, phone = { toDevice := config.adopt } := by
  suffices general : ∀ manager : Phones,
      (∀ phone ∈ manager.phones, ∃ config : DeviceConfig, phone = { toDevice := config.adopt }) →
      ∀ phone ∈ (configs.foldl adopt manager).phones,
        ∃ config : DeviceConfig, phone = { toDevice := config.adopt } by
    apply general { configDir := configDir } _ phone member
    rintro _ ⟨⟩
  clear member
  induction configs with
  | nil =>
    intro manager adopted
    exact adopted
  | cons config rest ih =>
    intro manager adopted
    apply ih
    unfold adopt
    split_ifs
    · exact adopted
    split
    · intro phone member
      rcases List.mem_iff_getElem?.mp member with ⟨index, present⟩
      rcases getElem?_modify_eq_some_iff.mp present with ⟨old, there, rfl⟩
      split_ifs
      · exact ⟨config, rfl⟩
      · exact adopted old (List.mem_of_getElem? there)
    · intro phone member
      rcases List.mem_append.mp member with old | new
      · exact adopted phone old
      · exact ⟨config, List.mem_singleton.mp new⟩

/-! ## Commands -/

/-- `Claim`, up to the pairing; it ends the silence of the phone. -/
def claim (request : ClaimDevice) : Phones :=
  let udid := trimSpace request.udid
  if udid = "" then manager.sendAck (some .claimUdid)
  else if trimSpace request.pairingCode = "" ∨ trimSpace request.serverUrl = "" then
    manager.sendAck (some .claimFields)
  else
    match manager.indexOf udid with
    | none => manager.sendAck (some (.unknown udid))
    | some number =>
      match manager.phones[number]? with
      | none => manager
      | some phone =>
        if phone.claimed then (manager.endSilence number).sendAck (some (.claimed udid))
        else if phone.claiming then
          (manager.endSilence number).sendAck (some (.claiming udid))
        else
          let label := trimSpace request.deviceLabel
          let name := if label = "" then firstNonEmpty [phone.name, udid] else label
          ((manager.edit number fun phone => { phone with claiming := true }).endSilence
            number).spawn (.pairing number request name)

/-- `Claim`, after the pairing. -/
def pair (number : Nat) (request : ClaimDevice) (name : String) : Except String String → Phones
  | .error cause =>
    (manager.edit number fun phone =>
      { phone with claiming := false, lastError := "pairing failed: " ++ cause }).sendAck
        (some (.pair cause))
  | .ok deviceId =>
    ((manager.edit number
      (Phone.adopt request name deviceId (defaultCredentialPath manager.configDir name))
      ).startDeviceLocked number).sendAck none

/-- A command has taken the handle of a phone's loop, if there was one. -/
def dismiss (number : Nat) : Option Nat → Phones
  | some loop => manager.spawn (.cancelling purpose number loop)
  | none =>
    match purpose with
    | .stop => manager.spawn (.acking number)
    | .restart deviceId udid => manager.spawn (.resuming (.restart deviceId udid) number)
    | .configure => manager.sendAck none
    | .release => manager.sendAck none

/-- `Release`. -/
def release (request : ReleaseDevice) : Phones :=
  match manager.findLocked request.deviceId request.udid with
  | none => manager.sendAck (some (.releaseTarget request.deviceId request.udid))
  | some number =>
    (manager.edit number (Phone.release request.deleteCredential)).dismiss .release number
      (manager.phones[number]?.bind fun phone => phone.cancel)

/-- `ConfigureDevice`, up to the restart of the loop. -/
def configure (request : ConfigureDevice) : Phones :=
  match manager.findLocked request.deviceId request.udid with
  | none => manager.sendAck (some (.configureTarget request.deviceId request.udid))
  | some number =>
    match manager.phones[number]? with
    | none => manager
    | some phone =>
      if request.configRevision ≠ 0 ∧ request.configRevision ≤ phone.configRevision then
        manager.sendAck none
      else if phone.restartNeeded request then
        (manager.edit number fun phone => (phone.configure request).dropHandle).dismiss
          .configure number phone.cancel
      else (manager.edit number (Phone.configure request)).sendAck none

/-- START of `ControlRunner`: the loop is started if there is no handle. -/
def startRunner : Phones :=
  match manager.phones[number]? with
  | none => manager
  | some phone =>
    if phone.credentialPath = "" then manager.sendAck (some (.notClaimed phone.udid))
    else if phone.cancel.isNone then
      ((manager.edit number fun phone => { phone with userStopped := false }).startDeviceLocked
        number).sendAck none
    else manager.sendAck none

/-- STOP and RESTART of `ControlRunner`. -/
def stopRunner (number : Nat) : Phones :=
  match manager.phones[number]? with
  | none => manager
  | some phone =>
    if phone.credentialPath = "" then manager.sendAck (some (.notClaimed phone.udid))
    else
      (manager.edit number (Phone.halt (purpose = .stop))).dismiss purpose number phone.cancel

/-- `ControlRunner`; START and RESTART end the silence of the phone. -/
def control (request : RunnerControl) : Phones :=
  match manager.findLocked request.deviceId request.udid with
  | none =>
    manager.sendAck (some (.controlTarget (trimSpace request.deviceId) (trimSpace request.udid)))
  | some number =>
    match request.action with
    | .start => (manager.startRunner number).endSilence number
    | .stop => manager.stopRunner .stop number
    | .restart =>
      (manager.stopRunner (.restart (trimSpace request.deviceId) (trimSpace request.udid))
        number).endSilence number
    | .other action =>
      match manager.phones[number]? with
      | none => manager
      | some phone =>
        if phone.credentialPath = "" then manager.sendAck (some (.notClaimed phone.udid))
        else manager.sendAck (some (.action action))

/-- `ControlRunner` and `ConfigureDevice`, from the start of the loop. -/
def resume : Purpose → Phones
  | .restart deviceId udid =>
    match manager.findLocked deviceId udid with
    | none => manager
    | some number =>
      match manager.phones[number]? with
      | none => manager
      | some phone =>
        if phone.credentialPath ≠ "" then manager.startDeviceLocked number else manager
  | .configure =>
    match manager.phones[number]? with
    | none => manager
    | some phone =>
      if phone.claimed ∧ phone.credentialPath ≠ "" then manager.startDeviceLocked number
      else manager
  | .stop => manager
  | .release => manager

/-- What follows the wait for a loop. -/
def afterWait (phone : Nat) : PhoneTask :=
  match purpose with
  | .stop => .acking phone
  | .restart deviceId udid => .resuming (.restart deviceId udid) phone
  | .configure => .resuming .configure phone
  | .release => .ended

/-- The loop is one that has ended. -/
def isFinished (loop : Nat) : Bool :=
  (manager.loops[loop]?.map fun loop => decide (loop.phase = .finished)).getD false

/-- The next section of a task. -/
def advance (answer : TaskAnswer) : PhoneTask → Option Phones
  | .pairing phone request name =>
    some ((manager.setTask number .ended).pair phone request name answer.paired)
  | .cancelling purpose phone loop =>
    let cancelled :=
      { manager with
        loops := manager.loops.modify loop fun loop => { loop with cancelled := true } }
    match purpose with
    | .release => some ((cancelled.setTask number .ended).sendAck none)
    | _ => some (cancelled.setTask number (.waiting purpose phone loop))
  | .waiting purpose phone loop =>
    guarded (answer.timedOut = true ∨ manager.isFinished loop = true)
      (manager.setTask number (afterWait purpose phone))
  | .resuming purpose phone =>
    some (((manager.setTask number .ended).resume phone purpose).sendAck none)
  | .acking phone =>
    some (((manager.setTask number .ended).edit phone fun phone =>
      { phone with silenced := true }).sendAck none)
  | .collecting =>
    some (manager.setTask number (.probing
      ((manager.phones.filter fun phone => phone.probed).map fun phone => phone.udid)))
  | .probing [] => some (manager.setTask number .ended)
  | .probing (udid :: rest) =>
    let next := manager.setTask number (.probing rest)
    match manager.findLocked "" udid with
    | none => some next
    | some phone => some (next.startRunner phone)
  | .ended => none

/-! ## Discovery -/

/-- `upsertLocked`. -/
def upsert (seen : String × String) : Phones :=
  match manager.indexOf seen.1 with
  | some number => manager.edit number (Phone.upsert seen.2)
  | none =>
    { manager with
      phones := manager.phones ++
        [{ toDevice := { udid := seen.1, name := seen.2, present := true } }] }

/-- `applySnapshot`. -/
def snapshot (calendar : Calendar) (seen : List (String × String)) (now : Int) : Phones :=
  let upserted := seen.foldl upsert manager
  { upserted with
    phones := upserted.phones.map fun phone =>
      Phone.refreshWdaExpiry calendar now
        (if phone.udid ∈ seen.map Prod.fst then phone else { phone with present := false }) }

/-! ## Notes -/

/-- `noteWdaState`, up to the report. -/
def noteWdaState : Phones :=
  match manager.findLocked "" udid with
  | none => manager
  | some number => manager.edit number change

/-- The note of the agent for the local network. -/
def noteLan : Phones :=
  match manager.indexOf (trimSpace udid) with
  | none => manager
  | some number => if trimSpace udid = "" then manager else manager.edit number change

/-- A note about the phone that is found. -/
def noteOn (found : Option Nat) : Phones :=
  match found with
  | none => manager
  | some number => manager.edit number change

theorem noteWdaState_eq : manager.noteWdaState udid change =
    manager.noteOn change (manager.findLocked "" udid) :=
  rfl

theorem noteLan_eq : manager.noteLan udid change = manager.noteOn change
    (if trimSpace udid = "" then none else manager.indexOf (trimSpace udid)) := by
  unfold noteLan noteOn
  by_cases blank : trimSpace udid = "" <;> cases manager.indexOf (trimSpace udid) <;> simp [blank]

/-! ## Steps -/

/-- One section, callback or end of a loop. -/
def step (calendar : Calendar) : Step Phones PhoneEvent
  | manager, .claim request => some (manager.claim request)
  | manager, .release request => some (manager.release request)
  | manager, .configure request => some (manager.configure request)
  | manager, .control request => some (manager.control request)
  | manager, .startClaimed number =>
    (manager.phones[number]?).bind fun phone =>
      guarded (phone.claimed = true ∧ phone.credentialPath ≠ "")
        (manager.startDeviceLocked number)
  | manager, .advance number answer =>
    (manager.tasks[number]?).bind fun task => manager.advance number answer task
  | manager, .attached udid =>
    match manager.indexOf udid with
    | none => some manager
    | some number =>
      some (manager.edit number fun phone =>
        { phone with userStopped := false, silenced := false })
  | manager, .detached udid =>
    match manager.indexOf udid with
    | none => some manager
    | some number => some (manager.edit number Phone.detach)
  | manager, .snapshot seen now =>
    some ((manager.snapshot calendar seen now).spawn .collecting)
  | manager, .onState number online =>
    (manager.loops[number]?).bind fun loop =>
      guarded (loop.phase = .running) (manager.edit loop.phone (Phone.onState online))
  | manager, .onWipe number =>
    (manager.loops[number]?).bind fun loop =>
      guarded (loop.phase = .running) (manager.edit loop.phone Phone.onWipe)
  | manager, .returns number error =>
    (manager.loops[number]?).bind fun loop =>
      guarded (loop.phase = .running)
        { manager with loops := manager.loops.set number { loop with phase := .returned error } }
  | manager, .record number severed =>
    (manager.loops[number]?).bind fun loop =>
      match loop.phase with
      | .returned error =>
        some ({ manager with
          loops := manager.loops.set number { loop with phase := .finished } }.edit loop.phone
            (Phone.exit (if loop.cancelled ∨ severed then none else error)))
      | _ => none
  | manager, .jobStarted udid => some (manager.noteWdaState udid Phone.noteWdaJobStarted)
  | manager, .jobProgress udid percent stage =>
    some (manager.noteWdaState udid (Phone.noteWdaJobProgress percent stage))
  | manager, .jobResult udid ok cancelled installed errorCode message profileExpiresAt =>
    some (manager.noteWdaState udid
      (Phone.noteWdaJobResult ok cancelled installed errorCode message profileExpiresAt))
  | manager, .lanReachable udid on => some (manager.noteLan udid (Phone.noteLanReachable on))
  | manager, .lanPairingPending udid => some (manager.noteLan udid Phone.noteLanPairingPending)

/-! ## Samples -/

/-- A calendar without dates. -/
def noDates : Calendar where
  parse _ := none
  addDays now _ := now

/-- A phone is seen, claimed and connected. -/
def connected : List PhoneEvent :=
  [.snapshot [("u", "phone")] 0, .claim ⟨"u", "code", "server", "", "", "", "", 1⟩,
    .advance 1 { paired := .ok "id" }, .onState 0 true]

/-- A command for the sample phone. -/
def command (action : RunnerAction) : PhoneEvent :=
  .control ⟨"", "u", action⟩

end Phones

end LubricantNodes.Agent
