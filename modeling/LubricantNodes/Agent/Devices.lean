import LubricantNodes.Go.Path
import LubricantNodes.Go.Strings

/-!
# Phones and their commands

An attached phone as the manager of phones keeps it, the entries of `devices.json`,
and the requests of the frames that concern phones, with the errors that answer them.
-/

namespace LubricantNodes.Agent

open Go

/-! ## Phones -/

/-- `IosWdaState`. -/
inductive WdaState
  | unspecified
  | missing
  | preparing
  | ready
  | renewalDue
  | expired
  | failed
  | installed
  deriving DecidableEq

/-- `managedDevice`, as far as the lifetime of its connection loop depends on
it. -/
structure Device where
  udid : String
  name : String := ""
  deviceId : String := ""
  credentialPath : String := ""
  transport : String := ""
  wdaBundle : String := ""
  xctest : String := ""
  hostWDAPort : Int := 0
  renewBeforeDays : Int := 0
  configRevision : Int := 0
  claimed : Bool := false
  claiming : Bool := false
  userStopped : Bool := false
  present : Bool := false
  deviceControlOn : Bool := false
  wdaState : WdaState := .unspecified
  /-- The connection loop whose cancel function is kept. -/
  cancel : Option Nat := none
  deriving DecidableEq

/-- An entry of `devices.json`. -/
structure DeviceConfig where
  udid : String
  name : String
  transport : String
  wdaBundle : String
  xctest : String
  wdaPort : Int
  credentialPath : String

/-- `firstNonEmpty`. -/
def firstNonEmpty (values : List String) : String :=
  (values.find? fun value => trimSpace value ≠ "").getD ""

/-- `defaultRunnerBundle`. -/
def defaultRunnerBundle (value : String) : String :=
  if trimSpace value ≠ "" then trimSpace value else "com.deviceboxhq.goios.devicekit.runner"

/-- `defaultRunnerXctest`. -/
def defaultRunnerXctest (value : String) : String :=
  if trimSpace value ≠ "" then trimSpace value else "devicekit-iosUITests.xctest"

/-- One entry of `adoptConfiguredDevices`. -/
def DeviceConfig.adopt (config : DeviceConfig) : Device where
  udid := config.udid
  name := config.name
  transport := config.transport
  wdaBundle := defaultRunnerBundle config.wdaBundle
  xctest := defaultRunnerXctest config.xctest
  hostWDAPort := config.wdaPort
  credentialPath := config.credentialPath
  claimed := config.credentialPath ≠ ""

/-- `sanitizeFileName` of the phones' configuration. -/
def sanitizeFileName (name : String) : String :=
  let kept := (trimSpace name).toList.map fun rune =>
    if rune.isAlphanum || rune = '-' || rune = '_' || rune = '.' then rune else '_'
  if kept = [] then "device" else String.ofList kept

/-- `DefaultCredentialPath`, from the directory of the configuration. -/
def defaultCredentialPath (configDir name : String) : String :=
  join [configDir, "credentials", sanitizeFileName name ++ ".json"]

/-! ## Requests -/

/-- `NodeIosClaimDevice`. -/
structure ClaimDevice where
  udid : String
  pairingCode : String
  serverUrl : String
  deviceLabel : String := ""
  transport : String := ""
  wdaBundleId : String := ""
  xctestConfigName : String := ""
  configRevision : Int := 0

/-- `NodeIosReleaseDevice`. -/
structure ReleaseDevice where
  deviceId : String
  udid : String
  deleteCredential : Bool

/-- `NodeIosConfigureDevice`. -/
structure ConfigureDevice where
  deviceId : String
  udid : String
  transport : String
  wdaBundleId : String
  xctestConfigName : String
  hostWdaPort : Int
  renewBeforeDays : Int
  configRevision : Int

/-- `IosRunnerControlAction`. -/
inductive RunnerAction
  | start
  | stop
  | restart
  | other (number : Int)
  deriving DecidableEq

/-- `NodeIosRunnerControl`. -/
structure RunnerControl where
  deviceId : String
  udid : String
  action : RunnerAction

/-- A setting of a request, where blank means no change. -/
def setting (wanted current : String) : String :=
  if trimSpace wanted ≠ "" then trimSpace wanted else current

/-- The settings of `ConfigureDevice`. -/
def Device.configure (device : Device) (request : ConfigureDevice) : Device :=
  { device with
    transport := setting request.transport device.transport
    wdaBundle := setting request.wdaBundleId device.wdaBundle
    xctest := setting request.xctestConfigName device.xctest
    hostWDAPort := request.hostWdaPort
    renewBeforeDays :=
      if 0 < request.renewBeforeDays then request.renewBeforeDays
      else if device.renewBeforeDays ≤ 0 then 14 else device.renewBeforeDays
    configRevision := request.configRevision }

/-- `restartNeeded` of `ConfigureDevice`. -/
def Device.restartNeeded (device : Device) (request : ConfigureDevice) : Bool :=
  setting request.transport device.transport ≠ device.transport ||
    setting request.wdaBundleId device.wdaBundle ≠ device.wdaBundle ||
    setting request.xctestConfigName device.xctest ≠ device.xctest ||
    request.hostWdaPort ≠ device.hostWDAPort

/-- The error of a phone's frame. -/
inductive DeviceError
  | claimUdid
  | claimFields
  | claimed (udid : String)
  | unknown (udid : String)
  | claiming (udid : String)
  | pair (text : String)
  | controlTarget (deviceId udid : String)
  | notClaimed (udid : String)
  | action (number : Int)
  | releaseTarget (deviceId udid : String)
  | configureTarget (deviceId udid : String)
  deriving DecidableEq

/-- `describeTarget`. -/
def describeTarget (deviceId udid : String) : String :=
  if trimSpace deviceId ≠ "" then "device_id=" ++ deviceId else "udid=" ++ udid

/-- The text of an error. -/
def DeviceError.text : DeviceError → String
  | claimUdid => "claim: udid is required"
  | claimFields => "claim: pairing_code and server_url are required"
  | claimed udid => "claim: udid " ++ udid ++ " is already claimed"
  | unknown udid => "claim: udid " ++ udid ++ " is not in this host's inventory"
  | claiming udid => "claim: udid " ++ udid ++ " is already being claimed"
  | pair cause => "claim: redeem pairing code: " ++ cause
  | controlTarget deviceId udid =>
    "runner control: device " ++ describeTarget deviceId udid ++ " not found on this host"
  | notClaimed udid =>
    "runner control: device " ++ udid ++ " is not claimed (no credential on disk)"
  | action number => "runner control: unknown action " ++ toString number
  | releaseTarget deviceId udid =>
    "release: device " ++ describeTarget deviceId udid ++ " not found on this host"
  | configureTarget deviceId udid =>
    "configure: device " ++ describeTarget deviceId udid ++ " not found on this host"

/-- `probeControl` picks a phone. -/
def Device.probed (device : Device) : Bool :=
  device.wdaState = .installed && !device.userStopped && device.present && device.claimed &&
    device.credentialPath ≠ "" && !device.deviceControlOn

end LubricantNodes.Agent
