import LubricantNodes.Agent.Archives
import LubricantNodes.Go.Utf8
import LubricantNodes.Transition.Table

/-!
# Upgrades of the runtime and of Node.js

`RuntimeUpgrade` and `installHostNodeJS` replace a directory by the content of an
archive: they download the archive, unpack it into a staging directory, move the
old directory to a backup and the staging directory to the target, and move the
backup back when that fails.  All paths are the target's with fixed endings.

Every frame starts a call in a goroutine of its own, without a lock.  A call moves
by single file operations, each of which may fail.
-/

namespace LubricantNodes.Agent

open Files Go Transition

/-! ## The two kinds -/

/-- `RuntimeUpgrade` or `installHostNodeJS`. -/
inductive UpgradeKind
  | runtime
  | node
  deriving DecidableEq

/-- `extractRuntimeArchive` or `extractNodeTarGz`. -/
def UpgradeKind.extractor : UpgradeKind → Extractor
  | runtime => .runtime
  | node => .node

/-- What the texts of the errors start with. -/
def UpgradeKind.label : UpgradeKind → String
  | runtime => "runtime-upgrade: "
  | node => "host-tool: "

/-- `runtimeReleaseMarker`. -/
def runtimeReleaseMarker : String := ".release-version"

/-- The fields of the frame that steer a call. -/
structure UpgradeRequest where
  downloadUrl : String
  sha256 : String := ""
  targetVersion : String := ""
  deriving DecidableEq

/-- The release tag to stamp; only the runtime is stamped. -/
def UpgradeRequest.tag (request : UpgradeRequest) : UpgradeKind → String
  | .runtime => trimSpace request.targetVersion
  | .node => ""

/-- What a call returns besides nil. -/
inductive UpgradeError
  | urlRequired
  | prepare (cause : String)
  | download (cause : String)
  | checksum (cause : String)
  | extract (cause : String)
  | entry (error : ArchiveError)
  | incomplete
  | preserve (cause : String)
  | activate (cause : String)
  deriving DecidableEq

/-- The text of an error; `quote` is the `%q` verb. -/
def UpgradeError.text (quote : String → String) : UpgradeKind → UpgradeError → String
  | kind, .urlRequired => kind.label ++ "download_url is required"
  | .runtime, .prepare cause => "runtime-upgrade: prepare install dir: " ++ cause
  | .node, .prepare cause => "host-tool: prepare tools dir: " ++ cause
  | _, .download cause => cause
  | .runtime, .checksum cause => cause
  | .node, .checksum cause => "host-tool: " ++ cause
  | _, .extract cause => cause
  | _, .entry error => error.text quote
  | .runtime, .incomplete => "runtime-upgrade: archive is missing runtime/dist/cli.js"
  | .node, .incomplete =>
    "host-tool: staged archive has no node binary (looked for bin/node, node.exe)"
  | .runtime, .preserve cause => "runtime-upgrade: preserve current runtime: " ++ cause
  | .node, .preserve cause => "host-tool: preserve current node install: " ++ cause
  | .runtime, .activate cause => "runtime-upgrade: activate staged runtime: " ++ cause
  | .node, .activate cause => "host-tool: activate staged node install: " ++ cause

/-! ## The paths beside the target -/

/-- A directory with all below it; its paths start at the directory. -/
abbrev Folder := Tree String String

/-- What is at the path of the target, of the staging directory or of the backup. -/
inductive Item
  | folder (content : Folder)
  | file (data : String)

/-- What a removal that fails has left. -/
def Item.shrink (gone : List (List String)) : Item → Item
  | folder content => folder ⟨content.entries.filter fun entry => entry.1 ∉ gone⟩
  | file data => file data

/-- The parent directory: the paths `target`, `target.new` and `target.old`, and the
downloaded archive with its `.part` file, which are names of the files in `blobs`; a
file keeps its number when it is renamed. -/
structure Shelf where
  blobs : Nat → Bytes := fun _ => []
  /-- The number of the next file. -/
  fresh : Nat := 0
  part : Option Nat := none
  archive : Option Nat := none
  stage : Option Item := none
  target : Option Item := none
  backup : Option Item := none

/-- `os.Rename`, which replaces a file by a file and nothing else: what is then at
the new path. -/
def renameOver : Option Item → Option Item → Option Item
  | some item, none => some item
  | some (.file data), some (.file _) => some (.file data)
  | _, _ => none

/-- Write at an offset of a file. -/
def writeAt (blob : Bytes) (offset : Nat) (chunk : Bytes) : Bytes :=
  blob.take offset ++ List.replicate (offset - blob.length) 0 ++ chunk ++
    blob.drop (offset + chunk.length)

/-! ## Unpacking into the staging directory -/

/-- The file operations of an extraction, on paths from the staging directory on. -/
inductive FileOp
  | mkdirAll (path : List String)
  | create (path : List String) (data : String)
  | remove (path : List String)
  | symlink (path : List String) (linkname : String)
  deriving DecidableEq

/-- The operations for an entry. -/
def Plan.ops (root : List String) : Plan → List FileOp
  | refuse _ => []
  | skip => []
  | dir path => [.mkdirAll (path.drop root.length)]
  | file path data =>
    [.mkdirAll (path.dropLast.drop root.length), .create (path.drop root.length) data]
  | link path linkname =>
    [.mkdirAll (path.dropLast.drop root.length), .remove (path.drop root.length),
      .symlink (path.drop root.length) linkname]

namespace FileOp

/-- The operation follows a link, or replaces the directory itself: what it changes
may lie anywhere. -/
def Astray (content : Folder) : FileOp → Prop
  | mkdirAll path => ¬content.Direct true path
  | create path _ => ¬content.Direct true path
  | remove path => ¬content.Direct false path ∨ path = []
  | symlink path _ => ¬content.Direct false path ∨ path = []

instance (content : Folder) (op : FileOp) : Decidable (op.Astray content) := by
  unfold Astray
  split <;> infer_instance

/-- The errors of `os.Remove` and `os.Symlink` do not end an extraction. -/
def isTolerant : FileOp → Bool
  | remove _ | symlink _ _ => true
  | mkdirAll _ | create _ _ => false

/-- The operation when the system does not refuse it. -/
def perform (limit : Nat) (content : Folder) : FileOp → Option Folder
  | mkdirAll path =>
    let made := content.mkdirAll limit (fun _ => false) path
    if made.2 then some made.1 else none
  | create path data => content.create limit (fun _ => false) path data
  | remove path => some ((content.remove limit (fun _ => false) path).getD content)
  | symlink path linkname =>
    some ((content.symlink limit (fun _ => false) path (isAbs linkname) (linkMoves linkname)).getD
      content)

/-- What a refused operation may have done: `os.MkdirAll` has made some directories,
and a file may be there with a part of its data. -/
def spoil (limit : Nat) (content : Folder) (made : Nat) (cut : Option String) : FileOp → Folder
  | mkdirAll path => (content.mkdirAll limit (fun _ => false) (path.take made)).1
  | create path _ =>
    (cut.bind (content.create limit (fun _ => false) path)).getD content
  | remove _ => content
  | symlink _ _ => content

end FileOp

/-- What the calls of one kind work with: the path of the staging directory, the
bound on the walk of a path, the entries that `gzip` and `tar` read from a file and
whether they end without an error, and the hexadecimal SHA-256 of a file. -/
structure UpgradeHost where
  kind : UpgradeKind
  root : List String
  limit : Nat
  decode : Bytes → List TarHeader × Bool
  digest : Bytes → String

namespace UpgradeHost

variable (host : UpgradeHost)

/-- The operations one after the other, none of them refused. -/
def performAll (content : Folder) (ops : List FileOp) : Option Folder :=
  ops.foldlM (fun content op =>
    if op.Astray content then none else op.perform host.limit content) content

/-- The extraction of entries, none of its operations refused. -/
def unpackEntries : List TarHeader → String → Folder → Option Folder
  | [], _, content => some content
  | header :: rest, strip, content =>
    match host.kind.extractor.plan host.root strip header with
    | (.refuse _, _) => none
    | (plan, strip) => (host.performAll content (plan.ops host.root)).bind
        (unpackEntries rest strip)

/-- The content of an archive: what it unpacks to in an empty directory. -/
def unpack (archive : Bytes) : Option Folder :=
  let (headers, complete) := host.decode archive
  if complete then host.unpackEntries headers "" ⟨[]⟩ else none

end UpgradeHost

/-! ## A call -/

/-- Where a call is; a phase is named after its next operation. -/
inductive UpgradePhase
  /-- `os.MkdirAll(parent)`. -/
  | preparing
  /-- `os.Remove(archivePath)`. -/
  | clearingArchive
  /-- `os.RemoveAll(stage)`. -/
  | clearingStage
  /-- The request, until the status is there. -/
  | requesting
  /-- `os.OpenFile(part)`. -/
  | opening
  /-- The loop of `progressDownloadOnce`. -/
  | receiving
  /-- `os.Remove(part)` after a failed attempt. -/
  | abandoning (cause : String)
  /-- `os.Rename(part, dest)`. -/
  | finalizing
  /-- `verifySHA256`. -/
  | verifying
  /-- `os.MkdirAll(stage)`. -/
  | staging
  /-- `os.Open(archivePath)` for the extraction. -/
  | reading
  /-- The loop over the entries. -/
  | extracting
  /-- The check of the staged files. -/
  | validating
  /-- `os.RemoveAll(stage)` before an error is returned. -/
  | discarding (error : UpgradeError)
  /-- `os.RemoveAll(backup)`. -/
  | clearingBackup
  /-- `os.Stat(target)`. -/
  | inspecting
  /-- `os.Rename(target, backup)`. -/
  | preserving
  /-- `os.Rename(stage, target)`. -/
  | activating
  /-- `os.Stat(backup)` after a failed activation. -/
  | probing (error : UpgradeError)
  /-- `os.Rename(backup, target)`. -/
  | restoring (error : UpgradeError)
  /-- `os.RemoveAll(backup)` after the activation. -/
  | droppingBackup
  /-- `os.WriteFile` of the release marker. -/
  | stamping
  /-- The deferred `os.Remove(archivePath)`. -/
  | closing (result : Option UpgradeError)
  | returned (result : Option UpgradeError)
  deriving DecidableEq

/-- The variables of a call, and what an observer notes about it. -/
structure UpgradeCall where
  request : UpgradeRequest
  phase : UpgradePhase := .preparing
  /-- The download is in its second attempt. -/
  retried : Bool := false
  /-- `resp.ContentLength`, or 0 if it is not known. -/
  total : Nat := 0
  /-- The file behind the open `.part` file. -/
  handle : Nat := 0
  /-- The body that the attempt has read. -/
  received : Bytes := []
  /-- The entries that are still to be extracted. -/
  headers : List TarHeader := []
  /-- The entries end without an error. -/
  complete : Bool := true
  strip : String := ""
  /-- The operations for the current entry. -/
  ops : List FileOp := []
  /-- Noted: no other call has been in progress since the call began. -/
  alone : Bool := true
  /-- Noted: the target when the call began. -/
  found : Option Item
  /-- Noted: the target when the call returned. -/
  left : Option Item := none

/-- What the outside decides about an operation. -/
structure Answer where
  /-- The operation fails. -/
  fault : Option String := none
  /-- The context is cancelled. -/
  cancelled : Bool := false
  /-- `resp.ContentLength`. -/
  total : Nat := 0
  /-- The bytes that a read returns. -/
  chunk : Bytes := []
  /-- The read also returns `io.EOF`. -/
  last : Bool := false
  /-- The digest that `SHASUMS256.txt` lists, if it could be loaded. -/
  listed : Option String := none
  /-- What a failing removal has removed nevertheless. -/
  gone : List (List String) := []
  /-- How far a failing write or `os.MkdirAll` came. -/
  made : Nat := 0
  /-- The data that a failing copy has written. -/
  cut : Option String := none
  /-- The answer of `os.Stat` for a path behind a link. -/
  present : Bool := false
  /-- What an operation that follows a link leaves. -/
  elsewhere : Shelf := {}

namespace UpgradeCall

variable (host : UpgradeHost)

variable (shelf : Shelf) (call : UpgradeCall) (answer : Answer) (op : FileOp) (item : Option Item)

/-- The call has not returned. -/
def running : Bool :=
  match call.phase with
  | .returned _ => false
  | _ => true

/-- `os.RemoveAll`. -/
def removeAll : Option Item :=
  if answer.fault.isSome then item.map (Item.shrink answer.gone) else none

/-- `progressDownload` after a failed attempt: one retry, unless cancelled. -/
def retry (cancelled : Bool) (cause : String) : UpgradeCall :=
  if call.retried ∨ cancelled then { call with phase := .closing (some (.download cause)) }
  else { call with phase := .requesting, retried := true }

/-- `os.OpenFile` with `O_CREATE` and `O_TRUNC`. -/
def openPart : Shelf × UpgradeCall :=
  match shelf.part with
  | some number =>
    ({ shelf with blobs := Function.update shelf.blobs number [] },
      { call with phase := .receiving, handle := number, received := [] })
  | none =>
    ({ shelf with
        blobs := Function.update shelf.blobs shelf.fresh []
        fresh := shelf.fresh + 1
        part := some shelf.fresh },
      { call with phase := .receiving, handle := shelf.fresh, received := [] })

/-- Write to the open `.part` file. -/
def write (chunk : Bytes) : Shelf :=
  { shelf with
    blobs := Function.update shelf.blobs call.handle
      (writeAt (shelf.blobs call.handle) call.received.length chunk) }

/-- The body has ended: the file is closed, and its length compared. -/
def finish : UpgradeCall :=
  if 0 < call.total ∧ call.received.length ≠ call.total then
    { call with phase := .abandoning "下载被截断" }
  else { call with phase := .finalizing }

/-- One turn of the loop of `progressDownloadOnce`; a fault is one of the write when
bytes were read, and one of the read otherwise. -/
def receive : Shelf × UpgradeCall :=
  if answer.cancelled then (shelf, { call with phase := .abandoning "context canceled" })
  else
    match answer.fault with
    | some cause =>
      (call.write shelf (answer.chunk.take answer.made), { call with phase := .abandoning cause })
    | none =>
      let further := { call with received := call.received ++ answer.chunk }
      (call.write shelf answer.chunk, if answer.last then further.finish else further)

/-- The digest to compare with, if there is one. -/
def wanted : Option String :=
  if trimSpace call.request.sha256 ≠ "" then some (trimSpace call.request.sha256)
  else
    match host.kind with
    | .runtime => none
    | .node => answer.listed.filter (· ≠ "")

/-- The phases of an extraction: the runtime's opens the archive first. -/
def firstOfExtraction : UpgradePhase :=
  match host.kind with
  | .runtime => .reading
  | .node => .staging

/-- `verifySHA256`, when there is a digest. -/
def verify : UpgradeCall :=
  match call.wanted host answer with
  | none => { call with phase := firstOfExtraction host }
  | some want =>
    match answer.fault, shelf.archive.map shelf.blobs with
    | none, some blob =>
      if equalFold (host.digest blob) (trimSpace want) then
        { call with phase := firstOfExtraction host }
      else
        { call with
          phase := .closing (some (.checksum
            ("self-upgrade: checksum mismatch: got " ++ host.digest blob ++ " want " ++
              want))) }
    | fault, _ =>
      { call with
        phase := .closing (some (.checksum
          ("self-upgrade: open for checksum: " ++ fault.getD "no such file or directory"))) }

/-- The phase after the archive is open. -/
def afterOpen : UpgradePhase :=
  match host.kind with
  | .runtime => .staging
  | .node => .extracting

/-- Open the archive, and what is read from it later. -/
def readArchive : UpgradeCall :=
  match answer.fault, shelf.archive.map shelf.blobs with
  | none, some blob =>
    { call with
      headers := (host.decode blob).1
      complete := (host.decode blob).2
      strip := ""
      ops := []
      phase := afterOpen host }
  | fault, _ =>
    { call with
      phase := .discarding (.extract
        (host.kind.label ++ "open archive: " ++ fault.getD "no such file or directory")) }

/-- The phase after `os.MkdirAll(stage)`. -/
def afterStage : UpgradePhase :=
  match host.kind with
  | .runtime => .extracting
  | .node => .reading

/-- The error of `os.MkdirAll(stage)`. -/
def stageError (cause : String) : String :=
  match host.kind with
  | .runtime => cause
  | .node => "host-tool: prepare stage dir: " ++ cause

/-- `os.MkdirAll(stage)`. -/
def makeStage : Shelf × UpgradeCall :=
  match answer.fault, shelf.stage with
  | none, none =>
    ({ shelf with stage := some (.folder ⟨[]⟩) }, { call with phase := afterStage host })
  | none, some (.folder _) => (shelf, { call with phase := afterStage host })
  | fault, _ =>
    (shelf,
      { call with
        phase := .discarding (.extract (stageError host (fault.getD "not a directory"))) })

/-- The directory that an operation finds; `os.MkdirAll` makes it when it is gone. -/
def directory : Option Item → Option Folder
  | some (.folder content) => some content
  | some (.file _) => none
  | none =>
    match op with
    | .mkdirAll _ => some ⟨[]⟩
    | _ => none

/-- One file operation below a directory: what is then there, and whether it failed. -/
def operate (answer : Answer) : Option Item × Option String :=
  match directory op item with
  | none => (item, some "no such file or directory")
  | some content =>
    match answer.fault with
    | some cause =>
      (some (.folder (op.spoil host.limit content answer.made answer.cut)), some cause)
    | none =>
      match op.perform host.limit content with
      | some done => (some (.folder done), none)
      | none => (item, some "file exists")

/-- The operation follows a link. -/
def strays : Bool :=
  match directory op item with
  | none => false
  | some content => decide (op.Astray content)

/-- The extraction goes on after an operation, or ends with its error. -/
def afterOp (rest : List FileOp) : Option String → UpgradeCall
  | none => { call with ops := rest }
  | some cause =>
    if op.isTolerant then { call with ops := rest }
    else { call with phase := .discarding (.extract cause) }

/-- The next entry of the archive. -/
def nextEntry : UpgradeCall :=
  match call.headers with
  | [] =>
    if call.complete then { call with phase := .validating }
    else { call with phase := .discarding (.extract (host.kind.label ++ "read tar")) }
  | header :: rest =>
    match host.kind.extractor.plan host.root call.strip header with
    | (.refuse error, _) => { call with phase := .discarding (.entry error) }
    | (plan, strip) =>
      { call with headers := rest, strip := strip, ops := plan.ops host.root }

/-- One operation of the extraction. -/
def extract : Shelf × UpgradeCall :=
  match call.ops with
  | [] => (shelf, call.nextEntry host)
  | op :: rest =>
    if strays op shelf.stage then (answer.elsewhere, call.afterOp op rest answer.fault)
    else
      let result := operate host op shelf.stage answer
      ({ shelf with stage := result.1 }, call.afterOp op rest result.2)

/-- `os.Stat` of a path in the staging directory: whether it is a directory, if it is
there. -/
def statStaged (stage : Option Item) (path : List String) (answer : Answer) : Option Bool :=
  match stage with
  | some (.folder content) =>
    if content.Direct true path then content.stat host.limit (fun _ => false) path
    else if answer.present then some false else none
  | _ => none

/-- The staged files are those of a runtime, or of Node.js: `validateStagedNode`. -/
def isComplete (stage : Option Item) (answer : Answer) : Bool :=
  match host.kind with
  | .runtime => (statStaged host stage ["dist", "cli.js"] answer).isSome
  | .node =>
    statStaged host stage ["bin", "node"] answer == some false ||
      statStaged host stage ["node.exe"] answer == some false

/-- `os.Rename(target, backup)`. -/
def preserve (shelf : Shelf) (call : UpgradeCall) (answer : Answer) : Shelf × UpgradeCall :=
  match answer.fault, renameOver shelf.target shelf.backup with
  | none, some moved =>
    ({ shelf with target := none, backup := some moved }, { call with phase := .activating })
  | fault, _ =>
    (shelf, { call with phase := .discarding (.preserve (fault.getD "file exists")) })

/-- `os.Rename(stage, target)`. -/
def activate (shelf : Shelf) (call : UpgradeCall) (answer : Answer) : Shelf × UpgradeCall :=
  match answer.fault, renameOver shelf.stage shelf.target with
  | none, some moved =>
    ({ shelf with stage := none, target := some moved }, { call with phase := .droppingBackup })
  | fault, _ => (shelf, { call with phase := .probing (.activate (fault.getD "file exists")) })

/-- `os.Rename(backup, target)`, the error of which is ignored. -/
def restore : Shelf :=
  match answer.fault, renameOver shelf.backup shelf.target with
  | none, some moved => { shelf with backup := none, target := some moved }
  | _, _ => shelf

/-- `os.WriteFile` of the release marker, the error of which is ignored. -/
def stamp : Shelf :=
  let op := FileOp.create [runtimeReleaseMarker] (call.request.tag host.kind)
  if call.request.tag host.kind = "" then shelf
  else if strays op shelf.target then answer.elsewhere
  else { shelf with target := (operate host op shelf.target answer).1 }

/-- The next operation of a call that has not returned. -/
def advance : Shelf × UpgradeCall :=
  match call.phase with
  | .preparing =>
    match answer.fault with
    | some cause =>
      (shelf, { call with phase := .returned (some (.prepare cause)), left := shelf.target })
    | none => (shelf, { call with phase := .clearingArchive })
  | .clearingArchive =>
    ({ shelf with archive := if answer.fault.isSome then shelf.archive else none },
      { call with phase := .clearingStage })
  | .clearingStage =>
    ({ shelf with stage := removeAll answer shelf.stage }, { call with phase := .requesting })
  | .requesting =>
    match answer.fault with
    | some cause => (shelf, call.retry answer.cancelled cause)
    | none => (shelf, { call with phase := .opening, total := answer.total })
  | .opening =>
    match answer.fault with
    | some cause => (shelf, call.retry answer.cancelled cause)
    | none => call.openPart shelf
  | .receiving => call.receive shelf answer
  | .abandoning cause =>
    ({ shelf with part := if answer.fault.isSome then shelf.part else none },
      call.retry answer.cancelled cause)
  | .finalizing =>
    match answer.fault, shelf.part with
    | none, some number =>
      ({ shelf with part := none, archive := some number }, { call with phase := .verifying })
    | fault, _ =>
      (shelf, { call with phase := .abandoning (fault.getD "no such file or directory") })
  | .verifying => (shelf, call.verify host shelf answer)
  | .staging => call.makeStage host shelf answer
  | .reading => (shelf, call.readArchive host shelf answer)
  | .extracting => call.extract host shelf answer
  | .validating =>
    (shelf,
      if answer.fault.isNone ∧ isComplete host shelf.stage answer then
        { call with phase := .clearingBackup }
      else { call with phase := .discarding .incomplete })
  | .discarding error =>
    ({ shelf with stage := removeAll answer shelf.stage },
      { call with phase := .closing (some error) })
  | .clearingBackup =>
    ({ shelf with backup := removeAll answer shelf.backup }, { call with phase := .inspecting })
  | .inspecting =>
    (shelf,
      { call with
        phase :=
          if answer.fault.isNone ∧ shelf.target.isSome then .preserving else .activating })
  | .preserving => call.preserve shelf answer
  | .activating => call.activate shelf answer
  | .probing error =>
    (shelf,
      { call with
        phase :=
          if answer.fault.isNone ∧ shelf.backup.isSome then .restoring error
          else .closing (some error) })
  | .restoring error => (restore shelf answer, { call with phase := .closing (some error) })
  | .droppingBackup =>
    ({ shelf with backup := removeAll answer shelf.backup }, { call with phase := .stamping })
  | .stamping => (call.stamp host shelf answer, { call with phase := .closing none })
  | .closing result =>
    ({ shelf with archive := if answer.fault.isSome then shelf.archive else none },
      { call with phase := .returned result, left := shelf.target })
  | .returned result => (shelf, { call with phase := .returned result })

/-- A call that begins; a blank URL is refused before any file operation. -/
def start (request : UpgradeRequest) (alone : Bool) (target : Option Item) : UpgradeCall :=
  if trimSpace request.downloadUrl = "" then
    { request := request, phase := .returned (some .urlRequired), alone := alone, found := target,
      left := target }
  else { request := request, alone := alone, found := target }

/-- Another call has begun. -/
def meet : UpgradeCall :=
  if call.running then { call with alone := false } else call

end UpgradeCall

/-! ## All calls -/

/-- The calls of one kind, and the directory they work in. -/
structure Upgrades where
  shelf : Shelf
  calls : List UpgradeCall := []

/-- A frame starts a call, or a call takes its next operation. -/
inductive UpgradeEvent
  | begin (request : UpgradeRequest)
  | advance (number : Nat) (answer : Answer)

namespace Upgrades

/-- A call is in progress. -/
def busy (state : Upgrades) : Bool :=
  state.calls.any UpgradeCall.running

/-- One step of one goroutine. -/
def step (host : UpgradeHost) : Step Upgrades UpgradeEvent
  | state, .begin request =>
    some
      { state with
        calls := state.calls.map UpgradeCall.meet ++
          [UpgradeCall.start request (!state.busy) state.shelf.target] }
  | state, .advance number answer =>
    (state.calls[number]?).bind fun call =>
      let result := call.advance host state.shelf answer
      guarded (call.running = true)
        { shelf := result.1, calls := state.calls.set number result.2 }

end Upgrades

end LubricantNodes.Agent
