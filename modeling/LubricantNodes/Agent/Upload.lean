import LubricantNodes.Files.Inodes
import LubricantNodes.Go.Path
import LubricantNodes.Go.Utf8
import LubricantNodes.Transition.Core

/-!
# Uploads of host files

A file is uploaded in chunks.  The chunks of one upload id go to a temporary
file beside the destination, and the final chunk is published by a rename.  Each
chunk is handled by a goroutine of its own, and every chunk repeats its path.

Which entry a path leads to is decided by `locate`, and `digest` is the
hexadecimal SHA-256 sum.
-/

namespace LubricantNodes.Agent

open Files Go Transition

/-! ## Requests -/

/-- `NodeFileUploadRequest`. -/
structure UploadRequest where
  uploadId : String
  path : String
  offset : Nat
  data : Bytes
  final : Bool := false
  totalSize : Nat := 0
  sha256 : String := ""
  overwrite : Bool := false
  deriving DecidableEq

/-- `NodeFileUploadResult`, without the fields that repeat the request. -/
structure UploadResult where
  ok : Bool := false
  bytesWritten : Nat := 0
  error : String := ""
  deriving DecidableEq

/-- `maxUploadChunkBytes`. -/
def maxUploadChunkBytes : Nat := 1024 * 1024

/-- `maxUploadTotalBytes`. -/
def maxUploadTotalBytes : Nat := 10 * 1024 * 1024

/-- The bound on file offsets, which are signed. -/
def maxFileOffset : Nat := 2 ^ 63

/-- `isWindowsReservedName`. -/
def isWindowsReservedName (name : String) : Bool :=
  let stem :=
    if '.' ∈ name.toList then
      (name.toList.reverse.dropWhile (· ≠ '.')).tail.reverse
    else name.toList
  String.ofList (stem.map toUpperRune) ∈
    ["CON", "PRN", "AUX", "NUL", "COM1", "COM2", "COM3", "COM4", "COM5", "COM6", "COM7", "COM8",
      "COM9", "LPT1", "LPT2", "LPT3", "LPT4", "LPT5", "LPT6", "LPT7", "LPT8", "LPT9"]

/-- `validateUploadPath` on a POSIX host: the error, if there is one. -/
def validateUploadPath (path : String) : Option String :=
  let cleaned := clean path
  if path = "" then some "path is required"
  else if Char.ofNat 0 ∈ path.toList then some "invalid path"
  else if !isAbs cleaned then some "absolute path required"
  else if hasPrefix cleaned "//" then some "invalid path"
  else
    (split cleaned '/').findSome? fun part =>
      if part = ".." then some "path traversal is not allowed"
      else if isWindowsReservedName part then some "reserved name is not allowed"
      else none

/-- `sanitizeUploadID`. -/
def sanitizeUploadID (id : String) : String :=
  let kept := id.toList.map fun rune =>
    if rune.isAlphanum || rune = '-' then rune else '-'
  if kept = [] then "upload" else String.ofList kept

namespace UploadRequest

variable (request : UploadRequest)

/-- The trimmed upload id. -/
def id : String :=
  trimSpace request.uploadId

/-- The trimmed path. -/
def dest : String :=
  trimSpace request.path

/-- The temporary file of a session that this chunk opens. -/
def tmpPath : String :=
  request.dest ++ ".upload-" ++ sanitizeUploadID request.id ++ ".tmp"

/-- The checks before a session is looked up: the error, if there is one. -/
def check : Option String :=
  if request.id = "" ∨ request.dest = "" then some "upload_id and path are required"
  else
    match validateUploadPath request.dest with
    | some error => some error
    | none =>
      if maxUploadTotalBytes < request.totalSize then
        some ("upload exceeds " ++ toString maxUploadTotalBytes ++ " byte limit")
      else if maxUploadChunkBytes < request.data.length then
        some ("chunk exceeds " ++ toString maxUploadChunkBytes ++ " byte limit")
      else none

end UploadRequest

/-- The data of several chunks. -/
def uploadBytes (requests : List UploadRequest) : Bytes :=
  requests.flatMap UploadRequest.data

/-- The chunks follow one another from a position on. -/
def Contiguous : Nat → List UploadRequest → Prop
  | _, [] => True
  | position, request :: rest =>
    request.offset = position ∧ Contiguous (position + request.data.length) rest

instance Contiguous.decidable : (position : Nat) → (requests : List UploadRequest) →
    Decidable (Contiguous position requests)
  | _, [] => inferInstanceAs (Decidable True)
  | position, request :: rest =>
    have := Contiguous.decidable (position + request.data.length) rest
    inferInstanceAs (Decidable (_ ∧ _))

theorem Contiguous.append {position : Nat} {requests : List UploadRequest}
    {request : UploadRequest} (before : Contiguous position requests)
    (next : request.offset = position + (uploadBytes requests).length) :
    Contiguous position (requests ++ [request]) := by
  induction requests generalizing position with
  | nil => exact ⟨next, trivial⟩
  | cons first rest ih =>
    constructor
    · exact before.1
    · apply ih before.2
      rw [next, uploadBytes, uploadBytes, List.flatMap_cons, List.length_append]
      omega

/-! ## State -/

/-- `uploadSession`. -/
structure UploadSession where
  uploadID : String
  tmpPath : String
  /-- The file that was opened. -/
  inode : Nat
  /-- `file` is not nil. -/
  isOpen : Bool
  written : Nat
  /-- The call that has `mu`. -/
  holder : Option Nat
  /-- The temporary file has been neither removed nor published. -/
  live : Bool
  deriving DecidableEq

/-- Where a call of `RunFileUpload` is; from `verifying` to `dropping` it has the
lock of its session. -/
inductive UploadPhase
  | entered
  | waiting (session : Nat)
  | verifying (session : Nat)
  | closing (session : Nat)
  | checking (session : Nat)
  | publishing (session : Nat)
  | removing (session : Nat) (result : UploadResult)
  | dropping (session : Nat) (result : UploadResult)
  | returned (result : UploadResult)
  deriving DecidableEq

/-- A call of `RunFileUpload`. -/
structure UploadCall where
  request : UploadRequest
  phase : UploadPhase
  deriving DecidableEq

/-- The call is the final chunk of its upload and was acknowledged ok. -/
def UploadCall.completes (call : UploadCall) : Bool :=
  match call.phase with
  | .returned result => result.ok && call.request.final
  | _ => false

/-- What a final chunk has published. -/
structure Publication (ρ : Type) where
  call : Nat
  location : ρ
  content : Bytes

/-- The uploads of a process, with the disk. -/
structure Uploads (ρ : Type) where
  disk : Inodes ρ UInt8
  sessions : List UploadSession
  /-- `uploadSessions`. -/
  registry : String → Option Nat
  calls : List UploadCall
  /-- The chunks that are acknowledged ok, oldest first. -/
  log : List UploadRequest
  published : List (Publication ρ)

/-- What the outside world decides about a step. -/
structure UploadOutcome where
  cancelled : Bool := false
  /-- The error of the system call. -/
  fault : Option String := none
  /-- How much of the data a failing write has written. -/
  short : Nat := 0
  /-- A failing checksum fails after the file was opened. -/
  late : Bool := false

namespace Uploads

section UploadCalls

variable {ρ : Type} (locate : String → ρ) (digest : Bytes → String) (uploads : Uploads ρ)

/-- No upload has begun. -/
def new (disk : Inodes ρ UInt8) : Uploads ρ where
  disk := disk
  sessions := []
  registry _ := none
  calls := []
  log := []
  published := []

/-- The accepted chunks of an upload. -/
def accepted (id : String) : List UploadRequest :=
  uploads.log.filter fun request => request.id = id

/-- A call goes on. -/
def setPhase (index : Nat) (request : UploadRequest) (phase : UploadPhase) : Uploads ρ :=
  { uploads with calls := uploads.calls.set index ⟨request, phase⟩ }

/-- A session changes. -/
def setSession (number : Nat) (session : UploadSession) : Uploads ρ :=
  { uploads with sessions := uploads.sessions.set number session }

variable (request : UploadRequest)

/-- The session that a chunk opens. -/
def opened (inode : Nat) : UploadSession where
  uploadID := request.id
  tmpPath := request.tmpPath
  inode := inode
  isOpen := true
  written := 0
  holder := none
  live := true

/-- A session is opened and entered in the map. -/
def openSession (disk : Inodes ρ UInt8) (inode : Nat) : Uploads ρ :=
  { uploads with
    disk := disk
    sessions := uploads.sessions ++ [opened request inode]
    registry := Function.update uploads.registry request.id (some uploads.sessions.length) }

section UploadSteps

variable [DecidableEq ρ]

variable (index number : Nat) (session : UploadSession)

/-- The map of sessions is consulted, and the first chunk opens one. -/
def lookup (request : UploadRequest) (outcome : UploadOutcome) : Option (Uploads ρ) :=
  match request.check with
  | some error => some (uploads.setPhase index request (.returned { error := error }))
  | none =>
    match uploads.registry request.id with
    | some number => some (uploads.setPhase index request (.waiting number))
    | none =>
      match outcome.fault with
      | some cause =>
        some (uploads.setPhase index request
          (.returned { error := "create temp file: " ++ cause }))
      | none =>
        (uploads.disk.openTrunc (locate request.tmpPath)).map fun result =>
          (uploads.openSession request result.1 result.2).setPhase index request
            (.waiting uploads.sessions.length)

/-- `abortUpload`, up to the removal of the temporary file. -/
def abort (request : UploadRequest) (result : UploadResult) : Uploads ρ :=
  (uploads.setSession number
    { session with isOpen := false, holder := some index }).setPhase index request
      (.removing number result)

/-- The data of a chunk has been written. -/
def append (request : UploadRequest) : Uploads ρ :=
  let written := session.written + request.data.length
  if request.final then
    if written = request.totalSize then
      (uploads.setSession number
        { session with written := written, holder := some index }).setPhase index request
          (.verifying number)
    else
      uploads.abort index number { session with written := written } request
        { bytesWritten := written
          error := "size mismatch: expected " ++ toString request.totalSize ++ " got " ++
            toString written }
  else
    { uploads.setSession number { session with written := written } with
      log := uploads.log ++ [request] }.setPhase index request
        (.returned { ok := true, bytesWritten := written })

/-- The lock of the session is taken, and the data is written. -/
def write (index number : Nat) (session : UploadSession) (request : UploadRequest)
    (outcome : UploadOutcome) : Option (Uploads ρ) :=
  if session.holder.isSome then none
  else if !session.isOpen then
    some (uploads.setPhase index request
      (.returned { error := "upload session closed; restart with a new upload_id" }))
  else if request.offset ≠ session.written then
    some (uploads.abort index number session request
      { error := "offset mismatch: expected " ++ toString session.written ++ " got " ++
          toString request.offset })
  else if outcome.cancelled then
    some (uploads.abort index number session request { error := "canceled" })
  else if request.data = [] then some (uploads.append index number session request)
  else
    match outcome.fault with
    | some cause =>
      some ({ uploads with
        disk := uploads.disk.write 0 session.inode session.written
          (request.data.take outcome.short) }.abort index number session request
            { error := "write: " ++ cause })
    | none =>
      guarded (session.written + request.data.length < maxFileOffset)
        ({ uploads with
          disk := uploads.disk.write 0 session.inode session.written request.data }.append index
            number session request)

/-- `verifyUploadChecksum`. -/
def verify (request : UploadRequest) (outcome : UploadOutcome) : Option (Uploads ρ) :=
  let fail (error : String) : Uploads ρ :=
    uploads.abort index number session request { bytesWritten := session.written, error := error }
  if request.sha256 = "" then some (uploads.setPhase index request (.closing number))
  else
    match outcome.fault with
    | some cause =>
      some (fail ((if outcome.late then "checksum read: " else "open for checksum: ") ++ cause))
    | none =>
      (uploads.disk.read (locate session.tmpPath)).map fun content =>
        if equalFold (digest content) request.sha256 then
          uploads.setPhase index request (.closing number)
        else
          fail ("checksum mismatch: expected " ++ request.sha256 ++ " got " ++ digest content)

/-- The temporary file is closed. -/
def close (index number : Nat) (session : UploadSession) (request : UploadRequest)
    (outcome : UploadOutcome) : Uploads ρ :=
  match outcome.fault with
  | some cause =>
    uploads.abort index number session request
      { bytesWritten := session.written, error := "close temp: " ++ cause }
  | none =>
    (uploads.setSession number { session with isOpen := false }).setPhase index request
      (if request.overwrite then .publishing number else .checking number)

/-- Without `overwrite`, the destination must not exist. -/
def stat (index number : Nat) (session : UploadSession) (request : UploadRequest)
    (outcome : UploadOutcome) : Uploads ρ :=
  match outcome.fault with
  | some cause =>
    uploads.setPhase index request (.removing number
      { bytesWritten := session.written, error := "stat destination: " ++ cause })
  | none =>
    if (uploads.disk.entries (locate request.dest)).isSome then
      uploads.setPhase index request (.removing number
        { bytesWritten := session.written
          error := "destination exists and overwrite is false" })
    else uploads.setPhase index request (.publishing number)

/-- The temporary file is published at the path of the final chunk. -/
def rename (index number : Nat) (session : UploadSession) (request : UploadRequest)
    (outcome : UploadOutcome) : Option (Uploads ρ) :=
  match outcome.fault with
  | some cause =>
    some (uploads.setPhase index request (.removing number
      { bytesWritten := session.written, error := "rename: " ++ cause }))
  | none =>
    (uploads.disk.rename (locate session.tmpPath) (locate request.dest)).map fun disk =>
      { uploads.setSession number { session with live := false } with
        disk := disk
        log := uploads.log ++ [request]
        published :=
          ⟨index, locate request.dest, (disk.read (locate request.dest)).getD []⟩ ::
            uploads.published
      }.setPhase index request
        (.dropping number { ok := true, bytesWritten := session.written })

/-- The temporary file is removed; an error is ignored. -/
def remove (index number : Nat) (session : UploadSession) (request : UploadRequest)
    (result : UploadResult) (outcome : UploadOutcome) : Uploads ρ :=
  { uploads.setSession number { session with live := false } with
    disk :=
      if outcome.fault.isSome then uploads.disk
      else (uploads.disk.remove (locate session.tmpPath)).getD uploads.disk
  }.setPhase index request (.dropping number result)

/-- `dropUploadSession`, and the return of the call. -/
def drop (request : UploadRequest) (result : UploadResult) : Uploads ρ :=
  { uploads.setSession number { session with holder := none } with
    registry :=
      if uploads.registry session.uploadID = some number then
        Function.update uploads.registry session.uploadID none
      else uploads.registry
  }.setPhase index request (.returned result)

/-- A call takes its next step. -/
def advance (call : UploadCall) (outcome : UploadOutcome) : Option (Uploads ρ) :=
  let request := call.request
  match call.phase with
  | .entered => uploads.lookup locate index request outcome
  | .waiting number =>
    (uploads.sessions[number]?).bind fun session =>
      uploads.write index number session request outcome
  | .verifying number =>
    (uploads.sessions[number]?).bind fun session =>
      uploads.verify locate digest index number session request outcome
  | .closing number =>
    (uploads.sessions[number]?).map fun session =>
      uploads.close index number session request outcome
  | .checking number =>
    (uploads.sessions[number]?).map fun session =>
      uploads.stat locate index number session request outcome
  | .publishing number =>
    (uploads.sessions[number]?).bind fun session =>
      uploads.rename locate index number session request outcome
  | .removing number result =>
    (uploads.sessions[number]?).map fun session =>
      uploads.remove locate index number session request result outcome
  | .dropping number result =>
    (uploads.sessions[number]?).map fun session =>
      uploads.drop index number session request result
  | .returned _ => none

/-- What can happen: a chunk arrives, or a call takes its next step. -/
inductive Event
  | receive (request : UploadRequest)
  | advance (index : Nat) (outcome : UploadOutcome)

/-- One event. -/
def step : Step (Uploads ρ) Event
  | uploads, .receive request =>
    some { uploads with calls := uploads.calls ++ [⟨request, .entered⟩] }
  | uploads, .advance index outcome =>
    (uploads.calls[index]?).bind fun call => uploads.advance locate digest index call outcome

end UploadSteps

/-! ## The property and its condition -/

/-- The call has published its upload: at the path of the first accepted chunk,
with the data of the accepted chunks in the order of their offsets. -/
def Published (index : Nat) (request : UploadRequest) : Prop :=
  ∃ publication ∈ uploads.published, publication.call = index ∧
    (uploads.accepted request.id).head?.map (fun first => locate first.dest) =
      some publication.location ∧
    publication.content = uploadBytes (uploads.accepted request.id) ∧
    Contiguous 0 (uploads.accepted request.id)

instance [DecidableEq ρ] (index : Nat) (request : UploadRequest) :
    Decidable (uploads.Published locate index request) :=
  inferInstanceAs (Decidable (∃ publication ∈ uploads.published, _))

/-- Every final chunk that was acknowledged ok has published its upload. -/
def Unmixed : Prop :=
  ∀ entry ∈ uploads.calls.zipIdx, entry.1.completes = true →
    uploads.Published locate entry.2 entry.1.request

instance [DecidableEq ρ] : Decidable (uploads.Unmixed locate) :=
  inferInstanceAs (Decidable (∀ entry ∈ uploads.calls.zipIdx, _))

/-- The request would open a session: its id had none before, and a file that
exists at its temporary path is not the temporary file of a session. -/
def MayOpen : Prop :=
  (∀ session ∈ uploads.sessions, session.uploadID ≠ request.id) ∧
    ∀ session ∈ uploads.sessions, session.live = true →
      uploads.disk.entries (locate request.tmpPath) ≠ some (.file session.inode)

/-- The final chunk names the entry that the first one named, and it is not the
temporary file of another session. -/
def MayPublish (number : Nat) (request : UploadRequest) : Prop :=
  (∀ first ∈ (uploads.accepted request.id).head?, locate first.dest = locate request.dest) ∧
    ∀ entry ∈ uploads.sessions.zipIdx, entry.1.live = true → entry.2 ≠ number →
      locate entry.1.tmpPath ≠ locate request.dest

instance [DecidableEq ρ] : Decidable (uploads.MayOpen locate request) :=
  inferInstanceAs (Decidable (_ ∧ _))

instance [DecidableEq ρ] (number : Nat) (request : UploadRequest) :
    Decidable (uploads.MayPublish locate number request) :=
  inferInstanceAs (Decidable (_ ∧ _))

/-- The condition on the next step of a call. -/
def MayAdvance : UploadCall → Prop
  | ⟨request, .entered⟩ =>
    request.check = none → uploads.registry request.id = none → uploads.MayOpen locate request
  | ⟨request, .publishing number⟩ => uploads.MayPublish locate number request
  | _ => True

instance [DecidableEq ρ] (call : UploadCall) : Decidable (uploads.MayAdvance locate call) := by
  unfold MayAdvance
  split <;> infer_instance

/-- The condition on each step. -/
def Separate : Discipline (Uploads ρ) Event
  | _, .receive _ => True
  | uploads, .advance index outcome =>
    outcome.fault = none → ∀ call ∈ uploads.calls[index]?, uploads.MayAdvance locate call

instance [DecidableEq ρ] (event : Event) : Decidable (Separate locate uploads event) := by
  unfold Separate
  split <;> infer_instance

end UploadCalls

end Uploads

end LubricantNodes.Agent
