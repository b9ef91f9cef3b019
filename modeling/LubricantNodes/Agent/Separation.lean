import LubricantNodes.Agent.Upload
import LubricantNodes.Transition.Table

/-!
# Separate uploads do not mix

Uploads are separate when each id opens one session, no two sessions have the
same temporary file, and every final chunk repeats the path of the first one.
In any interleaving of their calls, each final chunk then publishes what
the chunks of its own upload have brought.

The invariant has one part for the sessions and one for each call by its phase.
`Moves` says what a step of one call leaves as it is for all others.
-/

namespace LubricantNodes.Agent

open Files Go Transition List Option Uploads Inodes

namespace Uploads

section UploadInvariants

variable {ρ : Type} (locate : String → ρ) (uploads : Uploads ρ)

/-! ## Invariants -/

/-- The session with a number. -/
def Has (number : Nat) (session : UploadSession) : Prop :=
  uploads.sessions[number]? = some session

variable (index : Nat)

/-- A final chunk has been written, and its call has the lock. -/
def Committing (number : Nat) (request : UploadRequest) (isOpen : Bool) : Prop :=
  ∃ session, uploads.Has number session ∧ session.uploadID = request.id ∧
    session.holder = some index ∧ session.live = true ∧ session.isOpen = isOpen ∧
    request.final = true ∧
    request.offset = (uploadBytes (uploads.accepted request.id)).length ∧
    uploads.disk.contents session.inode =
      uploadBytes (uploads.accepted request.id) ++ request.data

/-- The upload is published, and its session is over. -/
def Concluded (request : UploadRequest) : Prop :=
  uploads.Published locate index request ∧
    ∃ number session, uploads.Has number session ∧
      session.uploadID = request.id ∧ session.live = false

/-- What holds of a call by its phase. -/
def InPhase (request : UploadRequest) : UploadPhase → Prop
  | .entered => True
  | .waiting number =>
    ∃ session, uploads.Has number session ∧ session.uploadID = request.id
  | .verifying number => uploads.Committing index number request true
  | .closing number => uploads.Committing index number request true
  | .checking number => uploads.Committing index number request false
  | .publishing number => uploads.Committing index number request false
  | .removing number result =>
    result.ok = false ∧ ∃ session, uploads.Has number session ∧
      session.holder = some index ∧ session.live = true ∧ session.isOpen = false
  | .dropping number result =>
    (result.ok = true → request.final = true → uploads.Concluded locate index request) ∧
      ∃ session, uploads.Has number session ∧
        session.holder = some index ∧ session.live = false
  | .returned result =>
    result.ok = true → request.final = true → uploads.Concluded locate index request

/-- What holds in every state. -/
structure Unshared : Prop where
  tmp : ∀ {number session}, uploads.Has number session → session.live = true →
    uploads.disk.entries (locate session.tmpPath) = some (.file session.inode)
  apart : ∀ {number other first second}, uploads.Has number first →
    uploads.Has other second → first.live = true → second.live = true →
    first.inode = second.inode → number = other
  isOpen : ∀ {number session}, uploads.Has number session →
    session.isOpen = true → session.live = true
  unique : ∀ {number other first second}, uploads.Has number first →
    uploads.Has other second → first.uploadID = second.uploadID → number = other
  idle : ∀ {number session}, uploads.Has number session → session.live = true →
    session.holder = none →
    session.written = (uploadBytes (uploads.accepted session.uploadID)).length ∧
      uploads.disk.contents session.inode = uploadBytes (uploads.accepted session.uploadID)
  registry : ∀ {id number}, uploads.registry id = some number →
    ∃ session, uploads.Has number session ∧ session.uploadID = id
  logged : ∀ request ∈ uploads.log,
    ∃ number session, uploads.Has number session ∧ session.uploadID = request.id
  contiguous : ∀ id, Contiguous 0 (uploads.accepted id)
  calls : ∀ {index call}, uploads.calls[index]? = some call →
    uploads.InPhase locate index call.request call.phase

end UploadInvariants

section UploadMoves

variable {ρ : Type} {locate : String → ρ} {uploads next : Uploads ρ} {index number : Nat}
  {session after : UploadSession} {request : UploadRequest} {phase : UploadPhase}
  {outcome : UploadOutcome}

theorem Has.unique {other : UploadSession} (first : uploads.Has number session)
    (second : uploads.Has number other) : session = other :=
  some.inj (first.symm.trans second)

theorem unshared_new (disk : Inodes ρ UInt8) : (new disk).Unshared locate where
  tmp found := by simp [new, Has] at found
  apart found := by simp [new, Has] at found
  isOpen found := by simp [new, Has] at found
  unique found := by simp [new, Has] at found
  idle found := by simp [new, Has] at found
  registry found := by simp [new] at found
  logged := nofun
  contiguous _ := trivial
  calls found := by simp [new] at found

theorem uploadBytes_append (requests : List UploadRequest) (request : UploadRequest) :
    uploadBytes (requests ++ [request]) = uploadBytes requests ++ request.data := by
  simp [uploadBytes]

/-- The log has grown by a chunk of the upload. -/
theorem accepted_append (grown : next.log = uploads.log ++ [request]) :
    next.accepted request.id = uploads.accepted request.id ++ [request] := by
  simp [accepted, grown, filter_append]

/-! ## One call and the others -/

/-- What a step of a call on its session does to everything else. -/
structure Moves (locate : String → ρ) (uploads next : Uploads ρ) (index number : Nat)
    (session after : UploadSession) (request : UploadRequest) (phase : UploadPhase) : Prop where
  before : uploads.Has number session
  free : session.holder = none ∨ session.holder = some index
  sessions : next.sessions = uploads.sessions.set number after := by rfl
  uploadID : after.uploadID = session.uploadID := by rfl
  tmpPath : after.tmpPath = session.tmpPath := by rfl
  inode : after.inode = session.inode := by rfl
  live : after.live = true → session.live = true
  isOpen : after.isOpen = true → after.live = true
  registry : ∀ {id other}, next.registry id = some other →
    uploads.registry id = some other := by exact id
  calls : next.calls = uploads.calls.set index ⟨request, phase⟩ := by rfl
  log : next.log = uploads.log ∨
    next.log = uploads.log ++ [request] ∧ session.live = true ∧ session.uploadID = request.id ∧
      request.offset = (uploadBytes (uploads.accepted request.id)).length := by exact .inl rfl
  published : ∀ publication ∈ uploads.published, publication ∈ next.published := by
    exact fun _ => id
  contents : ∀ inode, (session.live = true → inode ≠ session.inode) →
    next.disk.contents inode = uploads.disk.contents inode
  entries : ∀ {other third}, uploads.Has other third → third.live = true →
    (other = number → after.live = true) →
    next.disk.entries (locate third.tmpPath) = uploads.disk.entries (locate third.tmpPath)

namespace Moves

variable (moves : Moves locate uploads next index number session after request phase)
include moves

theorem session_self : next.Has number after := by
  unfold Has
  rw [moves.sessions, getElem?_set_self]
  exact (List.getElem?_eq_some_iff.mp moves.before).1

variable {other actor : Nat} {third : UploadSession}

theorem session_of_ne (different : other ≠ number) :
    next.Has other third ↔ uploads.Has other third := by
  unfold Has
  rw [moves.sessions, getElem?_set_ne (Ne.symm different)]

/-- A session of the new state was there before. -/
theorem session_cases (found : next.Has other third) :
    number = other ∧ third = after ∨ number ≠ other ∧ uploads.Has other third := by
  unfold Has at found
  rw [moves.sessions] at found
  exact of_getElem?_set_eq_some found

/-- A session keeps its id and stays over. -/
theorem session_kept (found : uploads.Has other third) :
    ∃ later, next.Has other later ∧ later.uploadID = third.uploadID ∧
      (third.live = false → later.live = false) := by
  by_cases same : other = number
  · subst same
    cases found.unique moves.before
    refine ⟨after, moves.session_self, moves.uploadID, ?_⟩
    intro isOver
    rw [Bool.eq_false_iff]
    intro alive
    rw [moves.live alive] at isOver
    cases isOver
  · exact ⟨third, (moves.session_of_ne same).mpr found, rfl, id⟩

/-- The chunks of another upload, or of one that is over, stay the same. -/
theorem accepted_of_over {id : String} (other : session.uploadID = id → session.live = false) :
    next.accepted id = uploads.accepted id := by
  unfold accepted
  rcases moves.log with same | ⟨grown, live, mine, -⟩
  · rw [same]
  · have different : request.id ≠ id := by
      intro same
      rw [other (mine.trans same)] at live
      cases live
    rw [grown, filter_append]
    simp [different]

theorem concluded {done : UploadRequest} (unshared : uploads.Unshared locate)
    (concluded : uploads.Concluded locate actor done) : next.Concluded locate actor done := by
  rcases concluded with ⟨⟨publication, member, mine, location, content, contiguous⟩,
    other, third, found, uploadID, isOver⟩
  have same : next.accepted done.id = uploads.accepted done.id := by
    apply moves.accepted_of_over
    intro equal
    have position := unshared.unique moves.before found (equal.trans uploadID.symm)
    subst position
    cases found.unique moves.before
    exact isOver
  constructor
  · refine ⟨publication, moves.published publication member, mine, ?_⟩
    rw [same]
    exact ⟨location, content, contiguous⟩
  · rcases moves.session_kept found with ⟨later, kept, sameID, stays⟩
    exact ⟨other, later, kept, sameID.trans uploadID, stays isOver⟩

/-- A call that has the lock of its session works on another one. -/
theorem session_ne (different : actor ≠ index) (found : uploads.Has other third)
    (held : third.holder = some actor) : other ≠ number := by
  intro same
  subst same
  cases found.unique moves.before
  rcases moves.free with free | mine
  · rw [free] at held
    cases held
  · rw [mine] at held
    exact different (some.inj held).symm

theorem committing {pending : UploadRequest} {isOpen : Bool} (unshared : uploads.Unshared locate)
    (different : actor ≠ index) (committing : uploads.Committing actor other pending isOpen) :
    next.Committing actor other pending isOpen := by
  rcases committing with ⟨third, found, uploadID, held, live, openness, final, offset, content⟩
  have apart := moves.session_ne different found held
  have same : next.accepted pending.id = uploads.accepted pending.id := by
    apply moves.accepted_of_over
    intro equal
    exact absurd (unshared.unique found moves.before (uploadID.trans equal.symm)) apart
  refine ⟨third, (moves.session_of_ne apart).mpr found, uploadID, held, live, openness, final,
    ?_, ?_⟩
  · rw [same]
    exact offset
  · rw [same, ← content]
    apply moves.contents
    intro alive inode
    exact apart (unshared.apart found moves.before live alive inode)

theorem inPhase {pending : UploadRequest} {stage : UploadPhase} (unshared : uploads.Unshared locate)
    (different : actor ≠ index) (holds : uploads.InPhase locate actor pending stage) :
    next.InPhase locate actor pending stage := by
  cases stage with
  | entered => trivial
  | waiting =>
    rcases holds with ⟨third, found, uploadID⟩
    rcases moves.session_kept found with ⟨later, kept, sameID, -⟩
    exact ⟨later, kept, sameID.trans uploadID⟩
  | verifying | closing | checking | publishing =>
    exact moves.committing unshared different holds
  | removing =>
    rcases holds with ⟨failed, third, found, held, rest⟩
    have apart := moves.session_ne different found held
    exact ⟨failed, third, (moves.session_of_ne apart).mpr found, held, rest⟩
  | dropping =>
    rcases holds with ⟨concluded, third, found, held, isOver⟩
    have apart := moves.session_ne different found held
    exact ⟨fun ok final => moves.concluded unshared (concluded ok final), third,
      (moves.session_of_ne apart).mpr found, held, isOver⟩
  | returned => exact fun ok final => moves.concluded unshared (holds ok final)

/-- A step keeps the invariants when its own session and call are in order. -/
theorem unshared (unshared : uploads.Unshared locate)
    (idle : after.live = true → after.holder = none →
      after.written = (uploadBytes (next.accepted after.uploadID)).length ∧
        next.disk.contents after.inode = uploadBytes (next.accepted after.uploadID))
    (own : next.InPhase locate index request phase) : next.Unshared locate := by
  constructor
  case tmp =>
    intro other third found live
    rcases moves.session_cases found with ⟨rfl, rfl⟩ | ⟨different, known⟩
    · rw [moves.tmpPath, moves.entries moves.before (moves.live live) fun _ => live, moves.inode]
      exact unshared.tmp moves.before (moves.live live)
    · rw [moves.entries known live fun same => absurd same.symm different]
      exact unshared.tmp known live
  case apart =>
    intro one two first second foundFirst foundSecond liveFirst liveSecond inode
    rcases moves.session_cases foundFirst with ⟨rfl, rfl⟩ | ⟨-, knownFirst⟩
    · rcases moves.session_cases foundSecond with ⟨rfl, rfl⟩ | ⟨-, knownSecond⟩
      · rfl
      · exact unshared.apart moves.before knownSecond (moves.live liveFirst) liveSecond
          (moves.inode.symm.trans inode)
    · rcases moves.session_cases foundSecond with ⟨rfl, rfl⟩ | ⟨-, knownSecond⟩
      · exact unshared.apart knownFirst moves.before liveFirst (moves.live liveSecond)
          (inode.trans moves.inode)
      · exact unshared.apart knownFirst knownSecond liveFirst liveSecond inode
  case isOpen =>
    intro other third found isOpen
    rcases moves.session_cases found with ⟨rfl, rfl⟩ | ⟨-, known⟩
    · exact moves.isOpen isOpen
    · exact unshared.isOpen known isOpen
  case unique =>
    intro one two first second foundFirst foundSecond uploadID
    rcases moves.session_cases foundFirst with ⟨rfl, rfl⟩ | ⟨-, knownFirst⟩
    · rcases moves.session_cases foundSecond with ⟨rfl, rfl⟩ | ⟨-, knownSecond⟩
      · rfl
      · exact unshared.unique moves.before knownSecond (moves.uploadID.symm.trans uploadID)
    · rcases moves.session_cases foundSecond with ⟨rfl, rfl⟩ | ⟨-, knownSecond⟩
      · exact unshared.unique knownFirst moves.before (uploadID.trans moves.uploadID)
      · exact unshared.unique knownFirst knownSecond uploadID
  case idle =>
    intro other third found live free
    rcases moves.session_cases found with ⟨rfl, rfl⟩ | ⟨different, known⟩
    · exact idle live free
    have same : next.accepted third.uploadID = uploads.accepted third.uploadID := by
      apply moves.accepted_of_over
      intro equal
      exact absurd (unshared.unique moves.before known equal) different
    rw [same, moves.contents]
    · exact unshared.idle known live free
    · intro alive inode
      exact different (unshared.apart moves.before known alive live inode.symm)
  case registry =>
    intro id other listed
    rcases unshared.registry (moves.registry listed) with ⟨third, found, uploadID⟩
    rcases moves.session_kept found with ⟨later, kept, sameID, -⟩
    exact ⟨later, kept, sameID.trans uploadID⟩
  case logged =>
    intro chunk member
    have known : ∃ other third, uploads.Has other third ∧ third.uploadID = chunk.id := by
      rcases moves.log with same | ⟨grown, -, mine, -⟩
      · rw [same] at member
        exact unshared.logged chunk member
      rw [grown] at member
      rcases mem_append.mp member with before | new
      · exact unshared.logged chunk before
      · rw [mem_singleton.mp new]
        exact ⟨number, session, moves.before, mine⟩
    rcases known with ⟨other, third, found, uploadID⟩
    rcases moves.session_kept found with ⟨later, kept, sameID, -⟩
    exact ⟨other, later, kept, sameID.trans uploadID⟩
  case contiguous =>
    intro id
    rcases moves.log with same | ⟨grown, -, -, offset⟩
    · unfold accepted
      rw [same]
      exact unshared.contiguous id
    unfold accepted
    rw [grown, filter_append]
    by_cases mine : request.id = id
    · subst mine
      rw [filter_cons_of_pos (by simp), filter_nil]
      apply (unshared.contiguous request.id).append
      rw [offset]
      exact (Nat.zero_add _).symm
    · rw [filter_cons_of_neg (by simpa using mine), filter_nil, append_nil]
      exact unshared.contiguous id
  case calls =>
    intro actor call found
    rw [moves.calls] at found
    rcases of_getElem?_set_eq_some found with ⟨rfl, rfl⟩ | ⟨different, known⟩
    · exact own
    · exact moves.inPhase unshared different.symm (unshared.calls known)

end Moves

variable (locate index after request phase) in
/-- A step that changes at most the content of its own file, its own session and
the log. -/
theorem Moves.of_file (before : uploads.Has number session)
    (free : session.holder = none ∨ session.holder = some index) (live : session.live = true)
    (disk : Inodes ρ UInt8) (entries : disk.entries = uploads.disk.entries)
    (contents : ∀ inode, inode ≠ session.inode → disk.contents inode = uploads.disk.contents inode)
    (uploadID : after.uploadID = session.uploadID) (tmpPath : after.tmpPath = session.tmpPath)
    (inode : after.inode = session.inode) (stays : after.live = true) {log : List UploadRequest}
    (grows : log = uploads.log ∨ log = uploads.log ++ [request] ∧ session.uploadID = request.id ∧
        request.offset = (uploadBytes (uploads.accepted request.id)).length) :
    Moves locate uploads
      { uploads with
        disk := disk
        sessions := uploads.sessions.set number after
        log := log
        calls := uploads.calls.set index ⟨request, phase⟩ }
      index number session after request phase where
  before := before
  free := free
  uploadID := uploadID
  tmpPath := tmpPath
  inode := inode
  live _ := live
  isOpen _ := stays
  log := by
    rcases grows with same | ⟨grown, mine, offset⟩
    · exact .inl same
    · exact .inr ⟨grown, live, mine, offset⟩
  contents inode different := contents inode (different live)
  entries _ _ _ := congrFun entries _

/-! ## The steps -/

namespace Unshared

section KeepingUnshared

variable (unshared : uploads.Unshared locate)

include unshared

/-- Only the calls change. -/
theorem withCalls {calls : List UploadCall} (each : ∀ {index call}, calls[index]? = some call →
      uploads.InPhase locate index call.request call.phase) :
    Unshared locate { uploads with calls := calls } := by
  refine { unshared with calls := ?_ }
  intro index call found
  have holds := each found
  generalize call.phase = stage at holds
  cases stage <;> exact holds

/-- Only one call goes on. -/
theorem setPhase (own : uploads.InPhase locate index request phase) :
    (uploads.setPhase index request phase).Unshared locate := by
  apply unshared.withCalls
  intro actor call found
  rcases of_getElem?_set_eq_some found with ⟨rfl, rfl⟩ | ⟨_, known⟩
  · exact own
  · exact unshared.calls known

variable {result : UploadResult}

/-- A call without success returns. -/
theorem fail (failed : result.ok = false) :
    (uploads.setPhase index request (.returned result)).Unshared locate := by
  apply unshared.setPhase
  intro ok
  rw [failed] at ok
  cases ok

section LiveSessions

variable (before : uploads.Has number session)

include before

/-- The session of a call is given up. -/
theorem abort
    (free : session.holder = none ∨ session.holder = some index) (live : session.live = true)
    (disk : Inodes ρ UInt8) (entries : disk.entries = uploads.disk.entries)
    (contents : ∀ inode, inode ≠ session.inode → disk.contents inode = uploads.disk.contents inode)
    (written : Nat) (failed : result.ok = false) :
    ({ uploads with disk := disk }.abort index number { session with written := written } request
      result).Unshared locate := by
  have moves := Moves.of_file locate index
    { session with written := written, isOpen := false, holder := some index } request
    (.removing number result) before free live disk entries contents rfl rfl rfl live (.inl rfl)
  apply moves.unshared unshared
  · rintro _ ⟨⟩
  · exact ⟨failed, _, moves.session_self, rfl, live, rfl⟩

/-- The data of a chunk is at the end of the file of its session. -/
theorem append (free : session.holder = none) (isOpen : session.isOpen = true)
    (mine : session.uploadID = request.id) (offset : request.offset = session.written)
    (disk : Inodes ρ UInt8) (entries : disk.entries = uploads.disk.entries)
    (contents : ∀ inode, inode ≠ session.inode → disk.contents inode = uploads.disk.contents inode)
    (appended : disk.contents session.inode = uploads.disk.contents session.inode ++ request.data) :
    ({ uploads with disk := disk }.append index number session request).Unshared locate := by
  have live := unshared.isOpen before isOpen
  have idle := unshared.idle before live free
  rw [mine] at idle
  rcases idle with ⟨written, content⟩
  have start : request.offset = (uploadBytes (uploads.accepted request.id)).length :=
    offset.trans written
  rw [content] at appended
  unfold Uploads.append
  dsimp only
  split_ifs with final size
  · -- The final chunk keeps the lock until it is published or given up.
    have moves := Moves.of_file locate index
      { session with written := session.written + request.data.length, holder := some index }
      request (.verifying number) before (.inl free) live disk entries contents rfl rfl rfl live
      (.inl rfl)
    apply moves.unshared unshared
    · rintro _ ⟨⟩
    · exact ⟨_, moves.session_self, mine, rfl, live, isOpen, final, start, appended⟩
  · exact unshared.abort before (.inl free) live disk entries contents _ rfl
  · have moves := Moves.of_file locate index
      { session with written := session.written + request.data.length } request
      (.returned { ok := true, bytesWritten := session.written + request.data.length }) before
      (.inl free) live disk entries contents rfl rfl rfl live (.inr ⟨rfl, mine, start⟩)
    apply moves.unshared unshared
    · intro _ _
      rw [mine, accepted_append rfl, uploadBytes_append, length_append, written]
      exact ⟨rfl, appended⟩
    · intro _ unfinished
      exact absurd unfinished final

/-- The lock is taken and the data is written. -/
theorem write (mine : session.uploadID = request.id)
    (taken : uploads.write index number session request outcome = some next) :
    next.Unshared locate := by
  unfold Uploads.write at taken
  split at taken
  · cases taken
  rename_i unheld
  have free : session.holder = none := by simpa using unheld
  split at taken
  · cases taken
    exact unshared.fail rfl
  rename_i notClosed
  have isOpen : session.isOpen = true := by simpa using notClosed
  have live := unshared.isOpen before isOpen
  split at taken
  · cases taken
    exact unshared.abort before (.inl free) live uploads.disk rfl (fun _ _ => rfl) _ rfl
  rename_i sameOffset
  have offset : request.offset = session.written := by simpa using sameOffset
  split at taken
  · cases taken
    exact unshared.abort before (.inl free) live uploads.disk rfl (fun _ _ => rfl) _ rfl
  split at taken
  · rename_i empty
    cases taken
    apply unshared.append before free isOpen mine offset uploads.disk rfl (fun _ _ => rfl)
    rw [empty, append_nil]
  split at taken
  · cases taken
    exact unshared.abort before (.inl free) live (uploads.disk.write 0 session.inode session.written
        (request.data.take outcome.short)) rfl
      (fun inode different => contents_write_of_ne different 0 _ _) _ rfl
  rcases guarded_eq_some_iff.mp taken with ⟨-, rfl⟩
  apply unshared.append before free isOpen mine offset
    (uploads.disk.write 0 session.inode session.written request.data) rfl
    (fun inode different => contents_write_of_ne different 0 _ _)
  have length : session.written = (uploads.disk.contents session.inode).length := by
    rcases unshared.idle before live free with ⟨written, content⟩
    rw [content, written]
  rw [length]
  exact contents_write 0 request.data

/-! ## Publication -/

/-- A final chunk gives up. -/
theorem giveUp {isOpen : Bool} (committing : uploads.Committing index number request isOpen)
    (failed : result.ok = false) :
    (uploads.abort index number session request result).Unshared locate := by
  rcases committing with ⟨known, found, -, held, live, -⟩
  cases found.unique before
  exact unshared.abort before (.inr held) live uploads.disk rfl (fun _ _ => rfl) _ failed

theorem verify {digest : Bytes → String} (committing : uploads.Committing index number request true)
    (taken : uploads.verify locate digest index number session request outcome = some next) :
    next.Unshared locate := by
  unfold Uploads.verify at taken
  split at taken
  · cases taken
    exact unshared.setPhase committing
  split at taken
  · cases taken
    exact unshared.giveUp before committing rfl
  · rcases map_eq_some_iff.mp taken with ⟨content, -, rfl⟩
    split_ifs
    · exact unshared.setPhase committing
    · exact unshared.giveUp before committing rfl

theorem close (committing : uploads.Committing index number request true) :
    (uploads.close index number session request outcome).Unshared locate := by
  unfold Uploads.close
  split
  · exact unshared.giveUp before committing rfl
  rcases committing with ⟨known, found, mine, held, live, -, final, offset, content⟩
  cases found.unique before
  have moves := Moves.of_file locate index { session with isOpen := false } request
    (if request.overwrite then .publishing number else .checking number) before (.inr held) live
    uploads.disk rfl (fun _ _ => rfl) rfl rfl rfl live (.inl rfl)
  apply moves.unshared unshared
  · intro _ none
    rw [held] at none
    cases none
  · split_ifs <;> exact ⟨_, moves.session_self, mine, held, live, rfl, final, offset, content⟩

end LiveSessions

/-- A closed final chunk goes on to the removal of its temporary file. -/
theorem discard
    (committing : uploads.Committing index number request false) (failed : result.ok = false) :
    (uploads.setPhase index request (.removing number result)).Unshared locate := by
  rcases committing with ⟨session, found, -, held, live, closed, -⟩
  exact unshared.setPhase ⟨failed, session, found, held, live, closed⟩

theorem stat (committing : uploads.Committing index number request false) :
    (uploads.stat locate index number session request outcome).Unshared locate := by
  unfold Uploads.stat
  split
  · exact unshared.discard committing rfl
  · split_ifs
    · exact unshared.discard committing rfl
    · exact unshared.setPhase committing

/-- The temporary paths of other sessions lead elsewhere. -/
theorem tmp_ne (before : uploads.Has number session)
    (live : session.live = true) {other : Nat} {third : UploadSession}
    (found : uploads.Has other third) (alive : third.live = true) (different : other ≠ number) :
    locate third.tmpPath ≠ locate session.tmpPath := by
  intro same
  have file := unshared.tmp found alive
  rw [same, unshared.tmp before live] at file
  have inode := Dirent.file.inj (some.inj file)
  exact different (unshared.apart found before alive live inode.symm)

/-- What a final chunk publishes, when it has the path of the first one. -/
theorem published (grown : next.log = uploads.log ++ [request])
    (offset : request.offset = (uploadBytes (uploads.accepted request.id)).length)
    (path : ∀ first ∈ (uploads.accepted request.id).head?, locate first.dest = locate request.dest)
    (member : ⟨index, locate request.dest,
      uploadBytes (uploads.accepted request.id) ++ request.data⟩ ∈ next.published) :
    next.Published locate index request := by
  refine ⟨_, member, rfl, ?_⟩
  rw [accepted_append grown, uploadBytes_append]
  refine ⟨?_, rfl, ?_⟩
  · cases chunks : uploads.accepted request.id with
    | nil => rfl
    | cons first rest =>
      rw [chunks] at path
      exact congrArg some (path first rfl)
  · apply (unshared.contiguous request.id).append
    rw [offset, Nat.zero_add]

/-- The final chunk is published. -/
theorem rename [DecidableEq ρ] (before : uploads.Has number session)
    (committing : uploads.Committing index number request false)
    (may : outcome.fault = none → uploads.MayPublish locate number request)
    (taken : uploads.rename locate index number session request outcome = some next) :
    next.Unshared locate := by
  unfold Uploads.rename at taken
  split at taken
  · cases taken
    exact unshared.discard committing rfl
  rename_i noFault
  rcases map_eq_some_iff.mp taken with ⟨disk, renamed, rfl⟩
  rcases may noFault with ⟨firstPath, otherTmp⟩
  rcases committing with ⟨known, found, mine, held, live, closed, final, offset, content⟩
  cases found.unique before
  have moves : Moves locate uploads ({ uploads.setSession number { session with live := false } with
        disk := disk
        log := uploads.log ++ [request]
        published := ⟨index, locate request.dest, (disk.read (locate request.dest)).getD []⟩ ::
            uploads.published
        }.setPhase index request (.dropping number { ok := true, bytesWritten := session.written }))
      index number session { session with live := false } request
      (.dropping number { ok := true, bytesWritten := session.written }) := by
    refine
      { before := before
        free := .inr held
        live := by rintro ⟨⟩
        isOpen := fun isOpen => by cases closed.symm.trans isOpen
        log := .inr ⟨rfl, live, mine, offset⟩
        published := fun _ => mem_cons_of_mem _
        contents := fun inode _ => congrFun (contents_rename renamed) inode
        entries := ?_ }
    intro other third known alive isOver
    have different : other ≠ number := by
      intro same
      cases isOver same
    apply entries_rename_of_ne renamed
    · exact unshared.tmp_ne before live known alive different
    · exact otherTmp (third, other) (mem_zipIdx_iff_getElem?.mpr known) alive different
  have published : disk.read (locate request.dest) =
      some (uploadBytes (uploads.accepted request.id) ++ request.data) := by
    rw [read_of_file (entries_rename renamed (unshared.tmp before live)),
      contents_rename renamed, content]
  apply moves.unshared unshared
  · rintro ⟨⟩
  · refine ⟨fun _ _ => ⟨?_, number, _, moves.session_self, mine, rfl⟩, _, moves.session_self, held,
      rfl⟩
    apply unshared.published rfl offset firstPath
    rw [published]
    exact mem_cons_self

/-- The temporary file is removed. -/
theorem remove [DecidableEq ρ] (before : uploads.Has number session)
    (holds : uploads.InPhase locate index request (.removing number result)) :
    (uploads.remove locate index number session request result outcome).Unshared locate := by
  rcases holds with ⟨failed, known, found, held, live, closed⟩
  cases found.unique before
  have kept : ∀ disk, disk = (if outcome.fault.isSome then uploads.disk
      else (uploads.disk.remove (locate session.tmpPath)).getD uploads.disk) →
        disk.contents = uploads.disk.contents ∧ ∀ location ≠ locate session.tmpPath,
          disk.entries location = uploads.disk.entries location := by
    rintro _ rfl
    split_ifs
    · exact ⟨rfl, fun _ _ => rfl⟩
    · cases removed : uploads.disk.remove (locate session.tmpPath) with
      | none => exact ⟨rfl, fun _ _ => rfl⟩
      | some =>
        exact ⟨contents_remove removed, fun _ => entries_remove_of_ne removed⟩
  rcases kept _ rfl with ⟨contents, entries⟩
  have moves : Moves locate uploads
      (uploads.remove locate index number session request result outcome) index number session
      { session with live := false } request (.dropping number result) := by
    refine
      { before := before
        free := .inr held
        live := by rintro ⟨⟩
        isOpen := fun isOpen => by cases closed.symm.trans isOpen
        contents := fun inode _ => congrFun contents inode
        entries := ?_ }
    intro other third known alive isOver
    have different : other ≠ number := by
      intro same
      cases isOver same
    exact entries _ (unshared.tmp_ne before live known alive different)
  apply moves.unshared unshared
  · rintro ⟨⟩
  · refine ⟨?_, _, moves.session_self, held, rfl⟩
    intro ok
    rw [failed] at ok
    cases ok

/-- The session leaves the map, and the call returns. -/
theorem drop (before : uploads.Has number session)
    (holds : uploads.InPhase locate index request (.dropping number result)) :
    (uploads.drop index number session request result).Unshared locate := by
  rcases holds with ⟨concluded, known, found, held, isOver⟩
  cases found.unique before
  have opened : session.isOpen = true → session.live = true := unshared.isOpen before
  have moves : Moves locate uploads (uploads.drop index number session request result) index number
      session { session with holder := none } request (.returned result) := by
    refine
      { before := before
        free := .inr held
        live := id
        isOpen := opened
        registry := ?_
        contents := fun _ _ => rfl
        entries := fun _ _ _ => rfl }
    intro id other listed
    unfold Uploads.drop Uploads.setPhase at listed
    dsimp only at listed
    split_ifs at listed
    · by_cases same : id = session.uploadID
      · subst same
        rw [Function.update_self] at listed
        cases listed
      · rw [Function.update_of_ne same] at listed
        exact listed
    · exact listed
  apply moves.unshared unshared
  · intro alive
    rw [isOver] at alive
    cases alive
  · exact fun ok final => moves.concluded unshared (concluded ok final)

end KeepingUnshared

/-! ## Opening -/

section Opening

variable {disk : Inodes ρ UInt8} {inode : Nat}

theorem has_open (found : uploads.Has number session) :
    (uploads.openSession request disk inode).Has number session :=
  getElem?_concat_eq_some_iff.mpr (.inl found)

theorem has_opened : (uploads.openSession request disk inode).Has uploads.sessions.length
      (opened request inode) :=
  getElem?_concat_eq_some_iff.mpr (.inr ⟨rfl, rfl⟩)

theorem has_open_cases (found : (uploads.openSession request disk inode).Has number session) :
    uploads.Has number session ∨
      number = uploads.sessions.length ∧ session = opened request inode :=
  getElem?_concat_eq_some_iff.mp found

variable [DecidableEq ρ]

/-- The file that a session opens is not that of another session. -/
theorem fresh (unshared : uploads.Unshared locate) (may : uploads.MayOpen locate request)
    (result : uploads.disk.openTrunc (locate request.tmpPath) = some (disk, inode))
    (found : uploads.Has number session) (live : session.live = true) :
    session.inode ≠ inode ∧ locate session.tmpPath ≠ locate request.tmpPath := by
  have file := unshared.tmp found live
  have apart := may.2 session (mem_of_getElem? found) live
  constructor
  · intro same
    rcases openTrunc_fresh result with present | ⟨-, new⟩
    · rw [← same] at present
      exact apart present
    · have below := uploads.disk.bounded file
      omega
  · intro same
    rw [same] at file
    exact apart file

/-- The invariants after a session was opened. -/
theorem openSession (unshared : uploads.Unshared locate) (may : uploads.MayOpen locate request)
    (result : uploads.disk.openTrunc (locate request.tmpPath) = some (disk, inode)) :
    (uploads.openSession request disk inode).Unshared locate := by
  have noChunks : uploads.accepted request.id = [] := by
    apply filter_eq_nil_iff.mpr
    intro chunk member same
    rcases unshared.logged chunk member with ⟨other, third, found, uploadID⟩
    apply may.1 third (mem_of_getElem? found)
    rw [uploadID]
    exact of_decide_eq_true same
  have contents {other : Nat} {third : UploadSession} (found : uploads.Has other third)
      (live : third.live = true) : disk.contents third.inode = uploads.disk.contents third.inode :=
    contents_openTrunc_of_ne result (unshared.fresh may result found live).1
  constructor
  case tmp =>
    intro other third found live
    rcases has_open_cases found with known | ⟨rfl, rfl⟩
    · exact (entries_openTrunc_of_ne result (unshared.fresh may result known live).2).trans
        (unshared.tmp known live)
    · exact entries_openTrunc result
  case apart =>
    intro one two first second foundFirst foundSecond liveFirst liveSecond same
    rcases has_open_cases foundFirst with knownFirst | ⟨rfl, rfl⟩
    · rcases has_open_cases foundSecond with knownSecond | ⟨rfl, rfl⟩
      · exact unshared.apart knownFirst knownSecond liveFirst liveSecond same
      · exact absurd same (unshared.fresh may result knownFirst liveFirst).1
    · rcases has_open_cases foundSecond with knownSecond | ⟨rfl, rfl⟩
      · exact absurd same.symm (unshared.fresh may result knownSecond liveSecond).1
      · rfl
  case isOpen =>
    intro other third found isOpen
    rcases has_open_cases found with known | ⟨rfl, rfl⟩
    · exact unshared.isOpen known isOpen
    · rfl
  case unique =>
    intro one two first second foundFirst foundSecond same
    rcases has_open_cases foundFirst with knownFirst | ⟨rfl, rfl⟩
    · rcases has_open_cases foundSecond with knownSecond | ⟨rfl, rfl⟩
      · exact unshared.unique knownFirst knownSecond same
      · exact absurd same (may.1 first (mem_of_getElem? knownFirst))
    · rcases has_open_cases foundSecond with knownSecond | ⟨rfl, rfl⟩
      · exact absurd same.symm (may.1 second (mem_of_getElem? knownSecond))
      · rfl
  case idle =>
    intro other third found live free
    rcases has_open_cases found with known | ⟨rfl, rfl⟩
    · rcases unshared.idle known live free with ⟨written, content⟩
      exact ⟨written, (contents known live).trans content⟩
    · have none : (uploads.openSession request disk inode).accepted request.id = [] := noChunks
      dsimp only [opened]
      rw [none]
      exact ⟨rfl, contents_openTrunc result⟩
  case registry =>
    intro id other listed
    by_cases same : id = request.id
    · subst same
      unfold Uploads.openSession at listed
      dsimp only at listed
      rw [Function.update_self] at listed
      cases listed
      exact ⟨_, has_opened, rfl⟩
    · unfold Uploads.openSession at listed
      dsimp only at listed
      rw [Function.update_of_ne same] at listed
      rcases unshared.registry listed with ⟨third, found, uploadID⟩
      exact ⟨third, has_open found, uploadID⟩
  case logged =>
    intro chunk member
    rcases unshared.logged chunk member with ⟨other, third, found, uploadID⟩
    exact ⟨other, third, has_open found, uploadID⟩
  case contiguous => exact unshared.contiguous
  case calls =>
    intro actor call found
    have holds := unshared.calls found
    have concluded (concluded : uploads.Concluded locate actor call.request) :
        (uploads.openSession request disk inode).Concluded locate actor call.request := by
      rcases concluded with ⟨published, other, third, known, uploadID, isOver⟩
      exact ⟨published, other, third, has_open known, uploadID, isOver⟩
    have committing {other : Nat} {isOpen : Bool}
        (committing : uploads.Committing actor other call.request isOpen) :
        (uploads.openSession request disk inode).Committing actor other call.request isOpen := by
      rcases committing with ⟨third, known, uploadID, held, live, rest, final, offset, content⟩
      exact ⟨third, has_open known, uploadID, held, live, rest, final, offset,
        (contents known live).trans content⟩
    generalize call.phase = stage at holds
    cases stage with
    | entered => trivial
    | waiting =>
      rcases holds with ⟨third, known, uploadID⟩
      exact ⟨third, has_open known, uploadID⟩
    | verifying | closing | checking | publishing => exact committing holds
    | removing =>
      rcases holds with ⟨failed, third, known, rest⟩
      exact ⟨failed, third, has_open known, rest⟩
    | dropping =>
      rcases holds with ⟨done, third, known, rest⟩
      exact ⟨fun ok final => concluded (done ok final), third, has_open known, rest⟩
    | returned => exact fun ok final => concluded (holds ok final)

theorem lookup (unshared : uploads.Unshared locate)
    (may : outcome.fault = none → request.check = none → uploads.registry request.id = none →
      uploads.MayOpen locate request)
    (taken : uploads.lookup locate index request outcome = some next) : next.Unshared locate := by
  unfold Uploads.lookup at taken
  split at taken
  · cases taken
    exact unshared.fail rfl
  rename_i valid
  split at taken
  · rename_i number listed
    cases taken
    exact unshared.setPhase (unshared.registry listed)
  rename_i unlisted
  split at taken
  · cases taken
    exact unshared.fail rfl
  · rename_i noFault
    rcases map_eq_some_iff.mp taken with ⟨⟨disk, inode⟩, result, rfl⟩
    have opened := unshared.openSession (may noFault valid unlisted) result
    exact opened.setPhase ⟨_, has_opened, rfl⟩

end Opening

/-! ## Runs -/

/-- One event under the condition. -/
theorem step [DecidableEq ρ] {digest : Bytes → String} {event : Event}
    (unshared : uploads.Unshared locate) (separate : Separate locate uploads event)
    (taken : Uploads.step locate digest uploads event = some next) : next.Unshared locate := by
  cases event with
  | receive =>
    cases taken
    apply unshared.withCalls
    intro actor call found
    rcases getElem?_concat_eq_some_iff.mp found with known | ⟨_, rfl⟩
    · exact unshared.calls known
    · trivial
  | advance =>
    rcases bind_eq_some_iff.mp taken with ⟨⟨request, phase⟩, listed, taken⟩
    have holds := unshared.calls listed
    have condition := fun noFault => separate noFault _ listed
    cases phase with
    | entered => exact unshared.lookup condition taken
    | waiting =>
      rcases bind_eq_some_iff.mp taken with ⟨session, found, taken⟩
      rcases holds with ⟨known, before, mine⟩
      cases before.unique found
      exact unshared.write before mine taken
    | verifying =>
      rcases bind_eq_some_iff.mp taken with ⟨session, found, taken⟩
      exact unshared.verify found holds taken
    | closing =>
      rcases map_eq_some_iff.mp taken with ⟨session, found, rfl⟩
      exact unshared.close found holds
    | checking =>
      rcases map_eq_some_iff.mp taken with ⟨session, found, rfl⟩
      exact unshared.stat holds
    | publishing =>
      rcases bind_eq_some_iff.mp taken with ⟨session, found, taken⟩
      exact unshared.rename found holds condition taken
    | removing =>
      rcases map_eq_some_iff.mp taken with ⟨session, found, rfl⟩
      exact unshared.remove found holds
    | dropping =>
      rcases map_eq_some_iff.mp taken with ⟨session, found, rfl⟩
      exact unshared.drop found holds
    | returned => cases taken

end Unshared

end UploadMoves

/-! ## Separate uploads do not mix -/

section SeparateRuns

variable {ρ : Type} [DecidableEq ρ]

/-- In every run in which each id opens one session, temporary files are not
shared and final chunks repeat the first path, every published file is that of
its own upload. -/
theorem uploads_unmixed (locate : String → ρ) (digest : Bytes → String) (disk : Inodes ρ UInt8)
    (uploads : Uploads ρ)
    (reached : Reaches (step locate digest) (Separate locate) (new disk) uploads) :
    uploads.Unmixed locate := by
  have unshared : uploads.Unshared locate := by
    apply reached.invariant (P := fun uploads => uploads.Unshared locate)
    · exact unshared_new disk
    · intro state event next _ unshared separate taken
      exact unshared.step separate taken
  rintro ⟨⟨request, phase⟩, index⟩ member completes
  have holds := unshared.calls (mem_zipIdx_iff_getElem?.mp member)
  cases phase with
  | returned =>
    rcases Bool.and_eq_true_iff.mp completes with ⟨ok, final⟩
    exact (holds ok final).1
  | _ => cases completes

/-- The calls of a chunk that is not the final one. -/
def chunkSteps (index : Nat) (request : UploadRequest) : List Event :=
  [.receive request, .advance index {}, .advance index {}]

/-- The calls of a final chunk without a checksum, onto a free path. -/
def finalSteps (index : Nat) (request : UploadRequest) : List Event :=
  .receive request :: List.replicate 7 (.advance index {})

/-- Two uploads whose chunks alternate. -/
theorem uploads_unmixed_alternating : ∃ uploads : Uploads String,
      Reaches (step id fun _ => "") (Separate id) (new Inodes.empty) uploads ∧
        (uploads.calls.filter UploadCall.completes).length = 2 ∧ uploads.Unmixed id := by
  refine exists_reaches_and_of_run (chunkSteps 0 ⟨"a", "/d/f", 0, [1], false, 0, "", false⟩ ++
        chunkSteps 1 ⟨"b", "/d/g", 0, [2, 2], false, 0, "", false⟩ ++
        finalSteps 2 ⟨"a", "/d/f", 1, [1, 1], true, 3, "", false⟩ ++
        finalSteps 3 ⟨" b", "/d/g", 2, [], true, 2, "", false⟩)
      (by decide +kernel) ?_
  intro uploads reached _
  exact uploads_unmixed id _ _ uploads reached

/-- The ids `a_b` and `a-b` have one temporary file for one path: the first
upload publishes the data of the second. -/
theorem uploads_mixed : ∃ uploads : Uploads String,
      Reaches (step id fun _ => "") unrestricted (new Inodes.empty) uploads ∧
        (uploads.published.map Publication.content = [[2, 2, 2]] ∧ ¬ uploads.Unmixed id) :=
  exists_reaches_of_run (chunkSteps 0 ⟨"a_b", "/d/f", 0, [1, 1], false, 0, "", false⟩ ++
      chunkSteps 1 ⟨"a-b", "/d/f", 0, [2, 2, 2], false, 0, "", false⟩ ++
      finalSteps 2 ⟨"a_b", "/d/f", 2, [], true, 2, "", false⟩)
    (by decide +kernel)

end SeparateRuns

end Uploads

end LubricantNodes.Agent
