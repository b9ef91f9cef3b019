import LubricantNodes.Agent.Upload

/-!
# Size of uploads

`RunFileUpload` compares the announced size and the size of one chunk with its
limits, and the size written so far with neither.  A temporary file stays within
the limit when each chunk that is written fits.
-/

namespace LubricantNodes.Files.Inodes

variable {ρ β : Type} {disk : Inodes ρ β}

theorem length_write_le (zero : β) (inode position : Nat) (data : List β) {limit : Nat}
    (before : (disk.contents inode).length ≤ limit) (fits : position + data.length ≤ limit) :
    ((disk.write zero inode position data).contents inode).length ≤ limit := by
  rw [write, contents_setContent]
  simp only [List.length_append, List.length_take, List.length_replicate, List.length_drop]
  omega

end LubricantNodes.Files.Inodes

namespace LubricantNodes.Agent

open Files Go Transition List Inodes Uploads Option

namespace Uploads

section UploadLimits

variable {ρ : Type} (locate : String → ρ) (uploads : Uploads ρ)

/-- No temporary file is longer than the limit: neither the file that a session
has opened nor the one at the path of its temporary file. -/
def Bounded : Prop :=
  ∀ session ∈ uploads.sessions,
    (uploads.disk.contents session.inode).length ≤ maxUploadTotalBytes ∧
      ∀ content ∈ uploads.disk.read (locate session.tmpPath), content.length ≤ maxUploadTotalBytes

/-- A chunk that would be written fits. -/
def Fits : Discipline (Uploads ρ) Event
  | _, .receive _ => True
  | uploads, .advance index _ =>
    ∀ call ∈ uploads.calls[index]?, ∀ entry ∈ uploads.sessions.zipIdx,
      call.phase = .waiting entry.2 → entry.1.isOpen = true →
        call.request.offset = entry.1.written →
          entry.1.written + call.request.data.length ≤ maxUploadTotalBytes

instance (event : Event) : Decidable (Fits uploads event) := by
  delta Fits
  rcases event with _ | _ <;> infer_instance

/-- Every file of a session is within the limit, and the entry of a temporary file
is such a file. -/
structure Limited : Prop where
  files : ∀ session ∈ uploads.sessions,
    (uploads.disk.contents session.inode).length ≤ maxUploadTotalBytes
  entries : ∀ session ∈ uploads.sessions, ∀ inode,
    uploads.disk.entries (locate session.tmpPath) = some (.file inode) →
      ∃ owner ∈ uploads.sessions, owner.inode = inode

end UploadLimits

section LimitInvariant

variable {ρ : Type} {locate : String → ρ} {digest : Bytes → String} {uploads next : Uploads ρ}
  {index number : Nat} {session : UploadSession} {request : UploadRequest}
  {outcome : UploadOutcome}

section KeepingLimits

variable (limited : uploads.Limited locate)

include limited

namespace Limited

theorem bounded : uploads.Bounded locate := by
  intro session member
  refine ⟨limited.files session member, ?_⟩
  intro content found
  unfold Inodes.read at found
  split at found
  · rename_i inode present
    cases found
    rcases limited.entries session member inode present with ⟨owner, known, rfl⟩
    exact limited.files owner known
  · cases found

section Disk

variable (files : ∀ session ∈ uploads.sessions,
    (next.disk.contents session.inode).length ≤ maxUploadTotalBytes)
  (entries : ∀ location inode, next.disk.entries location = some (.file inode) →
    uploads.disk.entries location = some (.file inode) ∨
      ∃ owner ∈ uploads.sessions, owner.inode = inode)

include files entries

/-- The same sessions, up to what is not their file and path, over another disk. -/
theorem keep (forth : ∀ session ∈ next.sessions, ∃ before ∈ uploads.sessions,
      session.inode = before.inode ∧ session.tmpPath = before.tmpPath)
    (back : ∀ session ∈ uploads.sessions, ∃ after ∈ next.sessions, after.inode = session.inode) :
    next.Limited locate := by
  constructor
  case files =>
    intro session member
    rcases forth session member with ⟨before, known, inode, -⟩
    rw [inode]
    exact files before known
  case entries =>
    intro session member inode present
    have owned : ∃ owner ∈ uploads.sessions, owner.inode = inode := by
      rcases forth session member with ⟨before, known, -, tmpPath⟩
      rcases entries _ inode present with same | owned
      · rw [tmpPath] at same
        exact limited.entries before known inode same
      · exact owned
    rcases owned with ⟨owner, known, rfl⟩
    exact back owner known

variable (before : uploads.sessions[number]? = some session)

include before

/-- Only a session changes, and it keeps its file and path. -/
theorem setSession {after : UploadSession}
    (sessions : next.sessions = uploads.sessions.set number after)
    (inode : after.inode = session.inode) (tmpPath : after.tmpPath = session.tmpPath) :
    next.Limited locate := by
  have member : session ∈ uploads.sessions := mem_of_getElem? before
  apply limited.keep files entries
  · intro third known
    rw [sessions] at known
    rcases mem_or_eq_of_mem_set known with old | rfl
    · exact ⟨third, old, rfl, rfl⟩
    · exact ⟨session, member, inode, tmpPath⟩
  · intro third known
    rw [sessions]
    rcases mem_iff_getElem?.mp known with ⟨position, found⟩
    by_cases same : position = number
    · subst same
      rw [before] at found
      cases found
      have inside : position < uploads.sessions.length := (List.getElem?_eq_some_iff.mp before).1
      exact ⟨after, mem_set inside after, inode⟩
    · refine ⟨third, mem_of_getElem? (i := position) ?_, rfl⟩
      rw [getElem?_set_ne (Ne.symm same)]
      exact found

end Disk

theorem setPhase {phase : UploadPhase} : (uploads.setPhase index request phase).Limited locate :=
  ⟨limited.files, limited.entries⟩

/-- Data that fits is written. -/
theorem written (member : session ∈ uploads.sessions) {data : Bytes}
    (fits : session.written + data.length ≤ maxUploadTotalBytes) :
    Limited locate { uploads with
      disk := uploads.disk.write 0 session.inode session.written data } := by
  apply limited.keep
  · intro third known
    by_cases same : third.inode = session.inode
    · rw [same]
      exact length_write_le 0 _ _ _ (limited.files session member) fits
    · dsimp only
      rw [contents_write_of_ne same]
      exact limited.files third known
  · intro location inode present
    exact .inl present
  · intro third known
    exact ⟨third, known, rfl, rfl⟩
  · intro third known
    exact ⟨third, known, rfl⟩

theorem stat [DecidableEq ρ] :
    (uploads.stat locate index number session request outcome).Limited locate := by
  unfold Uploads.stat
  split
  · exact limited.setPhase
  · split_ifs
    · exact limited.setPhase
    · exact limited.setPhase

section Session

variable {result : UploadResult} (before : uploads.sessions[number]? = some session)

include before

/-- Only a session changes, and the disk is the same. -/
theorem sameDisk {after : UploadSession}
    (sessions : next.sessions = uploads.sessions.set number after)
    (inode : after.inode = session.inode) (tmpPath : after.tmpPath = session.tmpPath)
    (disk : next.disk = uploads.disk) : next.Limited locate := by
  refine limited.setSession ?_ ?_ before sessions inode tmpPath
  · rw [disk]
    exact limited.files
  · intro location file present
    rw [disk] at present
    exact .inl present

theorem abort {after : UploadSession}
    (inode : after.inode = session.inode) (tmpPath : after.tmpPath = session.tmpPath) :
    (uploads.abort index number after request result).Limited locate := by
  apply Limited.setPhase
  exact limited.sameDisk before rfl inode tmpPath rfl

theorem append : (uploads.append index number session request).Limited locate := by
  unfold Uploads.append
  dsimp only
  split_ifs
  · apply Limited.setPhase
    exact limited.sameDisk before rfl rfl rfl rfl
  · exact limited.abort before rfl rfl
  · apply Limited.setPhase
    exact limited.sameDisk before rfl rfl rfl rfl

theorem write (fits : session.isOpen = true → request.offset = session.written →
      session.written + request.data.length ≤ maxUploadTotalBytes)
    (taken : uploads.write index number session request outcome = some next) :
    next.Limited locate := by
  have member : session ∈ uploads.sessions := mem_of_getElem? before
  unfold Uploads.write at taken
  split_ifs at taken with held closed offset cancelled empty
  · cases taken
    exact limited.setPhase
  · cases taken
    exact limited.abort before rfl rfl
  · cases taken
    exact limited.abort before rfl rfl
  · cases taken
    exact limited.append before
  have room := fits (by simpa using closed) (not_not.mp offset)
  split at taken
  · cases taken
    have short : session.written + (request.data.take outcome.short).length ≤
        maxUploadTotalBytes := by
      rw [length_take]
      omega
    exact (limited.written member short).abort before rfl rfl
  · rcases guarded_eq_some_iff.mp taken with ⟨-, rfl⟩
    exact (limited.written member room).append before

theorem verify [DecidableEq ρ]
    (taken : uploads.verify locate digest index number session request outcome = some next) :
    next.Limited locate := by
  unfold Uploads.verify at taken
  by_cases unchecked : request.sha256 = ""
  · rw [if_pos unchecked] at taken
    cases taken
    exact limited.setPhase
  rw [if_neg unchecked] at taken
  split at taken
  · cases taken
    exact limited.abort before rfl rfl
  · rcases map_eq_some_iff.mp taken with ⟨content, -, rfl⟩
    split_ifs
    · exact limited.setPhase
    · exact limited.abort before rfl rfl

theorem close : (uploads.close index number session request outcome).Limited locate := by
  unfold Uploads.close
  split
  · exact limited.abort before rfl rfl
  · apply Limited.setPhase
    exact limited.sameDisk before rfl rfl rfl rfl

theorem rename [DecidableEq ρ]
    (taken : uploads.rename locate index number session request outcome = some next) :
    next.Limited locate := by
  unfold Uploads.rename at taken
  split at taken
  · cases taken
    exact limited.setPhase
  rcases map_eq_some_iff.mp taken with ⟨disk, renamed, rfl⟩
  apply Limited.setPhase
  refine @Limited.setSession _ _ _ _ _ _ limited ?_ ?_ before { session with live := false } rfl
    rfl rfl
  · intro third known
    rw [contents_rename renamed]
    exact limited.files third known
  · intro location inode present
    rcases entries_of_rename renamed present with same | source
    · exact .inl same
    · exact .inr (limited.entries session (mem_of_getElem? before) inode source)

theorem remove [DecidableEq ρ] :
    (uploads.remove locate index number session request result outcome).Limited locate := by
  have kept : ∃ disk : Inodes ρ UInt8, (if outcome.fault.isSome then uploads.disk
        else (uploads.disk.remove (locate session.tmpPath)).getD uploads.disk) = disk ∧
      disk.contents = uploads.disk.contents ∧
      ∀ location inode, disk.entries location = some (.file inode) →
        uploads.disk.entries location = some (.file inode) := by
    split_ifs
    · exact ⟨_, rfl, rfl, fun _ _ => id⟩
    · cases removed : uploads.disk.remove (locate session.tmpPath) with
      | none => exact ⟨_, rfl, rfl, fun _ _ => id⟩
      | some disk =>
        exact ⟨disk, rfl, contents_remove removed, fun _ _ => entries_of_remove removed⟩
  rcases kept with ⟨disk, same, contents, entries⟩
  unfold Uploads.remove
  rw [same]
  apply Limited.setPhase
  refine @Limited.setSession _ _ _ _ _ _ limited ?_ ?_ before { session with live := false } rfl
    rfl rfl
  · intro third known
    rw [contents]
    exact limited.files third known
  · intro location inode present
    exact .inl (entries location inode present)

theorem drop : (uploads.drop index number session request result).Limited locate := by
  apply Limited.setPhase
  exact limited.sameDisk before rfl rfl rfl rfl

end Session

theorem lookup [DecidableEq ρ]
    (taken : uploads.lookup locate index request outcome = some next) : next.Limited locate := by
  unfold Uploads.lookup at taken
  split at taken
  · cases taken
    exact limited.setPhase
  split at taken
  · cases taken
    exact limited.setPhase
  split at taken
  · cases taken
    exact limited.setPhase
  rcases map_eq_some_iff.mp taken with ⟨⟨disk, inode⟩, isOpened, rfl⟩
  apply Limited.setPhase
  have files : ∀ third ∈ uploads.sessions ++ [opened request inode],
      (disk.contents third.inode).length ≤ maxUploadTotalBytes := by
    intro third known
    by_cases same : third.inode = inode
    · rw [same, contents_openTrunc isOpened]
      exact Nat.zero_le _
    rw [contents_openTrunc_of_ne isOpened same]
    rcases mem_append.mp known with old | new
    · exact limited.files third old
    · rw [mem_singleton.mp new] at same
      exact absurd rfl same
  constructor
  case files => exact files
  case entries =>
    intro third known file present
    have newest : opened request inode ∈ uploads.sessions ++ [opened request inode] := by simp
    rcases entries_of_openTrunc isOpened present with old | rfl
    · rcases mem_append.mp known with before | new
      · rcases limited.entries third before file old with ⟨owner, member, same⟩
        exact ⟨owner, mem_append_left _ member, same⟩
      · -- The new session's own path leads to the file that it has opened.
        rw [mem_singleton.mp new] at present
        have own := entries_openTrunc isOpened
        cases present.symm.trans own
        exact ⟨_, newest, rfl⟩
    · exact ⟨_, newest, rfl⟩

/-- One event keeps the invariant when what is written fits. -/
theorem step [DecidableEq ρ] {event : Event} (fits : Fits uploads event)
    (taken : Uploads.step locate digest uploads event = some next) : next.Limited locate := by
  cases event with
  | receive =>
    cases taken
    exact ⟨limited.files, limited.entries⟩
  | advance =>
    rcases bind_eq_some_iff.mp taken with ⟨call, found, moved⟩
    rcases call with ⟨request, phase⟩
    cases phase with
    | entered => exact limited.lookup moved
    | waiting number =>
      rcases bind_eq_some_iff.mp moved with ⟨session, before, wrote⟩
      apply limited.write before _ wrote
      intro isOpen offset
      exact fits _ found (session, number) (mem_zipIdx_iff_getElem?.mpr before) rfl isOpen offset
    | verifying =>
      rcases bind_eq_some_iff.mp moved with ⟨session, before, verified⟩
      exact limited.verify before verified
    | closing =>
      rcases map_eq_some_iff.mp moved with ⟨session, before, rfl⟩
      exact limited.close before
    | checking =>
      rcases map_eq_some_iff.mp moved with ⟨session, before, rfl⟩
      exact limited.stat
    | publishing =>
      rcases bind_eq_some_iff.mp moved with ⟨session, before, renamed⟩
      exact limited.rename before renamed
    | removing =>
      rcases map_eq_some_iff.mp moved with ⟨session, before, rfl⟩
      exact limited.remove before
    | dropping =>
      rcases map_eq_some_iff.mp moved with ⟨session, before, rfl⟩
      exact limited.drop before
    | returned => cases moved

end Limited

end KeepingLimits

end LimitInvariant

/-! ## Results -/

section LimitedRuns

variable {ρ : Type} [DecidableEq ρ]

/-- In every run in which each chunk that is written fits, no temporary file is
longer than the limit. -/
theorem upload_size_bounded (locate : String → ρ) (digest : Bytes → String)
    (disk : Inodes ρ UInt8) (uploads : Uploads ρ)
    (reached : Reaches (step locate digest) Fits (new disk) uploads) : uploads.Bounded locate := by
  apply Limited.bounded
  apply reached.invariant (P := fun uploads => uploads.Limited locate)
  · constructor
    · rintro _ ⟨⟩
    · rintro _ ⟨⟩
  · intro state event next _ limited fits taken
    exact limited.step fits taken

/-- An upload in two chunks. -/
theorem upload_size_bounded_chunks : ∃ uploads : Uploads String,
      Reaches (step id fun _ => "") Fits (new Inodes.empty) uploads ∧
        uploads.disk.read "/d/f.upload-a.tmp" = some [1, 2, 3] ∧ uploads.Bounded id := by
  refine exists_reaches_and_of_run
      [.receive ⟨"a", "/d/f", 0, [1], false, 0, "", false⟩, .advance 0 {}, .advance 0 {},
        .receive ⟨"a", "/d/f", 1, [2, 3], false, 0, "", false⟩, .advance 1 {}, .advance 1 {}]
      (by decide +kernel) ?_
  intro uploads reached _
  exact upload_size_bounded id _ _ uploads reached

/-- A chunk of an upload that has accepted `count` chunks of the largest size. -/
def largeChunk (data : Bytes) (count : Nat) : UploadRequest where
  uploadId := "u"
  path := "/f"
  offset := count * maxUploadChunkBytes
  data := data

/-- The session of the upload. -/
def largeSession (count : Nat) : UploadSession :=
  ⟨"u", "/f.upload-u.tmp", 0, true, count * maxUploadChunkBytes, none, true⟩

/-- The upload has accepted `count` chunks. -/
structure Holds (count : Nat) (uploads : Uploads String) : Prop where
  registry : uploads.registry "u" = some 0
  sessions : uploads.sessions = [largeSession count]
  content : (uploads.disk.contents 0).length = count * maxUploadChunkBytes

section Large

-- The data stays a variable: a list of this length is too large to unfold.
variable {data : Bytes} (full : data.length = maxUploadChunkBytes)

include full

theorem check_largeChunk (count : Nat) : (largeChunk data count).check = none := by
  have size : (largeChunk data count).data.length = maxUploadChunkBytes := full
  have named : ¬((largeChunk data count).id = "" ∨ (largeChunk data count).dest = "") := by
    change ¬(trimSpace "u" = "" ∨ trimSpace "/f" = "")
    decide
  have valid : validateUploadPath (largeChunk data count).dest = none := by
    change validateUploadPath (trimSpace "/f") = none
    decide +kernel
  unfold UploadRequest.check
  rw [if_neg named, valid]
  rw [size, if_neg (by change ¬maxUploadTotalBytes < 0; exact Nat.not_lt_zero _),
    if_neg (Nat.lt_irrefl _)]

theorem write_largeChunk {uploads : Uploads String} {count : Nat} (holds : uploads.Holds count)
    (few : count < 11) (index : Nat) :
    ∃ later, uploads.write index 0 (largeSession count) (largeChunk data count) {} = some later ∧
      later.Holds (count + 1) := by
  have size : (largeChunk data count).data.length = maxUploadChunkBytes := full
  have nonempty : (largeChunk data count).data ≠ [] := by
    apply ne_nil_of_length_pos
    rw [size]
    decide
  have room : (largeSession count).written + (largeChunk data count).data.length <
      maxFileOffset := by
    rw [size]
    change count * (1024 * 1024) + 1024 * 1024 < 2 ^ 63
    omega
  have total : (largeSession count).written + (largeChunk data count).data.length =
      (count + 1) * maxUploadChunkBytes := by
    rw [size, Nat.succ_mul]
    rfl
  have unlocked : ¬(largeSession count).holder.isSome = true := Bool.false_ne_true
  have isOpen : ¬(!(largeSession count).isOpen) = true := Bool.false_ne_true
  have aligned : ¬((largeChunk data count).offset ≠ (largeSession count).written) := not_not.mpr rfl
  have notFinal : ¬(largeChunk data count).final = true := Bool.false_ne_true
  unfold write
  rw [if_neg unlocked, if_neg isOpen, if_neg aligned, if_neg Bool.false_ne_true, if_neg nonempty]
  refine ⟨_, guarded_eq_some_iff.mpr ⟨room, rfl⟩, ?_⟩
  unfold append
  rw [if_neg notFinal]
  constructor
  · exact holds.registry
  · change uploads.sessions.set 0 _ = _
    rw [holds.sessions, set_cons_zero, total]
    rfl
  · change ((uploads.disk.write 0 0 (count * maxUploadChunkBytes) _).contents 0).length = _
    rw [← holds.content, contents_write, length_append, holds.content]
    exact total

theorem exists_holds {count : Nat} (few : count ≤ 11) : ∃ uploads : Uploads String,
      Reaches (step id fun _ => "") unrestricted (new Inodes.empty) uploads ∧
        uploads.Holds count := by
  induction count with
  | zero =>
    have run : ∃ uploads : Uploads String,
        Reaches (step id fun _ => "") unrestricted (new Inodes.empty) uploads ∧
          uploads.registry "u" = some 0 ∧ uploads.sessions = [largeSession 0] ∧
            uploads.disk.contents 0 = [] :=
      exists_reaches_of_run
        [.receive ⟨"u", "/f", 0, [], false, 0, "", false⟩, .advance 0 {}, .advance 0 {}]
        (by decide +kernel)
    rcases run with ⟨uploads, reached, registry, sessions, content⟩
    refine ⟨uploads, reached, registry, sessions, ?_⟩
    rw [content, Nat.zero_mul, length_nil]
  | succ count ih =>
    rcases ih (Nat.le_of_succ_le few) with ⟨uploads, reached, holds⟩
    let request := largeChunk data count
    let index := uploads.calls.length
    let received : Uploads String :=
      { uploads with calls := uploads.calls ++ [⟨request, .entered⟩] }
    let waiting := received.setPhase index request (.waiting 0)
    have receives : step id (fun _ => "") uploads (.receive request) = some received := rfl
    have entered : received.calls[index]? = some ⟨request, .entered⟩ := getElem?_concat_length
    have waits : waiting.calls[index]? = some ⟨request, .waiting 0⟩ := by
      change (received.calls.set index _)[index]? = _
      rw [List.getElem?_set_self (List.getElem?_eq_some_iff.mp entered).1]
    have known : received.registry request.id = some 0 := by
      have named : request.id = "u" := by
        change trimSpace "u" = "u"
        decide
      rw [named]
      exact holds.registry
    have looks : step id (fun _ => "") received (.advance index {}) = some waiting := by
      change (received.calls[index]?).bind _ = _
      rw [entered, bind_some]
      change received.lookup id index request {} = _
      unfold lookup
      rw [check_largeChunk full]
      rw [known]
    have held : waiting.Holds count := ⟨holds.registry, holds.sessions, holds.content⟩
    rcases write_largeChunk full held few index with ⟨later, writes, next⟩
    have steps : step id (fun _ => "") waiting (.advance index {}) = some later := by
      change (waiting.calls[index]?).bind _ = _
      rw [waits, bind_some]
      change (waiting.sessions[0]?).bind (fun session =>
        waiting.write index 0 session request {}) = _
      have first : waiting.sessions[0]? = some (largeSession count) := by
        change uploads.sessions[0]? = _
        rw [holds.sessions]
        rfl
      rw [first, bind_some]
      exact writes
    refine ⟨later, ?_, next⟩
    exact ((reached.tail trivial receives).tail trivial looks).tail trivial steps

end Large

/-- Eleven chunks of one mebibyte, none of them final. -/
theorem upload_size_unbounded : ∃ uploads : Uploads String,
      Reaches (step id fun _ => "") unrestricted (new Inodes.empty) uploads ∧
        ¬uploads.Bounded id := by
  have full : (replicate maxUploadChunkBytes (0 : UInt8)).length = maxUploadChunkBytes :=
    length_replicate
  rcases exists_holds full (Nat.le_refl 11) with ⟨uploads, reached, holds⟩
  refine ⟨uploads, reached, ?_⟩
  intro bounded
  have member : largeSession 11 ∈ uploads.sessions := by
    rw [holds.sessions]
    exact mem_singleton_self _
  have size : (uploads.disk.contents 0).length ≤ maxUploadTotalBytes :=
    (bounded (largeSession 11) member).1
  rw [holds.content] at size
  exact absurd size (by decide)

end LimitedRuns

end Uploads

end LubricantNodes.Agent
