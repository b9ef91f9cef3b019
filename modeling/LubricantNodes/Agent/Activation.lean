import LubricantNodes.Agent.Upgrades

/-!
# Activation of upgrades

An upgrade is meant to be atomic: afterwards the target has its old content or the
content of an archive.  It is so as long as calls do not overlap, the staging
directory and the backup are empty when they are used, nothing is unpacked behind a
link and the rollback of a failed activation succeeds.

Two calls that overlap use the same staging directory.
-/

namespace LubricantNodes.Agent

open Files Go Transition List UpgradeCall

/-! ## What an upgrade is for -/

/-- The same things are at both paths. -/
def Item.Same : Option Item → Option Item → Prop
  | some (folder first), some (folder second) =>
    ∀ place, first.lookup place = second.lookup place
  | first, second => first = second

theorem Item.Same.refl (item : Option Item) : Item.Same item item := by
  rcases item with _ | _ | _
  · rfl
  · intro place
    rfl
  · rfl

/-- The directory has exactly the content of an archive, plus the release marker. -/
def Installed (host : UpgradeHost) (archive : Bytes) (item : Option Item) : Prop :=
  ∃ content placed, host.unpack archive = some content ∧ item = some (.folder placed) ∧
    ∀ place, host.kind = .node ∨ place ≠ [runtimeReleaseMarker] →
      placed.lookup place = content.lookup place

namespace Upgrades

/-- Once no call is in progress the target has its first content or the content of an
archive, and a call that failed alone has left the target as it found it. -/
structure Atomic (host : UpgradeHost) (initial : Option Item) (state : Upgrades) : Prop where
  whole : state.busy = false →
    Item.Same state.shelf.target initial ∨
      ∃ call ∈ state.calls, Installed host call.received state.shelf.target
  unchanged : ∀ call ∈ state.calls, ∀ error, call.phase = .returned (some error) →
    call.alone = true → Item.Same call.left call.found

end Upgrades

/-! ## When it is -/

/-- It is a directory. -/
def Item.isFolder : Option Item → Bool
  | some (folder _) => true
  | _ => false

theorem Item.exists_of_isFolder {item : Option Item} (directory : isFolder item = true) :
    ∃ content, item = some (.folder content) := by
  rcases item with _ | content | _
  · cases directory
  · exact ⟨content, rfl⟩
  · cases directory

namespace UpgradeCall

variable (host : UpgradeHost) (shelf : Shelf) (answer : Answer)

/-- The next operation of a phase is not one of those that can ruin the target: the
removal of an old staging directory, or of an old backup in whose place nothing would
be preserved, does not fail; no operation of an extraction follows a link and no link
is left out; and the backup is found and moved back. -/
def RisklessIn (ops : List FileOp) :
    UpgradePhase → Prop
  | .clearingStage => answer.fault = none ∨ shelf.stage.isNone
  | .extracting =>
    host.kind = .node → ∀ op ∈ ops.head?, strays op shelf.stage = false ∧
      (op.isTolerant = true → answer.fault = none)
  | .clearingBackup =>
    answer.fault = none ∨ shelf.backup.isNone ∨ Item.isFolder shelf.target = true
  | .probing _ | .restoring _ =>
    shelf.target.isNone → shelf.backup.isSome → answer.fault = none
  | _ => True

instance (ops : List FileOp)
    (phase : UpgradePhase) : Decidable (RisklessIn host shelf answer ops phase) := by
  cases phase <;> unfold RisklessIn <;> infer_instance

/-- The next operation of a call is riskless. -/
def Riskless (call : UpgradeCall) : Prop :=
  RisklessIn host shelf answer call.ops call.phase
  deriving Decidable

end UpgradeCall

namespace Upgrades

/-- Calls do not overlap, and all operations are riskless. -/
def RisklessAlone (host : UpgradeHost) : Discipline Upgrades UpgradeEvent
  | state, .begin _ => state.busy = false
  | state, .advance number answer =>
    ∀ call ∈ state.calls[number]?, call.Riskless host state.shelf answer

instance (host : UpgradeHost) (state : Upgrades) (event : UpgradeEvent) :
    Decidable (RisklessAlone host state event) := by
  unfold RisklessAlone
  split <;> infer_instance

end Upgrades

/-! ## Renaming -/

theorem renameOver_none (item : Item) : renameOver (some item) none = some item := by
  cases item <;> rfl

theorem renameOver_folder (item : Option Item) (content : Folder) :
    renameOver item (some (.folder content)) = none := by
  rcases item with _ | _ | _ <;> rfl

/-- A directory is only renamed to a free path. -/
theorem renameOver_of_folder {content : Folder} {replaced : Option Item} {moved : Item}
    (renamed : renameOver (some (.folder content)) replaced = some moved) :
    replaced = none ∧ moved = .folder content := by
  rcases replaced with _ | _ | _ <;> cases renamed
  exact ⟨rfl, rfl⟩

theorem renameOver_absent (replaced : Option Item) : renameOver none replaced = none := by
  rcases replaced with _ | _ | _ <;> rfl

/-! ## Writing the download -/

/-- Writing at the end of a file appends. -/
theorem writeAt_length (blob chunk : Bytes) : writeAt blob blob.length chunk = blob ++ chunk := by
  unfold writeAt
  rw [take_length, Nat.sub_self, drop_of_length_le (Nat.le_add_right _ _)]
  simp

/-! ## Directories without links -/

/-- There are no links in what a runtime archive unpacks to. -/
def Linkless (host : UpgradeHost) (content : Folder) : Prop :=
  host.kind = .runtime → ∀ place, content.Plain place

theorem linkless_empty (host : UpgradeHost) : Linkless host ⟨[]⟩ := by
  rintro _ _ _ ⟨⟩

namespace Linkless

variable {host : UpgradeHost} {content : Folder}

section LinklessContent

variable (linkless : Linkless host content)

include linkless

theorem direct (runtime : host.kind = .runtime) (whole : Bool)
    (path : List String) : content.Direct whole path :=
  fun middle _ _ _ => linkless runtime middle

theorem of_linkFree {after : Folder}
    (linkFree : Tree.LinkFree content after) : Linkless host after :=
  fun runtime place => linkFree place (linkless runtime place)

variable {op : FileOp}

/-- In such a directory only removals and links lead astray. -/
theorem not_astray (runtime : host.kind = .runtime)
    (strict : op.isTolerant = false) : ¬op.Astray content := by
  cases op with
  | mkdirAll path | create path data => exact not_not.mpr (linkless.direct runtime true path)
  | remove | symlink => cases strict

/-- A strict operation makes no links. -/
theorem perform {done : Folder} (strict : host.kind = .runtime → op.isTolerant = false)
    (performed : op.perform host.limit content = some done) : Linkless host done := by
  intro runtime
  cases op with
  | mkdirAll path =>
    unfold FileOp.perform at performed
    dsimp only at performed
    split_ifs at performed
    cases performed
    apply linkless.of_linkFree _ runtime
    apply (Tree.mkdirAll_spec host.limit _ _ (.inr nil_prefix)
      (linkless.direct runtime true path)).2
    intro above inside nonempty
    cases nonempty (prefix_nil.mp inside)
  | create path data =>
    have created : content.create host.limit (fun _ => false) path data = some done := performed
    cases Tree.create_eq_set (linkless.direct runtime true path) created
    refine linkless.of_linkFree (Tree.linkFree_set ?_) runtime
    rintro _ ⟨⟩
    rfl
  | remove | symlink => cases strict runtime

end LinklessContent

end Linkless

/-- The extractor of the runtime plans no links. -/
theorem isTolerant_of_mem_ops {host : UpgradeHost} (runtime : host.kind = .runtime)
    {strip : String} {header : TarHeader} {op : FileOp}
    (planned : op ∈ (host.kind.extractor.plan host.root strip header).1.ops host.root) :
    op.isTolerant = false := by
  rw [runtime] at planned
  change op ∈ (extractRuntimeEntry host.root header).ops host.root at planned
  have unlinked : (extractRuntimeEntry host.root header).isLink = false := by
    unfold extractRuntimeEntry
    split
    · rfl
    dsimp only
    split_ifs
    · rfl
    · cases header.type <;> rfl
    · rfl
  cases entry : extractRuntimeEntry host.root header with
  | refuse | skip =>
    rw [entry] at planned
    cases planned
  | dir =>
    rw [entry] at planned
    cases mem_singleton.mp planned
    rfl
  | file =>
    rw [entry] at planned
    rcases mem_pair.mp planned with rfl | rfl <;> rfl
  | link =>
    rw [entry] at unlinked
    cases unlinked

/-! ## A call on its own -/

namespace UpgradeCall

variable {host : UpgradeHost} {shelf : Shelf} {call : UpgradeCall} {answer : Answer}

/-- The target is as the call found it. -/
def TargetKept (shelf : Shelf) (call : UpgradeCall) : Prop :=
  shelf.target = call.found

/-- The archive is what the call received. -/
def Loaded (shelf : Shelf) (call : UpgradeCall) : Prop :=
  shelf.archive.map shelf.blobs = some call.received

/-- The open file has what the call received, and is the `.part` file. -/
def Writing (shelf : Shelf) (call : UpgradeCall) : Prop :=
  shelf.part = some call.handle ∧ shelf.blobs call.handle = call.received

/-- The rest of the extraction leads to the content of the archive. -/
structure Resumes (host : UpgradeHost) (call : UpgradeCall) (content : Folder) : Prop where
  complete : call.complete = (host.decode call.received).2
  rest : (host.performAll content call.ops).bind (host.unpackEntries call.headers call.strip) =
    host.unpackEntries (host.decode call.received).1 "" ⟨[]⟩
  linkless : Linkless host content
  strict : host.kind = .runtime → ∀ op ∈ call.ops, op.isTolerant = false

/-- The staging directory has the content of the archive. -/
def Unpacked (host : UpgradeHost) (call : UpgradeCall) (item : Option Item) : Prop :=
  ∃ content, item = some (.folder content) ∧ host.unpack call.received = some content ∧
    Linkless host content

/-- The backup is empty, unless the target is a directory, over which nothing is
renamed. -/
def BackupFree (shelf : Shelf) : Prop :=
  shelf.backup = none ∨ Item.isFolder shelf.target = true

/-- The target is as the call found it, or it is the backup. -/
def Recoverable (shelf : Shelf) (call : UpgradeCall) : Prop :=
  TargetKept shelf call ∧ BackupFree shelf ∨
    shelf.target = none ∧ shelf.backup = call.found ∧ call.found.isSome

/-- What holds in each phase of a call that runs on its own. -/
def Phased (host : UpgradeHost) (shelf : Shelf) (call : UpgradeCall) : Prop :=
  match call.phase with
  | .preparing => TargetKept shelf call
  | .clearingArchive => TargetKept shelf call
  | .clearingStage => TargetKept shelf call
  | .requesting => TargetKept shelf call ∧ shelf.stage = none
  | .opening => TargetKept shelf call ∧ shelf.stage = none
  | .receiving => TargetKept shelf call ∧ shelf.stage = none ∧ Writing shelf call
  | .abandoning _ => TargetKept shelf call ∧ shelf.stage = none
  | .finalizing => TargetKept shelf call ∧ shelf.stage = none ∧ Writing shelf call
  | .verifying => TargetKept shelf call ∧ shelf.stage = none ∧ Loaded shelf call
  | .staging =>
    TargetKept shelf call ∧ shelf.stage = none ∧ (host.kind = .node → Loaded shelf call) ∧
      (host.kind = .runtime → Resumes host call ⟨[]⟩)
  | .reading =>
    TargetKept shelf call ∧ Loaded shelf call ∧ (host.kind = .runtime → shelf.stage = none) ∧
      (host.kind = .node → shelf.stage = some (.folder ⟨[]⟩))
  | .extracting =>
    TargetKept shelf call ∧
      ∃ content, shelf.stage = some (.folder content) ∧ Resumes host call content
  | .validating => TargetKept shelf call ∧ Unpacked host call shelf.stage
  | .discarding _ => TargetKept shelf call
  | .clearingBackup => TargetKept shelf call ∧ Unpacked host call shelf.stage
  | .inspecting => TargetKept shelf call ∧ Unpacked host call shelf.stage ∧ BackupFree shelf
  | .preserving => TargetKept shelf call ∧ Unpacked host call shelf.stage ∧ BackupFree shelf
  | .activating => Unpacked host call shelf.stage ∧ Recoverable shelf call
  | .probing _ => Recoverable shelf call
  | .restoring _ => Recoverable shelf call
  | .droppingBackup => Unpacked host call shelf.target
  | .stamping => Unpacked host call shelf.target
  | .closing none => Installed host call.received shelf.target
  | .closing (some _) => TargetKept shelf call
  | .returned none => Installed host call.received call.left
  | .returned (some _) => call.left = call.found

/-- One operation keeps it so: where a call is after it, what it leaves when it
returns, and what it once found. -/
structure Proceeds (host : UpgradeHost) (call : UpgradeCall) (result : Shelf × UpgradeCall) :
    Prop where
  phased : result.2.Phased host result.1
  found : result.2.found = call.found
  left : result.2.running = false → result.2.left = result.1.target

/-- The call goes on, and so leaves nothing yet. -/
theorem Proceeds.of_running {result : Shelf × UpgradeCall} (phased : result.2.Phased host result.1)
    (found : result.2.found = call.found) (running : result.2.running = true) :
    Proceeds host call result where
  phased := phased
  found := found
  left := by
    intro ended
    rw [running] at ended
    cases ended

/-! ### The download -/

section Bare

variable (kept : TargetKept shelf call) (bare : shelf.stage = none)

include kept bare

theorem retry_proceeds (cancelled : Bool)
    (cause : String) : Proceeds host call (shelf, call.retry cancelled cause) := by
  unfold retry
  split_ifs
  · exact .of_running kept rfl rfl
  · exact .of_running ⟨kept, bare⟩ rfl rfl

theorem openPart_proceeds : Proceeds host call (call.openPart shelf) := by
  unfold openPart
  split
  · rename_i number opened
    refine .of_running ?_ rfl rfl
    exact ⟨kept, bare, opened, Function.update_self ..⟩
  · refine .of_running ?_ rfl rfl
    exact ⟨kept, bare, rfl, Function.update_self ..⟩

theorem finish_phased (writing : Writing shelf call) : call.finish.Phased host shelf := by
  unfold finish
  split_ifs
  · exact ⟨kept, bare⟩
  · exact ⟨kept, bare, writing⟩

end Bare

theorem running_finish : call.finish.running = true := by
  unfold finish
  split_ifs <;> rfl

theorem found_finish : call.finish.found = call.found := by
  unfold finish
  split_ifs <;> rfl

/-- What was read is written at the end of the file. -/
theorem Writing.append (writing : Writing shelf call) (chunk : Bytes) :
    Writing (call.write shelf chunk) { call with received := call.received ++ chunk } := by
  refine ⟨writing.1, ?_⟩
  unfold write
  dsimp only
  rw [Function.update_self, writing.2, writeAt_length]

theorem receive_proceeds (receiving : call.phase = .receiving) (kept : TargetKept shelf call)
    (bare : shelf.stage = none) (writing : Writing shelf call) :
    Proceeds host call (call.receive shelf answer) := by
  unfold receive
  split
  · exact .of_running ⟨kept, bare⟩ rfl rfl
  split
  · exact .of_running ⟨kept, bare⟩ rfl rfl
  have further := writing.append answer.chunk
  cases answer.last with
  | true => exact .of_running (finish_phased kept bare further) found_finish running_finish
  | false =>
    refine .of_running ?_ rfl ?_
    · unfold Phased
      rw [receiving]
      exact ⟨kept, bare, further⟩
    · simp [running, receiving]

/-! ### Checking and unpacking -/

theorem firstOfExtraction_phased (kept : TargetKept shelf call) (bare : shelf.stage = none)
    (loaded : Loaded shelf call) :
    Phased host shelf { call with phase := firstOfExtraction host } := by
  unfold firstOfExtraction Phased
  cases kind : host.kind with
  | runtime =>
    refine ⟨kept, loaded, fun _ => bare, ?_⟩
    rintro ⟨⟩
  | node =>
    refine ⟨kept, bare, fun _ => loaded, ?_⟩
    rintro ⟨⟩

theorem running_firstOfExtraction :
    running { call with phase := firstOfExtraction host } = true := by
  unfold firstOfExtraction running
  cases host.kind <;> rfl

theorem verify_proceeds (kept : TargetKept shelf call) (bare : shelf.stage = none)
    (loaded : Loaded shelf call) : Proceeds host call (shelf, call.verify host shelf answer) := by
  have passed : Proceeds host call (shelf, { call with phase := firstOfExtraction host }) :=
    .of_running (firstOfExtraction_phased kept bare loaded) rfl running_firstOfExtraction
  unfold verify
  split
  · exact passed
  split
  · split_ifs
    · exact passed
    · exact .of_running kept rfl rfl
  · exact .of_running kept rfl rfl

/-- An extraction begins in an empty directory. -/
theorem resumes_start (begun : call.ops = []) (fresh : call.strip = "")
    (headers : call.headers = (host.decode call.received).1)
    (complete : call.complete = (host.decode call.received).2) : Resumes host call ⟨[]⟩ where
  complete := complete
  rest := by
    rw [begun, fresh, headers]
    rfl
  linkless := linkless_empty host
  strict := by
    intro _ op member
    rw [begun] at member
    cases member

theorem readArchive_proceeds (kept : TargetKept shelf call) (loaded : Loaded shelf call)
    (bare : host.kind = .runtime → shelf.stage = none)
    (made : host.kind = .node → shelf.stage = some (.folder ⟨[]⟩)) :
    Proceeds host call (shelf, call.readArchive host shelf answer) := by
  unfold readArchive
  split
  · rename_i blob found
    cases loaded.symm.trans found
    cases kind : host.kind with
    | runtime =>
      refine .of_running ?_ rfl ?_
      · unfold Phased afterOpen
        rw [kind]
        refine ⟨kept, bare kind, ?_, ?_⟩
        · rintro ⟨⟩
        · intro _
          exact resumes_start rfl rfl rfl rfl
      · unfold running afterOpen
        rw [kind]
    | node =>
      refine .of_running ?_ rfl ?_
      · unfold Phased afterOpen
        rw [kind]
        exact ⟨kept, _, made kind, resumes_start rfl rfl rfl rfl⟩
      · unfold running afterOpen
        rw [kind]
  · exact .of_running kept rfl rfl

theorem makeStage_proceeds (kept : TargetKept shelf call) (bare : shelf.stage = none)
    (loaded : host.kind = .node → Loaded shelf call)
    (resumes : host.kind = .runtime → Resumes host call ⟨[]⟩) :
    Proceeds host call (call.makeStage host shelf answer) := by
  unfold makeStage
  rw [bare]
  split
  · refine .of_running ?_ rfl ?_
    · unfold Phased afterStage
      cases kind : host.kind with
      | runtime =>
        rcases resumes kind with ⟨complete, rest, linkless, strict⟩
        exact ⟨kept, _, rfl, complete, rest, linkless, strict⟩
      | node =>
        refine ⟨kept, loaded kind, ?_, fun _ => rfl⟩
        rintro ⟨⟩
    · unfold running afterStage
      cases host.kind <;> rfl
  · rename_i absurd
    cases absurd
  · exact .of_running kept rfl rfl

variable {content : Folder} {op : FileOp}

/-- One operation of an extraction that is not refused. -/
theorem performAll_cons (rest : List FileOp) (straight : ¬op.Astray content) :
    host.performAll content (op :: rest) =
      (op.perform host.limit content).bind (host.performAll · rest) := by
  unfold UpgradeHost.performAll
  rw [foldlM_cons, if_neg straight]
  rfl

/-- The extraction after an operation. -/
theorem Resumes.perform {done : Folder} {rest : List FileOp} (resumes : Resumes host call content)
    (next : call.ops = op :: rest) (straight : ¬op.Astray content)
    (performed : op.perform host.limit content = some done) :
    Resumes host { call with ops := rest } done where
  complete := resumes.complete
  rest := by
    rw [← resumes.rest, next, performAll_cons rest straight, performed]
    rfl
  linkless := by
    apply resumes.linkless.perform _ performed
    intro runtime
    exact resumes.strict runtime op (next ▸ mem_cons_self)
  strict := by
    intro runtime other member
    exact resumes.strict runtime other (next ▸ mem_cons_of_mem op member)

/-- The extraction after the start of an entry. -/
theorem Resumes.entry {header : TarHeader} {rest : List TarHeader} {plan : Plan} {strip : String}
    (resumes : Resumes host call content) (done : call.ops = [])
    (next : call.headers = header :: rest)
    (planned : host.kind.extractor.plan host.root call.strip header = (plan, strip))
    (accepted : ∀ error, plan ≠ .refuse error) :
    Resumes host { call with headers := rest, strip := strip, ops := plan.ops host.root }
      content where
  complete := resumes.complete
  rest := by
    rw [← resumes.rest, done, next]
    change _ = host.unpackEntries (header :: rest) call.strip content
    rw [UpgradeHost.unpackEntries, planned]
    cases plan with
    | refuse error => cases accepted error rfl
    | skip | dir | file | link => rfl
  linkless := resumes.linkless
  strict := by
    intro runtime op member
    have inPlan : op ∈ (host.kind.extractor.plan host.root call.strip header).1.ops host.root := by
      rw [planned]
      exact member
    exact isTolerant_of_mem_ops runtime inPlan

/-- At the end the directory has the content of the archive. -/
theorem Resumes.unpack (resumes : Resumes host call content) (done : call.ops = [])
    (ended : call.headers = []) (complete : call.complete = true) :
    host.unpack call.received = some content := by
  have rest := resumes.rest
  rw [done, ended] at rest
  unfold UpgradeHost.unpack
  dsimp only
  rw [if_pos (resumes.complete.symm.trans complete), ← rest]
  rfl

theorem phased_of_extracting (extracting : call.phase = .extracting) (kept : TargetKept shelf call)
    (staged : shelf.stage = some (.folder content))
    (resumes : Resumes host call content) : call.Phased host shelf := by
  unfold Phased
  rw [extracting]
  exact ⟨kept, content, staged, resumes⟩

theorem running_of_extracting (extracting : call.phase = .extracting) : call.running = true := by
  unfold running
  rw [extracting]

theorem nextEntry_proceeds (extracting : call.phase = .extracting) (kept : TargetKept shelf call)
    (staged : shelf.stage = some (.folder content)) (resumes : Resumes host call content)
    (done : call.ops = []) : Proceeds host call (shelf, call.nextEntry host) := by
  unfold nextEntry
  split
  · rename_i ended
    split_ifs with complete
    · refine .of_running ?_ rfl rfl
      exact ⟨kept, content, staged, resumes.unpack done ended complete, resumes.linkless⟩
    · exact .of_running kept rfl rfl
  · rename_i header rest next
    split
    · exact .of_running kept rfl rfl
    · rename_i plan strip accepted planned
      refine .of_running ?_ rfl (running_of_extracting extracting)
      exact phased_of_extracting extracting kept staged (resumes.entry done next planned accepted)

theorem exists_perform_of_isTolerant (tolerant : op.isTolerant = true) (limit : Nat)
    (content : Folder) : ∃ done, op.perform limit content = some done := by
  cases op with
  | mkdirAll | create => cases tolerant
  | remove | symlink => exact ⟨_, rfl⟩

/-- An operation below a directory is carried out, or fails. -/
theorem operate_cases (host : UpgradeHost) (op : FileOp) (content : Folder) (answer : Answer) :
    (∃ done, op.perform host.limit content = some done ∧
        operate host op (some (.folder content)) answer = (some (.folder done), none)) ∨
      (answer.fault = none → op.perform host.limit content = none) ∧
        ∃ item cause, operate host op (some (.folder content)) answer = (item, some cause) := by
  unfold operate directory
  dsimp only
  cases fault : answer.fault with
  | some =>
    refine .inr ⟨?_, _, _, rfl⟩
    rintro ⟨⟩
  | none =>
    cases performed : op.perform host.limit content with
    | none => exact .inr ⟨fun _ => rfl, _, _, rfl⟩
    | some done => exact .inl ⟨done, rfl, rfl⟩

theorem extract_proceeds (extracting : call.phase = .extracting) (kept : TargetKept shelf call)
    (staged : shelf.stage = some (.folder content)) (resumes : Resumes host call content)
    (riskless : ∀ op ∈ call.ops.head?, strays op shelf.stage = false ∧
      (op.isTolerant = true → answer.fault = none)) :
    Proceeds host call (call.extract host shelf answer) := by
  unfold extract
  split
  · rename_i done
    exact nextEntry_proceeds extracting kept staged resumes done
  rename_i op rest next
  rcases riskless op (by rw [next]; rfl) with ⟨straight, faultless⟩
  have direct : ¬op.Astray content := by
    rw [staged] at straight
    exact of_decide_eq_false straight
  rw [if_neg (by rw [straight]; exact Bool.false_ne_true), staged]
  rcases operate_cases host op content answer with ⟨done, performed, result⟩ |
    ⟨refused, item, cause, result⟩
  · rw [result]
    refine .of_running ?_ rfl (running_of_extracting extracting)
    exact phased_of_extracting extracting kept rfl (resumes.perform next direct performed)
  -- Only the errors of strict operations come here, and those end the extraction.
  have strict : op.isTolerant = false := by
    apply eq_false_of_ne_true
    intro tolerant
    rcases exists_perform_of_isTolerant tolerant host.limit content with ⟨done, performed⟩
    rw [refused (faultless tolerant)] at performed
    cases performed
  rw [result]
  unfold afterOp
  rw [strict]
  exact .of_running kept rfl rfl

/-- Nothing that a runtime archive unpacks to strays. -/
theorem Resumes.riskless (resumes : Resumes host call content)
    (staged : shelf.stage = some (.folder content)) (runtime : host.kind = .runtime) :
    ∀ op ∈ call.ops.head?, strays op shelf.stage = false ∧
      (op.isTolerant = true → answer.fault = none) := by
  intro op first
  have strict := resumes.strict runtime op (mem_of_mem_head? first)
  constructor
  · rw [staged]
    exact decide_eq_false (resumes.linkless.not_astray runtime strict)
  · intro tolerant
    rw [strict] at tolerant
    cases tolerant

/-! ### Activation -/

theorem preserve_proceeds (kept : TargetKept shelf call) (unpacked : Unpacked host call shelf.stage)
    (clear : BackupFree shelf) : Proceeds host call (call.preserve shelf answer) := by
  unfold preserve
  split
  · rename_i moved _ renamed
    refine .of_running ⟨unpacked, .inr ?_⟩ rfl rfl
    have found : call.found = some moved := by
      rw [← kept]
      rcases clear with free | directory
      · rw [free] at renamed
        cases held : shelf.target with
        | none =>
          rw [held] at renamed
          cases renamed
        | some =>
          rw [held, renameOver_none] at renamed
          exact renamed
      · rcases Item.exists_of_isFolder directory with ⟨content, held⟩
        rw [held] at renamed
        rw [held, (renameOver_of_folder renamed).2]
    exact ⟨rfl, found.symm, by rw [found]; rfl⟩
  · exact .of_running kept rfl rfl

theorem activate_proceeds (unpacked : Unpacked host call shelf.stage)
    (recoverable : Recoverable shelf call) : Proceeds host call (call.activate shelf answer) := by
  unfold activate
  split
  · rename_i moved _ renamed
    rcases unpacked with ⟨content, staged, unpacks, linkless⟩
    rw [staged] at renamed
    rcases renameOver_of_folder renamed with ⟨_, rfl⟩
    exact .of_running ⟨content, rfl, unpacks, linkless⟩ rfl rfl
  · exact .of_running recoverable rfl rfl

variable {error : UpgradeError}

theorem probing_proceeds (recoverable : Recoverable shelf call)
    (riskless : shelf.target.isNone → shelf.backup.isSome → answer.fault = none) :
    Proceeds host call (shelf,
        { call with
          phase :=
            if answer.fault.isNone ∧ shelf.backup.isSome then .restoring error
            else .closing (some error) }) := by
  split_ifs with present
  · exact .of_running recoverable rfl rfl
  refine .of_running ?_ rfl rfl
  rcases recoverable with ⟨kept, _⟩ | ⟨gone, saved, held⟩
  · exact kept
  · -- The backup is there, so only a failing `os.Stat` could have missed it.
    have there : shelf.backup.isSome := by
      rw [saved]
      exact held
    have answered := riskless (by rw [gone]; rfl) there
    cases present ⟨by rw [answered]; rfl, there⟩

theorem restoring_proceeds (recoverable : Recoverable shelf call)
    (riskless : shelf.target.isNone → shelf.backup.isSome → answer.fault = none) :
    Proceeds host call (restore shelf answer, { call with phase := .closing (some error) }) := by
  refine .of_running ?_ rfl rfl
  change (restore shelf answer).target = call.found
  unfold restore
  rcases recoverable with ⟨kept, clear⟩ | ⟨gone, saved, held⟩
  · have blocked : renameOver shelf.backup shelf.target = none := by
      rcases clear with free | directory
      · rw [free]
        exact renameOver_absent _
      · rcases Item.exists_of_isFolder directory with ⟨content, there⟩
        rw [there]
        exact renameOver_folder _ content
    rw [blocked]
    split
    · rename_i absurd
      cases absurd
    · exact kept
  · have there : shelf.backup.isSome := by
      rw [saved]
      exact held
    rcases Option.isSome_iff_exists.mp held with ⟨item, found⟩
    rw [riskless (by rw [gone]; rfl) there, gone, saved, found, renameOver_none]

/-- A file of a directory without links is written in its place. -/
theorem lookup_operate_create {placed : Folder} {path place : List String} {data : String}
    (direct : content.Direct true path)
    (result : (operate host (.create path data) (some (.folder content)) answer).1 =
      some (.folder placed)) (other : place ≠ path) :
    placed.lookup place = content.lookup place := by
  have written : ∀ {text : String} {after : Folder},
      content.create host.limit (fun _ => false) path text = some after →
        after.lookup place = content.lookup place := by
    intro text after created
    rw [Tree.create_eq_set direct created, Tree.lookup_set, if_neg other]
  unfold operate directory at result
  dsimp only at result
  cases fault : answer.fault with
  | some =>
    rw [fault] at result
    cases result
    change ((answer.cut.bind (content.create host.limit (fun _ => false) path)).getD
      content).lookup place = _
    cases spoiled : answer.cut.bind (content.create host.limit (fun _ => false) path) with
    | none => rfl
    | some =>
      rcases Option.bind_eq_some_iff.mp spoiled with ⟨text, _, created⟩
      exact written created
  | none =>
    rw [fault] at result
    cases performed : (FileOp.create path data).perform host.limit content with
    | none =>
      rw [performed] at result
      cases result
      rfl
    | some =>
      rw [performed] at result
      cases result
      exact written performed

theorem exists_operate_folder (host : UpgradeHost) (op : FileOp) (content : Folder)
    (answer : Answer) :
    ∃ placed, (operate host op (some (.folder content)) answer).1 = some (.folder placed) := by
  unfold operate directory
  dsimp only
  cases answer.fault with
  | some => exact ⟨_, rfl⟩
  | none =>
    cases op.perform host.limit content with
    | none | some => exact ⟨_, rfl⟩

/-- The release marker is the only thing that is added. -/
theorem stamp_installed (unpacked : Unpacked host call shelf.target) :
    Installed host call.received (call.stamp host shelf answer).target := by
  rcases unpacked with ⟨content, placed, unpacks, linkless⟩
  unfold stamp
  by_cases untagged : call.request.tag host.kind = ""
  · rw [if_pos untagged]
    exact ⟨content, content, unpacks, placed, fun _ _ => rfl⟩
  have runtime : host.kind = .runtime := by
    cases kind : host.kind with
    | runtime => rfl
    | node =>
      rw [kind] at untagged
      cases untagged rfl
  have direct := linkless.direct runtime true [runtimeReleaseMarker]
  have straight : strays (.create [runtimeReleaseMarker] (call.request.tag host.kind))
      shelf.target = false := by
    rw [placed]
    exact decide_eq_false (not_not.mpr direct)
  rw [if_neg untagged, if_neg (by rw [straight]; exact Bool.false_ne_true), placed]
  rcases exists_operate_folder host (.create [runtimeReleaseMarker]
    (call.request.tag host.kind)) content answer with ⟨after, result⟩
  refine ⟨content, after, unpacks, result, ?_⟩
  intro place unmarked
  apply lookup_operate_create direct result
  rcases unmarked with node | other
  · rw [runtime] at node
    cases node
  · exact other

/-! ### Every operation -/

theorem removeAll_eq_none {item : Option Item} (cleared : answer.fault = none ∨ item.isNone) :
    removeAll answer item = none := by
  unfold removeAll
  rcases cleared with faultless | absent
  · rw [faultless]
    rfl
  · rw [Option.isNone_iff_eq_none.mp absent]
    split_ifs <;> rfl

/-- A call that runs on its own, all of its operations riskless, gets through its phases as
intended. -/
theorem advance_proceeds (phased : call.Phased host shelf) (running : call.running = true)
    (riskless : call.Riskless host shelf answer) :
    Proceeds host call (call.advance host shelf answer) := by
  rcases call with ⟨request, phase, _⟩
  unfold advance
  cases phase with
  | preparing =>
    dsimp only
    split
    · exact ⟨phased, rfl, fun _ => rfl⟩
    · exact .of_running phased rfl rfl
  | clearingArchive | discarding | droppingBackup =>
    exact .of_running phased rfl rfl
  | clearingStage =>
    exact .of_running ⟨phased, removeAll_eq_none riskless⟩ rfl rfl
  | requesting =>
    dsimp only
    split
    · exact retry_proceeds phased.1 phased.2 _ _
    · exact .of_running phased rfl rfl
  | opening =>
    dsimp only
    split
    · exact retry_proceeds phased.1 phased.2 _ _
    · exact openPart_proceeds phased.1 phased.2
  | receiving =>
    exact receive_proceeds rfl phased.1 phased.2.1 phased.2.2
  | abandoning =>
    refine retry_proceeds ?_ ?_ _ _
    · exact phased.1
    · exact phased.2
  | finalizing =>
    rcases phased with ⟨kept, bare, part, written⟩
    dsimp only
    rw [part]
    split
    · rename_i number _ same
      cases same
      refine .of_running ⟨kept, bare, ?_⟩ rfl rfl
      exact congrArg some written
    · exact .of_running ⟨kept, bare⟩ rfl rfl
  | verifying =>
    exact verify_proceeds phased.1 phased.2.1 phased.2.2
  | staging =>
    exact makeStage_proceeds phased.1 phased.2.1 phased.2.2.1 phased.2.2.2
  | reading =>
    exact readArchive_proceeds phased.1 phased.2.1 phased.2.2.1 phased.2.2.2
  | extracting =>
    rcases phased with ⟨kept, content, staged, resumes⟩
    apply extract_proceeds rfl kept staged resumes
    cases kind : host.kind with
    | runtime => exact resumes.riskless staged kind
    | node => exact riskless kind
  | validating =>
    dsimp only
    split_ifs
    · exact .of_running phased rfl rfl
    · exact .of_running phased.1 rfl rfl
  | clearingBackup =>
    refine .of_running ⟨phased.1, phased.2, ?_⟩ rfl rfl
    rcases riskless with faultless | absent | directory
    · exact .inl (removeAll_eq_none (.inl faultless))
    · exact .inl (removeAll_eq_none (.inr absent))
    · exact .inr directory
  | inspecting =>
    dsimp only
    split_ifs
    · exact .of_running phased rfl rfl
    · exact .of_running ⟨phased.2.1, .inl ⟨phased.1, phased.2.2⟩⟩ rfl rfl
  | preserving =>
    exact preserve_proceeds phased.1 phased.2.1 phased.2.2
  | activating =>
    exact activate_proceeds phased.1 phased.2
  | probing =>
    exact probing_proceeds phased riskless
  | restoring =>
    exact restoring_proceeds phased riskless
  | stamping =>
    exact .of_running (stamp_installed phased) rfl rfl
  | closing result =>
    cases result with
    | none | some => exact ⟨phased, rfl, fun _ => rfl⟩
  | returned => cases running

/-- What is said about a call that has returned does not depend on the directory. -/
theorem Phased.of_ended {other : Shelf} (phased : call.Phased host shelf)
    (ended : call.running = false) : call.Phased host other := by
  unfold running at ended
  unfold Phased at phased ⊢
  split at ended
  · rename_i result returned
    rw [returned] at phased ⊢
    cases result <;> exact phased
  · cases ended

/-- What a call that has returned has left. -/
theorem left_of_ended (phased : call.Phased host shelf) (ended : call.running = false) :
    Installed host call.received call.left ∨ call.left = call.found := by
  unfold running at ended
  unfold Phased at phased
  split at ended
  · rename_i result returned
    rw [returned] at phased
    cases result with
    | none => exact .inl phased
    | some => exact .inr phased
  · cases ended

theorem meet_of_ended (ended : call.running = false) : call.meet = call := by
  unfold meet
  rw [ended]
  rfl

theorem start_phased (request : UpgradeRequest) (alone : Bool) (shelf : Shelf) :
    (start request alone shelf.target).Phased host shelf := by
  unfold start
  split_ifs <;> rfl

theorem found_start (request : UpgradeRequest) (alone : Bool) (target : Option Item) :
    (start request alone target).found = target := by
  unfold start
  split_ifs <;> rfl

end UpgradeCall

/-! ## Runs -/

namespace Upgrades

variable {host : UpgradeHost} {initial : Option Item} {state after : Upgrades}

/-- The content is the first one, or that of the archive of a call that returned. -/
def Held (host : UpgradeHost) (initial : Option Item) (calls : List UpgradeCall)
    (item : Option Item) : Prop :=
  item = initial ∨ ∃ call ∈ calls, call.running = false ∧ Installed host call.received item

variable {item : Option Item}

theorem Held.mono {calls more : List UpgradeCall} (held : Held host initial calls item)
    (kept : ∀ call ∈ calls, call.running = false → call ∈ more) : Held host initial more item := by
  rcases held with first | ⟨call, member, ended, installed⟩
  · exact .inl first
  · exact .inr ⟨call, kept call member ended, ended, installed⟩

/-- What holds of the calls when they do not overlap: all but the last have returned,
and those that failed have left the target as they found it. -/
structure Sound (host : UpgradeHost) (initial : Option Item) (state : Upgrades) : Prop where
  last : ∀ {number : Nat} {call : UpgradeCall}, state.calls[number]? = some call →
    call.running = true → number + 1 = state.calls.length
  phased : ∀ call ∈ state.calls, call.Phased host state.shelf
  found : ∀ call ∈ state.calls, call.running = true → Held host initial state.calls call.found
  target : state.busy = false → Held host initial state.calls state.shelf.target

theorem busy_eq_false_iff : state.busy = false ↔ ∀ call ∈ state.calls, call.running = false := by
  simp [busy]

theorem sound_start (shelf : Shelf) : Sound host shelf.target ⟨shelf, []⟩ where
  last := by
    rintro _ _ ⟨⟩
  phased := by
    rintro _ ⟨⟩
  found := by
    rintro _ ⟨⟩
  target := fun _ => .inl rfl

section UpgradeSteps

variable (sound : Sound host initial state)

include sound

/-- A call begins when all others have returned. -/
theorem Sound.begin (idle : state.busy = false) (request : UpgradeRequest) : Sound host initial
      { state with
        calls := state.calls.map UpgradeCall.meet ++
          [start request (!state.busy) state.shelf.target] } := by
  have ended := busy_eq_false_iff.mp idle
  have unmet : state.calls.map meet = state.calls := by
    calc
      state.calls.map meet = state.calls.map id :=
        map_congr_left fun call member => meet_of_ended (ended call member)
      _ = state.calls := map_id _
  rw [unmet]
  have held : Held host initial (state.calls ++
      [start request (!state.busy) state.shelf.target]) state.shelf.target :=
    (sound.target idle).mono fun call member _ => mem_append_left _ member
  constructor
  · intro number call present running
    rcases getElem?_concat_eq_some_iff.mp present with old | ⟨newest, _⟩
    · rw [ended call (mem_of_getElem? old)] at running
      cases running
    · rw [newest, length_append]
      rfl
  · exact forall_mem_append.mpr ⟨sound.phased, forall_mem_singleton.mpr (start_phased request _ _)⟩
  · intro call member running
    rcases mem_append.mp member with old | new
    · rw [ended call old] at running
      cases running
    · cases mem_singleton.mp new
      rw [found_start]
      exact held
  · intro _
    exact held

/-- The last call takes its next operation. -/
theorem Sound.advance {number : Nat} {answer : Answer}
    {call : UpgradeCall} (present : state.calls[number]? = some call)
    (running : call.running = true) (riskless : call.Riskless host state.shelf answer) :
    Sound host initial
      { shelf := (call.advance host state.shelf answer).1
        calls := state.calls.set number (call.advance host state.shelf answer).2 } := by
  have member := mem_of_getElem? present
  have proceeds := advance_proceeds (sound.phased call member) running riskless
  generalize call.advance host state.shelf answer = result at proceeds ⊢
  have length := sound.last present running
  -- All other calls have returned.
  have ended : ∀ {other : Nat} {previous : UpgradeCall}, number ≠ other →
      state.calls[other]? = some previous → previous.running = false := by
    intro other previous different old
    apply eq_false_of_ne_true
    intro unfinished
    have same := sound.last old unfinished
    omega
  have kept : ∀ previous ∈ state.calls, previous.running = false →
      previous ∈ state.calls.set number result.2 := by
    intro previous old finished
    apply mem_set_of_ne old present
    rintro rfl
    rw [finished] at running
    cases running
  have held : Held host initial (state.calls.set number result.2) result.2.found := by
    rw [proceeds.found]
    exact (sound.found call member running).mono kept
  constructor
  · intro other previous there unfinished
    rw [length_set]
    rcases of_getElem?_set_eq_some there with ⟨same, _⟩ | ⟨different, old⟩
    · rw [← same]
      exact length
    · rw [ended different old] at unfinished
      cases unfinished
  · intro previous old
    rcases getElem?_of_mem old with ⟨other, there⟩
    rcases of_getElem?_set_eq_some there with ⟨_, rfl⟩ | ⟨different, before⟩
    · exact proceeds.phased
    · exact (sound.phased previous (mem_of_getElem? before)).of_ended (ended different before)
  · intro previous old unfinished
    rcases getElem?_of_mem old with ⟨other, there⟩
    rcases of_getElem?_set_eq_some there with ⟨_, rfl⟩ | ⟨different, before⟩
    · exact held
    · rw [ended different before] at unfinished
      cases unfinished
  · intro idle
    have bound : number < state.calls.length := (List.getElem?_eq_some_iff.mp present).1
    have inside : result.2 ∈ state.calls.set number result.2 := mem_set bound _
    have finished := busy_eq_false_iff.mp idle result.2 inside
    rw [← proceeds.left finished]
    rcases left_of_ended proceeds.phased finished with installed | same
    · exact .inr ⟨result.2, inside, finished, installed⟩
    · rw [same]
      exact held

theorem Sound.step {event : UpgradeEvent}
    (alone : RisklessAlone host state event) (stepped : step host state event = some after) :
    Sound host initial after := by
  cases event with
  | begin request =>
    cases stepped
    exact sound.begin alone request
  | advance =>
    rcases Option.bind_eq_some_iff.mp stepped with ⟨call, present, moved⟩
    rcases guarded_eq_some_iff.mp moved with ⟨running, rfl⟩
    exact sound.advance present running (alone call present)

theorem Sound.atomic : Atomic host initial state where
  whole := by
    intro idle
    rcases sound.target idle with first | ⟨call, member, _, installed⟩
    · rw [first]
      exact .inl (.refl _)
    · exact .inr ⟨call, member, installed⟩
  unchanged := by
    intro call member error returned _
    have phased := sound.phased call member
    unfold UpgradeCall.Phased at phased
    rw [returned] at phased
    have same : call.left = call.found := phased
    rw [same]
    exact .refl _

end UpgradeSteps

/-- As long as calls do not overlap and their operations are riskless, upgrades are atomic. -/
theorem upgrades_atomic {shelf : Shelf}
    (reached : Reaches (step host) (RisklessAlone host) ⟨shelf, []⟩ state) :
    Atomic host shelf.target state := by
  have sound : Sound host shelf.target state := by
    apply reached.invariant (sound_start shelf)
    intro _ _ _ _ sound alone stepped
    exact sound.step alone stepped
  exact sound.atomic

/-! ## Two archives -/

/-- What is at a path of a directory. -/
def lookIn (item : Option Item) (place : List String) : Option (Files.Entry String String) :=
  match item with
  | some (.folder content) => content.lookup place
  | _ => none

/-- A runtime archive with one more file. -/
def sampleArchive (name : String) : List TarHeader :=
  [{ name := "runtime/dist/cli.js", type := .regular, data := name },
    { name := "runtime/" ++ name, type := .regular, data := name }]

/-- Two archives can be downloaded, of one byte each. -/
def sampleHost : UpgradeHost where
  kind := .runtime
  root := ["runtime.new"]
  limit := 10
  decode
    | [1] => (sampleArchive "a", true)
    | [2] => (sampleArchive "b", true)
    | _ => ([], false)
  digest _ := ""

/-- The call takes so many operations, all of which succeed. -/
def advances (number count : Nat) : List UpgradeEvent :=
  List.replicate count (.advance number {})

/-- The call downloads and unpacks an archive. -/
def fetches (number : Nat) (archive : UInt8) : List UpgradeEvent :=
  advances number 2 ++ [.advance number { chunk := [archive], last := true }] ++
    advances number 11

/-- A request for an upgrade. -/
def sampleRequest : UpgradeRequest where
  downloadUrl := "https://host/runtime.tar.gz"
  targetVersion := "20260816-0846"

/-- The two archives have been downloaded, and no call is in progress. -/
def BothReceived (state : Upgrades) : Prop :=
  state.busy = false ∧ state.calls.map UpgradeCall.received = [[1], [2]]
  deriving Decidable

/-- An upgrade succeeds, and a later one fails to activate its archive and is rolled
back. -/
theorem upgrades_atomic_rollback :
    ∃ state, Reaches (step sampleHost) (RisklessAlone sampleHost) ⟨{}, []⟩ state ∧
      (BothReceived state ∧ lookIn state.shelf.target ["a"] = some (.file "a") ∧
        lookIn state.shelf.target ["b"] = none) ∧
      Atomic sampleHost none state := by
  refine exists_reaches_and_of_run
      ([.begin sampleRequest] ++ advances 0 3 ++ fetches 0 1 ++ advances 0 7 ++
        [.begin sampleRequest] ++ advances 1 3 ++ fetches 1 2 ++ advances 1 4 ++
        [.advance 1 { fault := some "input/output error" }] ++ advances 1 3)
      (by decide +kernel) ?_
  intro state reached _
  exact upgrades_atomic reached

/-- What is installed from an archive has no file that the archive does not have. -/
theorem not_installed {archive : Bytes} {name : String}
    (lacks : ((sampleHost.unpack archive).bind (·.lookup [name])) = none)
    (unmarked : [name] ≠ [runtimeReleaseMarker]) (there : (lookIn item [name]).isSome) :
    ¬Installed sampleHost archive item := by
  rintro ⟨content, placed, unpacks, rfl, same⟩
  rw [unpacks] at lacks
  change (placed.lookup [name]).isSome at there
  rw [same [name] (.inr unmarked)] at there
  rw [show content.lookup [name] = none from lacks] at there
  cases there

/-- Both calls unpack into the same staging directory, and the first activates what is
there: the target has the files of both archives. -/
theorem upgrades_mixed : ∃ state, Reaches (step sampleHost) unrestricted ⟨{}, []⟩ state ∧
      ¬Atomic sampleHost none state := by
  refine exists_reaches_imp_of_run (fun state => BothReceived state ∧
        (lookIn state.shelf.target ["a"]).isSome ∧ (lookIn state.shelf.target ["b"]).isSome)
      ([.begin sampleRequest, .begin sampleRequest] ++ advances 0 3 ++ advances 1 3 ++
        fetches 0 1 ++ fetches 1 2 ++ advances 0 7 ++ advances 1 3)
      (by decide +kernel) ?_
  rintro state reached ⟨⟨idle, received⟩, first, second⟩ atomic
  rcases atomic.whole idle with same | ⟨call, member, installed⟩
  · cases held : state.shelf.target with
    | none =>
      rw [held] at first
      cases first
    | some item =>
      rw [held] at same
      cases item <;> cases same
  · have one : call.received ∈ [[1], [2]] := by
      rw [← received]
      exact mem_map_of_mem member
    rcases mem_pair.mp one with archive | archive <;> rw [archive] at installed
    · exact not_installed (by decide +kernel) (by decide) second installed
    · exact not_installed (by decide +kernel) (by decide) first installed

end Upgrades

end LubricantNodes.Agent
