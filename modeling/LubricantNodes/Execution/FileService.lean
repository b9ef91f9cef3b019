import LubricantNodes.Execution.Resources
import LubricantNodes.Files.Links

/-!
# The file service

A session serves its workspace over HTTP.  Request paths are guarded as texts, while
the operations follow symbolic links.

An archive leaves out `.agent-compose` below the directory that is asked for.  That is
where editors keep their state only if the workspace root is asked for: the archive of
a directory inside `.agent-compose` has its content.
-/

namespace LubricantNodes.Execution

open Files Go List

/-- Why a request is refused. -/
inductive ServiceError
  | escapes (reqPath : String)
  | notFound
  | notDirectory
  deriving DecidableEq

/-- The status of the answer. -/
def ServiceError.status : ServiceError → Nat
  | escapes _ => 403
  | notFound => 404
  | notDirectory => 400

/-- The text of the answer; `quote` is the `%q` verb, and `cause` the error of the
system. -/
def ServiceError.text (quote : String → String) (cause : String) : ServiceError → String
  | escapes reqPath => "path " ++ quote reqPath ++ " escapes the session workspace"
  | notFound => cause
  | notDirectory => "archive path must be a directory"

/-- A request path with its backslashes turned into slashes. -/
def slashed (reqPath : String) : String :=
  String.ofList (reqPath.toList.map fun rune => if rune = '\\' then '/' else rune)

/-- `resolve`. -/
def resolve (root : List String) (reqPath : String) : Except ServiceError (List String) :=
  let normalized := slashed reqPath
  if ".." ∈ segments normalized then .error (.escapes reqPath)
  else
    let rooted := if hasPrefix normalized "/" then normalized else "/" ++ normalized
    let abs := joinName root (clean rooted)
    if root <+: abs then .ok abs else .error (.escapes reqPath)

/-! ## Request paths -/

/-- The path that `handleDelete` removes; the root is refused. -/
def handleDelete (root abs : List String) : Option (List String) :=
  if abs = root then none else some abs

theorem joinName_clean {root : List String} {path : String} (inward : ".." ∉ segments path) :
    joinName root (clean (if hasPrefix path "/" then path else "/" ++ path)) =
      root ++ kept (segments path) := by
  split_ifs with absolute
  · obtain ⟨rest, shape⟩ := List.isPrefixOf_iff_prefix.mp absolute
    obtain rfl : "/" ++ String.ofList rest = path := by
      simpa using congrArg String.ofList shape
    rw [segments_slash] at inward ⊢
    rw [joinName, foldl_segments_clean (by simpa using inward)]
    simp [kept]
  · rw [joinName, foldl_segments_clean inward]
    simp

theorem resolve_eq (root : List String) (reqPath : String) :
    resolve root reqPath = if ".." ∈ segments (slashed reqPath) then .error (.escapes reqPath)
      else .ok (root ++ kept (segments (slashed reqPath))) := by
  rw [resolve]
  by_cases upwards : ".." ∈ segments (slashed reqPath)
  · rw [if_pos upwards, if_pos upwards]
  · rw [if_neg upwards, if_neg upwards]
    dsimp only
    rw [joinName_clean upwards, if_pos (List.prefix_append _ _)]

/-- The directory with the state of editors. -/
def editorState : String := ".agent-compose"

section Archive

variable (limit : Nat) (root : List String) (tree : Tree String String)

variable (path : String) (readable : List String → Bool) (start place : List String)

/-- The directory that an archive is asked for. -/
def archiveRoot : Except ServiceError (List String) :=
  if trimSpace path = "" then .ok root else resolve root (trimSpace path)

/-- `filepath.WalkDir` comes from the start to the place, with the callback of
`handleArchive`: the way leads through directories, and not through the one that the
callback skips. -/
def Walked : Prop :=
  Tree.Below start place ∧ ¬start ++ [editorState] <+: place ∧
    ∀ middle ∈ place.inits, Tree.Below start middle → middle ≠ place →
      tree.lookup middle = some .dir

instance : Decidable (Walked tree start place) :=
  inferInstanceAs (Decidable ((_ ∧ _) ∧ _ ∧ ∀ middle ∈ place.inits, (_ ∧ _) → _))

/-- The places that are archived from a directory, if they can be read. -/
def archived : List (List String) :=
  (tree.entries.map Prod.fst).dedup.filter fun place =>
    Walked tree start place && readable place

/-- What `handleArchive` streams from a directory, as places; a link is not walked. -/
def streamed : List (List String) :=
  match tree.locate false limit start with
  | none => []
  | some place =>
    if place = [] ∨ tree.lookup place = some .dir then archived tree readable place else []

/-- `handleArchive`. -/
def handleArchive : Except ServiceError (List (List String)) :=
  match archiveRoot root path with
  | .error error => .error error
  | .ok start =>
    match tree.stat limit (fun _ => false) start with
    | none => .error .notFound
    | some false => .error .notDirectory
    | some true => .ok (streamed limit tree readable start)

/-- Whatever can be read, nothing of the editor state is archived. -/
def ExcludesEditorState : Prop :=
  ∀ readable places, handleArchive limit root tree path readable = .ok places →
    ∀ place ∈ places, ¬root ++ [editorState] <+: place

/-- The directory that is walked for a path. -/
def Streams : Prop :=
  ∃ start, archiveRoot root path = .ok start ∧
    tree.stat limit (fun _ => false) start = some true ∧
      tree.locate false limit start = some place ∧ (place = [] ∨ tree.lookup place = some .dir)

/-- A start among the editor state has no entries but one that is skipped, and one above
the workspace does not lead to the editor state. -/
structure Harmless (place : List String) : Prop where
  inside : root ++ [editorState] <+: place → ∀ name, (tree.lookup (place ++ [name])).isSome →
    name = editorState
  above : place <+: root → place ≠ root → (tree.lookup (root ++ [editorState])).isSome →
    place ++ [editorState] <+: root

end Archive

section Walk

variable {limit : Nat} {root start place : List String} {tree : Tree String String}
  {readable : List String → Bool}

theorem mem_archived_iff : place ∈ archived tree readable start ↔
    place ∈ tree.entries.map Prod.fst ∧ Walked tree start place ∧ readable place = true := by
  simp [archived]

theorem mem_entries_iff : place ∈ tree.entries.map Prod.fst ↔ (tree.lookup place).isSome := by
  unfold Tree.lookup
  rw [lookup_isSome_iff]
  simp

/-- All that a walk comes through exists. -/
theorem Walked.exists_of_below (walked : Walked tree start place)
    (present : (tree.lookup place).isSome) {middle : List String}
    (below : Tree.Below start middle) (part : middle <+: place) :
    (tree.lookup middle).isSome := by
  by_cases last : middle = place
  · rw [last]
    exact present
  · rw [walked.2.2 middle ((mem_inits ..).mpr part) below last]
    rfl

theorem below_concat (start : List String) (name : String) : Tree.Below start (start ++ [name]) :=
  ⟨prefix_append _ _, by simp⟩

/-- A harmless start leads to nothing of the editor state. -/
theorem Harmless.excludes (harmless : Harmless root tree start)
    (walked : Walked tree start place) (present : (tree.lookup place).isSome) :
    ¬root ++ [editorState] <+: place := by
  intro among
  have within : ¬root ++ [editorState] <+: start := by
    intro inner
    rcases walked.1 with ⟨⟨rest, rfl⟩, deeper⟩
    cases rest with
    | nil => exact deeper (append_nil _)
    | cons name more =>
      have part : start ++ [name] <+: start ++ name :: more := by simp
      have found := walked.exists_of_below present (below_concat start name) part
      cases harmless.inside inner name found
      exact walked.2.1 part
  rcases prefix_or_prefix_of_prefix walked.1.1 among with outer | inner
  · rcases prefix_concat_iff.mp outer with rfl | above
    · exact within (prefix_refl _)
    · by_cases same : start = root
      · subst same
        exact walked.2.1 among
      · have below : Tree.Below start (root ++ [editorState]) := by
          refine ⟨outer, ?_⟩
          rintro rfl
          exact within (prefix_refl _)
        have leads := harmless.above above same (walked.exists_of_below present below among)
        exact walked.2.1 ((leads.trans (prefix_append _ _)).trans among)
  · exact within inner

theorem harmless_of_excludes (anchored : tree.Anchored root)
    (excludes : ∀ place ∈ archived tree (fun _ => true) start, ¬root ++ [editorState] <+: place) :
    Harmless root tree start where
  inside := by
    intro inner name present
    by_contra other
    refine excludes (start ++ [name]) (mem_archived_iff.mpr ⟨mem_entries_iff.mpr present, ?_, rfl⟩)
      (inner.trans (prefix_append _ _))
    refine ⟨below_concat start name, ?_, ?_⟩
    · intro skipped
      have named := (prefix_append_right_inj start).mp skipped
      exact other (cons_prefix_cons.mp named).1.symm
    · intro middle member below different
      rcases prefix_concat_iff.mp ((mem_inits ..).mp member) with same | shorter
      · exact absurd same different
      · exact absurd (shorter.eq_of_length_le below.1.length_le) below.2
  above := by
    intro outer different present
    by_contra apart
    refine excludes (root ++ [editorState])
      (mem_archived_iff.mpr ⟨mem_entries_iff.mpr present, ?_, rfl⟩) (prefix_refl _)
    refine ⟨⟨outer.trans (prefix_append _ _), ?_⟩, ?_, ?_⟩
    · rintro rfl
      exact absurd outer.length_le (by simp)
    · intro skipped
      rcases prefix_concat_iff.mp skipped with same | inside
      · exact different (append_cancel_right same)
      · exact apart inside
    · intro middle member below last
      rcases prefix_concat_iff.mp ((mem_inits ..).mp member) with same | inside
      · exact absurd same last
      · apply anchored middle inside
        rintro rfl
        exact below.2 (prefix_nil.mp below.1).symm

/-- The archive has nothing of the editor state if and only if the directory that is
walked is neither among it nor above the workspace, or has nothing to show of it. -/
theorem archive_excludes_editorState_iff (path : String) (anchored : tree.Anchored root) :
    ExcludesEditorState limit root tree path ↔
      ∀ start, Streams limit root tree path start → Harmless root tree start := by
  constructor
  · rintro excludes start ⟨named, asked, isDir, located, walkable⟩
    apply harmless_of_excludes anchored
    refine excludes (fun _ => true) _ ?_
    unfold handleArchive
    rw [asked]
    dsimp only
    rw [isDir]
    unfold streamed
    rw [located]
    exact congrArg Except.ok (if_pos walkable)
  · intro harmless readable places answered place member
    unfold handleArchive at answered
    split at answered
    · cases answered
    rename_i named asked
    split at answered
    · cases answered
    · cases answered
    rename_i isDir
    cases answered
    unfold streamed at member
    split at member
    · cases member
    rename_i start located
    split_ifs at member with walkable
    · rcases mem_archived_iff.mp member with ⟨listed, walked, _⟩
      have streams : Streams limit root tree path start :=
        ⟨named, asked, isDir, located, walkable⟩
      exact (harmless start streams).excludes walked (mem_entries_iff.mp listed)
    · cases member

end Walk

/-! ## Samples -/

/-- A workspace with one file besides the editor state. -/
def workspaceTree : Tree String String where
  entries := [(["w"], .dir), (["w", ".agent-compose"], .dir),
    (["w", ".agent-compose", "state"], .file "s"), (["w", "result"], .file "r")]

theorem anchored_workspaceTree : workspaceTree.Anchored ["w"] := by
  intro above inside nonempty
  rcases prefix_cons_iff.mp inside with rfl | ⟨rest, rfl, shorter⟩
  · cases nonempty rfl
  · rw [prefix_nil.mp shorter]
    rfl

/-- The archive of the workspace root. -/
theorem archive_excludes_editorState_root :
    handleArchive 40 ["w"] workspaceTree " / " (fun _ => true) = .ok [["w", "result"]] ∧
      ExcludesEditorState 40 ["w"] workspaceTree " / " := by
  refine ⟨by decide +kernel, ?_⟩
  apply (archive_excludes_editorState_iff " / " anchored_workspaceTree).mpr
  rintro start ⟨named, asked, _, located, _⟩
  have root : archiveRoot ["w"] " / " = .ok ["w"] := by decide +kernel
  cases root.symm.trans asked
  have itself : workspaceTree.locate false 40 ["w"] = some ["w"] := by decide +kernel
  cases itself.symm.trans located
  constructor
  · intro among
    exact absurd among.length_le (by decide)
  · intro _ different
    cases different rfl

/-- The archive of `.agent-compose` has what is in it. -/
theorem archive_has_editorState :
    ¬ExcludesEditorState 40 ["w"] workspaceTree ".agent-compose" := by
  intro excludes
  have streams : handleArchive 40 ["w"] workspaceTree ".agent-compose" (fun _ => true) =
      .ok [["w", ".agent-compose", "state"]] := by decide +kernel
  exact excludes _ _ streams _ mem_cons_self (by decide)

end LubricantNodes.Execution
