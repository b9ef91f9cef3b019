import LubricantNodes.Execution.Resources
import LubricantNodes.Files.Links

/-!
# Unpacking archives

The node unpacks four kinds of tar archives: build sources, Node.js releases,
its own runtime and resources of editors.  The extractors differ in the names and
entry types that they accept; what they do for an accepted entry is the same.

All guards look at the text of an entry's name.  The extractors that keep
symbolic links can therefore be led out of the destination by an entry that lies
behind a link of an earlier one.
-/

namespace LubricantNodes.Agent

open Files Go Transition List Tree
open Execution (TarEntry TarType joinName)

/-! ## Entries -/

/-- The entry types that an extractor tells apart. -/
inductive HeaderType
  | dir
  | regular
  | symlink
  /-- A hard link. -/
  | link
  | other (flag : Nat)
  deriving DecidableEq

/-- `tar.Header` with the data of the entry. -/
structure TarHeader where
  name : String
  type : HeaderType
  linkname : String := ""
  data : String := ""
  deriving DecidableEq

/-- Why an entry is refused. -/
inductive ArchiveError
  | escapesDestination (name : String)
  | escapesStage (name : String)
  | unexpectedSymlink (name linkname : String)
  | unsupportedType (flag : Nat) (name : String)
  | notUnderRuntime (name : String)
  | escapesInstall (name : String)
  | linksNotAllowed (name : String)
  | absolutePath (name : String)
  | escapesDest (name : String)
  | containsSymlink (name linkname : String)
  deriving DecidableEq

/-- The text of an error; `quote` is the `%q` verb. -/
def ArchiveError.text (quote : String → String) : ArchiveError → String
  | escapesDestination name => "archive: entry escapes destination: " ++ name
  | escapesStage name => "host-tool: archive entry escapes stage dir: " ++ name
  | unexpectedSymlink name linkname =>
    "host-tool: unexpected symlink " ++ quote name ++ " -> " ++ quote linkname
  | unsupportedType flag name =>
    "host-tool: unsupported archive entry type " ++ toString flag ++ ": " ++ name
  | notUnderRuntime name => "runtime-upgrade: archive entry must be under runtime/: " ++ name
  | escapesInstall name => "runtime-upgrade: archive entry escapes install dir: " ++ name
  | linksNotAllowed name =>
    "runtime-upgrade: links are not allowed in runtime archives: " ++ name
  | absolutePath name => "archive entry has absolute path (refused): " ++ name
  | escapesDest name => "archive entry escapes dest: " ++ name
  | containsSymlink name linkname =>
    "archive contains symlink (refused): " ++ name ++ " -> " ++ linkname

/-- What is to be done for an entry. -/
inductive Plan
  | refuse (error : ArchiveError)
  | skip
  | dir (path : List String)
  | file (path : List String) (data : String)
  | link (path : List String) (linkname : String)
  deriving DecidableEq

/-- The steps of a link's target. -/
def linkMoves (linkname : String) : List (Move String) :=
  (segments linkname).filterMap fun segment =>
    if segment = "" ∨ segment = "." then none
    else if segment = ".." then some .up else some (.down segment)

/-- `strings.TrimPrefix`. -/
def trimPrefix (text part : String) : String :=
  if hasPrefix text part then String.ofList (text.toList.drop part.toList.length) else text

/-! ## The extractors -/

variable (root : List String) (header : TarHeader)

/-- `safeJoin`. -/
def safeJoin (name : String) : Except ArchiveError (List String) :=
  let cleaned := clean name
  if cleaned = "." then .ok root
  else if isAbs cleaned ∨ hasPrefix cleaned ".." then
    .error (.escapesDestination name)
  else
    let target := joinName root cleaned
    if root <+: target then .ok target
    else .error (.escapesDestination name)

/-- One entry of `extractTarGz`, for build sources. -/
def extractSourceEntry : Plan :=
  match safeJoin root header.name with
  | .error error => .refuse error
  | .ok target =>
    match header.type with
    | .dir => .dir target
    | .regular => .file target header.data
    | .symlink =>
      if header.linkname = "" ∨ isAbs header.linkname then .skip
      else .link target header.linkname
    | .link => .skip
    | .other _ => .skip

/-- The entry of a Node.js release at a path relative to the stripped directory. -/
def placeNodeEntry (rel : String) (header : TarHeader) : Plan :=
  let dest := joinName root rel
  if rel = "" then .skip
  else if ¬root <+: dest then .refuse (.escapesStage header.name)
  else
    match header.type with
    | .dir => .dir dest
    | .regular => .file dest header.data
    | .symlink =>
      if header.linkname = "" ∨ isAbs header.linkname then
        .refuse (.unexpectedSymlink header.name header.linkname)
      else .link dest header.linkname
    | .link => .refuse (.unsupportedType 49 header.name)
    | .other flag => .refuse (.unsupportedType flag header.name)

/-- One entry of `extractNodeTarGz`, with the top-level directory to strip, which
the first entry decides. -/
def extractNodeEntry (strip : String) (header : TarHeader) : Plan × String :=
  let name := clean header.name
  if name = "." ∨ hasPrefix name ".." then (.refuse (.escapesStage header.name), strip)
  else if strip = "" ∧ header.type = .dir then (.skip, name)
  else
    let strip := if strip = "" then "." else strip
    (placeNodeEntry root (trimPrefix (trimPrefix name strip) "/") header, strip)

/-- `runtimeDirName`. -/
def runtimeDirName : String := "runtime"

/-- One entry of `extractRuntimeArchive`. -/
def extractRuntimeEntry : Plan :=
  match segments (clean header.name) with
  | [] => .refuse (.notUnderRuntime header.name)
  | first :: rest =>
    if first ≠ runtimeDirName then
      .refuse (.notUnderRuntime header.name)
    else
      let dest := joinName root (join rest)
      if ¬root <+: dest then
        .refuse (.escapesInstall header.name)
      else
        match header.type with
        | .dir => .dir dest
        | .regular => .file dest header.data
        | .symlink => .refuse (.linksNotAllowed header.name)
        | .link => .refuse (.linksNotAllowed header.name)
        | .other _ => .skip

/-- One entry of `extractTarGz`, for resources. -/
def extractResourceEntry (dest : List String) (header : TarHeader) : Plan :=
  if header.name.toList.head? = some '/' ∨ ':' ∈ header.name.toList then
    .refuse (.absolutePath header.name)
  else if ¬dest <+: joinName dest header.name then
    .refuse (.escapesDest header.name)
  else
    match header.type with
    | .dir => .dir (joinName dest header.name)
    | .regular => .file (joinName dest header.name) header.data
    | .symlink => .refuse (.containsSymlink header.name header.linkname)
    | .link => .skip
    | .other _ => .skip

/-- The four extractors. -/
inductive Extractor
  | source
  | node
  | runtime
  | resource
  deriving DecidableEq

/-- The plan for an entry, and the directory to strip from later ones. -/
def Extractor.plan (strip : String) (header : TarHeader) :
    Extractor → Plan × String
  | source => (extractSourceEntry root header, strip)
  | node => extractNodeEntry root strip header
  | runtime => (extractRuntimeEntry root header, strip)
  | resource => (extractResourceEntry root header, strip)

/-- The extractor keeps symbolic links. -/
def Extractor.keepsLinks : Extractor → Bool
  | source => true
  | node => true
  | runtime => false
  | resource => false

/-! ## Carrying out a plan -/

/-- What the outside decides about one entry: the calls that fail, and what a
copy that is cut short has written. -/
structure Weather where
  refused : Tree.Call String → Bool := fun _ => false
  cut : Option String := none

/-- The calls for an entry; the result says whether the extraction goes on. -/
def Plan.carryOut (limit : Nat) (weather : Weather) (tree : Tree String String) :
    Plan → Tree String String × Bool
  | refuse _ => (tree, false)
  | skip => (tree, true)
  | dir path => tree.mkdirAll limit weather.refused path
  | file path data =>
    let parent := tree.mkdirAll limit weather.refused path.dropLast
    if parent.2 then
      match parent.1.create limit weather.refused path (weather.cut.getD data) with
      | some written => (written, weather.cut.isNone)
      | none => (parent.1, false)
    else parent
  | link path linkname =>
    let parent := tree.mkdirAll limit weather.refused path.dropLast
    if parent.2 then
      let removed := (parent.1.remove limit weather.refused path).getD parent.1
      ((removed.symlink limit weather.refused path (isAbs linkname) (linkMoves linkname)).getD
        removed, true)
    else parent

/-- An extraction under way. -/
structure Extraction where
  tree : Tree String String
  /-- The directory to strip. -/
  strip : String := ""
  /-- An entry was refused or a call failed. -/
  stopped : Bool := false

namespace Extraction

variable (extractor : Extractor) (limit : Nat) (dest : List String)

/-- The loop over the entries takes the next one. -/
def step : Step Extraction (TarHeader × Weather)
  | extraction, (header, weather) =>
    let plan := extractor.plan dest extraction.strip header
    let result := plan.1.carryOut limit weather extraction.tree
    guarded (extraction.stopped = false)
      { tree := result.1, strip := plan.2, stopped := !result.2 }

end Extraction

/-! ## Resources -/

/-- The entry as the extractor of resources sees it. -/
def TarHeader.entry : TarEntry where
  name := header.name
  type :=
    match header.type with
    | .dir => .dir
    | .regular => .regular
    | .symlink => .symlink
    | .link => .other
    | .other _ => .other
  linkname := header.linkname
  data := header.data

/-- The file program of a plan; there is none that makes a link. -/
def Plan.program : Plan → Option (Execution.FileM Unit)
  | refuse error => some (.fail { text := error.text id })
  | skip => some (pure ())
  | dir path => some (Prog.mkdirAll (Execution.failed "") path)
  | file path data =>
    some do
      Prog.mkdirAll (Execution.failed "") path.dropLast
      Prog.writeFile (Execution.failed "") path (.text data)
  | link _ _ => none

/-- The extractor of resources is the one whose file program is known. -/
theorem extractEntry_eq_program (dest : List String) (header : TarHeader) :
    (extractResourceEntry dest header).program =
      some (Execution.extractEntry dest header.entry) := by
  rcases header with ⟨name, type, linkname, data⟩
  unfold Execution.extractEntry extractResourceEntry TarHeader.entry
  split_ifs
  · rfl
  · cases type <;> rfl
  · rfl

/-! ## Confinement -/

/-- A fresh directory: it and all above it are directories, and it is empty. -/
structure Fresh (dest : List String) (tree : Tree String String) : Prop where
  anchored : tree.Anchored dest
  empty : ∀ place, Tree.Below dest place → tree.lookup place = none

/-- Everything outside the destination is as it was. -/
def Spared (dest : List String) (before after : Tree String String) : Prop :=
  ∀ place, ¬dest <+: place → after.lookup place = before.lookup place

namespace Plan

/-- The plan is for a path from the destination on. -/
def Inside (dest : List String) : Plan → Prop
  | refuse _ => True
  | skip => True
  | dir path => dest <+: path
  | file path _ => dest <+: path
  | link path _ => dest <+: path

/-- No link lies on the path of the plan, and a link does not replace the
destination itself. -/
def Direct (dest : List String) (tree : Tree String String) : Plan → Prop
  | refuse _ => True
  | skip => True
  | dir path => tree.Direct true path
  | file path _ => tree.Direct true path
  | link path _ => tree.Direct false path ∧ path ≠ dest

instance (dest : List String) (tree : Tree String String) (plan : Plan) :
    Decidable (plan.Direct dest tree) := by
  unfold Direct
  split <;> infer_instance

/-- The plan makes a link. -/
def isLink : Plan → Bool
  | link _ _ => true
  | _ => false

end Plan

theorem prefix_of_safeJoin {root target : List String} {name : String}
    (joined : safeJoin root name = .ok target) : root <+: target := by
  unfold safeJoin at joined
  dsimp only at joined
  split_ifs at joined with here outside inside <;> cases joined
  · exact prefix_refl _
  · exact inside

theorem placeNodeEntry_inside (rel : String) (header : TarHeader) :
    (placeNodeEntry root rel header).Inside root := by
  rcases header with ⟨name, type, linkname, data⟩
  unfold placeNodeEntry
  dsimp only
  split
  · exact True.intro
  split
  · exact True.intro
  rename_i inside
  have within := not_not.mp inside
  cases type with
  | symlink =>
    dsimp only
    split
    · exact True.intro
    · exact within
  | dir | regular => exact within
  | link | other => exact True.intro

/-- The guards of all extractors keep the text of a path inside. -/
theorem Extractor.plan_inside (extractor : Extractor) (dest : List String) (strip : String)
    (header : TarHeader) : (extractor.plan dest strip header).1.Inside dest := by
  rcases header with ⟨name, type, linkname, data⟩
  cases extractor with
  | source =>
    unfold plan extractSourceEntry
    dsimp only
    split
    · trivial
    rename_i target joined
    have inside := prefix_of_safeJoin joined
    cases type with
    | symlink =>
      split_ifs
      · trivial
      · exact inside
    | dir | regular => exact inside
    | link | other => trivial
  | node =>
    change (extractNodeEntry dest strip ⟨name, type, linkname, data⟩).1.Inside dest
    unfold extractNodeEntry
    dsimp only
    split
    · exact True.intro
    · split
      · exact True.intro
      · apply placeNodeEntry_inside
  | runtime =>
    unfold plan extractRuntimeEntry
    dsimp only
    split
    · trivial
    split_ifs with under inside
    · trivial
    · cases type with
      | symlink | link | other => trivial
      | dir | regular => exact inside
    · trivial
  | resource =>
    unfold plan extractResourceEntry
    split_ifs with absolute inside
    · trivial
    · cases type with
      | symlink | link | other => trivial
      | dir | regular => exact inside
    · trivial

/-- An extractor that keeps no links makes none. -/
theorem Extractor.plan_isLink {extractor : Extractor} (keeps : extractor.keepsLinks = false)
    (dest : List String) (strip : String) (header : TarHeader) :
    (extractor.plan dest strip header).1.isLink = false := by
  rcases header with ⟨name, type, linkname, data⟩
  cases extractor with
  | source | node => cases keeps
  | runtime =>
    unfold plan extractRuntimeEntry
    dsimp only
    split
    · rfl
    · split_ifs
      · rfl
      · cases type <;> rfl
      · rfl
  | resource =>
    unfold plan extractResourceEntry
    split_ifs
    · rfl
    · cases type <;> rfl
    · rfl

namespace Plan

variable {dest : List String} {tree : Tree String String} {limit : Nat} {weather : Weather}
  {plan : Plan}

variable {path : List String}

/-- A file that can be written is not the destination, which is a directory. -/
theorem below_of_create {data : String} {after : Tree String String}
    {refused : Tree.Call String → Bool} (anchored : tree.Anchored dest) (inside : dest <+: path)
    (direct : tree.Direct true path)
    (created : tree.create limit refused path data = some after) : Tree.Below dest path := by
  refine ⟨inside, ?_⟩
  rintro rfl
  unfold create at created
  rw [locate_of_direct direct] at created
  dsimp only [Option.bind_some] at created
  split at created
  · cases created
  split at created
  · cases created
  rename_i inner
  rw [anchored path (prefix_refl path) (ne_nil_of_isBelowDir inner)] at created
  cases created

/-- The directory of a path from the destination on. -/
theorem parent_related (inside : dest <+: path) : path.dropLast <+: dest ∨ dest <+: path.dropLast :=
  prefix_or_prefix_of_prefix (List.dropLast_prefix path) inside

theorem direct_dropLast {whole : Bool} (direct : tree.Direct whole path) :
    tree.Direct true path.dropLast := by
  by_cases empty : path = []
  · subst empty
    intro middle member nonempty
    exact absurd (mem_singleton.mp member) nonempty
  · apply direct.parent (List.dropLast_prefix path)
    intro _ same
    have shorter := congrArg length same
    have positive := length_pos_iff.mpr empty
    rw [length_dropLast] at shorter
    omega

variable (limit weather) in
/-- A plan whose path is direct changes only what is below the destination. -/
theorem carryOut_spec (anchored : tree.Anchored dest) (inside : plan.Inside dest)
    (direct : plan.Direct dest tree) :
    Tree.Confined dest tree (plan.carryOut limit weather tree).1 ∧
      (plan.isLink = false → Tree.LinkFree tree (plan.carryOut limit weather tree).1) := by
  cases plan with
  | refuse | skip => exact ⟨.refl _ _, fun _ => .refl _⟩
  | dir =>
    have made := mkdirAll_spec limit weather.refused anchored (.inr inside) direct
    exact ⟨made.1, fun _ => made.2⟩
  | file =>
    have made := mkdirAll_spec limit weather.refused anchored (parent_related inside)
      (direct_dropLast direct)
    unfold carryOut
    dsimp only
    split_ifs
    · split
      · rename_i written created
        have stillDirect := made.2.direct direct
        have below := below_of_create (anchored.confined made.1) inside stillDirect created
        have wrote := create_spec stillDirect below created
        exact ⟨made.1.trans wrote.1, fun _ => made.2.trans wrote.2⟩
      · exact ⟨made.1, fun _ => made.2⟩
    · exact ⟨made.1, fun _ => made.2⟩
  | link path linkname =>
    rcases direct with ⟨direct, different⟩
    have below : Tree.Below dest path := ⟨inside, different⟩
    have made := mkdirAll_spec limit weather.refused anchored (parent_related inside)
      (direct_dropLast direct)
    refine ⟨?_, fun noLink => by cases noLink⟩
    unfold carryOut
    dsimp only
    split_ifs
    · -- Removing what is in the way and making the link are confined one by one.
      generalize tree.mkdirAll limit weather.refused path.dropLast = parent at made
      have removal : Tree.Confined dest parent.1
            ((parent.1.remove limit weather.refused path).getD parent.1) ∧
          Tree.LinkFree parent.1
            ((parent.1.remove limit weather.refused path).getD parent.1) := by
        cases removed : parent.1.remove limit weather.refused path with
        | none => exact ⟨.refl _ _, .refl _⟩
        | some => exact remove_spec (made.2.direct direct) below removed
      generalize (parent.1.remove limit weather.refused path).getD parent.1 = cleared at removal
      have stillDirect := removal.2.direct (made.2.direct direct)
      have linking : Tree.Confined dest cleared
          ((cleared.symlink limit weather.refused path (isAbs linkname)
            (linkMoves linkname)).getD cleared) := by
        cases linked : cleared.symlink limit weather.refused path (isAbs linkname)
            (linkMoves linkname) with
        | none => exact .refl _ _
        | some after => exact symlink_spec stillDirect below linked
      exact (made.1.trans removal.1).trans linking
    · exact made.1

end Plan

/-! ## Whole extractions -/

namespace Extraction

variable {extractor : Extractor} {limit : Nat} {dest : List String}
  {tree : Tree String String} {extraction next : Extraction}

/-- The condition on each entry. -/
def Unlinked (extractor : Extractor) (dest : List String) :
    Discipline Extraction (TarHeader × Weather)
  | extraction, (header, _) =>
    (extractor.plan dest extraction.strip header).1.Direct dest extraction.tree

instance (extraction : Extraction) (event : TarHeader × Weather) :
    Decidable (Unlinked extractor dest extraction event) :=
  inferInstanceAs (Decidable (Plan.Direct ..))

/-- An entry under the condition changes only what is below the destination. -/
theorem step_spec {event : TarHeader × Weather} (anchored : extraction.tree.Anchored dest)
    (unlinked : Unlinked extractor dest extraction event)
    (taken : step extractor limit dest extraction event = some next) :
    Tree.Confined dest extraction.tree next.tree ∧
      (extractor.keepsLinks = false → Tree.LinkFree extraction.tree next.tree) := by
  rcases event with ⟨header, weather⟩
  rcases guarded_eq_some_iff.mp taken with ⟨-, rfl⟩
  have spec := Plan.carryOut_spec limit weather anchored
    (extractor.plan_inside dest extraction.strip header) unlinked
  exact ⟨spec.1, fun keeps => spec.2 (extractor.plan_isLink keeps dest extraction.strip header)⟩

theorem confined_of_reaches (fresh : Fresh dest tree)
    (reached : Reaches (step extractor limit dest) (Unlinked extractor dest) { tree := tree }
      extraction) : Tree.Confined dest tree extraction.tree := by
  apply reached.invariant (P := fun state => Tree.Confined dest tree state.tree)
  · exact .refl _ _
  · intro state event next _ confined unlinked taken
    exact confined.trans (step_spec (fresh.anchored.confined confined) unlinked taken).1

theorem above_of_not_below {middle path : List String} (part : middle <+: path)
    (inside : dest <+: path) (outside : ¬Tree.Below dest middle) : middle <+: dest := by
  rcases prefix_or_prefix_of_prefix part inside with above | below
  · exact above
  · have same : middle = dest := by
      by_contra different
      exact outside ⟨below, different⟩
    rw [same]

/-- Without links below the destination, every plan is direct. -/
theorem unlinked_of_plain (keeps : extractor.keepsLinks = false)
    (anchored : extraction.tree.Anchored dest)
    (plain : ∀ place, Tree.Below dest place → extraction.tree.Plain place)
    (event : TarHeader × Weather) : Unlinked extractor dest extraction event := by
  rcases event with ⟨header, weather⟩
  have direct {path : List String} (inside : dest <+: path) :
      extraction.tree.Direct true path := by
    intro middle member nonempty _
    by_cases below : Tree.Below dest middle
    · exact plain middle below
    · intro node found
      rw [anchored middle (above_of_not_below ((mem_inits ..).mp member) inside below)
        nonempty] at found
      cases found
      rfl
  have inside := extractor.plan_inside dest extraction.strip header
  have noLink := extractor.plan_isLink keeps dest extraction.strip header
  change (extractor.plan dest extraction.strip header).1.Direct dest extraction.tree
  generalize (extractor.plan dest extraction.strip header).1 = plan at inside noLink
  cases plan with
  | refuse | skip => exact True.intro
  | dir | file => exact direct inside
  | link => cases noLink

/-- An extractor that keeps no links always meets the condition. -/
theorem reaches_unlinked (keeps : extractor.keepsLinks = false) (fresh : Fresh dest tree)
    (reached : Reaches (step extractor limit dest) unrestricted { tree := tree } extraction) :
    Reaches (step extractor limit dest) (Unlinked extractor dest) { tree := tree } extraction ∧
      ∀ place, Tree.Below dest place → extraction.tree.Plain place := by
  apply reached.invariant (P := fun state =>
    Reaches (step extractor limit dest) (Unlinked extractor dest) { tree := tree } state ∧
      ∀ place, Tree.Below dest place → state.tree.Plain place)
  · refine ⟨.refl, ?_⟩
    intro place below node found
    rw [fresh.empty place below] at found
    cases found
  · rintro state event next _ ⟨run, plain⟩ _ taken
    have anchored := fresh.anchored.confined (confined_of_reaches fresh run)
    have unlinked := unlinked_of_plain keeps anchored plain event
    have spec := step_spec anchored unlinked taken
    exact ⟨run.tail unlinked taken, fun place inside => spec.2 keeps place (plain place inside)⟩

/-! ## A link that leads out -/

/-- An empty directory below another one. -/
def workTree : Tree String String where
  entries := [(["w", "src"], .dir), (["w"], .dir)]

theorem fresh_workTree : Fresh ["w", "src"] workTree where
  anchored := by
    intro above inside nonempty
    have directories : ∀ above ∈ ["w", "src"].inits, above ≠ [] →
        workTree.lookup above = some .dir := by decide
    exact directories above ((mem_inits ..).mpr inside) nonempty
  empty := by
    rintro place ⟨inside, different⟩
    unfold workTree Tree.lookup
    have short : place ≠ ["w"] := by
      rintro rfl
      revert inside
      decide
    rw [lookup_cons, beq_false_of_ne different, lookup_cons, beq_false_of_ne short]
    rfl

/-- A link to the directory above, and a file behind it. -/
def leadingOut : List (TarHeader × Weather) :=
  [({ name := "x", type := .symlink, linkname := ".." }, {}),
    ({ name := "x/evil", type := .regular, data := "planted" }, {})]

/-- The file is written beside the destination. -/
theorem leadingOut_escapes (keeps : extractor.keepsLinks = true) :
    ∃ extraction, Reaches (step extractor 40 ["w", "src"]) unrestricted
        { tree := workTree } extraction ∧
      extraction.tree.lookup ["w", "evil"] = some (.file "planted") := by
  apply exists_reaches_of_run leadingOut
  cases extractor with
  | source | node => decide +kernel
  | runtime | resource => cases keeps

theorem not_spared_of_planted {after : Tree String String}
    (planted : after.lookup ["w", "evil"] = some (.file "planted")) :
    ¬Spared ["w", "src"] workTree after := by
  intro spared
  have same := spared ["w", "evil"] (by decide)
  rw [planted] at same
  cases same

end Extraction

/-- A run whose entries all meet no link on their paths leaves everything outside
the destination as it was.  The extractors that keep no links need no condition,
and the others do. -/
theorem extraction_confined (extractor : Extractor) :
    (∀ (limit : Nat) (dest : List String) (tree : Tree String String)
        (extraction : Extraction), Fresh dest tree →
      Reaches (Extraction.step extractor limit dest) (Extraction.Unlinked extractor dest)
        { tree := tree } extraction →
      Spared dest tree extraction.tree) ∧
    ((∀ (limit : Nat) (dest : List String) (tree : Tree String String)
        (extraction : Extraction), Fresh dest tree →
      Reaches (Extraction.step extractor limit dest) unrestricted { tree := tree } extraction →
      Spared dest tree extraction.tree) ↔ extractor.keepsLinks = false) := by
  have spared {dest : List String} {before after : Tree String String}
      (confined : Tree.Confined dest before after) : Spared dest before after :=
    fun place outside => confined place fun below => outside below.1
  constructor
  · intro limit dest tree extraction fresh reached
    exact spared (Extraction.confined_of_reaches fresh reached)
  · constructor
    · intro always
      by_contra keeps
      rcases Extraction.leadingOut_escapes (Bool.of_not_eq_false keeps) with
        ⟨extraction, reached, planted⟩
      exact Extraction.not_spared_of_planted planted
        (always 40 _ _ extraction Extraction.fresh_workTree reached)
    · intro keeps limit dest tree extraction fresh reached
      have run := (Extraction.reaches_unlinked keeps fresh reached).1
      exact spared (Extraction.confined_of_reaches fresh run)

/-- An archive of a build source with a link that stays inside. -/
theorem extraction_confined_linkKept : ∃ extraction : Extraction,
      (extraction.tree.lookup ["w", "src", "bin", "tool"] =
          some (.link false [.up, .down "lib", .down "tool"]) ∧
        extraction.tree.lookup ["w", "src", "lib", "tool"] = some (.file "data")) ∧
      Spared ["w", "src"] Extraction.workTree extraction.tree := by
  have run : ∃ extraction,
      Reaches (Extraction.step .source 40 ["w", "src"]) (Extraction.Unlinked .source ["w", "src"])
        { tree := Extraction.workTree } extraction ∧
      (extraction.tree.lookup ["w", "src", "bin", "tool"] =
          some (.link false [.up, .down "lib", .down "tool"]) ∧
        extraction.tree.lookup ["w", "src", "lib", "tool"] = some (.file "data")) :=
    exists_reaches_of_run
      [({ name := "bin/tool", type := .symlink, linkname := "../lib/tool" }, {}),
        ({ name := "lib/tool", type := .regular, data := "data" }, {})]
      (by decide +kernel)
  rcases run with ⟨extraction, reached, kept⟩
  exact ⟨extraction, kept, (extraction_confined .source).1 40 _ _ extraction
    Extraction.fresh_workTree reached⟩

/-- Every extractor that keeps links is led out of its fresh directory, and two of
the four keep them. -/
theorem extraction_led_out : Fresh ["w", "src"] Extraction.workTree ∧
      Extractor.source.keepsLinks = true ∧ Extractor.node.keepsLinks = true ∧
      ∀ extractor : Extractor, extractor.keepsLinks = true → ∃ extraction,
        Reaches (Extraction.step extractor 40 ["w", "src"]) unrestricted
          { tree := Extraction.workTree } extraction ∧
        extraction.tree.lookup ["w", "evil"] = some (.file "planted") ∧
        ¬Spared ["w", "src"] Extraction.workTree extraction.tree := by
  refine ⟨Extraction.fresh_workTree, rfl, rfl, ?_⟩
  intro extractor keeps
  rcases Extraction.leadingOut_escapes keeps with ⟨extraction, reached, planted⟩
  exact ⟨extraction, reached, planted, Extraction.not_spared_of_planted planted⟩

end LubricantNodes.Agent
