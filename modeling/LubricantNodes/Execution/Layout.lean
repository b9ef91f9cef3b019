import LubricantNodes.Execution.Spec
import LubricantNodes.Files.Tree

/-!
# Where a session lives on disk

The names of directories come from ids through `sanitizeSessionDir`; the working
tree, the runtime directory and the editor's HOME follow from the spec.  Paths
are lists of names from the root, so that `filepath.Join` of clean names is
appending.
-/

namespace LubricantNodes.Execution

open Go Files List

/-! ## Names -/

/-- The runes `sanitizeSessionDir` keeps. -/
def keepsRune (rune : Char) : Bool :=
  ('a' ≤ rune && rune ≤ 'z') || ('A' ≤ rune && rune ≤ 'Z') || ('0' ≤ rune && rune ≤ '9') ||
    rune = '-' || rune = '_'

/-- `strings.Trim(text, "-")`, on runes. -/
def trimDashes (runes : List Char) : List Char :=
  ((runes.dropWhile (· = '-')).reverse.dropWhile (· = '-')).reverse

/-- `sanitizeSessionDir`. -/
def sanitizeSessionDir (id : String) : String :=
  let out := trimDashes (id.toList.map fun rune => if keepsRune rune then rune else '-')
  if out = [] then "session" else String.ofList out

theorem mem_of_mem_trimDashes {runes : List Char} {rune : Char}
    (member : rune ∈ trimDashes runes) : rune ∈ runes := by
  have inner := (dropWhile_suffix _).subset (mem_reverse.mp member)
  exact (dropWhile_suffix _).subset (mem_reverse.mp inner)

/-- A sanitized name has no dot, so it is never one of the node's own
directories. -/
theorem dot_notMem_sanitizeSessionDir (id : String) : '.' ∉ (sanitizeSessionDir id).toList := by
  unfold sanitizeSessionDir
  dsimp only
  split_ifs with empty
  · decide
  intro member
  rw [String.toList_ofList] at member
  rcases mem_map.mp (mem_of_mem_trimDashes member) with ⟨rune, -, mapped⟩
  split_ifs at mapped with kept
  · subst mapped
    exact absurd kept (by decide)
  · exact absurd mapped (by decide)

theorem sanitizeSessionDir_ne {name : String} (dotted : '.' ∈ name.toList) (id : String) :
    sanitizeSessionDir id ≠ name := by
  rintro rfl
  exact dot_notMem_sanitizeSessionDir id dotted

example : sanitizeSessionDir "a.b" = sanitizeSessionDir "a-b" := by decide

/-! ## Specs -/

/-- `EnvVarSpec`. -/
structure EnvVar where
  name : String
  value : String
  deriving DecidableEq

/-- `MCPServerSpec`. -/
structure MCPServer where
  name : String
  type : String := ""
  transport : String := ""
  command : String := ""
  args : List String := []
  env : List EnvVar := []
  url : String := ""
  headers : List EnvVar := []
  deriving DecidableEq

/-- `SkillSpec`. -/
structure SkillSpec where
  name : String
  source : String := ""
  url : String := ""
  path : String := ""
  ref : String := ""
  username : String := ""
  password : String := ""
  token : String := ""
  deriving DecidableEq

/-- `NodePluginSpec`. -/
structure PluginSpec where
  name : String
  url : String := ""
  deriving DecidableEq

/-- What a `NodeGitSpec` says besides the URL. -/
structure GitRevision where
  branch : String := ""
  commit : String := ""
  createBranch : Bool := false
  newBranch : String := ""
  username : String := ""
  password : String := ""
  token : String := ""
  deriving DecidableEq

/-- `NodeCreateSession`, with the fields that provisioning reads. -/
structure SessionSpec extends CreateSession where
  revision : GitRevision := {}
  envMode : String := ""
  envId : String := ""
  env : List EnvVar := []
  mcps : List MCPServer := []
  skills : List SkillSpec := []
  plugins : List PluginSpec := []
  activeSkills : List String := []
  activePlugins : List String := []
  systemPrompt : String := ""
  deriving DecidableEq

/-- `isSystemEnv`. -/
def SessionSpec.isSystemEnv (spec : SessionSpec) : Bool :=
  equalFold (trimSpace spec.envMode) "system"

/-- `isSharedEnv`. -/
def SessionSpec.isSharedEnv (spec : SessionSpec) : Bool :=
  equalFold (trimSpace spec.envMode) "shared"

/-- `ownsHomeResources`. -/
def SessionSpec.ownsHomeResources (spec : SessionSpec) : Bool :=
  !spec.isSystemEnv && !spec.isSharedEnv

/-! ## Directories -/

/-- What the node knows of its host: `opts.workRoot`, `opts.systemEnvAllowed` and
the answer of `os.UserHomeDir`. -/
structure Host where
  workRoot : List String
  systemEnvAllowed : Bool := false
  userHome : Except String String := .error "$HOME is not defined"

/-- A clean absolute path as the list of its names. -/
def pathOf (path : String) : List String :=
  (segments path).filter (· ≠ "")

namespace Host

variable (host : Host)

variable (envId : String)

/-- `envDir`. -/
def envDir : List String :=
  host.workRoot ++ ["envs", sanitizeSessionDir envId]

/-- `envRepoDir`. -/
def envRepoDir : List String :=
  host.envDir envId ++ ["repo"]

/-- `envWorktreeDir`. -/
def envWorktreeDir (taskId : String) : List String :=
  host.envDir envId ++ ["worktrees", sanitizeSessionDir taskId]

/-- `resourceCacheRoot`. -/
def resourceCacheRoot : List String :=
  host.workRoot ++ [".resource-cache"]

end Host

/-- The errors of `resolveHome`. -/
inductive HomeError
  | systemRefused (mode : String)
  | unresolvable (mode reason : String)
  | empty (mode : String)
  | envIdRequired (mode : String)
  | unsupported (mode : String)
  deriving DecidableEq

/-- The text of an error; `quote` is the `%q` verb. -/
def HomeError.text (quote : String → String) : HomeError → String
  | systemRefused mode =>
    "env_mode=" ++ quote mode ++ " is not enabled on this node (auto: host installs allow it, " ++
      "containers refuse it; override with AGENT_COMPOSE_NODE_ALLOW_SYSTEM_ENV=on|off)"
  | unresolvable mode reason =>
    "env_mode=" ++ quote mode ++ " requires a resolvable user home: " ++ reason
  | empty mode => "env_mode=" ++ quote mode ++ " requires a non-empty user home"
  | envIdRequired mode => "env_mode=" ++ quote mode ++ " requires env_id"
  | unsupported mode =>
    "unsupported env_mode " ++ quote mode ++ " (want " ++ quote "isolated" ++ "|" ++
      quote "shared" ++ "|" ++ quote "system" ++ ")"

/-- The path `resolveHome` answers; `base` is the runtime directory. -/
def SessionSpec.resolveHome (spec : SessionSpec) (host : Host) (base : List String) :
    Except HomeError (List String) :=
  let mode := toLower (trimSpace spec.envMode)
  if mode = "" ∨ mode = "isolated" then .ok (base ++ ["home"])
  else if mode = "system" then
    if host.systemEnvAllowed then
      match host.userHome with
      | .error reason => .error (.unresolvable mode reason)
      | .ok home => if trimSpace home = "" then .error (.empty mode) else .ok (pathOf home)
    else .error (.systemRefused mode)
  else if mode = "shared" then
    if trimSpace spec.envId = "" then .error (.envIdRequired mode)
    else .ok (host.envDir (trimSpace spec.envId))
  else .error (.unsupported mode)

namespace SessionSpec

variable (spec : SessionSpec) (host : Host)

/-- `session.id`. -/
def id : String :=
  trimSpace spec.sessionId

/-- The path of an adopted or fresh checkout, empty when there is none. -/
def external : List String :=
  pathOf spec.externalWorktreePath

/-- `envBackedWorkspace`. -/
def envBacked : Bool :=
  spec.usesWorktree || spec.externalWorktreePath ≠ ""

/-- `session.worktreeEnvID`. -/
def worktreeEnvId : String :=
  if spec.usesWorktree then trimSpace (spec.tag "env_id") else ""

/-- `session.worktreeRepoDir`. -/
def worktreeRepoDir : List String :=
  if spec.importedCheckoutPath ≠ "" then pathOf spec.importedCheckoutPath
  else host.envRepoDir (trimSpace (spec.tag "env_id"))

/-- `session.workDir`. -/
def workDir : List String :=
  if spec.externalWorktreePath ≠ "" then spec.external
  else if spec.usesWorktree then
    host.envWorktreeDir (trimSpace (spec.tag "env_id")) (trimSpace spec.taskId)
  else if trimSpace spec.taskId ≠ "" then
    host.workRoot ++ ["tasks", sanitizeSessionDir (trimSpace spec.taskId)]
  else if trimSpace (spec.tag "editor_workdir") ≠ "" then
    host.workRoot ++ [sanitizeSessionDir (trimSpace (spec.tag "editor_workdir"))]
  else host.workRoot ++ [sanitizeSessionDir spec.id]

/-- `session.runtimeDir`. -/
def runtimeDir : List String :=
  if spec.envBacked then
    host.envDir (trimSpace (spec.tag "env_id")) ++
      [".agent-compose", "sessions", sanitizeSessionDir spec.id]
  else spec.workDir host ++ [".agent-compose", "sessions", sanitizeSessionDir spec.id]

end SessionSpec

/-- The fields of a `nodeSession` that say where it lives. -/
structure Placement where
  spec : SessionSpec
  workDir : List String
  runtimeDir : List String
  home : List String
  deriving DecidableEq

namespace Placement

variable (session : Placement)

/-- `session.stateRoot`. -/
def stateRoot : List String :=
  session.runtimeDir ++ ["state"]

/-- `session.skillsDir`. -/
def skillsDir : List String :=
  session.runtimeDir ++ ["skills"]

/-- `session.pluginsDir`. -/
def pluginsDir : List String :=
  session.runtimeDir ++ ["plugins"]

end Placement

/-! ## Workspaces -/

/-- What the working tree of a session is a tree of. -/
inductive Workspace
  | external (path : List String)
  | worktree (envId taskId : String)
  | task (taskId : String)
  | editor (name : String)
  | own (sessionId : String)
  deriving DecidableEq

/-- The workspaces of environments. -/
def Workspace.envBacked : Workspace → Bool
  | external _ | worktree _ _ => true
  | _ => false

/-- The directory of a workspace. -/
def Workspace.dir (host : Host) : Workspace → List String
  | external path => path
  | worktree envId taskId => host.envWorktreeDir envId taskId
  | task taskId => host.workRoot ++ ["tasks", sanitizeSessionDir taskId]
  | editor name => host.workRoot ++ [sanitizeSessionDir name]
  | own sessionId => host.workRoot ++ [sanitizeSessionDir sessionId]

namespace SessionSpec

variable (spec : SessionSpec) (host : Host)

/-- The workspace a session asks for. -/
def workspace : Workspace :=
  if spec.externalWorktreePath ≠ "" then .external spec.external
  else if spec.usesWorktree then .worktree (trimSpace (spec.tag "env_id")) (trimSpace spec.taskId)
  else if trimSpace spec.taskId ≠ "" then .task (trimSpace spec.taskId)
  else if trimSpace (spec.tag "editor_workdir") ≠ "" then
    .editor (trimSpace (spec.tag "editor_workdir"))
  else .own spec.id

/-- Which workspace it is. -/
inductive Works : Workspace → Prop
  | external : spec.externalWorktreePath ≠ "" → Works (.external spec.external)
  | worktree : spec.externalWorktreePath = "" → spec.usesWorktree →
      Works (.worktree (trimSpace (spec.tag "env_id")) (trimSpace spec.taskId))
  | task : spec.envBacked = false → trimSpace spec.taskId ≠ "" →
      Works (.task (trimSpace spec.taskId))
  | editor : spec.envBacked = false → trimSpace (spec.tag "editor_workdir") ≠ "" →
      Works (.editor (trimSpace (spec.tag "editor_workdir")))
  | own : spec.envBacked = false → spec.workspaceOwned → Works (.own spec.id)

theorem works : spec.Works spec.workspace := by
  unfold workspace
  split_ifs with external worktree task editor
  · exact .external external
  · exact .worktree (not_not.mp external) worktree
  · exact .task (by simp_all [envBacked]) task
  · exact .editor (by simp_all [envBacked]) editor
  · exact .own (by simp_all [envBacked]) (by simp_all [CreateSession.workspaceOwned])

theorem Works.id_eq {spec : SessionSpec} {id : String} (works : spec.Works (.own id)) :
    id = spec.id := by
  cases works
  rfl

/-- Whether a session's state is kept by its environment depends on the workspace
alone. -/
theorem envBacked_eq : spec.envBacked = spec.workspace.envBacked := by
  have works := spec.works
  generalize spec.workspace = workspace at works ⊢
  cases works with
  | external external => simp [envBacked, Workspace.envBacked, external]
  | worktree _ worktree => simp [envBacked, Workspace.envBacked, worktree]
  | task bare _ | editor bare _ | own bare _ => exact bare

theorem workDir_eq_dir : spec.workDir host = spec.workspace.dir host := by
  unfold workDir workspace
  split_ifs <;> rfl

/-- The name of a session's runtime directory below the directory it is in. -/
def runtimeName : List String :=
  [".agent-compose", "sessions", sanitizeSessionDir spec.id]

theorem runtimeDir_of_envBacked (backed : spec.envBacked) : spec.runtimeDir host =
      host.workRoot ++ ["envs", sanitizeSessionDir (trimSpace (spec.tag "env_id"))] ++
        spec.runtimeName := by
  rw [runtimeDir, if_pos backed]
  rfl

theorem runtimeDir_of_not_envBacked (bare : ¬spec.envBacked) :
    spec.runtimeDir host = spec.workspace.dir host ++ spec.runtimeName := by
  rw [runtimeDir, if_neg bare, workDir_eq_dir]
  rfl

/-- Without an environment, the workspace is a directory of the work root. -/
theorem workspace_of_not_envBacked (bare : ¬spec.envBacked) :
    ∃ base, spec.workspace.dir host = host.workRoot ++ base ∧
      ∃ id, base = ["tasks", sanitizeSessionDir id] ∨ base = [sanitizeSessionDir id] := by
  have works := spec.works
  generalize spec.workspace = workspace at works ⊢
  cases works with
  | external external => exact absurd (by simp [envBacked, external]) bare
  | worktree _ worktree => exact absurd (by simp [envBacked, worktree]) bare
  | task _ _ => exact ⟨_, rfl, _, .inl rfl⟩
  | editor _ _ | own _ _ => exact ⟨_, rfl, _, .inr rfl⟩

end SessionSpec

/-- The session `create` builds, up to the directories it makes. -/
def SessionSpec.place (spec : SessionSpec) (host : Host) : Except HomeError Placement :=
  match spec.resolveHome host (spec.runtimeDir host) with
  | .ok home =>
    .ok
      { spec := spec
        workDir := spec.workDir host
        runtimeDir := spec.runtimeDir host
        home := home }
  | .error error => .error error

/-! ## Modes -/

namespace SessionSpec

variable {spec : SessionSpec} {host : Host} {base home : List String}

/-- The modes `resolveHome` accepts, with the HOME of each. -/
inductive Resolves (spec : SessionSpec) (host : Host) (base : List String) :
    List String → Prop
  | isolated : spec.isSystemEnv = false → spec.isSharedEnv = false →
      Resolves spec host base (base ++ ["home"])
  | system {path : String} : spec.isSystemEnv = true → spec.isSharedEnv = false →
      host.userHome = .ok path → Resolves spec host base (pathOf path)
  | shared : spec.isSystemEnv = false → spec.isSharedEnv = true →
      Resolves spec host base (host.envDir (trimSpace spec.envId))

theorem equalFold_eq_false_of_length {text name : String}
    (different : text.toList.length ≠ name.toList.length) : equalFold text name = false := by
  apply decide_eq_false
  intro same
  apply different
  simpa using congrArg length same

theorem length_of_toLower {text name : String} {count : Nat} (lower : toLower text = name)
    (length : name.toList.length = count) : text.toList.length = count := by
  rw [← length, ← lower, toLower, String.toList_ofList, length_map]

theorem resolves_of_resolveHome (resolved : spec.resolveHome host base = .ok home) :
    spec.Resolves host base home := by
  unfold resolveHome at resolved
  dsimp only at resolved
  split_ifs at resolved with isolated system allowed shared blank
  · cases resolved
    have length : (trimSpace spec.envMode).toList.length = 0 ∨
        (trimSpace spec.envMode).toList.length = 8 := by
      rcases isolated with empty | named
      · exact .inl (length_of_toLower empty (by decide))
      · exact .inr (length_of_toLower named (by decide))
    apply Resolves.isolated
    · apply equalFold_eq_false_of_length
      rcases length with same | same <;> rw [same] <;> decide
    · apply equalFold_eq_false_of_length
      rcases length with same | same <;> rw [same] <;> decide
  · have folds := map_foldRune_of_toLower system (all_iff_forall_prop.mp rfl)
    cases known : host.userHome with
    | error reason =>
      rw [known] at resolved
      cases resolved
    | ok path =>
      rw [known] at resolved
      dsimp only at resolved
      split_ifs at resolved
      cases resolved
      apply Resolves.system _ _ known
      · simp only [isSystemEnv, equalFold, folds]
        decide
      · simp only [isSharedEnv, equalFold, folds]
        decide
  · cases resolved
    have folds := map_foldRune_of_toLower shared (all_iff_forall_prop.mp rfl)
    apply Resolves.shared
    · simp only [isSystemEnv, equalFold, folds]
      decide
    · simp only [isSharedEnv, equalFold, folds]
      decide

end SessionSpec

/-! ## The work root -/

namespace SessionSpec

theorem workRoot_prefix {root rest : List String} (name : String) :
    root ++ [name] <+: root ++ name :: rest :=
  ⟨rest, by simp⟩

/-- A runtime directory lies in a directory of the work root whose name has no
dot. -/
theorem runtimeDir_below (spec : SessionSpec) (host : Host) :
    ∃ name, '.' ∉ name.toList ∧ host.workRoot ++ [name] <+: spec.runtimeDir host := by
  unfold runtimeDir
  split_ifs with backed
  · refine ⟨"envs", by decide, ?_⟩
    rw [Host.envDir, append_assoc]
    exact workRoot_prefix _
  have notWorktree : ¬spec.usesWorktree := by
    intro uses
    exact backed (by simp [envBacked, uses])
  have inside : ¬spec.externalWorktreePath ≠ "" := by
    intro outside
    exact backed (by simp [envBacked, outside])
  unfold workDir
  rw [if_neg inside, if_neg notWorktree]
  split_ifs
  · refine ⟨"tasks", by decide, ?_⟩
    rw [append_assoc]
    exact workRoot_prefix _
  · refine ⟨sanitizeSessionDir (trimSpace (spec.tag "editor_workdir")),
      dot_notMem_sanitizeSessionDir _, ?_⟩
    rw [append_assoc]
    exact workRoot_prefix _
  · refine ⟨sanitizeSessionDir spec.id, dot_notMem_sanitizeSessionDir _, ?_⟩
    rw [append_assoc]
    exact workRoot_prefix _

/-- The resource cache lies apart from every runtime directory. -/
theorem apart_resourceCacheRoot (spec : SessionSpec) (host : Host) :
    Apart host.resourceCacheRoot (spec.runtimeDir host) := by
  rcases spec.runtimeDir_below host with ⟨name, undotted, below⟩
  have apart : Apart (host.workRoot ++ [".resource-cache"]) (host.workRoot ++ [name]) := by
    apply apart_of_ne
    rintro rfl
    exact undotted (by decide)
  exact apart.mono prefix_rfl below

end SessionSpec

/-- Where `create` puts a session. -/
structure Placement.Placed (session : Placement) (host : Host) : Prop where
  workDir : session.workDir = session.spec.workDir host
  runtimeDir : session.runtimeDir = session.spec.runtimeDir host
  home : session.spec.Resolves host session.runtimeDir session.home

namespace Placement.Placed

variable {session : Placement} {host : Host}

/-- A shared session has the HOME of its environment. -/
theorem home_of_shared (placed : session.Placed host) (shared : session.spec.isSharedEnv) :
    session.spec.isSystemEnv = false ∧
      session.home = host.envDir (trimSpace session.spec.envId) := by
  have resolved := placed.home
  generalize session.home = found at resolved
  cases resolved with
  | isolated _ isolated | system _ isolated =>
    rw [isolated] at shared
    cases shared
  | shared system => exact ⟨system, rfl⟩

/-- A system session has the HOME of the operator. -/
theorem home_of_system (placed : session.Placed host) (system : session.spec.isSystemEnv)
    {home : String} (operator : host.userHome = .ok home) : session.home = pathOf home := by
  have resolved := placed.home
  generalize session.home = found at resolved
  cases resolved with
  | isolated isolated =>
    rw [system] at isolated
    cases isolated
  | system _ _ known =>
    rw [operator] at known
    cases known
    rfl
  | shared shared =>
    rw [system] at shared
    cases shared

/-- Every other session has a HOME of its own. -/
theorem home_of_ownsHomeResources (placed : session.Placed host)
    (owns : session.spec.ownsHomeResources) : session.home = session.runtimeDir ++ ["home"] := by
  simp only [SessionSpec.ownsHomeResources, Bool.and_eq_true, Bool.not_eq_true'] at owns
  have resolved := placed.home
  generalize session.home = found at resolved
  cases resolved with
  | isolated => rfl
  | system system =>
    rw [owns.1] at system
    cases system
  | shared _ shared =>
    rw [owns.2] at shared
    cases shared

end Placement.Placed

theorem SessionSpec.placed_of_place {spec : SessionSpec} {host : Host} {session : Placement}
    (placed : spec.place host = .ok session) : session.Placed host ∧ session.spec = spec := by
  unfold place at placed
  cases resolved : spec.resolveHome host (spec.runtimeDir host) with
  | error error =>
    rw [resolved] at placed
    cases placed
  | ok home =>
    rw [resolved] at placed
    cases placed
    have home := resolves_of_resolveHome resolved
    constructor
    · constructor <;> dsimp only
      exact home
    · dsimp only

end LubricantNodes.Execution
