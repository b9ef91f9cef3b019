import LubricantNodes.Files.Logic
import LubricantNodes.Execution.Durable

/-!
# Sessions beside each other

Several sessions live on one disk.  A session, its task and its environment are
known by their ids, and the directories they use are named after the ids by
`sanitizeSessionDir`, which does not keep different ids apart.  This module says
for which ids and workspaces a session leaves what belongs to others alone, in
every run of `create`, provisioning and `delete` whose operations meet no symbolic
link.  A worktree has links to the dependencies of its repository, and an operation
that is led through one of them works in the repository.
-/

namespace LubricantNodes.Execution

open Go Files Transition List Placement Workspace SessionSpec Host Manager Option CreateSession

/-! ## What a session uses -/

/-- The directory of an external workspace. -/
def Workspace.externals : Workspace → List (List String)
  | external path => [path]
  | _ => []

/-- The task a workspace is a tree of. -/
def Workspace.tasks : Workspace → List String
  | worktree _ taskId => [taskId]
  | task taskId => [taskId]
  | _ => []

/-- The workspace is one of the work root under a name that is not taken, or lies
outside. -/
def Workspace.proper : Workspace → Bool
  | own sessionId => sanitizeSessionDir sessionId ≠ "tasks" && sanitizeSessionDir sessionId ≠ "envs"
  | editor _ => false
  | _ => true

namespace SessionSpec

variable (spec : SessionSpec)

/-- The task whose working tree the session works in. -/
def tasks : List String :=
  spec.workspace.tasks

/-- The environments whose directories the session uses. -/
def environments : List String :=
  (if spec.envBacked then [trimSpace (spec.tag "env_id")] else []) ++
    if spec.isSharedEnv then [trimSpace spec.envId] else []

/-- The repository of a worktree is the operator's. -/
def importsRepository : Bool :=
  spec.usesWorktree && spec.importedCheckoutPath ≠ ""

end SessionSpec

namespace Placement

variable (session : Placement) (host : Host)

/-- What the session works in outside the work root. -/
def outposts : List (List String) :=
  session.spec.workspace.externals ++
    (if session.spec.importsRepository then [session.spec.worktreeRepoDir host ++ [".git"]]
      else []) ++
    if session.spec.isSystemEnv then Manager.llmRoots session session.spec.llm else []

/-- What the session may change below `tasks` and `envs`. -/
def territory : List (List String) :=
  (if session.spec.tasks = [] then [] else [session.workDir]) ++
    (if session.spec.usesWorktree then [session.spec.worktreeRepoDir host ++ [".git"]] else []) ++
    (if session.spec.isSharedEnv then [session.home] else []) ++ [session.runtimeDir]

/-- The session has a name of its own in the work root, and what it uses outside
lies outside. -/
@[mk_iff]
structure OwnGround : Prop where
  workspace : session.spec.workspace.proper
  outposts : ∀ post ∈ session.outposts host, Apart post host.workRoot

/-- Different ids of two sessions have different names, and the first uses nothing
of the other's workspace outside the work root. -/
@[mk_iff]
structure Discerned (other : Placement) : Prop where
  sessions : session.spec.id ≠ other.spec.id →
    sanitizeSessionDir session.spec.id ≠ sanitizeSessionDir other.spec.id
  tasks : ∀ task ∈ session.spec.tasks, ∀ task' ∈ other.spec.tasks, task ≠ task' →
    sanitizeSessionDir task ≠ sanitizeSessionDir task'
  environments : ∀ envId ∈ session.spec.environments, ∀ envId' ∈ other.spec.environments,
    envId ≠ envId' → sanitizeSessionDir envId ≠ sanitizeSessionDir envId'
  outposts : session.spec.workspace ≠ other.spec.workspace →
    ∀ post ∈ session.outposts host, ∀ path ∈ other.spec.workspace.externals, Apart post path

instance : Decidable (session.OwnGround host) :=
  decidable_of_iff _ (ownGround_iff session host).symm

instance (other : Placement) : Decidable (session.Discerned host other) :=
  decidable_of_iff _ (discerned_iff session host other).symm

end Placement

/-- The session has its place, and can be told from another one. -/
structure Placement.Beside (session other : Placement) (host : Host) : Prop where
  placed : session.Placed host
  ownGround : session.OwnGround host
  discerned : session.Discerned host other

/-! ## Where it is -/

/-- The workspaces there are, with what is known of them. -/
inductive Placement.Housed (session : Placement) (host : Host) : Workspace → Prop
  | external {path} : path ∈ session.outposts host → Apart path host.workRoot →
      Housed session host (.external path)
  | worktree {envId taskId} : envId ∈ session.spec.environments →
      taskId ∈ session.spec.tasks → Housed session host (.worktree envId taskId)
  | task {taskId} : taskId ∈ session.spec.tasks → Housed session host (.task taskId)
  | own : sanitizeSessionDir session.spec.id ≠ "tasks" →
      sanitizeSessionDir session.spec.id ≠ "envs" → Housed session host (.own session.spec.id)

/-- The directories of the work root that runtime directories are in. -/
inductive Placement.Seated (session : Placement) : List String → Prop
  | env {envId} : envId ∈ session.spec.environments →
      Seated session ["envs", sanitizeSessionDir envId]
  | task {taskId} : taskId ∈ session.spec.tasks → session.spec.workspace = .task taskId →
      Seated session ["tasks", sanitizeSessionDir taskId]
  | own : session.spec.workspace = .own session.spec.id →
      sanitizeSessionDir session.spec.id ≠ "tasks" →
      sanitizeSessionDir session.spec.id ≠ "envs" →
      Seated session [sanitizeSessionDir session.spec.id]

section Geometry

variable {manager : Manager} {host : Host} {session other : Placement} {path root : List String}

attribute [local simp] Apart Workspace.dir Host.envWorktreeDir Host.envDir SessionSpec.runtimeName

theorem housed_of_settled (ownGround : session.OwnGround host) :
    session.Housed host session.spec.workspace := by
  have proper := ownGround.workspace
  have outlying := ownGround.outposts
  have works := session.spec.works
  generalize same : session.spec.workspace = workspace at works proper ⊢
  cases works with
  | external _ =>
    have among : session.spec.external ∈ session.outposts host := by
      rw [Placement.outposts, same]
      simp [Workspace.externals]
    exact .external among (outlying _ among)
  | worktree _ worktree =>
    apply Housed.worktree
    · simp [SessionSpec.environments, SessionSpec.envBacked, worktree]
    · rw [SessionSpec.tasks, same]
      exact mem_singleton.mpr rfl
  | task =>
    apply Housed.task
    rw [SessionSpec.tasks, same]
    exact mem_singleton.mpr rfl
  | editor => cases proper
  | own =>
    simp only [Workspace.proper, Bool.and_eq_true, decide_eq_true_eq] at proper
    exact .own proper.1 proper.2

theorem seated_of_settled (placed : session.Placed host) (ownGround : session.OwnGround host) :
    ∃ base, session.Seated base ∧
      session.runtimeDir = host.workRoot ++ (base ++ session.spec.runtimeName) := by
  rw [placed.runtimeDir]
  by_cases backed : session.spec.envBacked
  · have among : trimSpace (session.spec.tag "env_id") ∈ session.spec.environments := by
      simp [SessionSpec.environments, backed]
    refine ⟨_, .env among, ?_⟩
    rw [session.spec.runtimeDir_of_envBacked host backed, append_assoc]
  rw [session.spec.runtimeDir_of_not_envBacked host backed]
  have proper := ownGround.workspace
  have works := session.spec.works
  generalize same : session.spec.workspace = workspace at works proper ⊢
  cases works with
  | external external => exact absurd (by simp [SessionSpec.envBacked, external]) backed
  | worktree _ worktree => exact absurd (by simp [SessionSpec.envBacked, worktree]) backed
  | task _ _ =>
    have among : trimSpace session.spec.taskId ∈ session.spec.tasks := by
      rw [SessionSpec.tasks, same]
      exact mem_singleton.mpr rfl
    refine ⟨_, .task among same, ?_⟩
    rw [Workspace.dir, append_assoc]
  | editor => cases proper
  | own _ _ =>
    simp only [Workspace.proper, Bool.and_eq_true, decide_eq_true_eq] at proper
    refine ⟨_, .own same proper.1 proper.2, ?_⟩
    rw [Workspace.dir, append_assoc]

/-- What a session uses in its environments besides workspaces and runtime
directories, seen from the work root. -/
inductive Placement.Fixture (session : Placement) : List String → Prop
  | repository {envId} : envId ∈ session.spec.environments →
      Fixture session ["envs", sanitizeSessionDir envId, "repo", ".git"]
  | home {envId name rest} : envId ∈ session.spec.environments →
      name ∈ [".codex", ".config", ".mcp.json"] →
      Fixture session ("envs" :: sanitizeSessionDir envId :: name :: rest)

/-- What the commands of a session work in besides its workspace. -/
inductive Placement.Site (session : Placement) (host : Host) : List String → Prop
  | runtime : Site session host session.runtimeDir
  | outpost {post} : post ∈ session.outposts host → Site session host post
  | fixture {own rest} : session.Fixture rest → own ∈ session.territory host →
      own <+: host.workRoot ++ rest → Site session host (host.workRoot ++ rest)
  | cache : Site session host host.resourceCacheRoot

theorem site_repository (worktree : session.spec.usesWorktree)
    (managed : session.spec.importedCheckoutPath = "") :
    session.Site host (session.spec.worktreeRepoDir host ++ [".git"]) := by
  have among : session.spec.worktreeRepoDir host ++ [".git"] ∈ session.territory host := by
    simp [territory, worktree]
  have place : session.spec.worktreeRepoDir host ++ [".git"] = host.workRoot ++
      ["envs", sanitizeSessionDir (trimSpace (session.spec.tag "env_id")), "repo", ".git"] := by
    rw [worktreeRepoDir, if_neg (not_not.mpr managed), envRepoDir, envDir,
      append_assoc, append_assoc]
    rfl
  rw [place] at among ⊢
  apply Site.fixture _ among prefix_rfl
  apply Fixture.repository
  simp [SessionSpec.environments, SessionSpec.envBacked, worktree]

theorem site_native (placed : session.Placed host) (shared : session.spec.isSharedEnv) :
    ∀ file ∈ nativeFiles session.home, session.Site host file := by
  have among : session.home ∈ session.territory host := by simp [territory, shared]
  have env : trimSpace session.spec.envId ∈ session.spec.environments := by
    simp [environments, shared]
  have place : ∀ {name : String} {rest : List String}, name ∈ [".codex", ".config", ".mcp.json"] →
      session.Site host (session.home ++ name :: rest) := by
    intro name rest known
    have dir : session.home ++ name :: rest = host.workRoot ++
        "envs" :: sanitizeSessionDir (trimSpace session.spec.envId) :: name :: rest := by
      rw [(placed.home_of_shared shared).2, envDir, append_assoc]
      rfl
    have below : session.home <+: session.home ++ name :: rest := prefix_append _ _
    rw [dir] at below ⊢
    exact .fixture (.home env known) among below
  unfold nativeFiles
  simp only [forall_mem_cons]
  exact ⟨place (by simp), place (by simp), place (by simp), forall_mem_nil _⟩

/-- A workspace is external or lies in the work root. -/
theorem workRoot_prefix_dir (host : Host) (workspace : Workspace) :
    (∃ path, workspace = .external path) ∨ host.workRoot <+: workspace.dir host := by
  cases workspace with
  | external path => exact .inl ⟨path, rfl⟩
  | worktree =>
    right
    rw [dir, envWorktreeDir, envDir, append_assoc]
    exact prefix_append _ _
  | task | editor | own => exact .inr (prefix_append _ _)

variable {post : List String}

/-- What a session uses outside the work root lies apart from other workspaces. -/
theorem apart_outpost_workspace (beside : session.Beside other host)
    (differ : session.spec.workspace ≠ other.spec.workspace)
    (among : post ∈ session.outposts host) : Apart post (other.spec.workspace.dir host) := by
  have out := beside.discerned.outposts differ post among
  rcases workRoot_prefix_dir host other.spec.workspace with ⟨path, same⟩ | inside
  · rw [same] at out ⊢
    exact out path (mem_singleton.mpr rfl)
  · exact (beside.ownGround.outposts post among).mono prefix_rfl inside

variable {rest : List String}

/-- What is in the work root lies apart from what a session uses outside. -/
theorem apart_outpost_of_settled (ownGround : session.OwnGround host)
    (among : post ∈ session.outposts host) : Apart (host.workRoot ++ rest) post :=
  ((ownGround.outposts post among).mono prefix_rfl (prefix_append _ _)).symm

section Pairs

variable (beside : session.Beside other host) (beside' : other.Beside session host)

include beside beside'

/-- Different workspaces lie apart. -/
theorem apart_workspaces (differ : session.spec.workspace ≠ other.spec.workspace) :
    Apart (session.spec.workspace.dir host) (other.spec.workspace.dir host) := by
  have out : ∀ post ∈ session.outposts host, Apart post (other.spec.workspace.dir host) :=
    fun _ among => apart_outpost_workspace beside differ among
  have out' : ∀ post ∈ other.outposts host, Apart post (session.spec.workspace.dir host) :=
    fun _ among => apart_outpost_workspace beside' differ.symm among
  rcases beside.discerned with ⟨sessions, tasks, environments, -⟩
  have housed := housed_of_settled beside.ownGround
  have housed' := housed_of_settled beside'.ownGround
  generalize session.spec.workspace = workspace at housed differ out' ⊢
  generalize other.spec.workspace = workspace' at housed' differ out ⊢
  cases housed with
  | external among _ => exact out _ among
  | @worktree envId taskId env task =>
    cases housed' with
    | external among _ => exact (out' _ among).symm
    | @worktree envId' taskId' env' task' =>
      by_cases same : envId = envId'
      · have differs : taskId ≠ taskId' := by
          rintro rfl
          exact differ (by rw [same])
        have names := tasks _ task _ task' differs
        simp [names, names.symm]
      · have names := environments _ env _ env' same
        simp [names, names.symm]
    | task => simp
    | own notTasks notEnvs =>
      simp [notEnvs, notEnvs.symm]
  | @task taskId task =>
    cases housed' with
    | external among _ => exact (out' _ among).symm
    | worktree => simp
    | @task taskId' task' =>
      have differs : taskId ≠ taskId' := by
        rintro rfl
        exact differ rfl
      have names := tasks _ task _ task' differs
      simp [names, names.symm]
    | own notTasks notEnvs => simp [notTasks, notTasks.symm]
  | own notTasks notEnvs =>
    cases housed' with
    | external among _ => exact (out' _ among).symm
    | worktree =>
      simp [notEnvs, notEnvs.symm]
    | task => simp [notTasks, notTasks.symm]
    | own =>
      have differs : session.spec.id ≠ other.spec.id := fun same => differ (by rw [same])
      have names := sessions differs
      simp [names, names.symm]

/-- The runtime directories of different sessions lie apart. -/
theorem apart_runtimeDirs (differ : session.spec.id ≠ other.spec.id) :
    Apart session.runtimeDir other.runtimeDir := by
  have names := beside.discerned.sessions differ
  rcases seated_of_settled beside.placed beside.ownGround with ⟨base, seated, dir⟩
  rcases seated_of_settled beside'.placed beside'.ownGround with ⟨base', seated', dir'⟩
  rw [dir, dir']
  cases seated with
  | env _ =>
    cases seated' with
    | env => simp [names, names.symm]
    | task => simp
    | own _ _ notEnvs => simp [notEnvs, notEnvs.symm]
  | task _ _ =>
    cases seated' with
    | env => simp
    | task => simp [names, names.symm]
    | own _ notTasks _ => simp [notTasks, notTasks.symm]
  | own _ notTasks notEnvs =>
    cases seated' with
    | env => simp [notEnvs, notEnvs.symm]
    | task => simp [notTasks, notTasks.symm]
    | own => simp [names, names.symm]

/-- A runtime directory lies apart from the workspaces it is not in. -/
theorem apart_runtimeDir_workspace (differ : session.spec.workspace ≠ other.spec.workspace) :
    Apart session.runtimeDir (other.spec.workspace.dir host) := by
  have apart := apart_workspaces beside beside' differ
  rcases seated_of_settled beside.placed beside.ownGround with ⟨base, seated, dir⟩
  rw [dir]
  cases seated with
  | env _ =>
    have housed' := housed_of_settled beside'.ownGround
    generalize other.spec.workspace = workspace' at housed' ⊢
    cases housed' with
    | external among _ => exact apart_outpost_of_settled beside'.ownGround among
    | worktree | task => simp
    | own notTasks notEnvs =>
      simp [notEnvs, notEnvs.symm]
  | task _ same | own same _ _ =>
    rw [same, Workspace.dir] at apart
    apply apart.mono _ prefix_rfl
    rw [← append_assoc]
    exact prefix_append _ _

variable {site : List String}

/-- What a session works in besides its workspace lies apart from the runtime
directories of others. -/
theorem apart_site_runtimeDir (differ : session.spec.id ≠ other.spec.id)
    (works : session.Site host site) : Apart site other.runtimeDir := by
  rcases seated_of_settled beside'.placed beside'.ownGround with ⟨base, seated, dir⟩
  cases works with
  | runtime => exact apart_runtimeDirs beside beside' differ
  | outpost among =>
    rw [dir]
    exact (beside.ownGround.outposts _ among).mono prefix_rfl (prefix_append _ _)
  | fixture fixture _ _ =>
    rw [dir]
    cases fixture with
    | repository _ =>
      cases seated with
      | env | task => simp
      | own _ _ notEnvs => simp [notEnvs, notEnvs.symm]
    | home _ known =>
      simp only [mem_cons, not_mem_nil, or_false] at known
      cases seated with
      | env =>
        rcases known with rfl | rfl | rfl <;> simp
      | task => simp
      | own _ _ notEnvs => simp [notEnvs, notEnvs.symm]
  | cache =>
    rw [beside'.placed.runtimeDir]
    exact other.spec.apart_resourceCacheRoot host

/-- What a session works in lies apart from the workspaces of others. -/
theorem apart_site_workspace (differ : session.spec.workspace ≠ other.spec.workspace)
    (works : session.Site host site) : Apart site (other.spec.workspace.dir host) := by
  have housed' := housed_of_settled beside'.ownGround
  cases works with
  | runtime => exact apart_runtimeDir_workspace beside beside' differ
  | outpost among => exact apart_outpost_workspace beside differ among
  | fixture fixture _ _ =>
    generalize other.spec.workspace = workspace' at housed' ⊢
    cases housed' with
    | external among _ => exact apart_outpost_of_settled beside'.ownGround among
    | worktree _ _ =>
      cases fixture with
      | repository => simp
      | home _ known =>
        simp only [mem_cons, not_mem_nil, or_false] at known
        rcases known with rfl | rfl | rfl <;>
          simp
    | task => cases fixture <;> simp
    | own _ notEnvs =>
      cases fixture <;> simp [notEnvs, notEnvs.symm]
  | cache =>
    generalize other.spec.workspace = workspace' at housed' ⊢
    have undotted : ∀ id, sanitizeSessionDir id ≠ ".resource-cache" :=
      sanitizeSessionDir_ne (by decide)
    rw [resourceCacheRoot]
    cases housed' with
    | external among _ => exact apart_outpost_of_settled beside'.ownGround among
    | worktree | task => simp
    | own _ _ => simp [undotted, (undotted _).symm]

end Pairs

section Environments

variable {envId : String}

theorem names_of_foreign (discerned : session.Discerned host other)
    (env : envId ∈ other.spec.environments) (foreign : envId ∉ session.spec.environments) :
    ∀ own ∈ session.spec.environments, sanitizeSessionDir own ≠ sanitizeSessionDir envId := by
  intro own among
  apply discerned.environments own among envId env
  rintro rfl
  exact foreign among

/-- A workspace lies apart from the environments it does not use. -/
theorem apart_workspace_environment (ownGround : session.OwnGround host)
    (names : ∀ own ∈ session.spec.environments, sanitizeSessionDir own ≠ sanitizeSessionDir envId) :
    Apart (session.spec.workspace.dir host) (host.envDir envId) := by
  have housed := housed_of_settled ownGround
  generalize session.spec.workspace = workspace at housed ⊢
  cases housed with
  | external _ outside => exact outside.mono prefix_rfl (prefix_append _ _)
  | worktree among _ =>
    simp [names _ among, (names _ among).symm]
  | task => simp
  | own _ notEnvs => simp [notEnvs, notEnvs.symm]

/-- What a session works in lies apart from the environments it does not use. -/
theorem apart_site_environment (placed : session.Placed host) (ownGround : session.OwnGround host)
    {site : List String} (works : session.Site host site)
    (names : ∀ own ∈ session.spec.environments, sanitizeSessionDir own ≠ sanitizeSessionDir envId) :
    Apart site (host.envDir envId) := by
  cases works with
  | runtime =>
    rcases seated_of_settled placed ownGround with ⟨base, seated, dir⟩
    rw [dir, envDir]
    cases seated with
    | env among =>
      simp [names _ among, (names _ among).symm]
    | task => simp
    | own _ _ notEnvs => simp [notEnvs, notEnvs.symm]
  | outpost among =>
    exact (ownGround.outposts _ among).mono prefix_rfl (prefix_append _ _)
  | fixture fixture _ _ =>
    rw [envDir]
    cases fixture with
    | repository among | home among _ => simp [names _ among, (names _ among).symm]
  | cache => simp [resourceCacheRoot]

end Environments

section Territory

variable {tree : String}

section Inside

variable (ownGround : session.OwnGround host) (inside : host.workRoot ++ [tree] <+: path)

include ownGround inside

theorem not_prefix_of_outpost : ∀ post ∈ session.outposts host, ¬post <+: path := by
  intro post among reached
  exact (ownGround.outposts post among).not_below reached ((prefix_append _ _).trans inside)

/-- Below `tasks` and `envs` the workspace of a session is its own territory. -/
theorem territory_of_workspace (placed : session.Placed host)
    (below : session.spec.workspace.dir host <+: path) (common : tree = "tasks" ∨ tree = "envs") :
    ∃ own ∈ session.territory host, own <+: path := by
  have housed := housed_of_settled ownGround
  have shared : session.spec.tasks ≠ [] → ∃ own ∈ session.territory host, own <+: path := by
    intro tasked
    refine ⟨session.workDir, by simp [territory, tasked], ?_⟩
    rw [placed.workDir, workDir_eq_dir]
    exact below
  generalize session.spec.workspace = workspace at housed below
  cases housed with
  | external among _ => exact absurd below (not_prefix_of_outpost ownGround inside _ among)
  | worktree _ among | task among => exact shared (ne_nil_of_mem among)
  | own notTasks notEnvs =>
    have apart : Apart (host.workRoot ++ [sanitizeSessionDir session.spec.id])
        (host.workRoot ++ [tree]) := by
      apply apart_of_ne
      rintro rfl
      rcases common with taken | taken
      · exact notTasks taken
      · exact notEnvs taken
    exact absurd inside (apart.not_below below)

/-- Below `tasks` and `envs` a session works in its own territory. -/
theorem territory_of_site {site : List String}
    (works : session.Site host site) (below : site <+: path)
    (common : tree = "tasks" ∨ tree = "envs") : ∃ own ∈ session.territory host, own <+: path := by
  cases works with
  | runtime => exact ⟨session.runtimeDir, by simp [territory], below⟩
  | outpost among => exact absurd below (not_prefix_of_outpost ownGround inside _ among)
  | fixture _ among above => exact ⟨_, among, above.trans below⟩
  | cache =>
    have apart : Apart host.resourceCacheRoot (host.workRoot ++ [tree]) := by
      apply apart_of_ne
      rintro rfl
      rcases common with taken | taken <;> exact absurd taken (by decide)
    exact absurd inside (apart.not_below below)

end Inside

end Territory

/-! ## The roots of the commands -/

/-- The root lies in something the session works in besides its workspace. -/
def Placement.Sited (session : Placement) (host : Host) (root : List String) : Prop :=
  ∃ site, session.Site host site ∧ site <+: root

theorem sited_runtimeDir : session.Sited host (session.runtimeDir ++ rest) :=
  ⟨_, .runtime, prefix_append _ _⟩

theorem sited_agentFiles : session.Sited host (agentFiles session.stateRoot) := by
  rw [agentFiles, stateRoot, append_assoc]
  exact sited_runtimeDir

theorem sited_home (placed : session.Placed host)
    (owns : session.spec.ownsHomeResources) : session.Sited host (session.home ++ rest) := by
  rw [placed.home_of_ownsHomeResources owns, append_assoc]
  exact sited_runtimeDir

theorem sited_nativeFiles (placed : session.Placed host) (notSystem : ¬session.spec.isSystemEnv) :
    ∀ file ∈ nativeFiles session.home, session.Sited host file := by
  by_cases shared : session.spec.isSharedEnv
  · exact fun file member => ⟨file, site_native placed shared file member, prefix_rfl⟩
  · have owns : session.spec.ownsHomeResources := by
      simp [ownsHomeResources, notSystem, shared]
    unfold nativeFiles
    simp only [forall_mem_cons]
    exact ⟨sited_home placed owns, sited_home placed owns, sited_home placed owns, forall_mem_nil _⟩

theorem sited_resourceRoots (placed : session.Placed manager.host)
    (owns : session.spec.ownsHomeResources) :
    ∀ root ∈ manager.resourceRoots session, session.Sited manager.host root := by
  unfold resourceRoots
  simp only [forall_mem_cons]
  refine ⟨⟨_, .cache, prefix_rfl⟩, sited_runtimeDir, ?_, sited_runtimeDir, ?_, forall_mem_nil _⟩
  · unfold runtimeSkillsDir
    split_ifs <;> exact sited_home placed owns
  · unfold runtimePluginsDir
    split_ifs <;> exact sited_home placed owns

theorem sited_configRoots (placed : session.Placed manager.host) :
    ∀ root ∈ manager.configRoots session, session.Sited manager.host root := by
  intro root member
  unfold configRoots initialRoots at member
  by_cases system : session.spec.isSystemEnv
  · rw [if_pos system] at member
    rcases mem_cons.mp member with rfl | native
    · exact sited_agentFiles
    · refine ⟨root, .outpost ?_, prefix_rfl⟩
      simp [outposts, system, native]
  rw [if_neg system] at member
  rcases mem_cons.mp member with rfl | laid
  · exact sited_agentFiles
  rcases mem_append.mp laid with native | resource
  · exact sited_nativeFiles placed system root native
  · split_ifs at resource with owns
    · exact sited_resourceRoots placed owns root resource
    · cases resource

/-- The registrations of worktrees. -/
theorem sited_repository (worktree : session.spec.usesWorktree) :
    session.Sited host (session.spec.worktreeRepoDir host ++ ".git" :: rest) := by
  have below : session.spec.worktreeRepoDir host ++ [".git"] <+:
      session.spec.worktreeRepoDir host ++ ".git" :: rest := SessionSpec.workRoot_prefix _
  by_cases managed : session.spec.importedCheckoutPath = ""
  · exact ⟨_, site_repository worktree managed, below⟩
  · refine ⟨_, .outpost ?_, below⟩
    simp [outposts, importsRepository, worktree, managed]

theorem workDir_of_placed (placed : session.Placed host) :
    session.workDir = session.spec.workspace.dir host := by
  rw [placed.workDir, workDir_eq_dir]

/-- What provisioning lays down is in the workspace or in another site. -/
theorem sited_laid : ∀ root ∈ manager.checkoutRoots session ++ manager.dependencyRoots session,
      session.Sited manager.host root ∨ session.workDir <+: root := by
  intro root member
  rcases mem_append.mp member with checkedOut | dependency
  · unfold checkoutRoots at checkedOut
    split_ifs at checkedOut with external fresh git worktree
    · exact .inr (mem_singleton.mp checkedOut ▸ prefix_rfl)
    · cases checkedOut
    · simp only [worktreeRoots, mem_cons, not_mem_nil, or_false] at checkedOut
      rcases checkedOut with same | same
      · exact .inr (same ▸ prefix_rfl)
      · rw [same]
        exact .inl (sited_repository ((worktreeEnvId_ne_iff _).mp worktree))
    · exact .inr (mem_singleton.mp checkedOut ▸ prefix_rfl)
    · cases checkedOut
  · rcases mem_map.mp dependency with ⟨dependency, _, rfl⟩
    exact .inr (prefix_append _ _)

/-- A workspace outside the tree of tasks holds no runtime directory. -/
theorem apart_workspace_runtimeDir (ownGround : session.OwnGround host)
    (backed : session.spec.envBacked) (placed' : other.Placed host)
    (ownGround' : other.OwnGround host) :
    Apart (session.spec.workspace.dir host) other.runtimeDir := by
  rcases seated_of_settled placed' ownGround' with ⟨base, seated, dir⟩
  have outlying := ownGround.outposts
  have works := session.spec.works
  rw [dir]
  generalize same : session.spec.workspace = workspace at works ⊢
  cases works with
  | external _ =>
    have among : session.spec.external ∈ session.outposts host := by
      rw [outposts, same]
      simp [externals]
    exact (outlying _ among).mono prefix_rfl (prefix_append _ _)
  | worktree _ _ =>
    rw [Workspace.dir, Host.envWorktreeDir, Host.envDir]
    cases seated with
    | env | task => simp
    | own _ _ notEnvs => simp [notEnvs, notEnvs.symm]
  | task bare _ | editor bare _ | own bare _ =>
    rw [bare] at backed
    cases backed

/-- In a common workspace without an environment, the runtime directories are where
no dependency may be. -/
theorem apart_dependency_runtimeDir (placed' : other.Placed host)
    (bare : ¬session.spec.envBacked) (same : session.spec.workspace = other.spec.workspace)
    {name : String} (elsewhere : name ≠ ".agent-compose") :
    Apart (session.spec.workspace.dir host ++ [name]) other.runtimeDir := by
  have bare' : ¬other.spec.envBacked := by
    rw [other.spec.envBacked_eq, ← same, ← session.spec.envBacked_eq]
    exact bare
  rw [placed'.runtimeDir, other.spec.runtimeDir_of_not_envBacked host bare', same, runtimeName]
  exact apart_of_ne _ _ elsewhere

end Geometry

/-! ## Runs -/

/-- The sessions of a node and the disk.  `past` is history: all sessions that have
been created. -/
structure Estate where
  disk : Disk
  live : List Placement
  past : List Placement

namespace Estate

/-- The calls on a node, each with what the outside decides about its operations,
and what others do to the disk. -/
inductive Event
  | create (spec : SessionSpec) (outcomes : List (Outcome String Content Answer))
  | provision (id gatewayOrigin : String) (outcomes : List (Outcome String Content Answer))
  | delete (id : String) (outcomes : List (Outcome String Content Answer))
  | outside (disk : Disk)

/-- A node without sessions. -/
def new (disk : Disk) : Estate where
  disk := disk
  live := []
  past := []

variable (manager : Manager) (state : Estate)

/-- The session the map has under an id. -/
def find (id : String) : Option Placement :=
  state.live.find? (·.spec.id = id)

variable (done failed : List Placement) (id : String)

/-- The map without an id. -/
def without : List Placement :=
  state.live.filter (·.spec.id ≠ id)

/-- The state after a program: a program that has not come to its end has been
stopped by a crash. -/
def close : FileM Unit × Disk → Estate
  | (.ret _, disk) => { state with disk := disk, live := done }
  | (.fail _, disk) => { state with disk := disk, live := failed }
  | (.ask _ _, disk) => { state with disk := disk, live := [] }

/-- The state after `create`. -/
def createSession (session : Placement) (outcomes : List (Outcome String Content Answer)) :
    Option Estate :=
  guarded (session.spec.id ≠ "" ∧ state.find session.spec.id = none)
    ({ state with past := session :: state.past }.close (session :: state.live) state.live
      ((manager.prepareDirs session).exec outcomes state.disk))

/-- One call. -/
def step : Step Estate Event
  | state, .create spec outcomes =>
    match spec.place manager.host with
    | .ok session => state.createSession manager session outcomes
    | .error _ => none
  | state, .provision id gatewayOrigin outcomes =>
    (state.find id).map fun session =>
      state.close state.live (state.without id)
        ((manager.provisionSession session gatewayOrigin).exec outcomes state.disk)
  | state, .delete id outcomes =>
    (state.find id).map fun session =>
      state.close (state.without id) (state.without id)
        ((manager.delete session).exec outcomes state.disk)
  | state, .outside disk => some { state with disk := disk }

/-! ## What belongs to others -/

/-- The path belongs to another live session, to another workspace, to another
environment, or to the trees of tasks and environments. -/
def foreign (session : Placement) (path : List String) : Prop :=
  (∃ other ∈ state.live, session.spec.id ≠ other.spec.id ∧ other.runtimeDir <+: path) ∨
    (∃ other ∈ state.past, session.spec.workspace ≠ other.spec.workspace ∧
      other.spec.workspace.dir manager.host <+: path) ∨
    (∃ other ∈ state.past, ∃ envId ∈ other.spec.environments,
      envId ∉ session.spec.environments ∧ manager.host.envDir envId <+: path) ∨
    (∃ tree, (tree = "tasks" ∨ tree = "envs") ∧ manager.host.workRoot ++ [tree] <+: path ∧
      ∀ own ∈ session.territory manager.host, ¬own <+: path)

/-- The path belongs to the workspace of another live session. -/
def shared (session : Placement) (path : List String) : Prop :=
  ∃ other ∈ state.live, session.spec.id ≠ other.spec.id ∧ other.workDir <+: path ∧
    ¬session.runtimeDir <+: path

/-- What a call must leave in place. -/
def protects : Event → List String → Prop
  | .create _ _, _ => True
  | .provision id _ _, path => ∃ session ∈ state.find id, state.foreign manager session path
  | .delete id _, path =>
    ∃ session ∈ state.find id, state.foreign manager session path ∨ state.shared session path
  | .outside _, _ => False

/-! ## Conditions -/

/-- The working tree has content other than the node's own. -/
def initialized (dir : List String) : Prop :=
  state.disk.lookup dir = some .dir ∧ ∃ name ∈ state.disk.names dir, name ∉ scratchNames

/-- No live session shares the workspace of a session. -/
def alone (session : Placement) : Prop :=
  ∀ other ∈ state.live, session.spec.id ≠ other.spec.id →
    session.spec.workspace ≠ other.spec.workspace

/-- The workspace of a session in the work root may be laid down: nobody shares it,
or there is something in it and the dependencies keep away from the runtime
directories. -/
def layable (session : Placement) : Prop :=
  state.alone session ∨ session.spec.envBacked ∨
    (session.spec.hasGit → state.initialized session.workDir) ∧
      ∀ dependency ∈ session.spec.env.filterMap manager.codec.dependency,
        dependency.subdir ≠ ".agent-compose"

/-- The new session can be told from all others by its names; a workspace in use is
not laid down again; a worktree in use is not removed; and no operation is led through
a link. -/
def Clear : Discipline Estate Event
  | state, .create spec outcomes =>
    ∀ session ∈ (spec.place manager.host).toOption,
      (manager.prepareDirs session).direct outcomes state.disk ∧
      session.OwnGround manager.host ∧ ∀ other ∈ state.past, other ≠ session →
        session.Discerned manager.host other ∧ other.Discerned manager.host session
  | state, .provision id gatewayOrigin outcomes =>
    ∀ session ∈ state.find id,
      (manager.provisionSession session gatewayOrigin).direct outcomes state.disk ∧
        state.layable manager session
  | state, .delete id outcomes =>
    ∀ session ∈ state.find id, (manager.delete session).direct outcomes state.disk ∧
      (session.spec.usesWorktree → state.alone session)
  | _, .outside _ => True

instance (dir : List String) : Decidable (state.initialized dir) :=
  inferInstanceAs (Decidable (_ ∧ _))

instance (session : Placement) : Decidable (state.alone session) :=
  inferInstanceAs (Decidable (∀ other ∈ state.live, _ → _))

instance (session : Placement) : Decidable (state.layable manager session) :=
  inferInstanceAs (Decidable (_ ∨ _ ∨ _))

instance (event : Event) : Decidable (Clear manager state event) := by
  unfold Clear
  split <;> infer_instance

/-! ## Whole runs -/

/-- What is known of the sessions of a run. -/
structure Ordered : Prop where
  placed : ∀ session ∈ state.past, session.Placed manager.host
  ownGround : ∀ session ∈ state.past, session.OwnGround manager.host
  discerned : ∀ session ∈ state.past, ∀ other ∈ state.past, session ≠ other →
    session.Discerned manager.host other
  recorded : ∀ session ∈ state.live, session ∈ state.past

variable {manager state} {state' : Estate} {event : Event}

theorem ordered_new (disk : Disk) : (new disk).Ordered manager where
  placed := by simp [new]
  ownGround := by simp [new]
  discerned := by simp [new]
  recorded := by simp [new]

theorem mem_of_mem_close {done failed : List Placement} {run : FileM Unit × Disk}
    {session : Placement} (member : session ∈ (state.close done failed run).live) :
    session ∈ done ∨ session ∈ failed := by
  rcases run with ⟨prog, disk⟩
  cases prog with
  | ret => exact .inl member
  | fail => exact .inr member
  | ask => cases member

@[simp]
theorem past_close (run : FileM Unit × Disk) : (state.close done failed run).past = state.past := by
  rcases run with ⟨prog, disk⟩
  cases prog <;> rfl

@[simp]
theorem disk_close (run : FileM Unit × Disk) : (state.close done failed run).disk = run.2 := by
  rcases run with ⟨prog, disk⟩
  cases prog <;> rfl

/-- A call that creates no session leaves the sessions as they are, or fewer. -/
theorem Ordered.close (ordered : state.Ordered manager) {done failed : List Placement}
    (fewer : done ⊆ state.live) (fewer' : failed ⊆ state.live) (run : FileM Unit × Disk) :
    (state.close done failed run).Ordered manager := by
  constructor
  · rw [past_close]
    exact ordered.placed
  · rw [past_close]
    exact ordered.ownGround
  · rw [past_close]
    exact ordered.discerned
  · intro session member
    rw [past_close]
    rcases mem_of_mem_close member with kept | kept
    · exact ordered.recorded session (fewer kept)
    · exact ordered.recorded session (fewer' kept)

theorem without_subset : state.without id ⊆ state.live := filter_subset_self _

theorem mem_of_find {id : String} {session : Placement} (found : state.find id = some session) :
    session ∈ state.live ∧ session.spec.id = id := by
  have met := find?_some found
  exact ⟨mem_of_find?_eq_some found, of_decide_eq_true met⟩

/-- `create` admits the session that the spec describes. -/
theorem admit_of_step {spec : SessionSpec} {outcomes : List (Outcome String Content Answer)}
    (moved : step manager state (.create spec outcomes) = some state') :
    ∃ session, spec.place manager.host = .ok session ∧
      state.createSession manager session outcomes = some state' := by
  unfold step at moved
  dsimp only at moved
  cases place : spec.place manager.host with
  | ok session =>
    rw [place] at moved
    exact ⟨session, rfl, moved⟩
  | error =>
    rw [place] at moved
    cases moved

theorem ordered_step (ordered : state.Ordered manager) (clear : Clear manager state event)
    (moved : step manager state event = some state') : state'.Ordered manager := by
  cases event with
  | create =>
    rcases admit_of_step moved with ⟨session, place, entered⟩
    rcases guarded_eq_some_iff.mp entered with ⟨-, rfl⟩
    rcases clear session (by rw [place]; rfl) with ⟨-, ownGround, discerned⟩
    have placed := (placed_of_place place).1
    constructor
    · rw [past_close]
      exact forall_mem_cons.mpr ⟨placed, ordered.placed⟩
    · rw [past_close]
      exact forall_mem_cons.mpr ⟨ownGround, ordered.ownGround⟩
    · rw [past_close]
      intro first among second among' differ
      rcases mem_cons.mp among with rfl | old
      · rcases mem_cons.mp among' with rfl | old'
        · exact absurd rfl differ
        · exact (discerned second old' differ.symm).1
      · rcases mem_cons.mp among' with rfl | old'
        · exact (discerned first old differ).2
        · exact ordered.discerned first old second old' differ
    · intro other member
      rw [past_close]
      rcases mem_of_mem_close member with kept | kept
      · rcases mem_cons.mp kept with rfl | old
        · exact mem_cons_self
        · exact mem_cons_of_mem _ (ordered.recorded other old)
      · exact mem_cons_of_mem _ (ordered.recorded other kept)
  | provision id gatewayOrigin outcomes =>
    rcases map_eq_some_iff.mp moved with ⟨session, _, rfl⟩
    exact ordered.close (Subset.refl _) (without_subset id) _
  | delete id outcomes =>
    rcases map_eq_some_iff.mp moved with ⟨session, _, rfl⟩
    exact ordered.close (without_subset id) (without_subset id) _
  | outside =>
    cases moved
    exact ⟨ordered.placed, ordered.ownGround, ordered.discerned, ordered.recorded⟩

theorem ordered_of_reaches {disk : Disk}
    (reached : Reaches (step manager) (Clear manager) (new disk) state) :
    state.Ordered manager := by
  induction reached with
  | refl => exact ordered_new disk
  | tail _ clear moved ih => exact ordered_step ih clear moved

section Foreign

variable {session : Placement} {root path : List String}

/-- Two sessions that differ in some way are beside each other. -/
theorem Ordered.beside (ordered : state.Ordered manager) {other : Placement} {β : Type}
    (view : Placement → β) (among : session ∈ state.past) (past : other ∈ state.past)
    (differ : view session ≠ view other) :
    session.Beside other manager.host ∧ other.Beside session manager.host := by
  have distinct : session ≠ other := fun same => differ (by rw [same])
  exact ⟨⟨ordered.placed session among, ordered.ownGround session among,
      ordered.discerned session among other past distinct⟩,
    ordered.placed other past, ordered.ownGround other past,
    ordered.discerned other past session among distinct.symm⟩

/-- A session and a live one with another id are beside each other. -/
theorem Ordered.besideLive (ordered : state.Ordered manager) {other : Placement}
    (among : session ∈ state.past) (live : other ∈ state.live)
    (differ : session.spec.id ≠ other.spec.id) :
    session.Beside other manager.host ∧ other.Beside session manager.host :=
  ordered.beside (·.spec.id) among (ordered.recorded other live) differ

variable (ordered : state.Ordered manager) (among : session ∈ state.past)

include ordered among

/-- What a session works in besides its workspace belongs to no other. -/
theorem not_prefix_of_sited
    (sited : session.Sited manager.host root) (foreign : state.foreign manager session path) :
    ¬root <+: path := by
  intro reached
  rcases sited with ⟨site, works, above⟩
  have below := above.trans reached
  have placed := ordered.placed session among
  have ownGround := ordered.ownGround session among
  rcases foreign with ⟨other, live, differ, inside⟩ | ⟨other, past, differ, inside⟩ |
    ⟨other, past, envId, env, unused, inside⟩ | ⟨tree, common, inside, outside⟩
  · rcases ordered.besideLive among live differ with ⟨beside, beside'⟩
    exact (apart_site_runtimeDir beside beside' differ works).not_below below inside
  · rcases ordered.beside (·.spec.workspace) among past differ with ⟨beside, beside'⟩
    exact (apart_site_workspace beside beside' differ works).not_below below inside
  · have distinct : session ≠ other := by
      rintro rfl
      exact unused env
    exact (apart_site_environment placed ownGround works
      (names_of_foreign (ordered.discerned session among other past distinct) env
        unused)).not_below below inside
  · rcases territory_of_site ownGround inside works below common with ⟨own, mine, reached⟩
    exact outside own mine reached

/-- What lies in a session's workspace, apart from the runtime directories of others,
belongs to no other. -/
theorem not_prefix_of_workspace (inside : session.workDir <+: root)
    (apart : ∀ other ∈ state.live, session.spec.id ≠ other.spec.id → Apart root other.runtimeDir)
    (foreign : state.foreign manager session path) : ¬root <+: path := by
  intro reached
  have placed := ordered.placed session among
  have ownGround := ordered.ownGround session among
  have below := inside.trans reached
  rw [workDir_of_placed placed] at below
  rcases foreign with ⟨other, live, differ, inside⟩ | ⟨other, past, differ, inside⟩ |
    ⟨other, past, envId, env, unused, inside⟩ | ⟨tree, common, inside, outside⟩
  · exact (apart other live differ).not_below reached inside
  · rcases ordered.beside (·.spec.workspace) among past differ with ⟨beside, beside'⟩
    exact (apart_workspaces beside beside' differ).not_below below inside
  · have distinct : session ≠ other := by
      rintro rfl
      exact unused env
    exact (apart_workspace_environment ownGround
      (names_of_foreign (ordered.discerned session among other past distinct) env
        unused)).not_below below inside
  · rcases territory_of_workspace ownGround inside placed below common with ⟨own, mine, reached⟩
    exact outside own mine reached

/-- A workspace of one's own, or one kept by an environment, holds no runtime
directory of others. -/
theorem apart_runtimeDir_of_workspace (free : state.alone session ∨ session.spec.envBacked)
    (inside : session.workDir <+: root) :
    ∀ other ∈ state.live, session.spec.id ≠ other.spec.id → Apart root other.runtimeDir := by
  intro other live differ
  rcases ordered.besideLive among live differ with ⟨beside, beside'⟩
  rw [workDir_of_placed beside.placed] at inside
  apply Apart.mono _ inside prefix_rfl
  rcases free with alone | backed
  · exact (apart_runtimeDir_workspace beside' beside (alone other live differ).symm).symm
  · exact apart_workspace_runtimeDir beside.ownGround backed beside'.placed beside'.ownGround

end Foreign

section Provisioning

variable {session : Placement} {disk : Disk} {paths : List String → Prop}

variable {dir : List String} {gatewayOrigin : String}

/-- In an initialized working tree there is nothing to do. -/
theorem secures_hostWorkspaceInitialized (ready : state.initialized dir) :
    (hostWorkspaceInitialized dir).Secures (.alone Prog.linkFree (Kept paths))
      (fun result later => later = state.disk ∧ ∀ found, result = .ok found → found = true)
      state.disk := by
  rcases ready with ⟨isDir, name, present, content⟩
  have read : (Prog.readDir dir : FileM _).Secures (.alone Prog.linkFree (Kept paths))
      (fun result later => later = state.disk ∧ ∀ reply, result = .ok reply →
        (∃ reason, reply = .error (.fault reason)) ∨
          ∃ entries, reply = .ok entries ∧ ∃ entry ∈ entries, entry.1 ∉ scratchNames)
      state.disk := by
    apply Prog.secures_readDir
    · exact fun later _ => .refl later
    · rintro later outcome after rfl direct rfl
      refine ⟨rfl, ?_⟩
      rintro reply same
      cases same
      rcases Op.reply_cases (.readDir dir) outcome state.disk with answered | ⟨reason, refused⟩
      · right
        rw [answered, Op.answer, Tree.answerAt_of_direct direct, isDir]
        exact ⟨_, rfl, _, mem_map_of_mem present, content⟩
      · left
        rw [refused]
        exact ⟨reason, rfl⟩
  apply read.andThen
  · rintro reply later ⟨rfl, known⟩
    rcases known reply rfl with ⟨reason, rfl⟩ | ⟨entries, rfl, entry, member, content⟩
    · exact .fail fun later same => ⟨same.symm, fun found ended => by cases ended⟩
    · apply Prog.Secures.ret
      rintro later rfl
      refine ⟨rfl, ?_⟩
      rintro found same
      cases same
      exact any_eq_true.mpr ⟨entry, member, by simpa using content⟩
  · rintro error later ⟨rfl, -⟩
    exact ⟨rfl, fun found ended => by cases ended⟩

theorem secures_provisionGit (ready : state.initialized dir) (codec : Codec) (url : String)
    (git : GitRevision) :
    (provisionGit codec dir url git).Secures (.alone Prog.linkFree (Kept paths))
      (fun _ later => later = state.disk) state.disk := by
  apply (secures_hostWorkspaceInitialized ready).andThen
  · rintro found later ⟨rfl, known⟩
    rw [known found rfl, if_pos rfl]
    exact .ret fun later same => same.symm
  · rintro error later ⟨rfl, -⟩
    rfl

/-- Checking out into an initialized working tree changes nothing. -/
theorem secures_checkout (bare : ¬session.spec.envBacked)
    (ready : session.spec.hasGit → state.initialized session.workDir) :
    (manager.checkout session).Secures (.alone Prog.linkFree (Kept paths))
      (fun _ later => later = state.disk) state.disk := by
  have internal : ¬session.spec.externalWorktreePath ≠ "" := fun external =>
    bare (by simp [SessionSpec.envBacked, external])
  have detached : ¬session.spec.worktreeEnvId ≠ "" := fun worktree =>
    bare (by simp [SessionSpec.envBacked, (worktreeEnvId_ne_iff _).mp worktree])
  unfold checkout
  rw [if_neg internal, if_neg detached]
  by_cases git : session.spec.hasGit
  · rw [if_pos git]
    apply (secures_provisionGit (ready git) manager.codec _ _).mapError
    · exact fun _ _ same => same
    · exact fun _ _ same => same
  · rw [if_neg git]
    exact .ret fun later same => same.symm

/-- A dependency is laid down away from the runtime directories of others. -/
theorem apart_dependency (ordered : state.Ordered manager) (among : session ∈ state.past)
    {other : Placement} (live : other ∈ state.live) (differ : session.spec.id ≠ other.spec.id)
    (bare : ¬session.spec.envBacked) {name : String} (elsewhere : name ≠ ".agent-compose") :
    Apart (session.workDir ++ [name]) other.runtimeDir := by
  rcases ordered.besideLive among live differ with ⟨beside, beside'⟩
  rw [workDir_of_placed beside.placed]
  by_cases same : session.spec.workspace = other.spec.workspace
  · exact apart_dependency_runtimeDir beside'.placed bare same elsewhere
  · apply Apart.mono _ (prefix_append _ _) prefix_rfl
    exact (apart_runtimeDir_workspace beside' beside (Ne.symm same)).symm

/-- What follows the checkout. -/
theorem preserves_configured
    (sited : ∀ path, paths path → ∀ root ∈ manager.configRoots session, ¬root <+: path)
    (laid : ∀ path, paths path → ∀ root ∈ manager.dependencyRoots session, ¬root <+: path) :
    (do
      provisionAssociatedRepos manager.codec session.workDir session.spec.env
      let _ ← (manager.applyInitialConfig session gatewayOrigin).attempt
      pure () : FileM Unit).Issues (Preserves paths) := by
  apply ((manager.within_dependencies session).preserves laid).andThen
  intro _
  apply ((manager.within_applyInitialConfig session gatewayOrigin).preserves sited).attempt.andThen
  intro _
  exact .ret

/-- Provisioning a session whose workspace may be laid down leaves what belongs to
others in place. -/
theorem kept_provision (ordered : state.Ordered manager) (live : session ∈ state.live)
    (layable : state.layable manager session) {prog : FileM Unit}
    (steps : Prog.Steps Prog.linkFree (manager.provisionSession session gatewayOrigin)
      state.disk prog disk) : Kept (state.foreign manager session) state.disk disk := by
  have among := ordered.recorded session live
  have placed := ordered.placed session among
  have config : ∀ path, state.foreign manager session path →
      ∀ root ∈ manager.configRoots session, ¬root <+: path := fun path foreign root member =>
    not_prefix_of_sited ordered among (sited_configRoots placed root member) foreign
  have after : ∀ root ∈ manager.checkoutRoots session ++ manager.dependencyRoots session,
      (session.workDir <+: root → ∀ other ∈ state.live, session.spec.id ≠ other.spec.id →
        Apart root other.runtimeDir) →
      ∀ path, state.foreign manager session path → ¬root <+: path := by
    intro root member apart path foreign
    rcases sited_laid root member with sited | inside
    · exact not_prefix_of_sited ordered among sited foreign
    · exact not_prefix_of_workspace ordered among inside (apart inside) foreign
  by_cases free : state.alone session ∨ session.spec.envBacked
  · apply Prog.Issues.kept_of_steps _ steps
    apply (manager.within_provisionSession session gatewayOrigin).preserves
    intro path foreign root member
    rcases mem_append.mp member with laid | configured
    · exact after root laid (apart_runtimeDir_of_workspace ordered among free) path foreign
    · exact config path foreign root configured
  have bare : ¬session.spec.envBacked := fun backed => free (.inr backed)
  have ready : (session.spec.hasGit → state.initialized session.workDir) ∧
      ∀ dependency ∈ session.spec.env.filterMap manager.codec.dependency,
        dependency.subdir ≠ ".agent-compose" := by
    rcases layable with alone | backed | ready
    · exact absurd (.inl alone) free
    · exact absurd backed bare
    · exact ready
  have secures : (manager.provisionSession session gatewayOrigin).Secures
      (.alone Prog.linkFree (Kept (state.foreign manager session))) (fun _ _ => True)
      state.disk := by
    apply (secures_checkout bare ready.1).andThen
    · rintro _ later rfl
      apply (preserves_configured config _).secures trivial (fun _ _ _ _ => trivial)
      · exact fun op outcome later preserves direct _ =>
          ⟨trivial, preserves.kept direct outcome⟩
      · intro path foreign root member
        apply after root (mem_append_right _ member) _ path foreign
        intro _ other live' differ
        rcases mem_map.mp member with ⟨dependency, listed, rfl⟩
        exact apart_dependency ordered among live' differ bare (ready.2 dependency listed)
    · exact fun _ _ _ => trivial
  exact secures.guar_of_steps steps (fun tree => .refl tree) Kept.trans

end Provisioning

section Deletion

variable {session : Placement} {disk : Disk}

/-- Nobody shares a workspace that is named after its session. -/
theorem alone_of_removesWorkDir (owned : session.spec.removesWorkDir) : state.alone session := by
  intro other _ differ same
  have works := session.spec.works
  have works' := other.spec.works
  rw [same] at works
  have unshared : session.spec.workspaceOwned = true ∧
      session.spec.persistentWorkspace = false := by
    simpa [removesWorkDir] using owned
  generalize other.spec.workspace = workspace at works works'
  cases works with
  | external external => simp [workspaceOwned, external] at unshared
  | worktree _ worktree => simp [workspaceOwned, worktree] at unshared
  | task _ task => simp [workspaceOwned, task] at unshared
  | editor _ editor => simp [workspaceOwned, editor] at unshared
  | own => exact differ works'.id_eq

variable {path : List String}

/-- What lies in a workspace that nobody shares belongs to no other. -/
theorem not_prefix_of_unshared (ordered : state.Ordered manager) (among : session ∈ state.past)
    (alone : state.alone session) {root : List String} (inside : session.workDir <+: root)
    (other : state.foreign manager session path ∨ state.shared session path) : ¬root <+: path := by
  rcases other with foreign | ⟨other, live, differ, within, -⟩
  · exact not_prefix_of_workspace ordered among inside
      (apart_runtimeDir_of_workspace ordered among (.inl alone) inside) foreign
  · intro reached
    rcases ordered.besideLive among live differ with ⟨beside, beside'⟩
    have apart := apart_workspaces beside beside' (alone other live differ)
    rw [← workDir_of_placed beside.placed, ← workDir_of_placed beside'.placed] at apart
    exact apart.not_below (inside.trans reached) within

/-- The registrations of worktrees belong to no other. -/
theorem not_prefix_of_repository (ordered : state.Ordered manager) (among : session ∈ state.past)
    (alone : state.alone session) (worktree : session.spec.usesWorktree) {rest : List String}
    (other : state.foreign manager session path ∨ state.shared session path) :
    ¬session.spec.worktreeRepoDir manager.host ++ ".git" :: rest <+: path := by
  have sited : session.Sited manager.host
      (session.spec.worktreeRepoDir manager.host ++ ".git" :: rest) := sited_repository worktree
  rcases other with foreign | ⟨other, live, differ, within, -⟩
  · exact not_prefix_of_sited ordered among sited foreign
  · intro reached
    rcases sited with ⟨site, works, above⟩
    rcases ordered.besideLive among live differ with ⟨beside, beside'⟩
    have apart := apart_site_workspace beside beside' (alone other live differ) works
    rw [← workDir_of_placed beside'.placed] at apart
    exact apart.not_below (above.trans reached) within

theorem workDir_of_usesWorktree (placed : session.Placed manager.host)
    (worktree : session.spec.usesWorktree) :
    session.workDir = manager.host.envWorktreeDir session.spec.worktreeEnvId
      (trimSpace session.spec.taskId) := by
  have internal : ¬session.spec.externalWorktreePath ≠ "" := by
    intro external
    have mode : session.spec.workspaceMode = "worktree" := by
      simp only [usesWorktree, decide_eq_true_eq] at worktree
      exact worktree.1
    apply external
    rw [externalWorktreePath, if_pos]
    rw [mode]
    decide
  rw [placed.workDir, SessionSpec.workDir, if_neg internal, if_pos worktree,
    worktreeEnvId, if_pos worktree]

/-- Deleting a session whose worktree nobody shares leaves what belongs to others in
place. -/
theorem kept_delete (ordered : state.Ordered manager) (live : session ∈ state.live)
    (alone : session.spec.usesWorktree → state.alone session) {prog : FileM Unit}
    (steps : Prog.Steps Prog.linkFree (manager.delete session) state.disk prog disk) :
    Kept (fun path => state.foreign manager session path ∨ state.shared session path)
      state.disk disk := by
  have among := ordered.recorded session live
  have placed := ordered.placed session among
  apply Prog.Issues.kept_of_steps _ steps
  apply (manager.within_delete session).preserves
  intro path other root member
  rcases mem_cons.mp member with rfl | detached
  · unfold removeDir
    by_cases owned : session.spec.removesWorkDir
    · rw [if_pos owned]
      exact not_prefix_of_unshared ordered among (alone_of_removesWorkDir owned) prefix_rfl other
    · rw [if_neg owned]
      rcases other with foreign | ⟨_, _, _, _, outside⟩
      · exact not_prefix_of_sited ordered among ⟨_, .runtime, prefix_rfl⟩ foreign
      · exact outside
  · split_ifs at detached with attached
    · have worktree := (worktreeEnvId_ne_iff _).mp attached
      simp only [detachRoots, mem_cons, not_mem_nil, or_false] at detached
      rcases detached with same | same
      · rw [same, ← workDir_of_usesWorktree placed worktree]
        exact not_prefix_of_unshared ordered among (alone worktree) prefix_rfl other
      · rw [same]
        exact not_prefix_of_repository ordered among (alone worktree) worktree other
    · cases detached

end Deletion

/-- A session of no task. -/
def ownSpec : SessionSpec where
  sessionId := id
  provider := "claude"

/-- Where it lives. -/
def ownSession : Placement where
  spec := ownSpec id
  workDir := ["w", id]
  runtimeDir := ["w", id, ".agent-compose", "sessions", id]
  home := ["w", id, ".agent-compose", "sessions", id, "home"]

/-- A session in a worktree, with a dependency whose name a directory of the repository
has. -/
def linkedSession : Placement :=
  { worktreeSession "s" with
    spec := { (worktreeSession "s").spec with
      git := some "https://host/repo.git"
      env := [⟨"AI_LUBRICANT_DEP_PLACEHOLDER_0", "docs|node_modules"⟩] } }

/-- The environment of the session. -/
def repositoryDisk : Disk :=
  ⟨[(["w"], .dir), (["w", "envs"], .dir), (["w", "envs", "e"], .dir),
    (["w", "envs", "e", "repo"], .dir), (["w", "envs", "e", "repo", ".git"], .dir),
    (["w", "envs", "e", "repo", "node_modules"], .dir),
    (["w", "envs", "e", "repo", "node_modules", "README.md"], .file (.text "a package"))]⟩

-- The worktree links to the directory, and the dependency is then written through the link.
example :
    let program := (Manager.plain plainHost).provisionSession linkedSession ""
    let readme := ["w", "envs", "e", "repo", "node_modules", "README.md"]
    program.direct (smooth 30) repositoryDisk = false ∧
      (program.exec (smooth 30) repositoryDisk).2.lookup readme ≠
        repositoryDisk.lookup readme := by
  decide +kernel

/-- No session names the directory of an editor. -/
def untagged : Event → Bool
  | .create spec _ => trimSpace (spec.tag "editor_workdir") = ""
  | _ => true

/-- A session of a task with a repository. -/
def clonedSpec : SessionSpec :=
  { taskSpec "r" [] with git := some "https://host/repo.git" }

/-- Where it lives: in the workspace of `taskSession`. -/
def clonedSession : Placement where
  spec := clonedSpec
  workDir := ["w", "tasks", "t"]
  runtimeDir := ["w", "tasks", "t", ".agent-compose", "sessions", "r"]
  home := ["w", "tasks", "t", ".agent-compose", "sessions", "r", "home"]

end Estate

end LubricantNodes.Execution
