import LubricantNodes.Execution.Durable

/-!
# Homes that are not the session's own

A system session runs in the operator's HOME and a shared one in the HOME of its
environment.  This module says which commands leave those homes alone, however
their file operations interleave and whenever the node crashes, as long as no
operation is led through a symbolic link.
-/

namespace LubricantNodes.Execution

open Go Files Transition List SessionSpec Manager

/-! ## The operator's HOME -/

variable (home : List String)

/-- The files below a HOME that are not a session's own. -/
def operatorFiles (session : Placement) (path : List String) : Prop :=
  home <+: path ∧ path ≠ home ∧ ¬session.runtimeDir <+: path
  deriving Decidable

/-- The command writes no config file of a provider, and what it checks out lies
apart from the session's HOME. -/
def Manager.sparesHome (manager : Manager) (session : Placement) : DiskCommand → Prop
  | .provision _ =>
    session.writesLLM session.spec.llm = false ∧
      ∀ root ∈ manager.checkoutRoots session ++ manager.dependencyRoots session,
        Apart root session.home
  | .configureLLM llm => session.writesLLM llm = false
  | .delete => False
  | _ => True

section System

variable {manager : Manager} {session : Placement} {path root : List String}

/-- The runtime directory holds none of the operator's files. -/
theorem apart_of_runtimeDir (outside : ¬session.home <+: session.runtimeDir)
    (operator : operatorFiles session.home session path) (below : session.runtimeDir <+: root) :
    Apart root path := by
  have inside : ¬path <+: session.runtimeDir := fun above => outside (operator.1.trans above)
  have apart : Apart session.runtimeDir path := ⟨operator.2.2, inside⟩
  exact apart.mono below prefix_rfl

theorem runtimeDir_below_workDir (placed : session.Placed manager.host)
    (bare : ¬session.spec.envBacked) : session.workDir <+: session.runtimeDir := by
  rw [placed.workDir, placed.runtimeDir, runtimeDir, if_neg bare]
  exact prefix_append _ _

/-- `create` makes no directory among the operator's files. -/
theorem spares_create (placed : session.Placed manager.host)
    (outside : ¬session.home <+: session.runtimeDir) :
    (manager.prepareDirs session).Issues (Spares (operatorFiles session.home session)) := by
  apply (manager.makes_prepareDirs session).mono
  rintro op ⟨dir, member, rfl⟩ path operator above
  rcases mem_append.mp member with own | work
  · simp only [mem_cons, not_mem_nil, or_false] at own
    rcases own with rfl | rfl | rfl | rfl
    · exact (apart_of_runtimeDir outside operator (prefix_append _ _)).2 above
    · exact operator.2.1 (operator.1.eq_of_length
        (operator.1.length_le.antisymm above.length_le)).symm
    · exact (apart_of_runtimeDir outside operator (prefix_append _ _)).2 above
    · exact (apart_of_runtimeDir outside operator (prefix_append _ _)).2 above
  · split_ifs at work with backed
    · cases work
    · rw [mem_singleton.mp work] at above
      exact outside (operator.1.trans (above.trans (runtimeDir_below_workDir placed backed)))

/-- What a sparing command on a system session works in, besides making
directories, lies apart from the operator's files. -/
theorem apart_footprint_of_system (system : session.spec.isSystemEnv)
    (outside : ¬session.home <+: session.runtimeDir) {command : DiskCommand}
    (notCreate : command ≠ .create) (spares : manager.sparesHome session command) :
    ∀ root ∈ manager.footprint session command, ∀ path,
      operatorFiles session.home session path → Apart root path := by
  have shared : ¬session.spec.ownsHomeResources := by
    simp [ownsHomeResources, system]
  have state : session.runtimeDir <+: agentFiles session.stateRoot := by
    rw [agentFiles, Placement.stateRoot, append_assoc]
    exact prefix_append _ _
  have agent {roots : List (List String)} (own : roots = [agentFiles session.stateRoot]) :
      ∀ root ∈ roots, ∀ path, operatorFiles session.home session path → Apart root path := by
    rw [own]
    intro root member path operator
    rw [mem_singleton.mp member]
    exact apart_of_runtimeDir outside operator state
  cases command with
  | create => exact absurd rfl notCreate
  | provision gatewayOrigin =>
    rcases spares with ⟨silent, apart⟩
    have config : manager.configRoots session = [agentFiles session.stateRoot] := by
      rw [configRoots, if_pos system, llmRoots, if_neg (by simp [silent])]
    intro root member path operator
    rcases mem_append.mp member with laid | own
    · exact (apart root laid).mono prefix_rfl operator.1
    · exact agent config root own path operator
  | configureLLM llm =>
    have silent : manager.footprint session (.configureLLM llm) = [] := by
      rw [footprint, llmRoots, if_neg]
      rw [show session.writesLLM llm = false from spares]
      exact Bool.false_ne_true
    rw [silent]
    exact forall_mem_nil _
  | applyMCPs => exact agent (by rw [footprint, mcpRoots, if_neg shared])
  | applySkills => exact agent (by rw [footprint, skillRoots, if_pos system])
  | applyPlugins => exact agent (by rw [footprint, pluginRoots, if_pos system])
  | configureMode mode => exact forall_mem_nil _
  | delete => exact absurd spares id

/-- A sparing command on a system session spares the operator's files. -/
theorem spares_of_system (placed : session.Placed manager.host)
    (system : session.spec.isSystemEnv) (outside : ¬session.home <+: session.runtimeDir)
    (command : DiskCommand) (spares : manager.sparesHome session command) :
    (manager.program session command).Issues (Spares (operatorFiles session.home session)) := by
  by_cases create : command = .create
  · rw [create]
    exact spares_create placed outside
  · apply (manager.within_program session command).spares
    intro path operator root member
    exact apart_footprint_of_system system outside create spares root member path operator

/-- In every run whose commands write no provider's config file and check nothing
out in the HOME, and whose operations meet no link, a system session leaves the
operator's files alone. -/
theorem operator_home_untouched (placed : session.Placed manager.host)
    (system : session.spec.isSystemEnv) {home : String}
    (operator : manager.host.userHome = .ok home)
    (outside : ¬pathOf home <+: session.runtimeDir)
    {source target : Pool String Content Request Answer Failure}
    (reached : Reaches (Pool.step (manager.program session))
      (Pool.Starts (manager.sparesHome session)) source target)
    (idle : source.threads = []) :
    Agree (operatorFiles (pathOf home) session) source.tree target.tree := by
  rw [← placed.home_of_system system operator] at outside ⊢
  exact Pool.agree_of_starts (spares_of_system placed system outside) reached idle

end System

/-- A system session of a task. -/
def systemSpec (provider : String) : SessionSpec :=
  { taskSpec "s" [] with provider := provider, envMode := "system" }

/-- Where it lives. -/
def systemSession (provider : String) : Placement :=
  { taskSession with spec := systemSpec provider, home := ["home", "op"] }

/-- An endpoint for a provider. -/
def gatewayLLM : LLMConfig where
  endpoint := "https://gw"
  model := "m"

/-- A codex session that gets MCP servers writes its own state only. -/
theorem operator_home_untouched_mcps :
    (systemSpec "codex").place systemHost = .ok (systemSession "codex") ∧
      ∃ target, Reaches (Pool.step ((Manager.plain systemHost).program (systemSession "codex")))
          (Pool.Starts ((Manager.plain systemHost).sparesHome (systemSession "codex")))
          { tree := ⟨[]⟩, threads := [] } target ∧
        (target.tree.lookup (agentFiles (systemSession "codex").stateRoot)).isSome ∧
        Agree (operatorFiles (pathOf "/home/op") (systemSession "codex")) ⟨[]⟩ target.tree := by
  have placed : (systemSpec "codex").place systemHost = .ok (systemSession "codex") := by
    decide +kernel
  have reached : Reaches (Pool.step ((Manager.plain systemHost).program (systemSession "codex")))
      (Pool.Starts ((Manager.plain systemHost).sparesHome (systemSession "codex"))) _ _ :=
    Pool.reaches_of_exec (DiskCommand.applyMCPs "" [{ name := "m", command := "c" }]) (smooth 2)
      ⟨[]⟩ (by trivial) (by decide +kernel)
  refine ⟨placed, _, reached, by decide +kernel, ?_⟩
  exact operator_home_untouched (placed_of_place placed).1 (by decide +kernel) rfl
    (by decide +kernel) reached rfl

/-- Configuring the endpoint of a codex session writes into the operator's HOME. -/
theorem operator_home_not_untouched : ¬∀ (manager : Manager) (session : Placement) (home : String)
        (source target : Pool String Content Request Answer Failure),
      session.Placed manager.host → session.spec.isSystemEnv →
      manager.host.userHome = .ok home → ¬pathOf home <+: session.runtimeDir →
      Reaches (Pool.step (manager.program session)) (Pool.Starts (· ≠ .delete)) source target →
      source.threads = [] →
      Agree (operatorFiles (pathOf home) session) source.tree target.tree := by
  intro untouched
  have placed : (systemSpec "codex").place systemHost = .ok (systemSession "codex") := by
    decide +kernel
  have same := untouched (.plain systemHost) (systemSession "codex") "/home/op" _ _
    (placed_of_place placed).1 (by decide +kernel) rfl (by decide +kernel)
    (Pool.reaches_of_exec (.configureLLM (some gatewayLLM)) (smooth 8) ⟨[]⟩ DiskCommand.noConfusion
      (by decide +kernel)) rfl ["home", "op", ".codex", "config.toml"] (by decide +kernel)
  exact absurd same (by decide +kernel)

/-! ## The HOME of an environment -/

/-- The skill and plugin trees below a HOME. -/
def resourceTrees : List (List String) :=
  [home ++ [".claude", "skills"], home ++ [".agents", "skills"],
    home ++ [".gemini", "extensions"], home ++ [".agents", "plugins"]]

theorem not_prefix_of_mem_resourceTrees {home tree : List String}
    (member : tree ∈ resourceTrees home) : ¬tree <+: home := by
  intro above
  have shorter := above.length_le
  simp only [resourceTrees, mem_cons, not_mem_nil, or_false] at member
  rcases member with rfl | rfl | rfl | rfl <;> rw [length_append] at shorter <;>
    exact absurd shorter (Nat.not_le.mpr (Nat.lt_add_of_pos_right (by decide)))

/-- The files in them. -/
def resourceFiles (path : List String) : Prop :=
  ∃ tree ∈ resourceTrees home, tree <+: path

/-- The session runs in the HOME of an environment. -/
structure Placement.OnEnvironment (session : Placement) (host : Host) (envId : String) :
    Prop where
  placed : session.Placed host
  shared : session.spec.isSharedEnv
  envId : trimSpace session.spec.envId = envId

/-- The commands of `create`, and those that apply resources. -/
def DiskCommand.appliesResources : DiskCommand → Bool
  | .create | .provision _ | .applySkills _ | .applyPlugins _ => true
  | _ => false

/-- The command applies no resources, and what it checks out lies apart from the
resources of the HOME. -/
def Manager.sparesResources (manager : Manager) (session : Placement) : DiskCommand → Prop
  | .provision _ =>
    ∀ root ∈ manager.checkoutRoots session ++ manager.dependencyRoots session,
      ∀ tree ∈ resourceTrees session.home, Apart root tree
  | .applySkills _ | .applyPlugins _ | .delete => False
  | _ => True

section Shared

variable {manager : Manager} {session : Placement} {envId : String} {path root : List String}

/-- A runtime directory is none of an environment's resources, nor does it hold
any. -/
theorem apart_runtimeDir_resources (spec : SessionSpec) (host : Host) {tree : List String}
    (member : tree ∈ resourceTrees (host.envDir envId)) : Apart (spec.runtimeDir host) tree := by
  have undotted : sanitizeSessionDir envId ≠ ".agent-compose" :=
    sanitizeSessionDir_ne (by decide) envId
  simp only [resourceTrees, Host.envDir, append_assoc, mem_cons, not_mem_nil, or_false] at member
  by_cases backed : spec.envBacked
  · rw [spec.runtimeDir_of_envBacked host backed, runtimeName, append_assoc]
    rcases member with rfl | rfl | rfl | rfl <;>
      simp [Apart]
  · rw [spec.runtimeDir_of_not_envBacked host backed, runtimeName]
    rcases spec.workspace_of_not_envBacked host backed with ⟨base, same, id, rfl | rfl⟩ <;>
      rw [same, append_assoc] <;> rcases member with rfl | rfl | rfl | rfl <;>
      simp [Apart, undotted, undotted.symm]

theorem apart_nativeFiles_resources (home : List String) :
    ∀ root ∈ nativeFiles home, ∀ tree ∈ resourceTrees home, Apart root tree := by
  simp [nativeFiles, resourceTrees, codexFiles, openCodeFiles, Apart]

section Environment

variable (on : session.OnEnvironment manager.host envId)

include on

theorem home_on_environment :
    session.spec.isSystemEnv = false ∧ session.home = manager.host.envDir envId := by
  rw [← on.envId]
  exact on.placed.home_of_shared on.shared

/-- What a sparing command on a shared session works in, besides making
directories, lies apart from the resources. -/
theorem apart_footprint_of_shared {command : DiskCommand} (notCreate : command ≠ .create)
    (spares : manager.sparesResources session command) :
    ∀ root ∈ manager.footprint session command,
      ∀ tree ∈ resourceTrees (manager.host.envDir envId), Apart root tree := by
  rcases home_on_environment on with ⟨notSystem, home⟩
  have notOwned : ¬session.spec.ownsHomeResources := by
    simp [ownsHomeResources, on.shared]
  have native : ∀ root ∈ nativeFiles session.home,
      ∀ tree ∈ resourceTrees (manager.host.envDir envId), Apart root tree := by
    rw [home]
    exact apart_nativeFiles_resources _
  have agent : ∀ tree ∈ resourceTrees (manager.host.envDir envId),
      Apart (agentFiles session.stateRoot) tree := by
    intro tree member
    have apart := apart_runtimeDir_resources session.spec manager.host member
    rw [← on.placed.runtimeDir] at apart
    apply apart.mono _ prefix_rfl
    rw [agentFiles, Placement.stateRoot, append_assoc]
    exact prefix_append _ _
  cases command with
  | create => exact absurd rfl notCreate
  | provision gatewayOrigin =>
    have config : manager.configRoots session =
        agentFiles session.stateRoot :: nativeFiles session.home := by
      rw [configRoots, if_neg (by simp [notSystem]), initialRoots, if_neg notOwned, append_nil]
    intro root member
    rcases mem_append.mp member with laid | written
    · rw [← home]
      exact spares root laid
    · rw [config] at written
      rcases mem_cons.mp written with rfl | file
      · exact agent
      · exact native root file
  | configureLLM llm =>
    intro root member
    rw [footprint, llmRoots] at member
    split_ifs at member
    · exact native root member
    · cases member
  | applyMCPs =>
    rw [footprint, mcpRoots, if_neg notOwned]
    intro root member
    rw [mem_singleton.mp member]
    exact agent
  | applySkills skills => exact absurd spares id
  | applyPlugins plugins => exact absurd spares id
  | configureMode mode => exact forall_mem_nil _
  | delete => exact absurd spares id

/-- `create` makes no directory among the resources. -/
theorem spares_resources_create :
    (manager.prepareDirs session).Issues (Spares (resourceFiles (manager.host.envDir envId))) := by
  have apart : ∀ {tree}, tree ∈ resourceTrees (manager.host.envDir envId) →
      Apart session.runtimeDir tree := by
    rw [on.placed.runtimeDir]
    exact apart_runtimeDir_resources session.spec manager.host
  apply (manager.makes_prepareDirs session).mono
  rintro op ⟨dir, member, rfl⟩ path ⟨tree, among, inside⟩ above
  have reached : tree <+: dir := inside.trans above
  rcases mem_append.mp member with own | work
  · simp only [mem_cons, not_mem_nil, or_false] at own
    rcases own with rfl | rfl | rfl | rfl
    · exact ((apart among).mono (prefix_append _ _) prefix_rfl).2 reached
    · rw [(home_on_environment on).2] at reached
      exact not_prefix_of_mem_resourceTrees among reached
    · exact ((apart among).mono (prefix_append _ _) prefix_rfl).2 reached
    · exact ((apart among).mono (prefix_append _ _) prefix_rfl).2 reached
  · split_ifs at work with backed
    · cases work
    · rw [mem_singleton.mp work] at reached
      exact (apart among).2 (reached.trans (runtimeDir_below_workDir on.placed backed))

/-- A sparing command on a shared session spares the resources. -/
theorem spares_of_shared (command : DiskCommand)
    (spares : manager.sparesResources session command) :
    (manager.program session command).Issues
      (Spares (resourceFiles (manager.host.envDir envId))) := by
  by_cases create : command = .create
  · rw [create]
    exact spares_resources_create on
  · apply (manager.within_program session command).spares
    rintro path ⟨tree, among, inside⟩ root member
    exact (apart_footprint_of_shared on create spares root member tree among).mono prefix_rfl inside

end Environment

/-- In every run whose commands, on any sessions of an environment, apply no
resources and check nothing out among them, and whose operations meet no link, the
resources of the environment are left alone. -/
theorem environment_resources_untouched {source target : Pool String Content Request Answer Failure}
    (reached : Reaches (Pool.step fun job : Placement × DiskCommand => manager.program job.1 job.2)
      (Pool.Starts fun job =>
        job.1.OnEnvironment manager.host envId ∧ manager.sparesResources job.1 job.2)
      source target)
    (idle : source.threads = []) :
    Agree (resourceFiles (manager.host.envDir envId)) source.tree target.tree :=
  Pool.agree_of_starts (fun job met => spares_of_shared met.1 job.2 met.2) reached idle

end Shared

/-- A session of a task in a shared environment. -/
def sharedSpec (id : String) : SessionSpec :=
  { taskSpec id [] with envMode := "shared", envId := "e" }

/-- Where it lives. -/
def sharedSession (id : String) : Placement where
  spec := sharedSpec id
  workDir := ["w", "tasks", "t"]
  runtimeDir := ["w", "tasks", "t", ".agent-compose", "sessions", id]
  home := ["w", "envs", "e"]

/-- An environment with a skill. -/
def skilledDisk : Disk :=
  ⟨[(["w", "envs", "e", ".claude", "skills", "x", "SKILL.md"], .file (.text "x")),
    (["w", "envs", "e", ".claude", "skills", "x"], .dir),
    (["w", "envs", "e", ".claude", "skills"], .dir)]⟩

theorem onEnvironment_sharedSession {id : String}
    (placed : (sharedSpec id).place plainHost = .ok (sharedSession id)) :
    (sharedSession id).OnEnvironment plainHost "e" where
  placed := (SessionSpec.placed_of_place placed).1
  shared := by
    dsimp only [sharedSession, sharedSpec, isSharedEnv]
    decide +kernel
  envId := by
    dsimp only [sharedSession, sharedSpec]
    decide +kernel

/-- Creating a session in an environment leaves its skill alone. -/
theorem environment_resources_untouched_create :
    (sharedSpec "s").place plainHost = .ok (sharedSession "s") ∧ ∃ target, Reaches
          (Pool.step fun job : Placement × DiskCommand =>
            (Manager.plain plainHost).program job.1 job.2)
          (Pool.Starts fun job => job.1.OnEnvironment plainHost "e" ∧
            (Manager.plain plainHost).sparesResources job.1 job.2)
          { tree := skilledDisk, threads := [] } target ∧
        target.tree.lookup (sharedSession "s").skillsDir = some .dir ∧
        Agree (resourceFiles ["w", "envs", "e"]) skilledDisk target.tree := by
  have placed : (sharedSpec "s").place plainHost = .ok (sharedSession "s") := by decide +kernel
  have reached : Reaches
      (Pool.step fun job : Placement × DiskCommand => (plain plainHost).program job.1 job.2)
      (Pool.Starts fun job => job.1.OnEnvironment plainHost "e" ∧
        (plain plainHost).sparesResources job.1 job.2) _ _ :=
    Pool.reaches_of_exec (sharedSession "s", DiskCommand.create) (smooth 8) skilledDisk
      ⟨onEnvironment_sharedSession placed, trivial⟩ (by decide +kernel)
  refine ⟨placed, _, reached, by decide +kernel, ?_⟩
  exact environment_resources_untouched reached rfl

/-- A session that is given an empty list of skills takes those of its environment
away from all. -/
theorem environment_resources_not_untouched : ¬∀ (manager : Manager) (envId : String)
        (source target : Pool String Content Request Answer Failure),
      Reaches (Pool.step fun job : Placement × DiskCommand => manager.program job.1 job.2)
        (Pool.Starts fun job =>
          job.1.OnEnvironment manager.host envId ∧ job.2.appliesResources)
        source target →
      source.threads = [] →
      Agree (resourceFiles (manager.host.envDir envId)) source.tree target.tree := by
  intro untouched
  have placed : (sharedSpec "s").place plainHost = .ok (sharedSession "s") := by decide +kernel
  have same := untouched (.plain plainHost) "e" _ _
    (Pool.reaches_of_exec (sharedSession "s", DiskCommand.applySkills []) (smooth 8) skilledDisk
      ⟨onEnvironment_sharedSession placed, rfl⟩ (by decide +kernel)) rfl
    ["w", "envs", "e", ".claude", "skills", "x"]
    ⟨["w", "envs", "e", ".claude", "skills"], mem_cons_self, by decide⟩
  exact absurd same (by decide +kernel)

end LubricantNodes.Execution
