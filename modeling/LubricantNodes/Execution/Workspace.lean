import LubricantNodes.Execution.EditorConfig

/-!
# Workspaces

The programs of the session commands that work on the disk: the directories
`create` makes, the checkout and the initial config of `provisionSession`, the
config commands, and `delete`.
-/

namespace LubricantNodes.Execution

open Go Files List Prog

/-! ## Checkouts -/

/-- The entries of a working tree that are not user content. -/
def scratchNames : List String :=
  [".agent-compose", ".agent-compose-git-clone"]

/-- `HostWorkspaceInitialized`. -/
def hostWorkspaceInitialized (workspaceRoot : List String) : FileM Bool := do
  match ← Prog.readDir workspaceRoot with
  | .error .notExist => pure false
  | .error (.fault reason) => .fail (failed "read workspace root: " (.fault reason))
  | .ok entries => pure (entries.any fun entry => entry.1 ∉ scratchNames)

/-- `ResetStaleWorkspace`. -/
def resetStaleWorkspace (workspaceRoot : List String) : FileM Unit := do
  match ← Prog.stat workspaceRoot with
  | .error .notExist => pure ()
  | .error (.fault reason) => .fail (failed "stat workspace root: " (.fault reason))
  | .ok _ =>
    Prog.removeAll (failed ("reset stale workspace " ++ render workspaceRoot ++ ": "))
      workspaceRoot

variable (codec : Codec) (workDir : List String) (url : String)

/-- The clone URL and the arguments that authenticate a git command. -/
def gitAuth (git : GitRevision) : String × List String :=
  let username := trimSpace git.username
  let password :=
    if trimSpace git.password = "" then trimSpace git.token else trimSpace git.password
  match codec.splitGitCredentialURL (trimSpace url) with
  | none => (trimSpace url, codec.gitAuthHeaderArgs username password (trimSpace url))
  | some (stripped, user, pass) =>
    if username = "" ∧ password = "" then (stripped, codec.gitAuthHeaderArgs user pass stripped)
    else (stripped, codec.gitAuthHeaderArgs username password stripped)

/-- `GitCloneArgs`. -/
def gitCloneArgs (branch : String) (clonePath : List String) : List String :=
  ["clone", "--depth", "1", "--recurse-submodules", "--shallow-submodules"] ++
    (if trimSpace branch ≠ "" then ["--branch", trimSpace branch] else []) ++
    [url, render clonePath]

/-- Check out the commit of a git spec. -/
def checkoutCommit (auth : List String) (commit : String) : FileM Unit := do
  if trimSpace commit = "" then pure ()
  else
    match ← (runNodeGit [workDir] workDir
        (auth ++ ["fetch", "--depth", "1", "origin", trimSpace commit])).attempt with
    | .ok _ => runNodeGit [workDir] workDir ["checkout", "FETCH_HEAD"]
    | .error _ => runNodeGit [workDir] workDir ["checkout", trimSpace commit]

/-- Create the branch of a git spec. -/
def createBranch (workDir : List String) (git : GitRevision) : FileM Unit :=
  if git.createBranch then
    if trimSpace git.newBranch = "" then
      .fail { text := "git create branch requested but new_branch is empty" }
    else runNodeGit [workDir] workDir ["checkout", "-b", trimSpace git.newBranch]
  else pure ()

/-- `provisionGit`. -/
def provisionGit (git : GitRevision) : FileM Unit := do
  if ← hostWorkspaceInitialized workDir then pure ()
  else
    resetStaleWorkspace workDir
    let (cloneURL, auth) := gitAuth codec url git
    runNodeGit [workDir] [] (auth ++ gitCloneArgs cloneURL git.branch workDir)
    checkoutCommit workDir auth git.commit
    createBranch workDir git

/-! ## Associated projects -/

/-- `safeSubdirSegment`, without the `filepath.Base` test: a name without a
separator is its own base. -/
def safeSubdirSegment (name : String) : Option String :=
  let trimmed := trimSpace name
  if trimmed = "" then none
  else if '/' ∈ trimmed.toList ∨ '\\' ∈ trimmed.toList ∨ trimmed = "." ∨
      containsText trimmed ".." then none
  else some trimmed

/-- What an env variable asks `provisionAssociatedRepos` for. -/
inductive Dependency
  | clone (subdir url branch : String)
  | placeholder (subdir note : String)
  deriving DecidableEq

/-- The subdirectory of a dependency. -/
def Dependency.subdir : Dependency → String
  | clone subdir _ _ => subdir
  | placeholder subdir _ => subdir

/-- The note in the directory of a project that was not cloned. -/
def placeholderNote (projectName : String) : String :=
  "# " ++ trimSpace projectName ++ "\n\n" ++
    "This associated project was not cloned: the task's git credential " ++
    "has no read access to its repository.\n"

/-- The dependency an env variable names, when it is usable. -/
def Codec.dependency (item : EnvVar) : Option Dependency :=
  let name := trimSpace item.name
  if hasPrefix name "AI_LUBRICANT_DEP_GIT_" then
    match codec.decodeDep item.value with
    | none => none
    | some dep =>
      if trimSpace dep.url = "" then none
      else (safeSubdirSegment dep.subdir).map (.clone · dep.url dep.branch)
  else if hasPrefix name "AI_LUBRICANT_DEP_PLACEHOLDER_" then
    if '|' ∈ item.value.toList then
      let projectName := item.value.toList.takeWhile (· ≠ '|')
      let subdir := (item.value.toList.dropWhile (· ≠ '|')).drop 1
      (safeSubdirSegment (String.ofList subdir)).map
        (.placeholder · (placeholderNote (String.ofList projectName)))
    else none
  else none

/-- Lay down a dependency; failures are logged only. -/
def provisionDependency :
    Dependency → FileM Unit
  | .clone subdir url branch => do
      let _ ← (provisionGit codec (workDir ++ [subdir]) url { branch := branch }).attempt
      pure ()
  | .placeholder subdir note => do
      let target := workDir ++ [subdir]
      match ← (Prog.mkdirAll (failed "") target : FileM Unit).attempt with
      | .error _ => pure ()
      | .ok _ =>
        let _ ← (Prog.writeFile (failed "") (target ++ ["README.md"]) (.text note) :
          FileM Unit).attempt
        pure ()

/-- `provisionAssociatedRepos`. -/
def provisionAssociatedRepos (env : List EnvVar) : FileM Unit :=
  Prog.each (env.filterMap codec.dependency) (provisionDependency codec workDir)

/-! ## Worktrees -/

/-- `sharedDepDirs`. -/
def sharedDepDirs : List (List String) :=
  [["node_modules"], [".venv"], ["venv"], [".tox"], ["target", "debug"], ["target", "release"]]

/-- The loop body of `linkSharedDeps`. -/
def linkSharedDep (worktreeDir sourceDir name : List String) : FileM Unit := do
  match ← Prog.stat (sourceDir ++ name) with
  | .ok true =>
    match ← Prog.lstat (worktreeDir ++ name) with
    | .ok _ => pure ()
    | .error _ =>
      match ← (Prog.mkdirAll (failed "") (worktreeDir ++ name).dropLast :
          FileM Unit).attempt with
      | .error _ => pure ()
      | .ok _ =>
        let _ ← (Prog.symlink (failed "") (worktreeDir ++ name) (sourceDir ++ name) :
          FileM Unit).attempt
        pure ()
  | _ => pure ()

/-- `linkSharedDeps`. -/
def linkSharedDeps (worktreeDir sourceDir : List String) (names : List (List String)) :
    FileM Unit :=
  Prog.each names (linkSharedDep worktreeDir sourceDir)

/-- What `delete` removes. -/
def Placement.removeDir (session : Placement) : List String :=
  if session.spec.removesWorkDir then session.workDir else session.runtimeDir

namespace Manager

variable (manager : Manager) (session : Placement)

/-- `worktree add`, with the branch new or else as it stands. -/
def addWorktree (repoDir worktreeDir : List String) (branch base : String) : FileM Unit := do
  let roots := [worktreeDir, repoDir ++ [".git"]]
  match ← (runNodeGit roots repoDir
      (["worktree", "add", "-b", branch, render worktreeDir] ++
        if base ≠ "" then [base] else [])).attempt with
  | .ok _ => pure ()
  | .error failure =>
    match ← (runNodeGit roots repoDir
        ["worktree", "add", render worktreeDir, branch]).attempt with
    | .ok _ => pure ()
    | .error _ => .fail (failure.wrap "worktree add: ")

/-- The error of a session whose repository is missing. -/
def missingCheckout (spec : SessionSpec) (repoDir : List String) : Failure :=
  if spec.importedCheckoutPath ≠ "" then
    { text := "imported checkout " ++ render repoDir ++ " is not a git working tree" }
  else
    { text := "environment checkout " ++ render repoDir ++
        " is not provisioned (prepare the environment first)" }

/-- The branch of a task's worktree. -/
def worktreeBranch (spec : SessionSpec) : String :=
  let branch := trimSpace spec.revision.newBranch
  if branch = "" then "task/" ++ sanitizeSessionDir (trimSpace spec.taskId) else branch

/-- `prepareWorktree`; the worktree is the session's working directory. -/
def prepareWorktree : FileM Unit := do
  let spec := session.spec
  let repoDir := spec.worktreeRepoDir manager.host
  if trimSpace spec.taskId = "" then .fail { text := "worktree workspace requires a task id" }
  else if !(← hostWorkspaceInitialized repoDir) then .fail (missingCheckout spec repoDir)
  else if ← hostWorkspaceInitialized session.workDir then pure ()
  else
    Prog.mkdirAll (failed "prepare worktree parent: ") session.workDir.dropLast
    addWorktree repoDir session.workDir (worktreeBranch spec) (trimSpace spec.revision.branch)

/-- `removeWorktree`. -/
def removeWorktree : FileM Unit := do
  let spec := session.spec
  let repoDir := spec.worktreeRepoDir manager.host
  let worktreeDir := manager.host.envWorktreeDir spec.worktreeEnvId (trimSpace spec.taskId)
  let _ ← (Prog.removeAll (failed "") worktreeDir : FileM Unit).attempt
  let _ ← (runNodeGit [repoDir ++ [".git", "worktrees"]] repoDir ["worktree", "prune"]).attempt
  pure ()

/-! ## Session commands -/

/-- The directories `create` makes. -/
def dirs : List (List String) :=
  [session.stateRoot, session.home, session.skillsDir, session.pluginsDir] ++
    if session.spec.envBacked then [] else [session.workDir]

/-- The directories `create` makes; a shared HOME is made while it is resolved. -/
def prepareDirs : FileM Unit := do
  let context := "create session " ++ session.spec.id ++ ": "
  Prog.when session.spec.isSharedEnv
    (Prog.mkdirAll
      (failed (context ++ "env_mode=" ++ manager.codec.quote "shared" ++ " prepare " ++
        render session.home ++ ": ")) session.home)
  Prog.each (dirs session) fun dir =>
    Prog.mkdirAll (failed (context ++ "prepare dir " ++ render dir ++ ": ")) dir

/-- The checkout part of `provisionSession`. -/
def checkout : FileM Unit := do
  let spec := session.spec
  let context := "create session " ++ spec.id ++ ": "
  let url := spec.git.getD ""
  if spec.externalWorktreePath ≠ "" then
    if spec.workspaceMode = "fresh" then
      if spec.hasGit then
        wrapping context (provisionGit manager.codec session.workDir url spec.revision)
      else pure ()
    else
      match ← Prog.stat session.workDir with
      | .ok true => pure ()
      | _ =>
        .fail { text := "adopted checkout " ++ render session.workDir ++ " is not a directory" }
  else if spec.hasGit then
    wrapping context <|
      if spec.worktreeEnvId ≠ "" then do
        manager.prepareWorktree session
        linkSharedDeps session.workDir (spec.worktreeRepoDir manager.host) sharedDepDirs
      else provisionGit manager.codec session.workDir url spec.revision
  else pure ()

/-- The system branch of `applyInitialConfig`. -/
def applySystemConfig : FileM Unit := do
  let spec := session.spec
  wrapping "llm: " (manager.writeLLMConfig session spec.llm)
  Prog.when (spec.mcps ≠ [])
    (wrapping "mcp: " (writeRuntimeMCPConfig session.stateRoot spec.mcps))
  Prog.when (spec.activeSkills ≠ [] ∨ spec.activePlugins ≠ [])
    (wrapping "activation: "
      (writeRuntimeActivationConfig manager.codec session.stateRoot
        (if spec.activeSkills = [] then none else some spec.activeSkills)
        (if spec.activePlugins = [] then none else some spec.activePlugins)))
  Prog.when (trimSpace spec.systemPrompt ≠ "")
    (wrapping "system_prompt: "
      (writeAgentSystemPrompt session.stateRoot (trimSpace spec.systemPrompt)))

/-- Run every part and collect the errors. -/
def collectErrors : List (String × FileM Unit) → FileM (List String)
  | [] => pure []
  | (label, prog) :: rest => do
      match ← prog.attempt with
      | .ok _ => collectErrors rest
      | .error failure =>
        let others ← collectErrors rest
        pure ((label ++ failure.text) :: others)

variable (gatewayOrigin : String)

/-- The parts of `applyInitialConfig` for the other modes. -/
def initialParts : List (String × FileM Unit) :=
  let spec := session.spec
  [("llm: ", manager.writeLLMConfig session spec.llm),
    ("mcp: ", manager.writeMCPConfig session gatewayOrigin spec.mcps),
    ("skills: ",
      Prog.when (spec.ownsHomeResources ∧ spec.skills ≠ [])
        (manager.syncSkills session spec.skills)),
    ("plugins: ",
      Prog.when (spec.ownsHomeResources ∧ spec.plugins ≠ [])
        (manager.syncPlugins session spec.plugins)),
    ("system_prompt: ",
      Prog.when (trimSpace spec.systemPrompt ≠ "")
        (writeAgentSystemPrompt session.stateRoot (trimSpace spec.systemPrompt)))]

/-- `applyInitialConfig`. -/
def applyInitialConfig : FileM Unit := do
  if session.spec.isSystemEnv then manager.applySystemConfig session
  else
    let errs ← collectErrors (manager.initialParts session gatewayOrigin)
    if errs = [] then pure () else .fail { text := "; ".intercalate errs }

/-- `provisionSession`, up to the start of the runtime; it fails where the source
takes the session out of the map. -/
def provisionSession : FileM Unit := do
  manager.checkout session
  provisionAssociatedRepos manager.codec session.workDir session.spec.env
  let _ ← (manager.applyInitialConfig session gatewayOrigin).attempt
  pure ()

/-- `configureLLM`. -/
def configureLLM (llm : Option LLMConfig) : FileM Unit :=
  manager.writeLLMConfig session llm

/-- `applyMCPs`. -/
def applyMCPs (mcps : List MCPServer) : FileM Unit :=
  if session.spec.isSystemEnv then writeRuntimeMCPConfig session.stateRoot mcps
  else manager.writeMCPConfig session gatewayOrigin mcps

/-- `applySkills`. -/
def applySkills (skills : List SkillSpec) : FileM Unit :=
  if session.spec.isSystemEnv then
    writeRuntimeActivationConfig manager.codec session.stateRoot
      (some (normalizeActivationNames (skills.map SkillSpec.name))) none
  else manager.syncSkills session skills

/-- `applyPlugins`. -/
def applyPlugins (plugins : List PluginSpec) : FileM Unit :=
  if session.spec.isSystemEnv then
    writeRuntimeActivationConfig manager.codec session.stateRoot none
      (some (normalizeActivationNames (plugins.map PluginSpec.name)))
  else manager.syncPlugins session plugins

/-- `delete`. -/
def delete : FileM Unit := do
  Prog.removeAll (failed ("delete session " ++ session.spec.id ++ ": remove runtime dir: "))
    session.removeDir
  Prog.when (session.spec.worktreeEnvId ≠ "") (manager.removeWorktree session)

end Manager

/-! ## Footprints of checkouts -/

section Checkouts

variable {roots : List (List String)}

theorem within_hostWorkspaceInitialized (workspaceRoot : List String) :
    (hostWorkspaceInitialized workspaceRoot).Issues (Within roots) := by
  apply (issues_readDir .readDir).andThen
  intro reply
  cases reply with
  | ok => exact .ret
  | error error =>
    cases error with
    | notExist => exact .ret
    | fault => exact .fail

theorem within_resetStaleWorkspace {workspaceRoot : List String} (member : workspaceRoot ∈ roots) :
    (resetStaleWorkspace workspaceRoot).Issues (Within roots) := by
  apply (issues_stat .stat).andThen
  intro reply
  cases reply with
  | ok => exact issues_removeAll (.removeAll member prefix_rfl)
  | error error =>
    cases error with
    | notExist => exact .ret
    | fault => exact .fail

/-- A git command that works in directories among the roots. -/
theorem within_runNodeGit {targets : List (List String)} {dir args : List String}
    (below : ∀ target ∈ targets, ∃ root ∈ roots, root <+: target) :
    (runNodeGit targets dir args).Issues (Within roots) :=
  issues_runNodeGit (.request below)

variable {workDir : List String}

theorem within_checkoutCommit (member : workDir ∈ roots) (auth : List String) (commit : String) :
    (checkoutCommit workDir auth commit).Issues (Within roots) := by
  have below : ∀ target ∈ [workDir], ∃ root ∈ roots, root <+: target := by
    simpa using ⟨workDir, member, prefix_rfl⟩
  unfold checkoutCommit
  split_ifs
  · exact .ret
  · apply (within_runNodeGit below).attempt.andThen
    intro result
    cases result with
    | ok => exact within_runNodeGit below
    | error => exact within_runNodeGit below

theorem within_createBranch (member : workDir ∈ roots)
    (git : GitRevision) : (createBranch workDir git).Issues (Within roots) := by
  unfold createBranch
  split_ifs
  · exact .fail
  · apply within_runNodeGit
    simpa using ⟨workDir, member, prefix_rfl⟩
  · exact .ret

theorem within_provisionGit (member : workDir ∈ roots) (codec : Codec)
    (url : String) (git : GitRevision) :
    (provisionGit codec workDir url git).Issues (Within roots) := by
  apply (within_hostWorkspaceInitialized workDir).andThen
  intro initialized
  split_ifs
  · exact .ret
  apply (within_resetStaleWorkspace member).andThen
  intro _
  apply Issues.andThen
  · apply within_runNodeGit
    simpa using ⟨workDir, member, prefix_rfl⟩
  · intro _
    apply (within_checkoutCommit member _ _).andThen
    intro _
    exact within_createBranch member git

theorem within_provisionDependency (codec : Codec) (workDir : List String)
    (dependency : Dependency) :
    (provisionDependency codec workDir dependency).Issues
      (Within [workDir ++ [dependency.subdir]]) := by
  have member : ∀ subdir, workDir ++ [subdir] ∈ [workDir ++ [subdir]] := by simp
  cases dependency with
  | clone subdir url branch =>
    apply (within_provisionGit (member subdir) codec url _).attempt.andThen
    intro _
    exact .ret
  | placeholder subdir note =>
    apply (issues_mkdirAll (.mkdirAll (member subdir) (.inl prefix_rfl))).attempt.andThen
    intro result
    cases result with
    | error => exact .ret
    | ok =>
      apply Issues.andThen
      · apply Issues.attempt
        exact issues_writeFile (.writeFile (member subdir) (prefix_append _ _))
      · intro _
        exact .ret

theorem within_linkSharedDeps {worktreeDir : List String} (member : worktreeDir ∈ roots)
    (sourceDir : List String) (names : List (List String)) :
    (linkSharedDeps worktreeDir sourceDir names).Issues (Within roots) := by
  apply issues_each
  intro name _
  have inside : worktreeDir <+: worktreeDir ++ name := prefix_append _ _
  apply (issues_stat .stat).andThen
  intro reply
  rcases reply with error | isDir
  · exact .ret
  cases isDir with
  | false => exact .ret
  | true =>
    apply (issues_lstat .lstat).andThen
    intro reply
    cases reply with
    | ok => exact .ret
    | error error =>
      apply Issues.andThen
      · apply Issues.attempt
        exact issues_mkdirAll (.mkdirAll member
          (List.prefix_or_prefix_of_prefix inside (List.dropLast_prefix _)))
      · intro result
        cases result with
        | error => exact .ret
        | ok =>
          apply (issues_symlink (.symlink member inside)).attempt.andThen
          intro _
          exact .ret

end Checkouts

namespace Manager

variable (manager : Manager) (session : Placement)

theorem within_addWorktree (repoDir worktreeDir : List String) (branch base : String) :
    (addWorktree repoDir worktreeDir branch base).Issues
      (Within [worktreeDir, repoDir ++ [".git"]]) := by
  have below : ∀ target ∈ [worktreeDir, repoDir ++ [".git"]],
      ∃ root ∈ [worktreeDir, repoDir ++ [".git"]], root <+: target :=
    fun target member => ⟨target, member, prefix_rfl⟩
  apply (within_runNodeGit below).attempt.andThen
  intro result
  cases result with
  | ok => exact .ret
  | error =>
    apply (within_runNodeGit below).attempt.andThen
    intro result
    cases result with
    | ok => exact .ret
    | error => exact .fail

/-- The directories a worktree session's checkout works in. -/
def worktreeRoots : List (List String) :=
  [session.workDir, session.spec.worktreeRepoDir manager.host ++ [".git"]]

theorem within_prepareWorktree :
    (manager.prepareWorktree session).Issues (Within (manager.worktreeRoots session)) := by
  have member : session.workDir ∈ manager.worktreeRoots session := mem_cons_self
  unfold prepareWorktree
  dsimp only
  split_ifs
  · exact .fail
  apply (within_hostWorkspaceInitialized _).andThen
  intro ready
  split_ifs
  · exact .fail
  apply (within_hostWorkspaceInitialized _).andThen
  intro reused
  split_ifs
  · exact .ret
  · apply (issues_mkdirAll (.mkdirAll member (.inr (List.dropLast_prefix _)))).andThen
    intro _
    exact within_addWorktree _ _ _ _

/-- The directories the checkout works in. -/
def checkoutRoots : List (List String) :=
  if session.spec.externalWorktreePath ≠ "" then
    if session.spec.workspaceMode = "fresh" ∧ session.spec.hasGit then [session.workDir] else []
  else if session.spec.hasGit then
    if session.spec.worktreeEnvId ≠ "" then manager.worktreeRoots session else [session.workDir]
  else []

theorem within_checkout :
    (manager.checkout session).Issues (Within (manager.checkoutRoots session)) := by
  have member : session.workDir ∈ [session.workDir] := mem_singleton.mpr rfl
  unfold checkout checkoutRoots
  by_cases external : session.spec.externalWorktreePath ≠ ""
  · rw [if_pos external, if_pos external]
    by_cases fresh : session.spec.workspaceMode = "fresh"
    · rw [if_pos fresh]
      by_cases git : session.spec.hasGit
      · rw [if_pos git, if_pos ⟨fresh, git⟩]
        exact (within_provisionGit member manager.codec _ _).mapError
      · rw [if_neg git]
        exact .ret
    rw [if_neg fresh]
    apply (issues_stat .stat).andThen
    intro reply
    rcases reply with error | isDir
    · exact .fail
    · cases isDir with
      | false => exact .fail
      | true => exact .ret
  · rw [if_neg external, if_neg external]
    by_cases git : session.spec.hasGit
    · rw [if_pos git, if_pos git]
      apply Issues.mapError
      split_ifs
      · apply (manager.within_prepareWorktree session).andThen
        intro _
        exact within_linkSharedDeps mem_cons_self _ _
      · exact within_provisionGit member manager.codec _ _
    · rw [if_neg git, if_neg git]
      exact .ret

/-! ## Footprints of commands -/

/-- What `prepareDirs` makes directories of. -/
def dirRoots : List (List String) :=
  [session.runtimeDir, session.home] ++ if session.spec.envBacked then [] else [session.workDir]

theorem below_dirRoots {dir : List String} (member : dir ∈ dirs session) :
    ∃ root ∈ dirRoots session, root <+: dir := by
  rcases mem_append.mp member with own | work
  · simp only [mem_cons, not_mem_nil, or_false] at own
    rcases own with rfl | rfl | rfl | rfl
    · exact ⟨session.runtimeDir, by simp [dirRoots], prefix_append _ _⟩
    · exact ⟨session.home, by simp [dirRoots], prefix_rfl⟩
    · exact ⟨session.runtimeDir, by simp [dirRoots], prefix_append _ _⟩
    · exact ⟨session.runtimeDir, by simp [dirRoots], prefix_append _ _⟩
  · exact ⟨dir, mem_append_right _ work, prefix_rfl⟩

/-- `create` only makes directories. -/
theorem makes_prepareDirs :
    (manager.prepareDirs session).Issues fun op => ∃ dir ∈ dirs session, op = .mkdirAll dir := by
  apply Issues.andThen
  · apply issues_when
    intro _
    exact issues_mkdirAll ⟨session.home, by simp [dirs], rfl⟩
  · intro _
    apply issues_each
    intro dir member
    exact issues_mkdirAll ⟨dir, member, rfl⟩

theorem within_prepareDirs : (manager.prepareDirs session).Issues (Within (dirRoots session)) := by
  apply (manager.makes_prepareDirs session).mono
  rintro op ⟨dir, member, rfl⟩
  rcases below_dirRoots session member with ⟨root, among, below⟩
  exact .mkdirAll among (.inl below)

/-- The resource directories of a session. -/
def resourceRoots : List (List String) :=
  [manager.host.resourceCacheRoot, session.skillsDir,
    runtimeSkillsDir session.home session.spec.provider, session.pluginsDir,
    runtimePluginsDir session.home session.spec.provider]

theorem skillDirs_subset : [manager.host.resourceCacheRoot, session.skillsDir,
      runtimeSkillsDir session.home session.spec.provider] ⊆ manager.resourceRoots session := by
  simp [resourceRoots]

theorem pluginDirs_subset : [manager.host.resourceCacheRoot, session.pluginsDir,
      runtimePluginsDir session.home session.spec.provider] ⊆ manager.resourceRoots session := by
  simp [resourceRoots]

/-- The files `writeLLMConfig` may write. -/
def llmRoots (llm : Option LLMConfig) : List (List String) :=
  if session.writesLLM llm then nativeFiles session.home else []

theorem within_configureLLM (llm : Option LLMConfig) :
    (manager.configureLLM session llm).Issues (Within (llmRoots session llm)) := by
  unfold configureLLM llmRoots
  split_ifs with writes
  · exact manager.within_writeLLMConfig session llm
  · rw [manager.writeLLMConfig_of_not_writesLLM session (by simpa using writes)]
    exact .ret

theorem within_applySystemConfig : (manager.applySystemConfig session).Issues
      (Within (agentFiles session.stateRoot :: llmRoots session session.spec.llm)) := by
  have state : ∀ {prog : FileM Unit}, prog.Issues (Within [agentFiles session.stateRoot]) →
      prog.Issues (Within (agentFiles session.stateRoot :: llmRoots session session.spec.llm)) :=
    fun issues => issues.widen (by simp)
  apply Issues.andThen
  · apply (manager.within_configureLLM session session.spec.llm).mapError.widen
    intro root member
    exact ⟨root, mem_cons_of_mem _ member, prefix_rfl⟩
  · intro _
    apply Issues.andThen
    · apply issues_when
      exact fun _ => state (within_writeRuntimeMCPConfig _ _).mapError
    · intro _
      apply Issues.andThen
      · apply issues_when
        exact fun _ => state (within_writeRuntimeActivationConfig _ _ _ _).mapError
      · intro _
        apply issues_when
        exact fun _ => state (within_writeAgentSystemPrompt _ _).mapError

theorem issues_collectErrors {ok : Op String Content Request → Prop}
    {parts : List (String × FileM Unit)} (issues : ∀ part ∈ parts, part.2.Issues ok) :
    (collectErrors parts).Issues ok := by
  induction parts with
  | nil => exact .ret
  | cons part rest ih =>
    have others := ih fun other member => issues other (mem_cons_of_mem part member)
    apply (issues part mem_cons_self).attempt.andThen
    intro result
    cases result with
    | ok => exact others
    | error =>
      apply others.andThen
      intro _
      exact .ret

/-- The files of `applyInitialConfig` outside the system mode. -/
def initialRoots : List (List String) :=
  agentFiles session.stateRoot ::
    (nativeFiles session.home ++
      if session.spec.ownsHomeResources then manager.resourceRoots session else [])

theorem agentFiles_mem_initialRoots : agentFiles session.stateRoot ∈ manager.initialRoots session :=
  mem_cons_self

theorem nativeFiles_subset_initialRoots :
    nativeFiles session.home ⊆ manager.initialRoots session := fun _ member =>
  mem_cons_of_mem _ (mem_append_left _ member)

theorem resourceRoots_subset_initialRoots (owns : session.spec.ownsHomeResources) :
    manager.resourceRoots session ⊆ manager.initialRoots session := by
  intro root member
  rw [initialRoots, if_pos owns]
  exact mem_cons_of_mem _ (mem_append_right _ member)

variable (gatewayOrigin : String)

theorem within_initialParts : ∀ part ∈ manager.initialParts session gatewayOrigin,
      part.2.Issues (Within (manager.initialRoots session)) := by
  have covered : ∀ {roots : List (List String)}, roots ⊆ manager.initialRoots session →
      ∀ root ∈ roots, ∃ above ∈ manager.initialRoots session, above <+: root :=
    fun included root member => ⟨root, included member, prefix_rfl⟩
  have agent : [agentFiles session.stateRoot] ⊆ manager.initialRoots session :=
    cons_subset.mpr ⟨manager.agentFiles_mem_initialRoots session, nil_subset _⟩
  have native := manager.nativeFiles_subset_initialRoots session
  unfold initialParts
  simp only [forall_mem_cons]
  refine ⟨?_, ?_, ?_, ?_, ?_, forall_mem_nil _⟩
  · exact (manager.within_writeLLMConfig session _).widen (covered native)
  · apply (manager.within_writeMCPConfig session gatewayOrigin _).widen
    apply covered
    apply cons_subset.mpr
    constructor
    · exact manager.agentFiles_mem_initialRoots session
    · split_ifs
      · exact nil_subset _
      · exact native
  · apply issues_when
    rintro ⟨owns, -⟩
    exact (manager.within_syncSkills session _).widen
      (covered (Subset.trans (manager.skillDirs_subset session)
        (manager.resourceRoots_subset_initialRoots session owns)))
  · apply issues_when
    rintro ⟨owns, -⟩
    exact (manager.within_syncPlugins session _).widen
      (covered (Subset.trans (manager.pluginDirs_subset session)
        (manager.resourceRoots_subset_initialRoots session owns)))
  · apply issues_when
    intro _
    exact (within_writeAgentSystemPrompt _ _).widen (covered agent)

/-- The files of `applyInitialConfig`. -/
def configRoots : List (List String) :=
  if session.spec.isSystemEnv then
    agentFiles session.stateRoot :: llmRoots session session.spec.llm
  else manager.initialRoots session

theorem within_applyInitialConfig : (manager.applyInitialConfig session gatewayOrigin).Issues
      (Within (manager.configRoots session)) := by
  unfold applyInitialConfig configRoots
  split_ifs
  · exact manager.within_applySystemConfig session
  apply (issues_collectErrors (manager.within_initialParts session gatewayOrigin)).andThen
  intro errs
  split_ifs
  · exact .ret
  · exact .fail

/-- The directories of a session's dependencies. -/
def dependencyRoots : List (List String) :=
  (session.spec.env.filterMap manager.codec.dependency).map fun dependency =>
    session.workDir ++ [dependency.subdir]

theorem within_dependencies :
    (provisionAssociatedRepos manager.codec session.workDir session.spec.env).Issues
      (Within (manager.dependencyRoots session)) := by
  apply issues_each
  intro dependency member
  apply (within_provisionDependency manager.codec session.workDir dependency).widen
  simpa using ⟨_, mem_map_of_mem member, prefix_rfl⟩

/-- What `provisionSession` works in. -/
def provisionRoots : List (List String) :=
  manager.checkoutRoots session ++ manager.dependencyRoots session ++ manager.configRoots session

theorem within_provisionSession : (manager.provisionSession session gatewayOrigin).Issues
      (Within (manager.provisionRoots session)) := by
  apply Issues.andThen
  · apply (manager.within_checkout session).widen
    intro root member
    exact ⟨root, by simp [provisionRoots, member], prefix_rfl⟩
  · intro _
    apply Issues.andThen
    · apply (manager.within_dependencies session).widen
      intro root member
      exact ⟨root, mem_append_left _ (mem_append_right _ member), prefix_rfl⟩
    · intro _
      apply Issues.andThen
      · apply (manager.within_applyInitialConfig session gatewayOrigin).attempt.widen
        intro root member
        exact ⟨root, mem_append_right _ member, prefix_rfl⟩
      · intro _
        exact .ret

/-- The files of `applyMCPs`. -/
def mcpRoots : List (List String) :=
  agentFiles session.stateRoot ::
    if session.spec.ownsHomeResources then nativeFiles session.home else []

theorem within_applyMCPs (mcps : List MCPServer) :
    (manager.applyMCPs session gatewayOrigin mcps).Issues (Within (mcpRoots session)) := by
  unfold applyMCPs
  split_ifs with system
  · exact (within_writeRuntimeMCPConfig _ _).widen (by simp [mcpRoots])
  · apply (manager.within_writeMCPConfig session gatewayOrigin mcps).widen
    have owns : session.spec.ownsHomeResources = !session.spec.isSharedEnv := by
      simp [SessionSpec.ownsHomeResources, system]
    intro root member
    refine ⟨root, ?_, prefix_rfl⟩
    cases shared : session.spec.isSharedEnv <;> simp_all [mcpRoots]

/-- The files of `applySkills`. -/
def skillRoots : List (List String) :=
  if session.spec.isSystemEnv then [agentFiles session.stateRoot]
  else
    [manager.host.resourceCacheRoot, session.skillsDir,
      runtimeSkillsDir session.home session.spec.provider]

theorem within_applySkills (skills : List SkillSpec) :
    (manager.applySkills session skills).Issues (Within (manager.skillRoots session)) := by
  unfold applySkills skillRoots
  split_ifs
  · exact within_writeRuntimeActivationConfig _ _ _ _
  · exact manager.within_syncSkills session skills

/-- The files of `applyPlugins`. -/
def pluginRoots : List (List String) :=
  if session.spec.isSystemEnv then [agentFiles session.stateRoot]
  else
    [manager.host.resourceCacheRoot, session.pluginsDir,
      runtimePluginsDir session.home session.spec.provider]

theorem within_applyPlugins (plugins : List PluginSpec) :
    (manager.applyPlugins session plugins).Issues (Within (manager.pluginRoots session)) := by
  unfold applyPlugins pluginRoots
  split_ifs
  · exact within_writeRuntimeActivationConfig _ _ _ _
  · exact manager.within_syncPlugins session plugins

/-- The directories `removeWorktree` works in. -/
def detachRoots : List (List String) :=
  [manager.host.envWorktreeDir session.spec.worktreeEnvId (trimSpace session.spec.taskId),
    session.spec.worktreeRepoDir manager.host ++ [".git", "worktrees"]]

theorem within_removeWorktree :
    (manager.removeWorktree session).Issues (Within (manager.detachRoots session)) := by
  apply Issues.andThen
  · apply Issues.attempt
    apply issues_removeAll
    exact .removeAll mem_cons_self prefix_rfl
  · intro _
    apply Issues.andThen
    · apply Issues.attempt
      apply within_runNodeGit
      simp [detachRoots]
    · intro _
      exact .ret

/-- What `delete` removes and prunes. -/
def deleteRoots : List (List String) :=
  session.removeDir ::
    if session.spec.worktreeEnvId ≠ "" then manager.detachRoots session else []

theorem within_delete : (manager.delete session).Issues (Within (manager.deleteRoots session)) := by
  apply Issues.andThen
  · apply issues_removeAll
    exact .removeAll mem_cons_self prefix_rfl
  · intro _
    apply issues_when
    intro worktree
    apply (manager.within_removeWorktree session).widen
    intro root member
    exact ⟨root, by simp [deleteRoots, worktree, member], prefix_rfl⟩

end Manager

/-- The commands on a session that work on the disk. -/
inductive DiskCommand
  | create
  | provision (gatewayOrigin : String)
  | configureLLM (llm : Option LLMConfig)
  | applyMCPs (gatewayOrigin : String) (mcps : List MCPServer)
  | applySkills (skills : List SkillSpec)
  | applyPlugins (plugins : List PluginSpec)
  | configureMode (mode : String)
  | delete

namespace Manager

variable (manager : Manager) (session : Placement)

/-- The program of a command; `configureMode` keeps its value in memory. -/
def program : DiskCommand → FileM Unit
  | .create => manager.prepareDirs session
  | .provision gatewayOrigin => manager.provisionSession session gatewayOrigin
  | .configureLLM llm => manager.configureLLM session llm
  | .applyMCPs gatewayOrigin mcps => manager.applyMCPs session gatewayOrigin mcps
  | .applySkills skills => manager.applySkills session skills
  | .applyPlugins plugins => manager.applyPlugins session plugins
  | .configureMode _ => pure ()
  | .delete => manager.delete session

/-- What a command works in. -/
def footprint : DiskCommand → List (List String)
  | .create => dirRoots session
  | .provision _ => manager.provisionRoots session
  | .configureLLM llm => llmRoots session llm
  | .applyMCPs _ _ => mcpRoots session
  | .applySkills _ => manager.skillRoots session
  | .applyPlugins _ => manager.pluginRoots session
  | .configureMode _ => []
  | .delete => manager.deleteRoots session

/-- Every command keeps to its footprint. -/
theorem within_program (command : DiskCommand) :
    (manager.program session command).Issues (Within (manager.footprint session command)) := by
  cases command with
  | create => exact manager.within_prepareDirs session
  | provision gatewayOrigin => exact manager.within_provisionSession session gatewayOrigin
  | configureLLM llm => exact manager.within_configureLLM session llm
  | applyMCPs gatewayOrigin mcps => exact manager.within_applyMCPs session gatewayOrigin mcps
  | applySkills skills => exact manager.within_applySkills session skills
  | applyPlugins plugins => exact manager.within_applyPlugins session plugins
  | configureMode => exact .ret
  | delete => exact manager.within_delete session

/-! ## What is the session's own -/

/-- The directories of a session besides its working tree, and the cache. -/
def ownRoots : List (List String) :=
  [session.runtimeDir, session.home, manager.host.resourceCacheRoot]

/-- The path lies below one of them. -/
def Owns (root : List String) : Prop :=
  ∃ own ∈ manager.ownRoots session, own <+: root

variable {manager session}

theorem owns_runtimeDir {rest : List String} : manager.Owns session (session.runtimeDir ++ rest) :=
  ⟨session.runtimeDir, by simp [ownRoots], prefix_append _ _⟩

theorem owns_home {rest : List String} : manager.Owns session (session.home ++ rest) :=
  ⟨session.home, by simp [ownRoots], prefix_append _ _⟩

theorem owns_agentFiles : manager.Owns session (agentFiles session.stateRoot) := by
  rw [agentFiles, Placement.stateRoot, append_assoc]
  exact owns_runtimeDir

theorem owns_nativeFiles : ∀ root ∈ nativeFiles session.home, manager.Owns session root := by
  unfold nativeFiles
  simp only [forall_mem_cons]
  exact ⟨owns_home, owns_home, owns_home, forall_mem_nil _⟩

theorem owns_resourceRoots : ∀ root ∈ manager.resourceRoots session, manager.Owns session root := by
  unfold resourceRoots
  simp only [forall_mem_cons]
  refine ⟨?_, owns_runtimeDir, ?_, owns_runtimeDir, ?_, forall_mem_nil _⟩
  · exact ⟨manager.host.resourceCacheRoot, by simp [ownRoots], prefix_rfl⟩
  · unfold runtimeSkillsDir
    split_ifs <;> exact owns_home
  · unfold runtimePluginsDir
    split_ifs <;> exact owns_home

theorem owns_llmRoots (llm : Option LLMConfig) :
    ∀ root ∈ llmRoots session llm, manager.Owns session root := by
  intro root member
  unfold llmRoots at member
  split_ifs at member
  · exact owns_nativeFiles root member
  · cases member

theorem owns_configRoots : ∀ root ∈ manager.configRoots session, manager.Owns session root := by
  intro root member
  unfold configRoots initialRoots at member
  split_ifs at member
  · rcases mem_cons.mp member with rfl | native
    · exact owns_agentFiles
    · exact owns_llmRoots _ root native
  · rcases mem_cons.mp member with rfl | other
    · exact owns_agentFiles
    · rcases mem_append.mp other with native | resource
      · exact owns_nativeFiles root native
      · exact owns_resourceRoots root resource
  · rcases mem_cons.mp member with rfl | other
    · exact owns_agentFiles
    · rcases mem_append.mp other with native | resource
      · exact owns_nativeFiles root native
      · cases resource

theorem owns_mcpRoots : ∀ root ∈ mcpRoots session, manager.Owns session root := by
  intro root member
  rcases mem_cons.mp member with rfl | native
  · exact owns_agentFiles
  · split_ifs at native
    · exact owns_nativeFiles root native
    · cases native

theorem owns_skillRoots : ∀ root ∈ manager.skillRoots session, manager.Owns session root := by
  intro root member
  unfold skillRoots at member
  split_ifs at member
  · rw [mem_singleton.mp member]
    exact owns_agentFiles
  · exact owns_resourceRoots root (manager.skillDirs_subset session member)

theorem owns_pluginRoots : ∀ root ∈ manager.pluginRoots session, manager.Owns session root := by
  intro root member
  unfold pluginRoots at member
  split_ifs at member
  · rw [mem_singleton.mp member]
    exact owns_agentFiles
  · exact owns_resourceRoots root (manager.pluginDirs_subset session member)

end Manager

end LubricantNodes.Execution
