import LubricantNodes.Files.Logic
import LubricantNodes.Execution.Workspace

/-!
# Durable workspaces

What `delete` leaves of a session whose workspace outlives it, and what the node
does to a checkout it has adopted.

A worktree counts as durable, but `removeWorktree` removes it.  An adopted
checkout is left alone by everything except the dependencies of the session.
-/

namespace LubricantNodes.Execution

open Go Files Transition List SessionSpec CreateSession Prog Tree Manager

/-! ## Deletion -/

section Deletion

variable {manager : Manager} {session : Placement} {disk : Disk}

theorem worktreeEnvId_ne_iff (spec : SessionSpec) :
    spec.worktreeEnvId ≠ "" ↔ spec.usesWorktree := by
  unfold worktreeEnvId
  split_ifs with uses
  · have named : trimSpace (spec.tag "env_id") ≠ "" := by
      simp only [usesWorktree, decide_eq_true_eq] at uses
      exact uses.2
    simp [named, uses]
  · simp [uses]

/-- The deletion of a session with a durable workspace removes its runtime
directory. -/
theorem removeDir_of_persistent (durable : session.spec.persistentWorkspace) :
    session.removeDir = session.runtimeDir := by
  have kept : ¬session.spec.removesWorkDir := by
    simp [removesWorkDir, durable]
  rw [Placement.removeDir, if_neg kept]

/-- No link lies on the paths that `delete` works on. -/
def Manager.Straight (manager : Manager) (session : Placement) (disk : Disk) : Prop :=
  ∀ root ∈ manager.deleteRoots session, disk.Direct true root
  deriving Decidable

/-- After the runtime directory, `delete` goes on with the worktree. -/
theorem steps_delete (straight : manager.Straight session disk)
    (durable : session.spec.persistentWorkspace) (worktree : session.spec.usesWorktree) :
    Prog.Steps Prog.linkFree (manager.delete session) disk (manager.removeWorktree session)
      (disk.removeAll session.runtimeDir) := by
  have first : Prog.Steps linkFree (manager.delete session) disk
      (Prog.when (session.spec.worktreeEnvId ≠ "") (manager.removeWorktree session))
      (disk.removeAll session.removeDir) :=
    (runs_removeAll default (straight _ mem_cons_self).of_whole).steps_bind
  rw [removeDir_of_persistent durable, when,
    if_pos ((worktreeEnvId_ne_iff _).mpr worktree)] at first
  exact first

/-- `removeWorktree` removes the worktree and then prunes what it likes of the
registrations. -/
theorem steps_removeWorktree
    (direct : ∀ root ∈ manager.detachRoots session, disk.Direct true root)
    (changes : List (List String × Option (Files.Entry String Content))) :
    Prog.Steps Prog.linkFree (manager.removeWorktree session) disk (pure ())
      ((disk.removeAll (manager.host.envWorktreeDir session.spec.worktreeEnvId
          (trimSpace session.spec.taskId))).patch
        (Tree.permits [session.spec.worktreeRepoDir manager.host ++ [".git", "worktrees"]])
        changes) := by
  have removed : Prog.Runs linkFree
      (Prog.removeAll (failed "") (manager.host.envWorktreeDir session.spec.worktreeEnvId
        (trimSpace session.spec.taskId)) : FileM Unit).attempt disk _ _ :=
    (runs_removeAll default (direct _ mem_cons_self).of_whole).attempt
  apply removed.steps_bind.trans
  refine (runs_runNodeGit ?_ changes).attempt.steps_bind
  intro root member
  rw [mem_singleton.mp member]
  exact (linkFree_prune _).direct (direct _ (mem_cons_of_mem _ mem_cons_self))

section Securing

variable {paths : List String → Prop}

theorem secures_removeWorktree
    (direct : ∀ root ∈ manager.detachRoots session, disk.Direct true root)
    (outside : ∀ path, paths path → ∀ root ∈ manager.detachRoots session, ¬root <+: path) :
    (manager.removeWorktree session).Secures (.alone Prog.anyOutcome (Kept paths))
      (fun _ _ => True) disk := by
  have worktree : manager.host.envWorktreeDir session.spec.worktreeEnvId
      (trimSpace session.spec.taskId) ∈ manager.detachRoots session := mem_cons_self
  have registered : session.spec.worktreeRepoDir manager.host ++ [".git", "worktrees"] ∈
      manager.detachRoots session := mem_cons_of_mem _ mem_cons_self
  have removed : (Prog.removeAll (failed "") (manager.host.envWorktreeDir
        session.spec.worktreeEnvId (trimSpace session.spec.taskId)) : FileM Unit).attempt.Secures
      (.alone Prog.anyOutcome (Kept paths)) (fun _ later => LinkFree disk later) disk := by
    apply (secures_removeAll (direct _ worktree).of_whole _).attempt
    · exact fun _ _ linkFree => linkFree
    · exact fun path among => outside path among _ worktree
  apply removed.andThen
  · intro _ later linkFree
    have pruned : (runNodeGit [session.spec.worktreeRepoDir manager.host ++ [".git", "worktrees"]]
          (session.spec.worktreeRepoDir manager.host) ["worktree", "prune"]).attempt.Secures
        (.alone Prog.anyOutcome (Kept paths)) (fun _ _ => True) later := by
      apply Secures.attempt _ fun _ _ => id
      apply Secures.andThen (secures_request _ _)
      · exact fun _ _ _ => .ret fun _ _ => trivial
      · exact fun _ _ => id
      · rw [forall_mem_singleton]
        exact linkFree.direct (direct _ registered)
      · intro path among
        rw [forall_mem_singleton]
        exact outside path among _ registered
    exact pruned.andThen (fun _ _ _ => .ret fun _ _ => trivial) fun _ _ => id
  · exact fun _ _ _ => trivial

/-- `delete` keeps what is outside the directories it works in. -/
theorem secures_delete (straight : manager.Straight session disk)
    (outside : ∀ path, paths path → ∀ root ∈ manager.deleteRoots session, ¬root <+: path) :
    (manager.delete session).Secures (.alone Prog.anyOutcome (Kept paths)) (fun _ _ => True)
      disk := by
  apply Secures.andThen (secures_removeAll (straight _ mem_cons_self).of_whole _)
  · intro _ later linkFree
    unfold Prog.when
    split_ifs with attached
    · have member : ∀ root ∈ manager.detachRoots session, root ∈ manager.deleteRoots session := by
        intro root among
        rw [deleteRoots, if_pos attached]
        exact mem_cons_of_mem _ among
      apply secures_removeWorktree
      · exact fun root among => linkFree.direct (straight root (member root among))
      · exact fun path belongs root among => outside path belongs root (member root among)
    · exact .ret fun _ _ => trivial
  · exact fun _ _ _ => trivial
  · exact fun path among => outside path among _ mem_cons_self

end Securing

/-- `delete` of a session with a durable workspace, with no link on its way, leaves
everything outside the runtime directory in place exactly when the session has no worktree
or there is nothing in the worktree and its registrations. -/
theorem delete_keeps_workspace_iff (durable : session.spec.persistentWorkspace)
    (straight : manager.Straight session disk) :
    (∀ prog disk', Prog.Steps Prog.anyOutcome (manager.delete session) disk prog disk' →
        Kept (fun path => ¬session.runtimeDir <+: path) disk disk') ↔
      (session.spec.usesWorktree → ∀ root ∈ manager.detachRoots session, ∀ path,
        root <+: path → ¬session.runtimeDir <+: path → disk.lookup path = none) := by
  constructor
  · intro kept worktree root member path below outside
    by_contra present
    have existing : (disk.lookup path).isSome := Option.isSome_iff_ne_none.mpr present
    have detached : ∀ other ∈ manager.detachRoots session,
        (disk.removeAll session.runtimeDir).Direct true other := by
      intro other among
      apply (linkFree_prune _).direct (straight other _)
      rw [deleteRoots, if_pos ((worktreeEnvId_ne_iff _).mpr worktree)]
      exact mem_cons_of_mem _ among
    have gone := fun changes => kept _ _ ((steps_delete straight durable worktree).trans
      (steps_removeWorktree detached changes)).any path outside existing
    by_cases inside : manager.host.envWorktreeDir session.spec.worktreeEnvId
        (trimSpace session.spec.taskId) <+: path
    · have removed := gone []
      rw [patch, foldl_nil, lookup_removeAll, if_pos inside] at removed
      exact present removed.symm
    have pruned : session.spec.worktreeRepoDir manager.host ++ [".git", "worktrees"] <+: path := by
      simp only [detachRoots, mem_cons, not_mem_nil, or_false] at member
      rcases member with same | same <;> rw [same] at below
      · exact absurd below inside
      · exact below
    have removed := gone [(path, none)]
    rw [patch, foldl_cons, foldl_nil, if_pos (by simpa [permits] using pruned),
      lookup_set, if_pos rfl] at removed
    exact present removed.symm
  · intro empty prog disk' steps path outside existing
    have untouched : ∀ root ∈ manager.deleteRoots session, ¬root <+: path := by
      intro root member below
      unfold deleteRoots at member
      rw [removeDir_of_persistent durable] at member
      rcases mem_cons.mp member with rfl | detached
      · exact outside below
      split_ifs at detached with worktree
      · rw [empty ((worktreeEnvId_ne_iff _).mp worktree) root detached path below outside]
          at existing
        cases existing
      · cases detached
    have secures : (manager.delete session).Secures
        (.alone Prog.anyOutcome (Kept (· = path))) (fun _ _ => True) disk := by
      apply secures_delete straight
      rintro other rfl
      exact untouched
    exact secures.guar_of_steps steps (fun tree => .refl tree) Kept.trans path rfl existing

end Deletion

/-- A session of a task, with tags. -/
def taskSpec (id : String) (tags : List (String × String)) : SessionSpec where
  sessionId := id
  provider := "claude"
  taskId := "t"
  tags := tags

/-- The workspace and runtime directory of a session of a task. -/
def taskSession : Placement where
  spec := taskSpec "s" []
  workDir := ["w", "tasks", "t"]
  runtimeDir := ["w", "tasks", "t", ".agent-compose", "sessions", "s"]
  home := ["w", "tasks", "t", ".agent-compose", "sessions", "s", "home"]

/-- The worktree and runtime directory of a session of a task. -/
def worktreeSession (id : String) : Placement where
  spec := taskSpec id [("workspace_mode", "worktree"), ("env_id", "e")]
  workDir := ["w", "envs", "e", "worktrees", "t"]
  runtimeDir := ["w", "envs", "e", ".agent-compose", "sessions", id]
  home := ["w", "envs", "e", ".agent-compose", "sessions", id, "home"]

/-- A host without a system environment. -/
def plainHost : Host where
  workRoot := ["w"]

/-- A disk with uncommitted work in a working tree. -/
def draftIn (workDir : List String) : Disk :=
  ⟨[(workDir ++ ["draft.txt"], .file (.text "draft"))]⟩

/-- The workspace of a task survives a session of it. -/
theorem delete_keeps_task_workspace : (taskSpec "s" []).place plainHost = .ok taskSession ∧
      taskSession.spec.persistentWorkspace = true ∧
      ∀ prog disk', Prog.Steps Prog.anyOutcome ((Manager.plain plainHost).delete taskSession)
          (draftIn taskSession.workDir) prog disk' →
        Kept (fun path => ¬taskSession.runtimeDir <+: path) (draftIn taskSession.workDir)
          disk' := by
  have durable : taskSession.spec.persistentWorkspace := by decide +kernel
  refine ⟨by decide +kernel, durable, ?_⟩
  apply (delete_keeps_workspace_iff durable (by decide +kernel)).mpr
  intro worktree
  exact absurd worktree (by decide +kernel)

/-- The worktree of a task does not survive a session of it, nor do the
uncommitted changes in it, even while another session works there. -/
theorem delete_removes_worktree :
    ¬∀ (manager : Manager) (session : Placement) (disk disk' : Disk) (prog : FileM Unit),
      session.Placed manager.host → session.spec.persistentWorkspace →
      Prog.Steps Prog.anyOutcome (manager.delete session) disk prog disk' →
      Kept (fun path => ¬session.runtimeDir <+: path) disk disk' := by
  intro keeps
  have placed : (worktreeSession "s").spec.place plainHost = .ok (worktreeSession "s") := by
    decide +kernel
  have durable : (worktreeSession "s").spec.persistentWorkspace := by decide +kernel
  have straight : (plain plainHost).Straight (worktreeSession "s")
      (draftIn (worktreeSession "s").workDir) := by decide +kernel
  have steps := (steps_delete straight durable (by decide +kernel)).trans
    (steps_removeWorktree (by decide +kernel) [])
  have kept := keeps (.plain plainHost) (worktreeSession "s")
    (draftIn (worktreeSession "s").workDir) _ _ (SessionSpec.placed_of_place placed).1 durable
    steps.any
    ["w", "envs", "e", "worktrees", "t", "draft.txt"] (by decide +kernel) (by decide +kernel)
  exact absurd kept (by decide +kernel)

example : (worktreeSession "r").spec.place plainHost = .ok (worktreeSession "r") ∧
      (worktreeSession "r").workDir = (worktreeSession "s").workDir := by
  decide +kernel

/-! ## Adoption -/

/-- The session runs in a checkout that was there before. -/
def SessionSpec.adopts (spec : SessionSpec) : Bool :=
  spec.externalWorktreePath ≠ "" && spec.workspaceMode ≠ "fresh"

/-- The checkout lies outside everything that is the node's own. -/
structure Placement.Outlying (session : Placement) (host : Host) : Prop where
  runtimeDir : Apart session.runtimeDir session.workDir
  home : Apart session.home session.workDir
  cache : Apart host.resourceCacheRoot session.workDir

section Adoption

variable {manager : Manager} {session : Placement} {disk : Disk}

/-- A root of the node's own lies apart from what is in the checkout. -/
theorem apart_of_owns (outlying : session.Outlying manager.host) {root path : List String}
    (owned : manager.Owns session root) (inside : session.workDir <+: path) : Apart root path := by
  rcases owned with ⟨own, member, below⟩
  simp only [ownRoots, mem_cons, not_mem_nil, or_false] at member
  rcases member with rfl | rfl | rfl
  · exact outlying.runtimeDir.mono below inside
  · exact outlying.home.mono below inside
  · exact outlying.cache.mono below inside

/-- A clone into a directory that does not exist makes it. -/
theorem steps_provisionGit {codec : Codec} {target : List String} {url : String}
    {git : GitRevision} (direct : disk.Direct true target) (absent : disk.lookup target = none) :
    ∃ prog disk', Prog.Steps Prog.linkFree (provisionGit codec target url git) disk prog disk' ∧
      disk'.lookup target = some .dir := by
  have fresh : Prog.Runs linkFree (hostWorkspaceInitialized target) disk (.ok false) disk := by
    apply runs_bind_iff.mpr
    exact .inl ⟨.error .notExist, disk, runs_readDir_of_absent default direct absent, .ret⟩
  have reset : Prog.Runs linkFree (resetStaleWorkspace target) disk (.ok ()) disk := by
    apply runs_bind_iff.mpr
    exact .inl ⟨.error .notExist, disk, runs_stat_of_absent default direct absent, .ret⟩
  have only : ∀ root ∈ [target], disk.Direct true root := forall_mem_singleton.mpr direct
  refine ⟨_, _, fresh.steps_bind.trans (reset.steps_bind.trans
    (runs_runNodeGit only [(target, some .dir)]).steps_bind), ?_⟩
  rw [patch, foldl_cons, foldl_nil, if_pos (by simp [permits]), lookup_set, if_pos rfl]

/-- A dependency makes its directory. -/
theorem steps_provisionDependency (codec : Codec) {workDir : List String} (dependency : Dependency)
    (direct : disk.Direct true (workDir ++ [dependency.subdir]))
    (absent : disk.lookup (workDir ++ [dependency.subdir]) = none)
    (free : disk.blocked (workDir ++ [dependency.subdir]) = false) :
    ∃ prog disk', Prog.Steps Prog.linkFree (provisionDependency codec workDir dependency) disk
        prog disk' ∧
      disk'.lookup (workDir ++ [dependency.subdir]) = some .dir := by
  cases dependency with
  | clone =>
    rcases steps_provisionGit direct absent with ⟨prog, disk', steps, made⟩
    exact ⟨_, disk', steps.attempt.bind, made⟩
  | placeholder =>
    refine ⟨_, _, (runs_mkdirAll default direct free).attempt.steps_bind, ?_⟩
    rw [lookup_mkdirs, if_pos ⟨prefix_rfl, absent⟩]

section Adopted

variable (adopts : session.spec.adopts)

include adopts

theorem envBacked_of_adopts : session.spec.envBacked := by
  simp only [SessionSpec.adopts, Bool.and_eq_true, decide_eq_true_eq] at adopts
  simp [SessionSpec.envBacked, adopts.1]

theorem not_usesWorktree_of_adopts : ¬session.spec.usesWorktree := by
  intro worktree
  simp only [SessionSpec.adopts, Bool.and_eq_true, decide_eq_true_eq] at adopts
  simp only [CreateSession.usesWorktree, decide_eq_true_eq] at worktree
  apply adopts.1
  rw [CreateSession.externalWorktreePath, if_pos]
  rw [worktree.1]
  decide

/-- What a command on an adopting session without dependencies works in is the
node's own. -/
theorem owns_footprint_of_adopts
    (unusable : ∀ item ∈ session.spec.env, manager.codec.dependency item = none)
    (command : DiskCommand) :
    ∀ root ∈ manager.footprint session command, manager.Owns session root := by
  have backed := envBacked_of_adopts adopts
  have attached : ¬session.spec.worktreeEnvId ≠ "" := fun named =>
    not_usesWorktree_of_adopts adopts ((worktreeEnvId_ne_iff _).mp named)
  have external : session.spec.externalWorktreePath ≠ "" ∧
      session.spec.workspaceMode ≠ "fresh" := by
    simpa [SessionSpec.adopts] using adopts
  cases command with
  | create =>
    intro root member
    simp only [footprint, dirRoots, backed, if_true, append_nil,
      mem_cons, not_mem_nil, or_false] at member
    rcases member with rfl | rfl
    · exact ⟨session.runtimeDir, by simp [ownRoots], prefix_rfl⟩
    · exact ⟨session.home, by simp [ownRoots], prefix_rfl⟩
  | provision =>
    have checkout : manager.checkoutRoots session = [] := by
      rw [checkoutRoots, if_pos external.1, if_neg fun fresh => external.2 fresh.1]
    have dependencies : manager.dependencyRoots session = [] := by
      rw [dependencyRoots, filterMap_eq_nil_iff.mpr unusable]
      rfl
    intro root member
    rw [footprint, provisionRoots, checkout, dependencies, nil_append, nil_append] at member
    exact owns_configRoots root member
  | configureLLM llm => exact owns_llmRoots llm
  | applyMCPs => exact owns_mcpRoots
  | applySkills => exact owns_skillRoots
  | applyPlugins => exact owns_pluginRoots
  | configureMode => exact forall_mem_nil _
  | delete =>
    have removed : session.removeDir = session.runtimeDir := by
      apply removeDir_of_persistent
      simp [persistentWorkspace, external.1]
    intro root member
    rw [footprint, deleteRoots, if_neg attached, removed] at member
    rw [mem_singleton.mp member]
    exact ⟨session.runtimeDir, by simp [ownRoots], prefix_rfl⟩

/-- Nothing the node does to an adopting session without dependencies touches the
checkout. -/
theorem agree_of_no_dependency (outlying : session.Outlying manager.host)
    (unusable : ∀ item ∈ session.spec.env, manager.codec.dependency item = none)
    {source target : Pool String Content Request Answer Failure}
    (reached : Reaches (Pool.step (manager.program session)) (Pool.Starts fun _ => True)
      source target)
    (idle : source.threads = []) : Agree (session.workDir <+: ·) source.tree target.tree := by
  have spares : ∀ command, (manager.program session command).Issues
      (Spares (session.workDir <+: ·)) := by
    intro command
    apply (manager.within_program session command).spares
    intro path inside root member
    exact apart_of_owns outlying (owns_footprint_of_adopts adopts unusable command root member)
      inside
  exact Pool.agree_of_starts (fun command _ => spares command) reached idle

theorem runs_checkout_of_adopts (direct : disk.Direct true session.workDir)
    (dir : disk.lookup session.workDir = some .dir) :
    Prog.Runs Prog.linkFree (manager.checkout session) disk (.ok ()) disk := by
  have external : session.spec.externalWorktreePath ≠ "" ∧
      session.spec.workspaceMode ≠ "fresh" := by
    simpa [SessionSpec.adopts] using adopts
  unfold checkout
  rw [if_pos external.1, if_neg external.2]
  apply runs_bind_iff.mpr
  exact .inl ⟨.ok true, disk, runs_stat_of_dir default direct dir, .ret⟩

/-- A usable variable makes the node create a directory in the checkout. -/
theorem steps_provisionSession {item : EnvVar} (member : item ∈ session.spec.env)
    (usable : manager.codec.dependency item ≠ none) (gatewayOrigin : String) :
    ∃ (source target : Disk) (prog : FileM Unit) (path : List String),
      Prog.Steps Prog.linkFree (manager.provisionSession session gatewayOrigin) source prog
          target ∧
        session.workDir <+: path ∧ source.lookup path = none ∧ target.lookup path = some .dir := by
  cases dependencies : session.spec.env.filterMap manager.codec.dependency with
  | nil => exact absurd (filterMap_eq_nil_iff.mp dependencies item member) usable
  | cons dependency rest =>
    let source : Disk := (⟨[]⟩ : Disk).mkdirs session.workDir
    have looked : ∀ path, source.lookup path =
        if path <+: session.workDir then some .dir else none := by
      intro path
      rw [lookup_mkdirs]
      simp [Tree.lookup]
    have dir : source.lookup session.workDir = some .dir := by
      rw [looked, if_pos prefix_rfl]
    have absent : source.lookup (session.workDir ++ [dependency.subdir]) = none := by
      rw [looked, if_neg]
      intro above
      have shorter := above.length_le
      rw [length_append, length_singleton] at shorter
      omega
    have dirs : ∀ path, source.lookup path = none ∨ source.lookup path = some .dir := by
      intro path
      rw [looked]
      split_ifs
      · exact .inr rfl
      · exact .inl rfl
    have direct : ∀ path, source.Direct true path :=
      fun path => direct_of_dirs fun ancestor _ => dirs ancestor
    have free : source.blocked (session.workDir ++ [dependency.subdir]) = false :=
      blocked_eq_false fun ancestor _ => dirs ancestor
    rcases steps_provisionDependency manager.codec dependency (direct _) absent free with
      ⟨prog, target, steps, made⟩
    have laid : Prog.Steps linkFree
        (provisionAssociatedRepos manager.codec session.workDir session.spec.env) source
        (prog.bind fun _ => each rest (provisionDependency manager.codec session.workDir))
        target := by
      rw [provisionAssociatedRepos, dependencies]
      exact steps.bind
    have whole : ∃ final, Prog.Steps linkFree
        (manager.provisionSession session gatewayOrigin) source final target := by
      unfold provisionSession
      exact ⟨_, (runs_checkout_of_adopts adopts (direct _) dir).steps_bind.trans laid.bind⟩
    rcases whole with ⟨final, reached⟩
    exact ⟨source, target, final, session.workDir ++ [dependency.subdir], reached,
      prefix_append _ _, absent, made⟩

/-- If the node never touches the checkout, no env variable names a dependency. -/
theorem no_dependency_of_untouched
    (untouched : ∀ source target : Pool String Content Request Answer Failure,
      Reaches (Pool.step (manager.program session)) (Pool.Starts fun _ => True) source target →
      source.threads = [] → Agree (session.workDir <+: ·) source.tree target.tree) :
    ∀ item ∈ session.spec.env, manager.codec.dependency item = none := by
  intro item member
  by_contra usable
  rcases steps_provisionSession adopts member usable "" with
    ⟨source, target, prog, path, steps, inside, absent, made⟩
  have reached : Reaches (Pool.step (manager.program session)) (Pool.Starts fun _ => True)
      { tree := source, threads := [] } { tree := target, threads := [prog] } := by
    rw [← program] at steps
    exact Pool.reaches_of_steps trivial steps
  have same := untouched _ _ reached rfl path inside
  rw [absent, made] at same
  cases same

end Adopted

/-- As long as no operation is led through a link, the node touches nothing in an adopted
checkout exactly when no env variable of the session names a dependency. -/
theorem adopted_untouched_iff (adopts : session.spec.adopts)
    (outlying : session.Outlying manager.host) :
    (∀ source target : Pool String Content Request Answer Failure,
        Reaches (Pool.step (manager.program session)) (Pool.Starts fun _ => True) source target →
        source.threads = [] → Agree (session.workDir <+: ·) source.tree target.tree) ↔
      ∀ item ∈ session.spec.env, manager.codec.dependency item = none := by
  constructor
  · exact no_dependency_of_untouched adopts
  · intro unusable source target reached idle
    exact agree_of_no_dependency adopts outlying unusable reached idle

end Adoption

variable (env : List EnvVar)

/-- A session that adopts a checkout. -/
def adoptingSpec : SessionSpec :=
  { taskSpec "s" [("workspace_mode", "external"), ("external_workdir", "/srv/code"),
      ("env_id", "e")] with
    env := env }

/-- Where it lives. -/
def adoptingSession : Placement where
  spec := adoptingSpec env
  workDir := ["srv", "code"]
  runtimeDir := ["w", "envs", "e", ".agent-compose", "sessions", "s"]
  home := ["w", "envs", "e", ".agent-compose", "sessions", "s", "home"]

theorem outlying_adoptingSession : (adoptingSession env).Outlying plainHost := by
  constructor <;> dsimp only [adoptingSession] <;> decide

/-- A session with other env variables leaves its checkout alone. -/
theorem adopted_untouched_plain :
    (adoptingSpec [⟨"LANG", "C"⟩]).place plainHost = .ok (adoptingSession [⟨"LANG", "C"⟩]) ∧
      ∀ source target : Pool String Content Request Answer Failure,
        Reaches (Pool.step ((Manager.plain plainHost).program (adoptingSession [⟨"LANG", "C"⟩])))
          (Pool.Starts fun _ => True) source target →
        source.threads = [] → Agree (["srv", "code"] <+: ·) source.tree target.tree := by
  refine ⟨by decide +kernel, ?_⟩
  have adopts : (adoptingSession [⟨"LANG", "C"⟩]).spec.adopts := by decide +kernel
  apply (adopted_untouched_iff adopts (outlying_adoptingSession _)).mpr
  decide +kernel

/-- A variable that names a project the task may not read makes the node write
into the checkout. -/
theorem adopted_not_untouched :
    ¬∀ (manager : Manager) (session : Placement), session.Placed manager.host →
      session.spec.adopts → session.Outlying manager.host →
      ∀ source target : Pool String Content Request Answer Failure,
        Reaches (Pool.step (manager.program session)) (Pool.Starts fun _ => True) source target →
        source.threads = [] → Agree (session.workDir <+: ·) source.tree target.tree := by
  intro untouched
  let env : List EnvVar := [⟨"AI_LUBRICANT_DEP_PLACEHOLDER_0", "docs|docs"⟩]
  have placed : (adoptingSpec env).place plainHost = .ok (adoptingSession env) := by
    decide +kernel
  have adopts : (adoptingSession env).spec.adopts := by decide +kernel
  have none := no_dependency_of_untouched adopts
    (untouched (.plain plainHost) _ (placed_of_place placed).1 adopts
      (outlying_adoptingSession env)) ⟨"AI_LUBRICANT_DEP_PLACEHOLDER_0", "docs|docs"⟩
    mem_cons_self
  exact absurd none (by decide +kernel)

end LubricantNodes.Execution
