import LubricantNodes.Execution.Layout
import LubricantNodes.Shell.Words

/-!
# Sessions in a container

The docker executor mounts the working tree of a session at `/workspace` and runs the
editor through a shell.  The line that it hands to the shell is one command whose words
are the arguments.

The paths it names in the container are those of a session that keeps its state below
its working tree.  A session in a worktree, or with the HOME of an environment or of the
operator, finds empty directories there.
-/

namespace LubricantNodes.Execution

open Go Shell

/-! ## The command line -/

/-- `strings.ReplaceAll` of a rune. -/
def replaceAllRune (text : String) (old : Char) (new : String) : String :=
  String.ofList (text.toList.flatMap fun rune => if rune = old then new.toList else [rune])

/-- `shellJoin`, for one argument. -/
def shellQuote (arg : String) : String :=
  "'" ++ replaceAllRune arg apostrophe "'\"'\"'" ++ "'"

/-- `shellJoin`. -/
def shellJoin (args : List String) : String :=
  " ".intercalate (args.map shellQuote)

/-- A quoted argument is read up to its last quote: a quote in it ends the quotation,
is read in double quotes, and begins the quotation again. -/
theorem lex_replaceAllRune (text : String) (word : List Rune) (rest : List Char) :
    lex .single (some word) ((replaceAllRune text apostrophe "'\"'\"'").toList ++ rest) =
      lex .single (some (word ++ text.toList.map (·, true))) rest := by
  have escape : "'\"'\"'".toList =
      [apostrophe, quotationMark, apostrophe, quotationMark, apostrophe] := rfl
  rw [replaceAllRune, String.toList_ofList, escape]
  generalize text.toList = runes
  induction runes generalizing word with
  | nil => simp
  | cons rune runes ih =>
    rw [List.flatMap_cons, List.append_assoc]
    by_cases quote : rune = apostrophe
    · rw [if_pos quote, quote]
      simp only [List.cons_append, List.nil_append, lex, if_true, put]
      simp [apostrophe, quotationMark, graveAccent, ih]
    · rw [if_neg quote]
      simp [lex, put, quote, ih]

theorem lex_shellQuote (arg : String) (rest : List Char) :
    lex .bare none ((shellQuote arg).toList ++ rest) =
      lex .bare (some (arg.toList.map (·, true))) rest := by
  have begun : (shellQuote arg).toList ++ rest = apostrophe ::
      ((replaceAllRune arg apostrophe "'\"'\"'").toList ++ apostrophe :: rest) := by
    simp [shellQuote]
  rw [begun, lex, if_pos rfl, lex_replaceAllRune]
  simp [lex]

theorem lex_shellJoin (args : List String) :
    lex .bare none (shellJoin args).toList = some (args.map fun arg => quotedWord arg.toList) := by
  induction args with
  | nil => simp [shellJoin, lex, close]
  | cons arg args ih =>
    cases args with
    | nil =>
      have last := lex_shellQuote arg []
      simpa [shellJoin, lex, close, quotedWord] using last
    | cons next args =>
      have line : (shellJoin (arg :: next :: args)).toList =
          (shellQuote arg).toList ++ ' ' :: (shellJoin (next :: args)).toList := by
        simp [shellJoin, String.intercalate_cons_cons]
      rw [line, lex_shellQuote, lex, ih]
      simp [apostrophe, quotationMark, close, quotedWord]

/-- The shell reads the line as one simple command, and its words are the arguments. -/
theorem shellJoin_injection_free (args : List String) :
    simpleCommand (shellJoin args).toList = some (args.map String.toList) := by
  have quoted : (args.map fun arg => quotedWord arg.toList) =
      (args.map String.toList).map quotedWord := by
    rw [List.map_map]
    rfl
  rw [simpleCommand, lex_shellJoin, Option.bind_some, quoted, reserves_quotedWord]
  exact mapM_literal _

/-! ## Paths in the container -/

/-- `guestWorkspace`. -/
def guestWorkspace : List String :=
  ["workspace"]

namespace SessionSpec

variable (spec : SessionSpec)

/-- `guestStateRoot`. -/
def guestStateRoot : List String :=
  guestWorkspace ++ spec.runtimeName ++ ["state"]

/-- `guestHome`. -/
def guestHome : List String :=
  guestWorkspace ++ spec.runtimeName ++ ["home"]

/-- The workspace is the directory below which `create` keeps the state: an external one is
the environment's own directory, and a worktree never is. -/
inductive KeepsState (host : Host) : Workspace → Prop
  | external : KeepsState host (.external (host.envDir (trimSpace (spec.tag "env_id"))))
  | task (taskId : String) : KeepsState host (.task taskId)
  | editor (name : String) : KeepsState host (.editor name)
  | own (sessionId : String) : KeepsState host (.own sessionId)

/-- The session keeps its state below its workspace; its mode is not shared; and if the mode is
system, the HOME of the operator is the one that an isolated session would have. -/
structure Nested (host : Host) : Prop where
  state : spec.KeepsState host spec.workspace
  unshared : spec.isSharedEnv = false
  operator : spec.isSystemEnv = true → ∀ home, host.userHome = .ok home →
    pathOf home = spec.workspace.dir host ++ spec.runtimeName ++ ["home"]

end SessionSpec

/-- The path of the host that a path in the container leads to, through the bind mount of
the working tree. -/
def Placement.hostPath (session : Placement) (path : List String) : Option (List String) :=
  if guestWorkspace <+: path then some (session.workDir ++ path.drop guestWorkspace.length)
  else none

/-- The container sees the state and the HOME of the session. -/
def Placement.SeesOwn (session : Placement) : Prop :=
  session.hostPath session.spec.guestStateRoot = some session.stateRoot ∧
    session.hostPath session.spec.guestHome = some session.home
  deriving Decidable

theorem Placement.hostPath_guestWorkspace (session : Placement) (path : List String) :
    session.hostPath (guestWorkspace ++ path) = some (session.workDir ++ path) := by
  simp [hostPath, guestWorkspace]

namespace SessionSpec

variable {spec : SessionSpec} {host : Host} {session : Placement}

/-- The runtime directory is below the working tree. -/
theorem workDir_runtimeName_iff : spec.workDir host ++ spec.runtimeName = spec.runtimeDir host ↔
    spec.KeepsState host spec.workspace := by
  rw [workDir_eq_dir]
  by_cases backed : spec.envBacked
  · rw [runtimeDir_of_envBacked _ _ backed, List.append_left_inj]
    rw [envBacked_eq] at backed
    generalize spec.workspace = workspace at backed ⊢
    constructor
    · intro same
      cases workspace with
      | external path =>
        cases same
        exact .external
      | worktree => simp [Workspace.dir, Host.envWorktreeDir, Host.envDir] at same
      | task | editor | own => cases backed
    · intro nested
      cases nested with
      | external => rfl
      | task | editor | own => cases backed
  · rw [runtimeDir_of_not_envBacked _ _ backed]
    rw [envBacked_eq] at backed
    generalize spec.workspace = workspace at backed ⊢
    cases workspace with
    | external | worktree => exact absurd rfl backed
    | task | editor | own => exact ⟨fun _ => by constructor, fun _ => rfl⟩

/-- The HOME of an environment is not below a runtime directory. -/
theorem runtimeDir_home_ne {workspace : Workspace} (nested : spec.KeepsState host workspace)
    (envId : String) : workspace.dir host ++ spec.runtimeName ++ ["home"] ≠ host.envDir envId := by
  intro same
  have lengths := congrArg List.length same
  cases nested <;> simp [Workspace.dir, Host.envDir, runtimeName] at lengths

/-- The container sees the session's own state and HOME exactly if they are below the
working tree. -/
theorem guest_sees_own_iff {opts : SessionOptions} {installed : Except String Unit}
    (placed : spec.place host = .ok session)
    (_ : selectExecutor opts installed spec.toCreateSession = .ok .docker) :
    session.SeesOwn ↔ spec.Nested host := by
  unfold place at placed
  cases resolved : spec.resolveHome host (spec.runtimeDir host) with
  | error =>
    rw [resolved] at placed
    cases placed
  | ok home =>
    rw [resolved] at placed
    cases placed
    have state : spec.workDir host ++ (spec.runtimeName ++ ["state"]) =
        spec.runtimeDir host ++ ["state"] ↔ spec.KeepsState host spec.workspace := by
      rw [← List.append_assoc, List.append_left_inj, workDir_runtimeName_iff]
    have sees : Placement.SeesOwn ⟨spec, spec.workDir host, spec.runtimeDir host, home⟩ ↔
        spec.KeepsState host spec.workspace ∧
          spec.workspace.dir host ++ spec.runtimeName ++ ["home"] = home := by
      unfold Placement.SeesOwn guestStateRoot guestHome Placement.stateRoot
      rw [List.append_assoc, List.append_assoc, Placement.hostPath_guestWorkspace,
        Placement.hostPath_guestWorkspace, Option.some_inj, Option.some_inj, state,
        ← List.append_assoc, workDir_eq_dir]
    rw [sees]
    cases resolves_of_resolveHome resolved with
    | isolated owned unshared =>
      constructor
      · rintro ⟨nested, _⟩
        exact ⟨nested, unshared, fun system => by simp [owned] at system⟩
      · intro nested
        rw [← workDir_eq_dir, workDir_runtimeName_iff.mpr nested.state]
        exact ⟨nested.state, rfl⟩
    | system system unshared known =>
      constructor
      · rintro ⟨nested, same⟩
        refine ⟨nested, unshared, fun _ home there => ?_⟩
        cases known.symm.trans there
        exact same.symm
      · intro nested
        exact ⟨nested.state, (nested.operator system _ known).symm⟩
    | shared _ shared =>
      constructor
      · rintro ⟨nested, same⟩
        exact absurd same (runtimeDir_home_ne nested _)
      · intro nested
        rw [nested.unshared] at shared
        cases shared

end SessionSpec

/-- A session with the docker driver. -/
def guestSpec : SessionSpec :=
  { sessionId := "s", provider := "claude", driver := "docker", guestImage := "image" }

theorem guest_sees_own_isolated :
    ∃ session, guestSpec.place { workRoot := ["w"] } = .ok session ∧ session.SeesOwn := by
  have docker : selectExecutor { docker := true } (.ok ()) guestSpec.toCreateSession =
      .ok .docker := by
    decide +kernel
  have nested : guestSpec.Nested { workRoot := ["w"] } :=
    ⟨.own "s", by decide +kernel, fun _ _ unknown => by cases unknown⟩
  have placed : ∃ session ∈ (guestSpec.place { workRoot := ["w"] }).toOption,
      guestSpec.place { workRoot := ["w"] } = .ok session := by
    decide +kernel
  rcases placed with ⟨session, _, placed⟩
  exact ⟨session, placed, (SessionSpec.guest_sees_own_iff placed docker).mpr nested⟩

/-- A session with a shared HOME, and one in a worktree: the container has other
directories in their place. -/
theorem guest_sees_other : (∃ session ∈ ({ guestSpec with envMode := "shared", envId := "e" }.place
      { workRoot := ["w"] }).toOption, ¬session.SeesOwn) ∧
    ∃ session ∈ ({ guestSpec with
      taskId := "t", tags := [("workspace_mode", "worktree"), ("env_id", "e")] }.place
      { workRoot := ["w"] }).toOption, ¬session.SeesOwn := by
  decide +kernel

end LubricantNodes.Execution
