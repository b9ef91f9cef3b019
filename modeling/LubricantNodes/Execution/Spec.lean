import LubricantNodes.Go.Path

/-!
# Session specs

The create command, the workspace layout a session gets from it, and the choice
of the executor that runs its editor.  Only the fields these decisions read are
modelled.
-/

namespace LubricantNodes.Execution

open Go

/-- `NodeLLMConfig`: the LLM service the editor is pointed at. -/
structure LLMConfig where
  endpoint : String := ""
  apiKey : String := ""
  model : String := ""
  protocol : String := ""
  headers : List (String × String) := []
  extra : List (String × String) := []
  deriving DecidableEq

/-- `NodeCreateSession`.  `git` is the URL of the git spec when one is given. -/
structure CreateSession where
  sessionId : String
  provider : String
  taskId : String := ""
  driver : String := ""
  guestImage : String := ""
  model : String := ""
  mode : String := ""
  llm : Option LLMConfig := none
  interactive : Bool := false
  deferStart : Bool := false
  git : Option String := none
  tags : List (String × String) := []
  deriving DecidableEq

/-- `sessionOptions`. -/
structure SessionOptions where
  workRoot : String := ""
  providers : List String := []
  docker : Bool := false
  deriving DecidableEq

namespace CreateSession

variable (spec : CreateSession)

/-- `spec.GetTags()[name]`. -/
def tag (name : String) : String :=
  (spec.tags.lookup name).getD ""

/-! ## Workspace layout -/

/-- `workspaceMode`. -/
def workspaceMode : String :=
  toLower (trimSpace (spec.tag "workspace_mode"))

/-- `usesWorktree`. -/
def usesWorktree : Bool :=
  spec.workspaceMode = "worktree" ∧ trimSpace (spec.tag "env_id") ≠ ""

/-- `importedCheckoutPath`, on a POSIX host. -/
def importedCheckoutPath : String :=
  let path := trimSpace (spec.tag "external_workdir")
  if path = "" ∨ ¬isAbs path ∨ '\x00' ∈ path.toList then ""
  else if ".." ∈ segments path then ""
  else clean path

/-- `externalWorktreePath`. -/
def externalWorktreePath : String :=
  if spec.workspaceMode ≠ "external" ∧ spec.workspaceMode ≠ "fresh" then ""
  else spec.importedCheckoutPath

/-- The spec names a repository to check out. -/
def hasGit : Bool :=
  (spec.git.map trimSpace).getD "" ≠ ""

/-- The checkout part of `provisionSession` does something that can fail: it
clones (or cuts a worktree), or it inspects an adopted directory. -/
def checksOut : Bool :=
  if spec.externalWorktreePath ≠ "" then spec.workspaceMode ≠ "fresh" || spec.hasGit
  else spec.hasGit

/-- `workspaceOwned`, as `create` computes it. -/
def workspaceOwned : Bool :=
  trimSpace spec.taskId = "" && trimSpace (spec.tag "editor_workdir") = "" &&
    !spec.usesWorktree && spec.externalWorktreePath = ""

/-- `persistentWorkspace`, as `create` computes it. -/
def persistentWorkspace : Bool :=
  trimSpace spec.taskId ≠ "" || spec.usesWorktree || spec.externalWorktreePath ≠ ""

/-- `delete` removes the whole working directory, not only the runtime one. -/
def removesWorkDir : Bool :=
  spec.workspaceOwned && !spec.persistentWorkspace

end CreateSession

/-! ## Executors -/

/-- The implementations of `executor`. -/
inductive ExecutorKind
  | stream
  | localProcess
  | docker
  deriving DecidableEq

/-- The errors of `selectExecutor`. -/
inductive SelectError
  | providerUnavailable (provider : String)
  | runtimeUnusable (reason : String)
  | dockerNotOffered
  | guestImageRequired
  | unsupportedDriver (driver : String)
  deriving DecidableEq

/-- The text of an error; `quote` is the `%q` verb. -/
def SelectError.text (quote : String → String) : SelectError → String
  | providerUnavailable provider =>
    "provider " ++ quote provider ++ " is not available on this node (local driver)"
  | runtimeUnusable reason => "node agent runtime is not usable: " ++ reason
  | dockerNotOffered => "docker driver requested but this node does not offer docker"
  | guestImageRequired => "docker driver requires guest_image"
  | unsupportedDriver driver => "unsupported driver " ++ quote driver

/-- `hasProvider`. -/
def SessionOptions.hasProvider (opts : SessionOptions) (provider : String) : Bool :=
  opts.providers.any fun known => equalFold known (trimSpace provider)

/-- `selectExecutor`; `installed` is the answer of `agent.RuntimeInstalled`. -/
def selectExecutor (opts : SessionOptions) (installed : Except String Unit)
    (spec : CreateSession) : Except SelectError ExecutorKind :=
  let driver := toLower (trimSpace spec.driver)
  if driver = "" ∨ driver = "local" ∨ driver = "process" then
    if opts.hasProvider (trimSpace spec.provider) then
      match installed with
      | .error reason => .error (.runtimeUnusable reason)
      | .ok () => .ok (if spec.interactive then .stream else .localProcess)
    else .error (.providerUnavailable (trimSpace spec.provider))
  else if driver = "docker" then
    if opts.docker then
      if trimSpace spec.guestImage = "" then .error .guestImageRequired else .ok .docker
    else .error .dockerNotOffered
  else .error (.unsupportedDriver driver)

end LubricantNodes.Execution
