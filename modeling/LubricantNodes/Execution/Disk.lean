import LubricantNodes.Files.Runs
import LubricantNodes.Execution.Layout
import LubricantNodes.Go.Regexp
import LubricantNodes.Go.Url

/-!
# What the node keeps on disk

The contents of the files the node writes, the outside programs it runs, and the
type of its file programs.  A JSON document is represented by the value it
encodes; the text of a file somebody else wrote goes through the decoders of a
`Codec`.
-/

namespace LubricantNodes.Execution

open Go Files
open Go.Regexp (word atLeastOnce)

/-! ## Documents -/

/-- An entry of the runtime's MCP config. -/
inductive RuntimeServer
  | remote (transport url : String) (headers : List (String × String))
  | stdio (command : String) (args : List String) (env : List (String × String))
  deriving DecidableEq

/-- An entry of a provider's own MCP config. -/
inductive NativeServer
  | remote (url : String) (headers : List (String × String))
  | stdio (command : String) (args : List String) (env : List (String × String))
  deriving DecidableEq

/-- `runtimeActivationConfig`. -/
structure ActivationConfig where
  skills : List String := []
  plugins : List String := []
  deriving DecidableEq

/-- The keys of opencode's config the node sets; `rest` are all the others. -/
structure OpenCodeConfig where
  /-- `provider["agent-compose"]`: its base URL and API key. -/
  agentCompose : Option (String × String) := none
  otherProviders : List (String × String) := []
  model : Option String := none
  mcp : List (String × NativeServer) := []
  rest : List (String × String) := []
  deriving DecidableEq

/-- `codexCatalogRow`. -/
structure CatalogRow where
  name : String
  model : String
  contextWindow : Int
  deriving DecidableEq

/-- An entry of codex's model catalog. -/
structure CatalogEntry where
  slug : String
  displayName : String
  contextWindow : Int
  priority : Nat
  deriving DecidableEq

/-- `systemEnvManifestEntry`. -/
structure ManifestEntry where
  kind : String
  name : String
  relPath : String
  installedAt : String
  deriving DecidableEq

/-- The content of a file. -/
inductive Content
  | text (data : String)
  | mcps (servers : List (String × RuntimeServer))
  | claude (servers : List (String × NativeServer))
  | openCode (config : OpenCodeConfig)
  | catalog (models : List CatalogEntry)
  | activation (config : ActivationConfig)
  | marketplace (name : String)
  | manifest (entries : List (String × ManifestEntry))
  deriving DecidableEq

/-- `depGitSpec`. -/
structure DepGitSpec where
  url : String
  branch : String
  subdir : String
  deriving DecidableEq

/-- The parts of the standard library that the node's texts go through: the `%q`
verb, the encoding of its documents and of an argument list, the decoding of the
JSON texts it reads, the cache key of a URL, and the handling of credentials for
git. -/
structure Codec where
  quote : String → String
  encode : Content → String
  encodeArgs : List String → String
  urlKey : String → String
  splitGitCredentialURL : String → Option (String × String × String)
  gitAuthHeaderArgs : String → String → String → List String
  decodeDep : String → Option DepGitSpec
  decodeCatalog : String → Option (List CatalogRow)
  decodeOpenCode : String → Option OpenCodeConfig
  decodeActivation : String → Option ActivationConfig
  decodeManifest : String → Option (List (String × ManifestEntry))

instance : Inhabited Codec where
  default :=
    { quote := id
      encode := fun _ => ""
      encodeArgs := fun _ => ""
      urlKey := id
      splitGitCredentialURL := fun _ => none
      gitAuthHeaderArgs := fun _ _ _ => []
      decodeDep := fun _ => none
      decodeCatalog := fun _ => none
      decodeOpenCode := fun _ => none
      decodeActivation := fun _ => none
      decodeManifest := fun _ => none }

/-- The text of a file. -/
def Codec.textOf (codec : Codec) : Content → String
  | .text data => data
  | document => codec.encode document

/-- What the file programs of `sessionManager` depend on.  `depth` is how many
directories deep a path may be before the system refuses it. -/
structure Manager where
  host : Host
  codec : Codec
  depth : Nat

/-- A manager on a host, with a trivial codec. -/
def Manager.plain (host : Host) : Manager where
  host := host
  codec := default
  depth := 8

/-- A host that allows system sessions. -/
def systemHost : Host where
  workRoot := ["w"]
  systemEnvAllowed := true
  userHome := .ok "/home/op"

/-- `m[key] = value` on a Go map. -/
def assign {α : Type} (map : List (String × α)) (key : String) (value : α) : List (String × α) :=
  map.filter (·.1 ≠ key) ++ [(key, value)]

/-! ## Outside programs -/

/-- The types of tar entries. -/
inductive TarType
  | dir
  | regular
  | symlink
  | other
  deriving DecidableEq

/-- A tar entry. -/
structure TarEntry where
  name : String
  type : TarType
  linkname : String := ""
  data : String := ""
  deriving DecidableEq

/-- What the node asks of the outside. -/
inductive Request
  /-- `runNodeGit`. -/
  | git (dir : List String) (args : List String)
  /-- An HTTP GET of an archive. -/
  | download (url token : String)
  deriving DecidableEq

/-- What the outside answers. -/
inductive Answer
  | done
  /-- The status, the `X-Resource-Digest` header, and the entries of the body up
  to its end or to where it is cut. -/
  | response (status : Nat) (digest : String) (entries : List TarEntry) (complete : Bool)
  deriving DecidableEq

instance : Inhabited Answer := ⟨.done⟩

/-- An error.  `fetching` tells whether it arose while a resource was fetched. -/
structure Failure where
  text : String
  fetching : Bool := false
  deriving DecidableEq

variable (context : String)

/-- `fmt.Errorf(context + "%w", err)`. -/
def Failure.wrap (failure : Failure) : Failure :=
  { failure with text := context ++ failure.text }

/-- The error of an operation, with a text before it. -/
def failed (error : Errno) : Failure :=
  { text := context ++ error.text }

/-- The node's file programs. -/
abbrev FileM := Prog String Content Request Answer Failure

/-- The trees they work on. -/
abbrev Disk := Tree String Content

/-- Operations that all succeed. -/
def smooth (count : Nat) : List (Outcome String Content Answer) :=
  List.replicate count { answer := .done }

/-- Put a text before the error of a program. -/
def wrapping {α : Type} (prog : FileM α) : FileM α :=
  prog.mapError (Failure.wrap context)

/-- `os.MkdirAll` of the directory of a path and `os.WriteFile`. -/
def writeDocument (dirContext fileContext : String) (path : List String) (content : Content) :
    FileM Unit := do
  Prog.mkdirAll (failed dirContext) path.dropLast
  Prog.writeFile (failed fileContext) path content

/-- `os.Remove` of a path that need not exist. -/
def removeIfExists (path : List String) : FileM Unit := do
  match ← Prog.remove path with
  | .ok _ => pure ()
  | .error .notExist => pure ()
  | .error (.fault reason) => .fail (failed context (.fault reason))

/-- `data, _ := os.ReadFile(path)`, as a text. -/
def readText (codec : Codec) (path : List String) : FileM String := do
  match ← Prog.readFile path with
  | .ok content => pure (codec.textOf content)
  | .error _ => pure ""

/-- `os.ReadFile` of a document; a missing file reads as `empty`. -/
def readDocument {α : Type} (decode : Content → α) (empty : α) (path : List String) : FileM α := do
  match ← Prog.readFile path with
  | .ok content => pure (decode content)
  | .error .notExist => pure empty
  | .error (.fault reason) => .fail (failed context (.fault reason))

section Footprints

variable {ok : Op String Content Request → Prop} {path root : List String}
  {roots : List (List String)}

variable {content : Content} {dirContext fileContext : String}

theorem issues_writeDocument (made : ok (.mkdirAll path.dropLast))
    (written : ok (.writeFile path content)) :
    (writeDocument dirContext fileContext path content).Issues ok :=
  (Prog.issues_mkdirAll made).andThen fun _ => Prog.issues_writeFile written

theorem within_writeDocument (member : root ∈ roots) (below : root <+: path) :
    (writeDocument dirContext fileContext path content).Issues (Within roots) := by
  apply issues_writeDocument
  · exact .mkdirAll member (List.prefix_or_prefix_of_prefix below (List.dropLast_prefix _))
  · exact .writeFile member below

theorem issues_removeIfExists {context : String} (removed : ok (.remove path)) :
    (removeIfExists context path).Issues ok := by
  apply (Prog.issues_remove removed).andThen
  intro reply
  cases reply with
  | ok value => exact .ret
  | error error =>
    cases error with
    | notExist => exact .ret
    | fault reason => exact .fail

theorem issues_readText {codec : Codec} (read : ok (.readFile path)) :
    (readText codec path).Issues ok := by
  apply (Prog.issues_readFile read).andThen
  intro reply
  cases reply with
  | ok content => exact .ret
  | error error => exact .ret

theorem issues_readDocument {α : Type} {context : String} {decode : Content → α} {empty : α}
    (read : ok (.readFile path)) : (readDocument context decode empty path).Issues ok := by
  apply (Prog.issues_readFile read).andThen
  intro reply
  cases reply with
  | ok content => exact .ret
  | error error =>
    cases error with
    | notExist => exact .ret
    | fault reason => exact .fail

end Footprints

/-! ## git -/

/-- The runes of a scheme. -/
def isSchemeRune (rune : Char) : Bool :=
  rune.isAlphanum || rune ∈ ['+', '.', '-']

/-- The class `\s`. -/
def isBlank (rune : Char) : Bool :=
  rune ∈ ['\t', '\n', '\x0c', '\r', ' ']

/-- `redactURLUserInfo`. -/
def redactURLUserInfo : Go.Regexp.Pattern Char where
  group := [.one Char.isAlpha, .many isSchemeRune] ++ word "://".toList
  rest := [.many fun rune => !isDelimiter rune] ++ word "@".toList

/-- `redactAuthHeaderArg`. -/
def redactAuthHeaderArg : Go.Regexp.Pattern Char where
  group := word "http.".toList ++ [.many fun rune => rune ≠ '=' && !isBlank rune] ++
    word "extraHeader=Authorization:".toList ++ [.many isBlank] ++
    atLeastOnce (fun rune => !isBlank rune) ++ atLeastOnce isBlank
  rest := atLeastOnce fun rune => !isBlank rune

/-- `RedactGitURL`. -/
def redactGitURL (text : String) : String :=
  String.ofList (redactURLUserInfo.replaceAll "***@".toList text.toList)

/-- `RedactGitSecrets`. -/
def redactGitSecrets (text : String) : String :=
  String.ofList (redactAuthHeaderArg.replaceAll "***".toList (redactGitURL text).toList)

example : redactGitSecrets "clone https://user:pw@git.example/r /w" =
    "clone https://***@git.example/r /w" := by decide +kernel

example : redactGitSecrets "-c http.https://h.extraHeader=Authorization: Basic dTpw clone" =
    "-c http.https://h.extraHeader=Authorization: Basic *** clone" := by decide +kernel

/-- The error of `runNodeGit`. -/
def gitFailed (args : List String) (error : Errno) : Failure :=
  { text := "git " ++ redactGitSecrets (" ".intercalate args) ++ " failed: " ++
      redactGitSecrets error.text }

/-- `runNodeGit` in a directory; it may change what lies below `roots`. -/
def runNodeGit (roots : List (List String)) (dir : List String) (args : List String) :
    FileM Unit := do
  let _ ← Prog.request (gitFailed args) roots (.git dir args)
  pure ()

variable {args dir : List String}

theorem issues_runNodeGit {ok : Op String Content Request → Prop} {roots : List (List String)}
    (met : ok (.request roots (.git dir args))) : (runNodeGit roots dir args).Issues ok :=
  (Prog.issues_request met).andThen fun _ => .ret

/-- A git command may succeed with any changes below its roots. -/
theorem runs_runNodeGit {roots : List (List String)} {disk : Disk}
    (direct : ∀ root ∈ roots, disk.Direct true root)
    (changes : List (List String × Option (Files.Entry String Content))) :
    Prog.Runs Prog.linkFree (runNodeGit roots dir args) disk (.ok ())
      (disk.patch (Tree.permits roots) changes) := by
  apply Prog.runs_bind_iff.mpr
  exact .inl ⟨default, _, Prog.runs_request default direct changes, .ret⟩

end LubricantNodes.Execution
