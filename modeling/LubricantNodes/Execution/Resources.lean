import LubricantNodes.Execution.Disk

/-!
# Skills and plugins

How a resource gets to its directory: it is copied, cloned or unpacked from an
archive by way of the node-wide cache, and then mirrored to where the provider
looks for it.  What is no longer desired is pruned.

Each program comes with the roots it works below.
-/

namespace LubricantNodes.Execution

open Go Files List Prog

/-! ## Copying -/

/-- `copyFile`. -/
def copyFile (src dest : List String) : FileM Unit := do
  let data ← (← Prog.readFile src) |> Prog.orFail (failed "")
  Prog.mkdirAll (failed "") dest.dropLast
  Prog.writeFile (failed "") dest data

/-- `copyTree`. -/
def copyTree : Nat → List String → List String → FileM Unit
  | 0, _, _ => .fail { text := "file name too long" }
  | depth + 1, src, dest => do
      let isDir ← (← Prog.stat src) |> Prog.orFail (failed "")
      if isDir then
        let entries ← (← Prog.readDir src) |> Prog.orFail (failed "")
        Prog.mkdirAll (failed "") dest
        Prog.each entries fun entry => do
          if entry.2 then copyTree depth (src ++ [entry.1]) (dest ++ [entry.1])
          else
            let _ ← (← Prog.stat (src ++ [entry.1])) |> Prog.orFail (failed "")
            copyFile (src ++ [entry.1]) (dest ++ [entry.1])
      else copyFile src dest

variable (depth : Nat)

/-- `replaceTree`. -/
def replaceTree (src dest : List String) : FileM Unit := do
  Prog.removeAll (failed "") dest
  copyTree depth src dest

theorem within_copyFile (src dest : List String) : (copyFile src dest).Issues (Within [dest]) := by
  apply (issues_readFile .readFile).andThen
  intro reply
  apply (issues_orFail _ _).andThen
  intro data
  apply (issues_mkdirAll _).andThen
  · intro _
    exact issues_writeFile (.writeFile (mem_singleton.mpr rfl) prefix_rfl)
  · exact .mkdirAll (mem_singleton.mpr rfl) (.inr (List.dropLast_prefix dest))

theorem within_copyTree (src dest : List String) :
    (copyTree depth src dest).Issues (Within [dest]) := by
  induction depth generalizing src dest with
  | zero => exact .fail
  | succ depth ih =>
    apply (issues_stat .stat).andThen
    intro reply
    apply (issues_orFail _ _).andThen
    intro isDir
    split_ifs
    · apply (issues_readDir .readDir).andThen
      intro reply
      apply (issues_orFail _ _).andThen
      intro entries
      apply (issues_mkdirAll (.mkdirAll (mem_singleton.mpr rfl) (.inl prefix_rfl))).andThen
      intro _
      apply issues_each
      intro entry _
      have inside : ∀ root ∈ [dest ++ [entry.1]], ∃ above ∈ [dest], above <+: root := by
        simp
      split_ifs
      · exact (ih _ _).widen inside
      · apply (issues_stat .stat).andThen
        intro reply
        apply (issues_orFail _ _).andThen
        intro _
        exact (within_copyFile _ _).widen inside
    · exact within_copyFile src dest

theorem within_replaceTree (src dest : List String) :
    (replaceTree depth src dest).Issues (Within [dest]) := by
  apply (issues_removeAll (.removeAll (mem_singleton.mpr rfl) prefix_rfl)).andThen
  intro _
  exact within_copyTree depth src dest

/-! ## Sources -/

/-- `resourceSource`.  No caller sets `digest`. -/
structure ResourceSource where
  url : String := ""
  gitRef : String := ""
  path : String := ""
  username : String := ""
  password : String := ""
  token : String := ""
  source : String := ""
  digest : String := ""
  deriving DecidableEq

/-- `skillSource`. -/
def SkillSpec.resource (skill : SkillSpec) : ResourceSource where
  url := trimSpace skill.url
  gitRef := trimSpace skill.ref
  path := trimSpace skill.path
  username := trimSpace skill.username
  password := trimSpace skill.password
  token := trimSpace skill.token
  source := trimSpace skill.source

/-- The source of a plugin. -/
def PluginSpec.resource (plugin : PluginSpec) : ResourceSource where
  url := trimSpace plugin.url

/-- `strings.Contains`. -/
def containsText (text part : String) : Bool :=
  decide (part.toList <:+: text.toList)

namespace ResourceSource

variable (src : ResourceSource)

/-- `isArchiveSource`. -/
def isArchiveSource : Bool :=
  if src.source = "archive" then true
  else if src.source = "github" ∨ src.source = "git" then false
  else containsText src.url "/api/v1/resources/" && containsText src.url "/fetch/"

/-- `applyResourceCredentials`. -/
def applyResourceCredentials : String :=
  let pass := if src.password = "" then src.token else src.password
  if src.username = "" ∧ pass = "" then src.url
  else
    let cred := if pass = "" then src.username else src.username ++ ":" ++ pass
    match ["https://", "http://"].find? fun scheme => scheme.toList.isPrefixOf src.url.toList with
    | some scheme =>
      scheme ++ cred ++ "@" ++ String.ofList (src.url.toList.drop scheme.toList.length)
    | none => src.url

/-- The arguments of the clone. -/
def cloneArgs (dest : String) : List String :=
  ["clone", "--depth", "1", "--recurse-submodules", "--shallow-submodules"] ++
    (if src.gitRef ≠ "" then ["--branch", src.gitRef] else []) ++
    [src.applyResourceCredentials, dest]

/-- The name of the source's cache directory. -/
def cacheKey (codec : Codec) : String :=
  if src.digest ≠ "" then src.digest else "url-" ++ codec.urlKey src.url

end ResourceSource

/-- A path as text. -/
def render (path : List String) : String :=
  "/" ++ "/".intercalate path

/-! ## Archives -/

/-- `filepath.Join(dest, name)`. -/
def joinName (dest : List String) (name : String) : List String :=
  ((segments name).foldl (cleanSegment true) dest.reverse).reverse

/-- One entry of `extractTarGz`. -/
def extractEntry (dest : List String) (entry : TarEntry) : FileM Unit := do
  if entry.name.toList.head? = some '/' ∨ ':' ∈ entry.name.toList then
    .fail { text := "archive entry has absolute path (refused): " ++ entry.name }
  else if ¬dest <+: joinName dest entry.name then
    .fail { text := "archive entry escapes dest: " ++ entry.name }
  else
    match entry.type with
    | .dir => Prog.mkdirAll (failed "") (joinName dest entry.name)
    | .regular => do
        Prog.mkdirAll (failed "") (joinName dest entry.name).dropLast
        Prog.writeFile (failed "") (joinName dest entry.name) (.text entry.data)
    | .symlink =>
      .fail
        { text := "archive contains symlink (refused): " ++ entry.name ++ " -> " ++
            entry.linkname }
    | .other => pure ()

/-- `extractTarGz`, of a stream that ends or is cut after these entries. -/
def extractTarGz (entries : List TarEntry) (complete : Bool) (dest : List String) : FileM Unit := do
  Prog.each entries (extractEntry dest)
  if complete then pure () else .fail { text := "tar read: unexpected EOF" }

theorem within_extractEntry (dest : List String) (entry : TarEntry) :
    (extractEntry dest entry).Issues (Within [dest]) := by
  have member : dest ∈ [dest] := mem_singleton.mpr rfl
  unfold extractEntry
  split_ifs with absolute inside
  · exact .fail
  · cases entry.type with
    | dir => exact issues_mkdirAll (.mkdirAll member (.inl inside))
    | regular =>
      apply (issues_mkdirAll (.mkdirAll member
        (List.prefix_or_prefix_of_prefix inside (List.dropLast_prefix _)))).andThen
      intro _
      exact issues_writeFile (.writeFile member inside)
    | symlink => exact .fail
    | other => exact .ret
  · exact .fail

theorem within_extractTarGz (entries : List TarEntry) (complete : Bool) (dest : List String) :
    (extractTarGz entries complete dest).Issues (Within [dest]) := by
  apply (issues_each fun entry _ => within_extractEntry dest entry).andThen
  intro _
  split_ifs
  · exact .ret
  · exact .fail

namespace Manager

variable (manager : Manager)

variable (src : ResourceSource) (dest : List String)

/-- `downloadAndExtract`; returns the digest the server reports. -/
def downloadAndExtract : FileM String := do
  match ← Prog.request (failed ("download " ++ src.url ++ ": ")) []
      (.download src.url src.token) with
  | .done => .fail { text := "gzip: EOF" }
  | .response status digest entries complete =>
    if status ≠ 200 then
      .fail { text := "download " ++ src.url ++ ": HTTP " ++ toString status }
    else if trimSpace digest ≠ "" ∧ src.digest ≠ "" ∧ ¬equalFold (trimSpace digest) src.digest then
      .fail
        { text := "digest mismatch: server " ++ trimSpace digest ++ " != expected " ++ src.digest }
    else
      extractTarGz entries complete dest
      pure (trimSpace digest)

theorem within_downloadAndExtract : (downloadAndExtract src dest).Issues (Within [dest]) := by
  apply (issues_request (.request (by simp))).andThen
  intro answer
  cases answer with
  | done => exact .fail
  | response status digest entries complete =>
    dsimp only
    split_ifs
    · exact .fail
    · exact .fail
    · apply (within_extractTarGz entries complete dest).andThen
      intro _
      exact .ret

/-- `cacheDir` of `fetchArchive`. -/
def cacheDir : List String :=
  manager.host.resourceCacheRoot ++ [src.cacheKey manager.codec]

/-- `contentDir`. -/
def contentDir : List String :=
  manager.cacheDir src ++ ["content"]

/-- `readyMarker`. -/
def readyMarker : List String :=
  manager.cacheDir src ++ [".ready"]

/-- `fetchArchive` on a cache miss, up to the marker. -/
def fillCache : FileM Unit := do
  Prog.mkdirAll (failed "create cache content dir: ") (manager.contentDir src)
  match ← (downloadAndExtract src (manager.contentDir src)).attempt with
  | .error failure =>
    let _ ← (Prog.removeAll (failed "") (manager.cacheDir src) : FileM Unit).attempt
    .fail failure
  | .ok digest =>
    Prog.writeFile (failed "mark cache ready: ") (manager.readyMarker src)
      (.text (if digest ≠ "" then digest else "ok"))

theorem within_fillCache : (manager.fillCache src).Issues (Within [manager.cacheDir src]) := by
  have member : manager.cacheDir src ∈ [manager.cacheDir src] := mem_singleton.mpr rfl
  have content : manager.cacheDir src <+: manager.contentDir src := prefix_append _ _
  apply (issues_mkdirAll (.mkdirAll member (.inl content))).andThen
  intro _
  apply Issues.andThen
  · apply Issues.attempt
    apply (within_downloadAndExtract src _).widen
    simpa using content
  · intro result
    cases result with
    | error =>
      apply Issues.andThen
      · apply Issues.attempt
        exact issues_removeAll (.removeAll member prefix_rfl)
      · intro _
        exact .fail
    | ok =>
      exact issues_writeFile (.writeFile member (prefix_append _ _))

/-- `fetchArchive`. -/
def fetchArchive : FileM Unit := do
  match ← Prog.stat (manager.readyMarker src) with
  | .ok _ => copyTree manager.depth (manager.contentDir src) dest
  | .error _ =>
    manager.fillCache src
    copyTree manager.depth (manager.contentDir src) dest

theorem within_fetchArchive :
    (manager.fetchArchive src dest).Issues (Within [manager.cacheDir src, dest]) := by
  have copies : (copyTree manager.depth (manager.contentDir src) dest).Issues
      (Within [manager.cacheDir src, dest]) :=
    (within_copyTree manager.depth _ dest).widen (by simp)
  apply (issues_stat .stat).andThen
  intro reply
  cases reply with
  | ok => exact copies
  | error =>
    apply Issues.andThen
    · exact (manager.within_fillCache src).widen (by simp)
    · intro _
      exact copies

/-- `fetchResource`. -/
def fetchResource : FileM Unit :=
  Prog.mapError (fun failure => { failure with fetching := true }) do
    Prog.removeAll (failed "") dest
    if src.path ≠ "" then copyTree manager.depth (pathOf src.path) dest
    else if src.url = "" then pure ()
    else if src.isArchiveSource then manager.fetchArchive src dest
    else runNodeGit [dest] [] (src.cloneArgs (render dest))

theorem within_fetchResource :
    (manager.fetchResource src dest).Issues (Within [manager.host.resourceCacheRoot, dest]) := by
  have among : dest ∈ [manager.host.resourceCacheRoot, dest] := by simp
  apply Issues.mapError
  apply (issues_removeAll (.removeAll among prefix_rfl)).andThen
  intro _
  split_ifs
  · exact (within_copyTree manager.depth _ dest).widen (by simp)
  · exact .ret
  · apply (manager.within_fetchArchive src dest).widen
    simp [cacheDir]
  · apply issues_runNodeGit
    exact .request (by simp)

end Manager

/-! ## Syncing -/

/-- `pruneResourceDir`. -/
def pruneResourceDir (dir : List String) (desired : List String) : FileM Unit := do
  match ← Prog.readDir dir with
  | .error .notExist => pure ()
  | .error (.fault reason) => .fail { text := reason }
  | .ok entries =>
    Prog.each entries fun entry =>
      if entry.2 && !desired.contains entry.1 then
        Prog.removeAll (failed ("remove stale " ++ entry.1 ++ ": ")) (dir ++ [entry.1])
      else pure ()

theorem within_pruneResourceDir (dir : List String) (desired : List String) :
    (pruneResourceDir dir desired).Issues (Within [dir]) := by
  apply (issues_readDir .readDir).andThen
  intro reply
  cases reply with
  | error error =>
    cases error with
    | notExist => exact .ret
    | fault => exact .fail
  | ok =>
    apply issues_each
    intro entry _
    split_ifs
    · exact issues_removeAll (.removeAll (mem_singleton.mpr rfl) (prefix_append _ _))
    · exact .ret

/-- `normalizeProvider`. -/
def normalizeProvider (provider : String) : String :=
  let name := toLower (trimSpace provider)
  if name ∈ ["claude", "claude-code", "claude_code"] then "claude"
  else if name ∈ ["codex"] then "codex"
  else if name ∈ ["gemini", "gemini-cli", "gemini_cli"] then "gemini"
  else if name ∈ ["opencode", "open-code", "open_code"] then "opencode"
  else if name ∈ ["cursor", "cursor-agent", "cursor_agent"] then "cursor"
  else name

/-- `runtimeSkillsDir`. -/
def runtimeSkillsDir (home : List String) (provider : String) : List String :=
  if normalizeProvider provider = "claude" then home ++ [".claude", "skills"]
  else home ++ [".agents", "skills"]

/-- `runtimePluginsDir`. -/
def runtimePluginsDir (home : List String) (provider : String) : List String :=
  if normalizeProvider provider = "gemini" then home ++ [".gemini", "extensions"]
  else home ++ [".agents", "plugins"]

/-- `ensureCodexMarketplaceManifest`. -/
def ensureCodexMarketplaceManifest (pkgDir : List String) (name : String) : FileM Unit := do
  let manifest := pkgDir ++ [".agents", "plugins", "marketplace.json"]
  match ← Prog.stat manifest with
  | .ok _ => pure ()
  | .error (.fault reason) => .fail { text := "stat marketplace manifest: " ++ reason }
  | .error .notExist =>
    match ← Prog.stat (pkgDir ++ [".codex-plugin", "plugin.json"]) with
    | .error _ => pure ()
    | .ok _ =>
      writeDocument "create marketplace dir: " "write marketplace wrapper: " manifest
        (.marketplace name)

theorem within_ensureCodexMarketplaceManifest (pkgDir : List String) (name : String) :
    (ensureCodexMarketplaceManifest pkgDir name).Issues (Within [pkgDir]) := by
  have member : pkgDir ∈ [pkgDir] := mem_singleton.mpr rfl
  apply (issues_stat .stat).andThen
  intro reply
  cases reply with
  | ok => exact .ret
  | error error =>
    cases error with
    | fault => exact .fail
    | notExist =>
      apply (issues_stat .stat).andThen
      intro reply
      cases reply with
      | error => exact .ret
      | ok =>
        exact within_writeDocument member (prefix_append _ _)

/-- A resource to install: its trimmed name and its source. -/
structure Resource where
  name : String
  src : ResourceSource
  deriving DecidableEq

/-- The name of the resource's directory. -/
def Resource.safe (resource : Resource) : String :=
  sanitizeSessionDir resource.name

/-- The skills with a name. -/
def skillResources (skills : List SkillSpec) : List Resource :=
  (skills.map fun skill => ⟨trimSpace skill.name, skill.resource⟩).filter (·.name ≠ "")

/-- The plugins with a name. -/
def pluginResources (plugins : List PluginSpec) : List Resource :=
  (plugins.map fun plugin => ⟨trimSpace plugin.name, plugin.resource⟩).filter (·.name ≠ "")

namespace Manager

variable (manager : Manager) (session : Placement)

/-- The loop body of `syncSkills`. -/
def syncSkill (skill : Resource) : FileM Unit := do
  let nodeDest := session.skillsDir ++ [skill.safe]
  let runtimeDir := runtimeSkillsDir session.home session.spec.provider
  wrapping ("skill " ++ skill.name ++ ": ") (manager.fetchResource skill.src nodeDest)
  Prog.mkdirAll (failed "create runtime skills dir: ") runtimeDir
  wrapping ("mirror skill " ++ skill.name ++ " to runtime dir: ")
    (replaceTree manager.depth nodeDest (runtimeDir ++ [skill.safe]))

theorem within_syncSkill (skill : Resource) : (manager.syncSkill session skill).Issues
      (Within [manager.host.resourceCacheRoot, session.skillsDir,
        runtimeSkillsDir session.home session.spec.provider]) := by
  apply Issues.andThen
  · apply Issues.mapError
    apply (manager.within_fetchResource skill.src _).widen
    simp
  · intro _
    apply (issues_mkdirAll (.mkdirAll (by simp) (.inl prefix_rfl))).andThen
    intro _
    apply Issues.mapError
    apply (within_replaceTree manager.depth _ _).widen
    simp

/-- `syncSkills`. -/
def syncSkills (skills : List SkillSpec) : FileM Unit := do
  let desired := (skillResources skills).map Resource.name
  Prog.each (skillResources skills) (manager.syncSkill session)
  wrapping "prune node skills dir: " (pruneResourceDir session.skillsDir desired)
  wrapping "prune runtime skills dir: "
    (pruneResourceDir (runtimeSkillsDir session.home session.spec.provider) desired)

theorem within_syncSkills (skills : List SkillSpec) : (manager.syncSkills session skills).Issues
      (Within [manager.host.resourceCacheRoot, session.skillsDir,
        runtimeSkillsDir session.home session.spec.provider]) := by
  apply (issues_each fun skill _ => manager.within_syncSkill session skill).andThen
  intro _
  apply Issues.andThen
  · exact (within_pruneResourceDir _ _).mapError.widen (by simp)
  · intro _
    exact (within_pruneResourceDir _ _).mapError.widen (by simp)

/-- The loop body of `syncPlugins`. -/
def syncPlugin (plugin : Resource) : FileM Unit := do
  let dest := session.pluginsDir ++ [plugin.safe]
  let runtimeDir := runtimePluginsDir session.home session.spec.provider
  wrapping ("plugin " ++ plugin.name ++ ": ") (manager.fetchResource plugin.src dest)
  Prog.mkdirAll (failed "create runtime plugins dir: ") runtimeDir
  wrapping ("mirror plugin " ++ plugin.name ++ " to runtime dir: ")
    (replaceTree manager.depth dest (runtimeDir ++ [plugin.safe]))
  if normalizeProvider session.spec.provider = "codex" then
    let _ ← (ensureCodexMarketplaceManifest (runtimeDir ++ [plugin.safe]) plugin.name).attempt
    pure ()
  else pure ()

theorem within_syncPlugin (plugin : Resource) : (manager.syncPlugin session plugin).Issues
      (Within [manager.host.resourceCacheRoot, session.pluginsDir,
        runtimePluginsDir session.home session.spec.provider]) := by
  apply Issues.andThen
  · apply Issues.mapError
    apply (manager.within_fetchResource plugin.src _).widen
    simp
  · intro _
    apply (issues_mkdirAll (.mkdirAll (by simp) (.inl prefix_rfl))).andThen
    intro _
    apply Issues.andThen
    · apply Issues.mapError
      apply (within_replaceTree manager.depth _ _).widen
      simp
    · intro _
      split_ifs
      · apply Issues.andThen
        · apply Issues.attempt
          apply (within_ensureCodexMarketplaceManifest _ _).widen
          simp
        · intro _
          exact .ret
      · exact .ret

/-- `syncPlugins`. -/
def syncPlugins (plugins : List PluginSpec) : FileM Unit := do
  let desired := (pluginResources plugins).map Resource.name
  Prog.each (pluginResources plugins) (manager.syncPlugin session)
  wrapping "prune node plugins dir: " (pruneResourceDir session.pluginsDir desired)
  wrapping "prune runtime plugins dir: "
    (pruneResourceDir (runtimePluginsDir session.home session.spec.provider) desired)

theorem within_syncPlugins (plugins : List PluginSpec) :
    (manager.syncPlugins session plugins).Issues
      (Within [manager.host.resourceCacheRoot, session.pluginsDir,
        runtimePluginsDir session.home session.spec.provider]) := by
  apply (issues_each fun plugin _ => manager.within_syncPlugin session plugin).andThen
  intro _
  apply Issues.andThen
  · exact (within_pruneResourceDir _ _).mapError.widen (by simp)
  · intro _
    exact (within_pruneResourceDir _ _).mapError.widen (by simp)

end Manager

end LubricantNodes.Execution
