import Mathlib.Data.List.Sort
import LubricantNodes.Execution.Resources

/-!
# Editor config files

What the config commands write: the runtime's MCP config, the activation list and
the system prompt below the session's state root, and the config files of the
providers below its HOME.
-/

namespace LubricantNodes.Execution

open Go Files List

/-! ## MCP servers -/

variable (codec : Codec) (home stateRoot : List String) (mcps : List MCPServer)
  (llm : LLMConfig) (mcp : MCPServer) (existing : String) (items : List EnvVar) (start : String)
  (stop : String)

/-- `isRemoteMCP`. -/
def MCPServer.isRemoteMCP : Bool :=
  if equalFold (trimSpace mcp.type) "local" then false
  else if trimSpace mcp.command ≠ "" then false
  else trimSpace mcp.url ≠ ""

/-- The URL is a path that `resolveMCPURLs` puts the origin before. -/
def MCPServer.isRelative : Bool :=
  mcp.isRemoteMCP && hasPrefix (trimSpace mcp.url) "/"

/-- The origin as `resolveMCPURLs` uses it; `gatewayOrigin` is what
`GatewayOrigin` answers. -/
def resolvedOrigin (gatewayOrigin : String) : String :=
  trimRight (trimSpace gatewayOrigin) '/'

/-- `resolveMCPURLs`. -/
def resolveMCPURLs (gatewayOrigin : String) (mcps : List MCPServer) : List MCPServer :=
  if trimSpace gatewayOrigin = "" then mcps
  else
    mcps.map fun mcp =>
      if mcp.isRelative then
        { mcp with url := resolvedOrigin gatewayOrigin ++ trimSpace mcp.url }
      else mcp

/-- `runtimeEnvMap`. -/
def runtimeEnvMap : List (String × String) :=
  items.foldl (fun out item =>
    if trimSpace item.name = "" then out else assign out (trimSpace item.name) item.value) []

/-- `normalizeRuntimeTransport`. -/
def normalizeRuntimeTransport (transport url : String) : String :=
  let name := toLower (trimSpace transport)
  if name = "sse" then "sse"
  else if name ∈ ["http", "streamable_http", "streamable-http"] then "http"
  else
    let trimmed := String.ofList ((toLower (trimSpace url)).toList.takeWhile (· ∉ ['?', '#']))
    if hasSuffix (trimRight trimmed '/') "/sse" then "sse" else "http"

/-- The entry of a server in the runtime's config. -/
def MCPServer.runtimeEntry : RuntimeServer :=
  if mcp.isRemoteMCP then
    .remote (normalizeRuntimeTransport mcp.transport mcp.url) (trimSpace mcp.url)
      (runtimeEnvMap mcp.headers)
  else .stdio (trimSpace mcp.command) mcp.args (runtimeEnvMap mcp.env)

/-- The loop body of the writers of MCP configs: a server without a name is
dropped. -/
def addServer {α : Type} (entry : MCPServer → α) (servers : List (String × α))
    (mcp : MCPServer) : List (String × α) :=
  if trimSpace mcp.name = "" then servers else assign servers (trimSpace mcp.name) (entry mcp)

/-- The servers of a list by name, the last of a name winning. -/
def serversBy {α : Type} (entry : MCPServer → α) (mcps : List MCPServer) : List (String × α) :=
  mcps.foldl (addServer entry) []

/-- `runtimeMCPConfigPath`. -/
def runtimeMCPConfigPath : List String :=
  stateRoot ++ ["agents", "mcp", "config.json"]

/-- `writeRuntimeMCPConfig`. -/
def writeRuntimeMCPConfig : FileM Unit :=
  let servers := serversBy MCPServer.runtimeEntry mcps
  if servers.isEmpty then
    removeIfExists "remove runtime mcp config: " (runtimeMCPConfigPath stateRoot)
  else
    writeDocument "create runtime mcp config dir: " "write runtime mcp config: "
      (runtimeMCPConfigPath stateRoot) (.mcps servers)

/-! ## Activation and prompt -/

/-- `runtimeActivationConfigPath`. -/
def runtimeActivationConfigPath : List String :=
  stateRoot ++ ["agents", "activation.json"]

/-- `normalizeActivationNames`. -/
def normalizeActivationNames (names : List String) : List String :=
  (names.map trimSpace).filter (· ≠ "")

/-- The activation list a file holds; a corrupt one counts as empty. -/
def Codec.activationOf : Content → ActivationConfig
  | .activation config => config
  | other => (codec.decodeActivation (codec.textOf other)).getD {}

/-- `writeRuntimeActivationConfig`; `none` keeps the key on disk. -/
def writeRuntimeActivationConfig (skills plugins : Option (List String)) : FileM Unit := do
  let path := runtimeActivationConfigPath stateRoot
  let config ← readDocument "read runtime activation config: " codec.activationOf {} path
  writeDocument "create runtime activation dir: " "write runtime activation config: " path
    (.activation
      { skills := (skills.map normalizeActivationNames).getD config.skills
        plugins := (plugins.map normalizeActivationNames).getD config.plugins })

/-- `agentSystemPromptPath`. -/
def agentSystemPromptPath : List String :=
  stateRoot ++ ["agents", "system-prompts", "system-prompt.txt"]

/-- `writeAgentSystemPrompt`. -/
def writeAgentSystemPrompt (prompt : String) : FileM Unit :=
  writeDocument "create agent system prompt dir: " "write agent system prompt: "
    (agentSystemPromptPath stateRoot) (.text prompt)

/-! ## codex -/

/-- `codexManagedMCPStart`. -/
def codexManagedMCPStart : String :=
  "# agent-compose managed mcp start"

/-- `codexManagedMCPEnd`. -/
def codexManagedMCPEnd : String :=
  "# agent-compose managed mcp end"

/-- `llmKeyEnvVar`. -/
def llmKeyEnvVar : String :=
  "AGENT_COMPOSE_LLM_KEY"

/-- `codexModelCatalogFilename`. -/
def codexModelCatalogFilename : String :=
  "ai-lubricant-model-catalog.json"

/-- `codexConfigPath`. -/
def codexConfigPath : List String :=
  home ++ [".codex", "config.toml"]

/-- `normalizeWireAPI`. -/
def normalizeWireAPI (protocol : String) : String :=
  let name := toLower (trimSpace protocol)
  if name ∈ ["chat", "chat_completions", "chat-completions"] then "chat"
  else if name ∈ ["responses", ""] then "responses"
  else name

/-- The text before, in and after the block between two markers. -/
def managedTextBlock : Option (String × String × String) :=
  match index existing start, index existing stop with
  | some first, some last =>
    if first < last then
      let past := last + stop.toList.length
      some
        (String.ofList (existing.toList.take first),
          String.ofList ((existing.toList.take past).drop first),
          String.ofList (existing.toList.drop past))
    else none
  | _, _ => none

/-- `extractManagedTextBlock`. -/
def extractManagedTextBlock : String :=
  match managedTextBlock existing start stop with
  | some (_, managed, _) => managed
  | none => ""

/-- `replaceManagedTextBlock`. -/
def replaceManagedTextBlock (block : String) : String :=
  match managedTextBlock existing start stop with
  | some (front, _, rest) =>
    if block = "" then trimRight front '\n' ++ trimLeft rest '\n' else front ++ block ++ rest
  | none =>
    if block = "" then existing
    else if trimSpace existing = "" then block
    else trimRight existing '\n' ++ "\n\n" ++ block ++ "\n"

/-- `existingModelCatalogField`. -/
def existingModelCatalogField : String :=
  match (split existing '\n').find? fun line =>
      hasPrefix (trimSpace line) "model_catalog_json" with
  | some line => line ++ "\n"
  | none => ""

/-- The entries `writeCodexModelCatalog` makes of the rows. -/
def catalogEntries (rows : List CatalogRow) : List CatalogEntry :=
  (rows.zipIdx.filter fun row => trimSpace row.1.model ≠ "").map fun (row, i) =>
    { slug := row.model
      displayName := if trimSpace row.name = "" then row.model else trimSpace row.name
      contextWindow := if row.contextWindow ≤ 0 then 128000 else row.contextWindow
      priority := 1000 + i }

/-- The first result of `writeCodexModelCatalog`. -/
def writeCodexModelCatalog (raw : String) : FileM String := do
  if trimSpace raw = "" then pure ""
  else
    match codec.decodeCatalog (trimSpace raw) with
    | none => pure ""
    | some rows =>
      if (catalogEntries rows).isEmpty then pure ""
      else
        match ← (writeDocument "" ""
            ((codexConfigPath home).dropLast ++ [codexModelCatalogFilename])
            (.catalog (catalogEntries rows))).attempt with
        | .error _ => pure ""
        | .ok _ => pure ("model_catalog_json = " ++ codec.quote codexModelCatalogFilename ++ "\n")

/-- `llm.GetExtra()[name]`. -/
def LLMConfig.extraOf (name : String) : String :=
  (llm.extra.lookup name).getD ""

/-- `baseURL` of the two writers. -/
def LLMConfig.baseURL : String :=
  trimRight (trimSpace llm.endpoint) '/'

/-- The top of codex's config. -/
def codexHead (catalog : String) : String :=
  let effort := trimSpace (llm.extraOf "REASONING_EFFORT")
  "model_provider = \"agent_compose\"\nmodel = " ++ codec.quote (trimSpace llm.model) ++ "\n" ++
    (if effort ≠ "" then "model_reasoning_effort = " ++ codec.quote effort ++ "\n" else "") ++
    catalog ++
    "\n[model_providers.agent_compose]\nname = \"agent-compose\"\nbase_url = " ++
    codec.quote llm.baseURL ++ "\nenv_key = " ++ codec.quote llmKeyEnvVar ++ "\nwire_api = " ++
    codec.quote (normalizeWireAPI llm.protocol) ++
    "\nrequest_max_retries = 30\nstream_max_retries = 50\nstream_idle_timeout_ms = 120000\n" ++
    "\n[shell_environment_policy]\ninherit = \"all\"\n\n[history]\npersistence = \"save-all\"\n"

/-- `writeCodexRuntimeConfig`. -/
def writeCodexRuntimeConfig : FileM Unit := do
  if llm.baseURL = "" then pure ()
  else
    let path := codexConfigPath home
    Prog.mkdirAll (failed "create codex config dir: ") path.dropLast
    let existing ← readText codec path
    let managed := extractManagedTextBlock existing codexManagedMCPStart codexManagedMCPEnd
    let catalog ← writeCodexModelCatalog codec home (llm.extraOf "CODEX_MODEL_CATALOG")
    let head := codexHead codec llm
      (if catalog ≠ "" then catalog else existingModelCatalogField existing)
    Prog.writeFile (failed "write codex config: ") path
      (.text (if managed ≠ "" then head ++ "\n" ++ managed ++ "\n" else head))

/-- The lines `name = "value"` of a list. -/
def quotedLines : String :=
  String.join (items.map fun item => item.name ++ " = " ++ codec.quote item.value ++ "\n")

/-- The section of a server in codex's config. -/
def MCPServer.codexSection : String :=
  let name := trimSpace mcp.name
  if name = "" then ""
  else
    "[mcp_servers." ++ name ++ "]\n" ++
      if mcp.isRemoteMCP then
        "url = " ++ codec.quote (trimSpace mcp.url) ++ "\n" ++
          if mcp.headers.isEmpty then ""
          else "[mcp_servers." ++ name ++ ".http_headers]\n" ++ quotedLines codec mcp.headers
      else
        "command = " ++ codec.quote (trimSpace mcp.command) ++ "\n" ++
          (if mcp.args.isEmpty then "" else "args = " ++ codec.encodeArgs mcp.args ++ "\n") ++
          if mcp.env.isEmpty then ""
          else "[mcp_servers." ++ name ++ ".env]\n" ++ quotedLines codec mcp.env

/-- `buildCodexManagedMCPBlock`. -/
def buildCodexManagedMCPBlock : String :=
  if mcps.isEmpty then ""
  else
    let sorted := mcps.mergeSort fun first second => !decide (second.name < first.name)
    codexManagedMCPStart ++ "\n" ++ String.join (sorted.map (·.codexSection codec)) ++
      codexManagedMCPEnd

/-- `writeCodexMCPConfig`. -/
def writeCodexMCPConfig : FileM Unit := do
  let path := codexConfigPath home
  Prog.mkdirAll (failed "create codex config dir: ") path.dropLast
  let existing ← readText codec path
  let merged := replaceManagedTextBlock existing codexManagedMCPStart codexManagedMCPEnd
    (buildCodexManagedMCPBlock codec mcps)
  if trimSpace merged = "" then removeIfExists "remove codex config: " path
  else Prog.writeFile (failed "write codex mcp config: ") path (.text merged)

/-! ## opencode -/

/-- `openCodeConfigPath`. -/
def openCodeConfigPath : List String :=
  home ++ [".config", "opencode", "opencode.json"]

/-- The config a file holds; a corrupt one counts as empty. -/
def Codec.openCodeOf : Content → OpenCodeConfig
  | .openCode config => config
  | other =>
    if trimSpace (codec.textOf other) = "" then {}
    else (codec.decodeOpenCode (codec.textOf other)).getD {}

/-- `loadOpenCodeConfig`. -/
def loadOpenCodeConfig (path : List String) : FileM OpenCodeConfig :=
  readDocument "" codec.openCodeOf {} path

/-- `saveOpenCodeConfig`. -/
def saveOpenCodeConfig (path : List String) (config : OpenCodeConfig) : FileM Unit :=
  writeDocument "create opencode config dir: " "write opencode config: " path (.openCode config)

/-- `writeOpenCodeRuntimeConfig`. -/
def writeOpenCodeRuntimeConfig : FileM Unit := do
  if llm.baseURL = "" then pure ()
  else
    let payload ← loadOpenCodeConfig codec (openCodeConfigPath home)
    let model := trimSpace llm.model
    saveOpenCodeConfig (openCodeConfigPath home)
      { payload with
        agentCompose := some (llm.baseURL, trimSpace llm.apiKey)
        model := if model ≠ "" then some ("agent-compose/" ++ model) else payload.model }

/-- The values of a list by name, as they stand. -/
def plainEnvMap : List (String × String) :=
  items.foldl (fun out item => assign out item.name item.value) []

/-- The entry of a server in opencode's config; its command and arguments are one
list there. -/
def MCPServer.openCodeEntry : NativeServer :=
  if mcp.isRemoteMCP then .remote (trimSpace mcp.url) (plainEnvMap mcp.headers)
  else .stdio (trimSpace mcp.command) mcp.args (plainEnvMap mcp.env)

/-- `writeOpenCodeMCPConfig`. -/
def writeOpenCodeMCPConfig : FileM Unit := do
  let payload ← loadOpenCodeConfig codec (openCodeConfigPath home)
  saveOpenCodeConfig (openCodeConfigPath home)
    { payload with mcp := serversBy MCPServer.openCodeEntry mcps }

/-! ## claude -/

/-- The entry of a server in claude's config. -/
def MCPServer.claudeEntry : NativeServer :=
  mcp.openCodeEntry

/-- `writeClaudeMCPConfig`. -/
def writeClaudeMCPConfig : FileM Unit :=
  let path := home ++ [".mcp.json"]
  if mcps.isEmpty then removeIfExists "remove claude mcp config: " path
  else
    writeDocument "create claude config dir: " "write claude mcp config: " path
      (.claude (serversBy MCPServer.claudeEntry mcps))

/-! ## Writers of a session -/

namespace Manager

variable (manager : Manager) (session : Placement)

/-- `writeLLMConfig`. -/
def writeLLMConfig : Option LLMConfig → FileM Unit
  | none => pure ()
  | some llm =>
    if normalizeProvider session.spec.provider = "codex" then
      writeCodexRuntimeConfig manager.codec session.home llm
    else if normalizeProvider session.spec.provider = "opencode" then
      writeOpenCodeRuntimeConfig manager.codec session.home llm
    else pure ()

/-- `writeMCPConfig`. -/
def writeMCPConfig (gatewayOrigin : String) (mcps : List MCPServer) : FileM Unit := do
  let mcps := resolveMCPURLs gatewayOrigin mcps
  writeRuntimeMCPConfig session.stateRoot mcps
  if session.spec.isSharedEnv then pure ()
  else if normalizeProvider session.spec.provider = "codex" then
    writeCodexMCPConfig manager.codec session.home mcps
  else if normalizeProvider session.spec.provider = "opencode" then
    writeOpenCodeMCPConfig manager.codec session.home mcps
  else if normalizeProvider session.spec.provider = "claude" then
    writeClaudeMCPConfig session.home mcps
  else pure ()

end Manager

/-! ## Footprints -/

/-- The directory of the runtime's files below a state root. -/
def agentFiles : List String :=
  stateRoot ++ ["agents"]

theorem prefix_agentFiles (rest : List String) :
    agentFiles stateRoot <+: stateRoot ++ "agents" :: rest :=
  ⟨rest, by simp [agentFiles]⟩

theorem within_writeRuntimeMCPConfig :
    (writeRuntimeMCPConfig stateRoot mcps).Issues (Within [agentFiles stateRoot]) := by
  have member : agentFiles stateRoot ∈ [agentFiles stateRoot] := mem_singleton.mpr rfl
  unfold writeRuntimeMCPConfig
  dsimp only
  split_ifs
  · apply issues_removeIfExists
    exact .remove member (prefix_agentFiles _ _)
  · exact within_writeDocument member (prefix_agentFiles _ _)

theorem within_writeRuntimeActivationConfig (skills plugins : Option (List String)) :
    (writeRuntimeActivationConfig codec stateRoot skills plugins).Issues
      (Within [agentFiles stateRoot]) := by
  have member : agentFiles stateRoot ∈ [agentFiles stateRoot] := mem_singleton.mpr rfl
  apply (issues_readDocument .readFile).andThen
  intro config
  exact within_writeDocument member (prefix_agentFiles _ _)

theorem within_writeAgentSystemPrompt (prompt : String) :
    (writeAgentSystemPrompt stateRoot prompt).Issues (Within [agentFiles stateRoot]) :=
  within_writeDocument (mem_singleton.mpr rfl) (prefix_agentFiles _ _)

/-- The directory of codex's config. -/
def codexFiles : List String :=
  home ++ [".codex"]

/-- The directory of opencode's config. -/
def openCodeFiles : List String :=
  home ++ [".config", "opencode"]

theorem prefix_codexFiles (name : String) : codexFiles home <+: home ++ [".codex", name] :=
  ⟨[name], by simp [codexFiles]⟩

theorem prefix_openCodeFiles : openCodeFiles home <+: openCodeConfigPath home :=
  ⟨["opencode.json"], by simp [openCodeFiles, openCodeConfigPath]⟩

theorem dropLast_codexConfigPath : (codexConfigPath home).dropLast = codexFiles home := by
  simp [codexConfigPath, codexFiles, dropLast_append_of_ne_nil]

theorem within_writeCodexModelCatalog (raw : String) :
    (writeCodexModelCatalog codec home raw).Issues (Within [codexFiles home]) := by
  unfold writeCodexModelCatalog
  split_ifs
  · exact .ret
  cases codec.decodeCatalog (trimSpace raw) with
  | none => exact .ret
  | some rows =>
    dsimp only
    split_ifs
    · exact .ret
    apply Prog.Issues.andThen
    · apply Prog.Issues.attempt
      apply within_writeDocument (mem_singleton.mpr rfl)
      rw [dropLast_codexConfigPath]
      exact prefix_append _ _
    · intro result
      cases result with
      | error failure => exact .ret
      | ok value => exact .ret

theorem within_writeCodexRuntimeConfig :
    (writeCodexRuntimeConfig codec home llm).Issues (Within [codexFiles home]) := by
  have member : codexFiles home ∈ [codexFiles home] := mem_singleton.mpr rfl
  unfold writeCodexRuntimeConfig
  split_ifs
  · exact .ret
  apply (Prog.issues_mkdirAll ?_).andThen
  · intro _
    apply (issues_readText .readFile).andThen
    intro existing
    apply (within_writeCodexModelCatalog codec home _).andThen
    intro catalog
    exact Prog.issues_writeFile (.writeFile member (prefix_codexFiles _ _))
  · rw [dropLast_codexConfigPath]
    exact .mkdirAll member (.inl prefix_rfl)

theorem within_writeCodexMCPConfig :
    (writeCodexMCPConfig codec home mcps).Issues (Within [codexFiles home]) := by
  have member : codexFiles home ∈ [codexFiles home] := mem_singleton.mpr rfl
  apply (Prog.issues_mkdirAll ?_).andThen
  · intro _
    apply (issues_readText .readFile).andThen
    intro existing
    dsimp only
    split_ifs
    · apply issues_removeIfExists
      exact .remove member (prefix_codexFiles _ _)
    · exact Prog.issues_writeFile (.writeFile member (prefix_codexFiles _ _))
  · rw [dropLast_codexConfigPath]
    exact .mkdirAll member (.inl prefix_rfl)

theorem within_writeOpenCodeRuntimeConfig :
    (writeOpenCodeRuntimeConfig codec home llm).Issues (Within [openCodeFiles home]) := by
  unfold writeOpenCodeRuntimeConfig
  split_ifs
  · exact .ret
  · apply (issues_readDocument .readFile).andThen
    intro payload
    exact within_writeDocument (mem_singleton.mpr rfl) (prefix_openCodeFiles home)

theorem within_writeOpenCodeMCPConfig :
    (writeOpenCodeMCPConfig codec home mcps).Issues (Within [openCodeFiles home]) := by
  apply (issues_readDocument .readFile).andThen
  intro payload
  exact within_writeDocument (mem_singleton.mpr rfl) (prefix_openCodeFiles home)

theorem within_writeClaudeMCPConfig :
    (writeClaudeMCPConfig home mcps).Issues (Within [home ++ [".mcp.json"]]) := by
  have member : home ++ [".mcp.json"] ∈ [home ++ [".mcp.json"]] := mem_singleton.mpr rfl
  unfold writeClaudeMCPConfig
  split_ifs
  · apply issues_removeIfExists
    exact .remove member prefix_rfl
  · exact within_writeDocument member prefix_rfl

/-- The config files of the providers below a HOME. -/
def nativeFiles : List (List String) :=
  [codexFiles home, openCodeFiles home, home ++ [".mcp.json"]]

/-- `writeLLMConfig` writes a file for the session's provider. -/
def Placement.writesLLM (session : Placement) (llm : Option LLMConfig) : Bool :=
  (normalizeProvider session.spec.provider = "codex" ||
      normalizeProvider session.spec.provider = "opencode") &&
    llm.any fun llm => llm.baseURL ≠ ""

namespace Manager

variable (manager : Manager) (session : Placement)

theorem within_writeLLMConfig (llm : Option LLMConfig) :
    (manager.writeLLMConfig session llm).Issues (Within (nativeFiles session.home)) := by
  cases llm with
  | none => exact .ret
  | some llm =>
    unfold writeLLMConfig
    split_ifs
    · exact (within_writeCodexRuntimeConfig manager.codec _ llm).widen (by simp [nativeFiles])
    · exact (within_writeOpenCodeRuntimeConfig manager.codec _ llm).widen (by simp [nativeFiles])
    · exact .ret

/-- Without a file to write, `writeLLMConfig` does nothing. -/
theorem writeLLMConfig_of_not_writesLLM {llm : Option LLMConfig}
    (silent : session.writesLLM llm = false) : manager.writeLLMConfig session llm = pure () := by
  cases llm with
  | none => rfl
  | some llm =>
    unfold writeLLMConfig
    split_ifs with codex openCode
    · have blank : llm.baseURL = "" := by
        simpa [Placement.writesLLM, codex] using silent
      exact if_pos blank
    · have blank : llm.baseURL = "" := by
        simpa [Placement.writesLLM, openCode] using silent
      exact if_pos blank
    · rfl

theorem within_writeMCPConfig (gatewayOrigin : String) (mcps : List MCPServer) :
    (manager.writeMCPConfig session gatewayOrigin mcps).Issues
      (Within (agentFiles session.stateRoot ::
        if session.spec.isSharedEnv then [] else nativeFiles session.home)) := by
  apply Prog.Issues.andThen
  · exact (within_writeRuntimeMCPConfig session.stateRoot _).widen (by simp)
  · intro _
    split_ifs
    · exact .ret
    · exact (within_writeCodexMCPConfig manager.codec _ _).widen (by simp [nativeFiles])
    · exact (within_writeOpenCodeMCPConfig manager.codec _ _).widen (by simp [nativeFiles])
    · exact (within_writeClaudeMCPConfig _ _).widen (by simp [nativeFiles])
    · exact .ret

end Manager

end LubricantNodes.Execution
