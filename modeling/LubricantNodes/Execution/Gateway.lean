import LubricantNodes.Execution.Workspace

/-!
# Gateway URLs

The server sends the URLs of its own MCP servers as paths, and the node puts the
gateway origin before them.  The config part of `create` and `applyMCPs` are the
commands that write the runtime's MCP config; this module says which entries they
write and when a path reaches the runtime without its origin.
-/

namespace LubricantNodes.Execution

open Go Files List MCPServer Prog Manager

/-! ## Addresses -/

/-- How the runtime reaches a server. -/
inductive Address
  | remote (url : String)
  | stdio (command : String) (args : List String) (env : List (String × String))
  deriving DecidableEq

/-- The address in an entry of the runtime's config. -/
def RuntimeServer.address : RuntimeServer → Address
  | .remote _ url _ => .remote url
  | .stdio command args env => .stdio command args env

/-- The address a spec asks for: a path comes after the origin, everything else
is taken as it stands. -/
def MCPServer.address (origin : String) (mcp : MCPServer) : Address :=
  if mcp.isRelative then .remote (origin ++ trimSpace mcp.url)
  else if mcp.isRemoteMCP then .remote (trimSpace mcp.url)
  else .stdio (trimSpace mcp.command) mcp.args (runtimeEnvMap mcp.env)

/-- The addresses in a config, by name. -/
def addresses (servers : List (String × RuntimeServer)) : List (String × Address) :=
  servers.map fun server => (server.1, server.2.address)

theorem map_assign {α β : Type} (f : α → β) (map : List (String × α)) (key : String) (value : α) :
    (assign map key value).map (fun entry => (entry.1, f entry.2)) =
      assign (map.map fun entry => (entry.1, f entry.2)) key (f value) := by
  simp [assign, filter_map, Function.comp_def]

theorem map_addServer {α β : Type} (f : α → β) (entry : MCPServer → α)
    (servers : List (String × α)) (mcp : MCPServer) :
    addServer (fun mcp => f (entry mcp)) (servers.map fun server => (server.1, f server.2)) mcp =
      (addServer entry servers mcp).map fun server => (server.1, f server.2) := by
  unfold addServer
  split_ifs
  · rfl
  · exact (map_assign f servers _ _).symm

theorem map_serversBy {α β : Type} (f : α → β) (entry : MCPServer → α) (mcps : List MCPServer) :
    (serversBy entry mcps).map (fun server => (server.1, f server.2)) =
      serversBy (fun mcp => f (entry mcp)) mcps :=
  (foldl_hom (map fun server : String × α => (server.1, f server.2)) (map_addServer f entry)).symm

theorem serversBy_congr {α : Type} {first second : MCPServer → α} {mcps : List MCPServer}
    (same : ∀ mcp ∈ mcps, first mcp = second mcp) :
    serversBy first mcps = serversBy second mcps := by
  apply foldl_ext
  intro servers mcp member
  rw [addServer, addServer, same mcp member]

theorem serversBy_map {α : Type} (entry : MCPServer → α) {change : MCPServer → MCPServer}
    (named : ∀ mcp, (change mcp).name = mcp.name) (mcps : List MCPServer) :
    serversBy entry (mcps.map change) = serversBy (fun mcp => entry (change mcp)) mcps := by
  rw [serversBy, foldl_map, serversBy]
  apply foldl_ext
  intro servers mcp _
  rw [addServer, addServer, named]

/-! ## Resolution -/

variable {gatewayOrigin : String}

theorem bareFront_resolvedOrigin (gatewayOrigin : String) :
    BareFront (resolvedOrigin gatewayOrigin) :=
  bareFront_of_prefix (bareFront_trimSpace gatewayOrigin) (prefix_trimRight _ _)

/-- The resolved URL is written as it is: trimming does not change it. -/
theorem trimSpace_resolved (known : resolvedOrigin gatewayOrigin ≠ "") {url : String}
    (path : trimSpace url ≠ "") :
    trimSpace (resolvedOrigin gatewayOrigin ++ trimSpace url) =
      resolvedOrigin gatewayOrigin ++ trimSpace url := by
  apply trimSpace_of_bare
  · intro rune member
    apply bareFront_resolvedOrigin gatewayOrigin rune
    rw [String.toList_append, head?_append_of_ne_nil] at member
    · exact member
    · simpa using known
  · intro rune member
    apply bareBack_trimSpace url rune
    rw [String.toList_append, getLast?_append_of_ne_nil] at member
    · exact member
    · simpa using path

/-- The entry of a spec as it stands asks for the address without an origin. -/
theorem address_runtimeEntry (mcp : MCPServer) : mcp.runtimeEntry.address = mcp.address "" := by
  unfold runtimeEntry address
  by_cases remote : mcp.isRemoteMCP
  · rw [if_pos remote, if_pos remote]
    split_ifs
    · simp [RuntimeServer.address]
    · rfl
  · have absolute : ¬mcp.isRelative := by simp [isRelative, remote]
    rw [if_neg remote, if_neg absolute, if_neg remote]
    rfl

/-- The entry of a resolved spec has the address the spec asks for. -/
theorem address_resolved (known : resolvedOrigin gatewayOrigin ≠ "") (mcp : MCPServer) :
    (if mcp.isRelative then
        { mcp with url := resolvedOrigin gatewayOrigin ++ trimSpace mcp.url }
      else mcp).runtimeEntry.address = mcp.address (resolvedOrigin gatewayOrigin) := by
  split_ifs with relative
  · have remote : mcp.isRemoteMCP := by
      simp only [isRelative, Bool.and_eq_true] at relative
      exact relative.1
    have path : trimSpace mcp.url ≠ "" := by
      unfold isRemoteMCP at remote
      split_ifs at remote
      simpa using remote
    have written := trimSpace_resolved known path
    have still : isRemoteMCP
        { mcp with url := resolvedOrigin gatewayOrigin ++ trimSpace mcp.url } := by
      unfold isRemoteMCP at remote ⊢
      split_ifs at remote ⊢
      rw [written]
      simp [known]
    unfold runtimeEntry address
    rw [if_pos still, if_pos relative]
    simp only [RuntimeServer.address, written]
  · rw [address_runtimeEntry, address, address, if_neg relative, if_neg relative]

/-- The config of the resolved specs has the addresses the specs ask for. -/
theorem addresses_resolveMCPURLs (known : resolvedOrigin gatewayOrigin ≠ "")
    (mcps : List MCPServer) :
    addresses (serversBy MCPServer.runtimeEntry (resolveMCPURLs gatewayOrigin mcps)) =
      serversBy (MCPServer.address (resolvedOrigin gatewayOrigin)) mcps := by
  have present : trimSpace gatewayOrigin ≠ "" := by
    intro blank
    apply known
    rw [resolvedOrigin, blank]
    rfl
  rw [addresses, map_serversBy, resolveMCPURLs, if_neg present, serversBy_map]
  · exact serversBy_congr fun mcp _ => address_resolved known mcp
  · intro mcp
    split_ifs <;> rfl

/-- The config of specs as they stand has the addresses without an origin. -/
theorem addresses_unresolved (mcps : List MCPServer) :
    addresses (serversBy MCPServer.runtimeEntry mcps) = serversBy (MCPServer.address "") mcps := by
  rw [addresses, map_serversBy]
  exact serversBy_congr fun mcp _ => address_runtimeEntry mcp

/-! ## The commands -/

/-- The commands that write the runtime's MCP config. -/
inductive MCPCommand
  /-- The config part of `create`. -/
  | create
  | applyMCPs (mcps : List MCPServer)

namespace MCPCommand

/-- The specs of a command. -/
def mcps (session : Placement) : MCPCommand → List MCPServer
  | create => session.spec.mcps
  | applyMCPs mcps => mcps

/-- The program of a command while the node knows a gateway origin. -/
def program (manager : Manager) (session : Placement) (gatewayOrigin : String) :
    MCPCommand → FileM Unit
  | create => manager.applyInitialConfig session gatewayOrigin
  | applyMCPs mcps => manager.applyMCPs session gatewayOrigin mcps

end MCPCommand

/-- The operation does not write the file. -/
def Elsewhere (path : List String) (op : Op String Content Request) : Prop :=
  ∀ data, op ≠ .writeFile path data

/-- If the operation writes the file, the config has these addresses. -/
def WritesAddresses (path : List String) (expected : List (String × Address))
    (op : Op String Content Request) : Prop :=
  ∀ data, op = .writeFile path data →
    ∃ servers, data = .mcps servers ∧ addresses servers = expected

theorem Elsewhere.writesAddresses {path : List String} {expected : List (String × Address)}
    {op : Op String Content Request} (elsewhere : Elsewhere path op) :
    WritesAddresses path expected op :=
  fun data written => absurd written (elsewhere data)

section Writers

variable {path other : List String}

/-- Files of different names are different. -/
theorem ne_of_getLast? {first second : List String}
    (different : first.getLast? ≠ second.getLast?) : first ≠ second :=
  fun same => different (congrArg getLast? same)

variable {content : Content} {context : String} {wrap : Errno → Failure}

theorem elsewhere_writeDocument {dirContext fileContext : String} (different : other ≠ path) :
    (writeDocument dirContext fileContext other content).Issues (Elsewhere path) := by
  apply issues_writeDocument
  · rintro _ ⟨⟩
  · intro data same
    cases same
    exact different rfl

theorem elsewhere_removeIfExists : (removeIfExists context other).Issues (Elsewhere path) := by
  apply issues_removeIfExists
  rintro _ ⟨⟩

theorem elsewhere_readDocument {α : Type} {decode : Content → α} {empty : α} :
    (readDocument context decode empty other).Issues (Elsewhere path) := by
  apply issues_readDocument
  rintro _ ⟨⟩

theorem elsewhere_mkdirAll : (Prog.mkdirAll wrap other : FileM Unit).Issues (Elsewhere path) := by
  apply issues_mkdirAll
  rintro _ ⟨⟩

theorem elsewhere_writeFile (different : other ≠ path) :
    (Prog.writeFile wrap other content : FileM Unit).Issues (Elsewhere path) := by
  apply issues_writeFile
  intro data same
  cases same
  exact different rfl

/-- A program that keeps away from the directory of the file. -/
theorem elsewhere_of_within {prog : FileM Unit} {roots : List (List String)}
    (within : prog.Issues (Within roots)) (outside : ∀ root ∈ roots, ¬root <+: path) :
    prog.Issues (Elsewhere path) := by
  apply within.mono
  rintro op inside data rfl
  rcases inside.altered path rfl with ⟨root, member, below⟩
  exact outside root member below

variable (codec : Codec) (home stateRoot : List String)

/-- The provider's own config files are not the runtime's. -/
theorem elsewhere_writeCodexModelCatalog (raw : String) :
    (writeCodexModelCatalog codec home raw).Issues
      (Elsewhere (runtimeMCPConfigPath stateRoot)) := by
  unfold writeCodexModelCatalog
  split_ifs
  · exact .ret
  cases codec.decodeCatalog (trimSpace raw) with
  | none => exact .ret
  | some rows =>
    dsimp only
    split_ifs
    · exact .ret
    apply Issues.andThen
    · apply Issues.attempt
      apply elsewhere_writeDocument
      apply ne_of_getLast?
      simp [codexModelCatalogFilename, runtimeMCPConfigPath]
    · intro result
      cases result with
      | error failure => exact .ret
      | ok value => exact .ret

theorem elsewhere_readText {codec : Codec} : (readText codec other).Issues (Elsewhere path) := by
  apply issues_readText
  rintro _ ⟨⟩

theorem elsewhere_writeCodexRuntimeConfig (llm : LLMConfig) :
    (writeCodexRuntimeConfig codec home llm).Issues
      (Elsewhere (runtimeMCPConfigPath stateRoot)) := by
  unfold writeCodexRuntimeConfig
  split_ifs
  · exact .ret
  apply elsewhere_mkdirAll.andThen
  intro _
  apply elsewhere_readText.andThen
  intro existing
  apply (elsewhere_writeCodexModelCatalog codec home stateRoot _).andThen
  intro catalog
  apply elsewhere_writeFile
  apply ne_of_getLast?
  simp [codexConfigPath, runtimeMCPConfigPath]

theorem elsewhere_writeCodexMCPConfig (mcps : List MCPServer) :
    (writeCodexMCPConfig codec home mcps).Issues (Elsewhere (runtimeMCPConfigPath stateRoot)) := by
  apply elsewhere_mkdirAll.andThen
  intro _
  apply elsewhere_readText.andThen
  intro existing
  dsimp only
  split_ifs
  · exact elsewhere_removeIfExists
  · apply elsewhere_writeFile
    apply ne_of_getLast?
    simp [codexConfigPath, runtimeMCPConfigPath]

theorem elsewhere_saveOpenCodeConfig (config : OpenCodeConfig) :
    (saveOpenCodeConfig (openCodeConfigPath home) config).Issues
      (Elsewhere (runtimeMCPConfigPath stateRoot)) := by
  apply elsewhere_writeDocument
  apply ne_of_getLast?
  simp [openCodeConfigPath, runtimeMCPConfigPath]

theorem elsewhere_writeOpenCodeRuntimeConfig (llm : LLMConfig) :
    (writeOpenCodeRuntimeConfig codec home llm).Issues
      (Elsewhere (runtimeMCPConfigPath stateRoot)) := by
  unfold writeOpenCodeRuntimeConfig
  split_ifs
  · exact .ret
  · apply elsewhere_readDocument.andThen
    intro payload
    exact elsewhere_saveOpenCodeConfig _ _ _

theorem elsewhere_writeClaudeMCPConfig (mcps : List MCPServer) :
    (writeClaudeMCPConfig home mcps).Issues (Elsewhere (runtimeMCPConfigPath stateRoot)) := by
  unfold writeClaudeMCPConfig
  split_ifs
  · exact elsewhere_removeIfExists
  · apply elsewhere_writeDocument
    apply ne_of_getLast?
    simp [runtimeMCPConfigPath]

theorem elsewhere_writeLLMConfig (manager : Manager) (session : Placement)
    (stateRoot : List String) (llm : Option LLMConfig) :
    (manager.writeLLMConfig session llm).Issues (Elsewhere (runtimeMCPConfigPath stateRoot)) := by
  cases llm with
  | none => exact .ret
  | some llm =>
    unfold writeLLMConfig
    split_ifs
    · exact elsewhere_writeCodexRuntimeConfig manager.codec _ _ llm
    · exact elsewhere_writeOpenCodeRuntimeConfig manager.codec _ _ llm
    · exact .ret

theorem elsewhere_writeAgentSystemPrompt (prompt : String) :
    (writeAgentSystemPrompt stateRoot prompt).Issues
      (Elsewhere (runtimeMCPConfigPath stateRoot)) := by
  apply elsewhere_writeDocument
  apply ne_of_getLast?
  simp [agentSystemPromptPath, runtimeMCPConfigPath]

theorem elsewhere_writeRuntimeActivationConfig (skills plugins : Option (List String)) :
    (writeRuntimeActivationConfig codec stateRoot skills plugins).Issues
      (Elsewhere (runtimeMCPConfigPath stateRoot)) := by
  apply elsewhere_readDocument.andThen
  intro config
  apply elsewhere_writeDocument
  apply ne_of_getLast?
  simp [runtimeActivationConfigPath, runtimeMCPConfigPath]

end Writers

/-! ## What the runtime is told -/

section Runtime

variable {path stateRoot : List String} {expected : List (String × Address)}
  {mcps : List MCPServer} {session : Placement} {manager : Manager}

/-- `writeRuntimeMCPConfig` writes the addresses of its specs. -/
theorem writes_writeRuntimeMCPConfig
    (same : addresses (serversBy MCPServer.runtimeEntry mcps) = expected) :
    (writeRuntimeMCPConfig stateRoot mcps).Issues
      (WritesAddresses (runtimeMCPConfigPath stateRoot) expected) := by
  unfold writeRuntimeMCPConfig
  dsimp only
  split_ifs
  · apply elsewhere_removeIfExists.mono
    exact fun _ elsewhere => elsewhere.writesAddresses
  · apply issues_writeDocument
    · rintro _ ⟨⟩
    · intro data written
      cases written
      exact ⟨_, rfl, same⟩

/-- `writeRuntimeMCPConfig` writes nothing but the addresses of its specs. -/
theorem addresses_of_writes (writes : (writeRuntimeMCPConfig stateRoot mcps).Issues
      (WritesAddresses (runtimeMCPConfigPath stateRoot) expected))
    (present : serversBy MCPServer.runtimeEntry mcps ≠ []) :
    addresses (serversBy MCPServer.runtimeEntry mcps) = expected := by
  unfold writeRuntimeMCPConfig at writes
  rw [if_neg (by simpa using present)] at writes
  have second := writes.of_bind (.ask (.ok ()) .ret)
  cases second with
  | ask met _ =>
    rcases met _ rfl with ⟨servers, same, addressed⟩
    cases same
    exact addressed

theorem writes_writeMCPConfig (known : resolvedOrigin gatewayOrigin ≠ "") :
    (manager.writeMCPConfig session gatewayOrigin mcps).Issues
      (WritesAddresses (runtimeMCPConfigPath session.stateRoot)
        (serversBy (MCPServer.address (resolvedOrigin gatewayOrigin)) mcps)) := by
  have native : ∀ {prog : FileM Unit},
      prog.Issues (Elsewhere (runtimeMCPConfigPath session.stateRoot)) →
      prog.Issues (WritesAddresses (runtimeMCPConfigPath session.stateRoot)
        (serversBy (address (resolvedOrigin gatewayOrigin)) mcps)) :=
    fun elsewhere => elsewhere.mono fun _ => Elsewhere.writesAddresses
  apply (writes_writeRuntimeMCPConfig (addresses_resolveMCPURLs known mcps)).andThen
  intro _
  split_ifs
  · exact .ret
  · exact native (elsewhere_writeCodexMCPConfig manager.codec _ _ _)
  · apply native
    apply elsewhere_readDocument.andThen
    intro payload
    exact elsewhere_saveOpenCodeConfig _ _ _
  · exact native (elsewhere_writeClaudeMCPConfig _ _ _)
  · exact .ret

/-- The resource directories of a session with a HOME of its own lie outside its
runtime files. -/
theorem resourceRoots_not_above (placed : session.Placed manager.host)
    (owns : session.spec.ownsHomeResources) :
    ∀ root ∈ manager.resourceRoots session, ¬root <+: runtimeMCPConfigPath session.stateRoot := by
  have home := placed.home_of_ownsHomeResources owns
  have config : runtimeMCPConfigPath session.stateRoot =
      session.runtimeDir ++ "state" :: ["agents", "mcp", "config.json"] := by
    simp [runtimeMCPConfigPath, Placement.stateRoot]
  have cache : Apart manager.host.resourceCacheRoot session.runtimeDir := by
    rw [placed.runtimeDir]
    exact session.spec.apart_resourceCacheRoot manager.host
  have beside : ∀ {name : String} {rest : List String}, name ≠ "state" →
      ¬session.runtimeDir ++ name :: rest <+: runtimeMCPConfigPath session.stateRoot := by
    intro name rest different
    rw [config]
    exact (apart_of_ne _ _ different).1
  unfold resourceRoots
  simp only [forall_mem_cons]
  refine ⟨?_, ?_, ?_, ?_, ?_, forall_mem_nil _⟩
  · rw [config]
    exact cache.symm.not_below (prefix_append _ _)
  · exact beside (by decide)
  · unfold runtimeSkillsDir
    split_ifs <;> rw [home, append_assoc] <;> exact beside (by decide)
  · exact beside (by decide)
  · unfold runtimePluginsDir
    split_ifs <;> rw [home, append_assoc] <;> exact beside (by decide)

end Runtime

section GatewayCommands

variable {mcps : List MCPServer} {session : Placement} {manager : Manager} {origin : String}

/-- The specs of a list that survive in a config by name. -/
def survivors (mcps : List MCPServer) : List (String × MCPServer) :=
  serversBy id mcps

theorem serversBy_eq_map {α : Type} (entry : MCPServer → α) (mcps : List MCPServer) :
    serversBy entry mcps = (survivors mcps).map fun server => (server.1, entry server.2) :=
  (map_serversBy entry id mcps).symm

/-- An origin makes a difference to a path only. -/
theorem address_eq_iff (known : origin ≠ "") (mcp : MCPServer) :
    mcp.address "" = mcp.address origin ↔ mcp.isRelative = false := by
  unfold address
  cases relative : mcp.isRelative with
  | false => simp
  | true =>
    simp only [if_true, Address.remote.injEq]
    constructor
    · intro same
      refine absurd (congrArg String.length same) ?_
      have longer : 0 < origin.length := by
        rw [Nat.pos_iff_ne_zero, ne_eq, String.length_eq_zero_iff]
        exact known
      simp only [String.length_append, String.length_empty]
      omega
    · rintro ⟨⟩

/-- The origin does not matter to a config without paths. -/
theorem serversBy_address_eq_iff (known : origin ≠ "") (mcps : List MCPServer) :
    serversBy (MCPServer.address "") mcps = serversBy (MCPServer.address origin) mcps ↔
      ∀ server ∈ survivors mcps, server.2.isRelative = false := by
  rw [serversBy_eq_map, serversBy_eq_map, map_inj_left]
  apply forall₂_congr
  intro server _
  rw [Prod.mk.injEq]
  simp only [true_and, address_eq_iff known]

/-- What a command has to meet for its config to hold resolved URLs. -/
def MCPCommand.resolvable (session : Placement) (command : MCPCommand) : Prop :=
  session.spec.isSystemEnv = true →
    ∀ server ∈ survivors (command.mcps session), server.2.isRelative = false

/-- Outside the system mode the runtime is told resolved addresses. -/
theorem writes_applyInitialConfig (known : resolvedOrigin gatewayOrigin ≠ "")
    (placed : session.Placed manager.host)
    (resolvable : MCPCommand.create.resolvable session) :
    (manager.applyInitialConfig session gatewayOrigin).Issues
      (WritesAddresses (runtimeMCPConfigPath session.stateRoot)
        (serversBy (MCPServer.address (resolvedOrigin gatewayOrigin)) session.spec.mcps)) := by
  have quiet : ∀ {prog : FileM Unit},
      prog.Issues (Elsewhere (runtimeMCPConfigPath session.stateRoot)) →
      prog.Issues (WritesAddresses (runtimeMCPConfigPath session.stateRoot)
        (serversBy (address (resolvedOrigin gatewayOrigin)) session.spec.mcps)) :=
    fun elsewhere => elsewhere.mono fun _ => Elsewhere.writesAddresses
  have llm := quiet (elsewhere_writeLLMConfig manager session session.stateRoot session.spec.llm)
  have prompt := quiet (elsewhere_writeAgentSystemPrompt session.stateRoot
    (trimSpace session.spec.systemPrompt))
  unfold applyInitialConfig
  split_ifs with system
  · apply llm.mapError.andThen
    intro _
    apply Issues.andThen
    · apply issues_when
      intro _
      apply Issues.mapError
      apply writes_writeRuntimeMCPConfig
      rw [addresses_unresolved]
      exact (serversBy_address_eq_iff known _).mpr (resolvable system)
    · intro _
      apply Issues.andThen
      · apply issues_when
        intro _
        exact (quiet (elsewhere_writeRuntimeActivationConfig _ _ _ _)).mapError
      · intro _
        apply issues_when
        intro _
        exact prompt.mapError
  · apply Issues.andThen
    · apply issues_collectErrors
      unfold initialParts
      simp only [forall_mem_cons]
      refine ⟨llm, writes_writeMCPConfig known, ?_, ?_, ?_, forall_mem_nil _⟩
      · apply issues_when
        rintro ⟨owns, -⟩
        apply quiet
        apply elsewhere_of_within (manager.within_syncSkills session _)
        intro root member
        exact resourceRoots_not_above placed owns root (manager.skillDirs_subset session member)
      · apply issues_when
        rintro ⟨owns, -⟩
        apply quiet
        apply elsewhere_of_within (manager.within_syncPlugins session _)
        intro root member
        exact resourceRoots_not_above placed owns root (manager.pluginDirs_subset session member)
      · apply issues_when
        intro _
        exact prompt
    · intro errs
      split_ifs
      · exact .ret
      · exact .fail

/-- In the system mode `applyMCPs` tells the runtime the specs as they stand. -/
theorem writes_applyMCPs (known : resolvedOrigin gatewayOrigin ≠ "")
    (resolvable : (MCPCommand.applyMCPs mcps).resolvable session) :
    (manager.applyMCPs session gatewayOrigin mcps).Issues
      (WritesAddresses (runtimeMCPConfigPath session.stateRoot)
        (serversBy (MCPServer.address (resolvedOrigin gatewayOrigin)) mcps)) := by
  unfold applyMCPs
  split_ifs with system
  · apply writes_writeRuntimeMCPConfig
    rw [addresses_unresolved]
    exact (serversBy_address_eq_iff known mcps).mpr (resolvable system)
  · exact writes_writeMCPConfig known

variable {path : List String} {wrap : Errno → Failure} {content : Content}

theorem yields_mkdirAll : (Prog.mkdirAll wrap path : FileM Unit).Yields () := .ask (.ok ()) .ret

theorem yields_writeFile : (Prog.writeFile wrap path content : FileM Unit).Yields () :=
  .ask (.ok ()) .ret

theorem yields_readText {codec : Codec} : (readText codec path).Yields "" :=
  .ask (.error .notExist) .ret

theorem yields_writeDocument {dirContext fileContext : String} :
    (writeDocument dirContext fileContext path content).Yields () :=
  yields_mkdirAll.andThen yields_writeFile

theorem yields_writeCodexModelCatalog (codec : Codec) (home : List String) (raw : String) :
    ∃ head, (writeCodexModelCatalog codec home raw).Yields head := by
  unfold writeCodexModelCatalog
  split_ifs
  · exact ⟨_, .ret⟩
  · cases codec.decodeCatalog (trimSpace raw) with
    | none => exact ⟨_, .ret⟩
    | some rows =>
      dsimp only
      split_ifs
      · exact ⟨_, .ret⟩
      · exact ⟨_, yields_writeDocument.attempt.bind .ret⟩

/-- `writeLLMConfig` can succeed. -/
theorem yields_writeLLMConfig (manager : Manager) (session : Placement)
    (llm : Option LLMConfig) : (manager.writeLLMConfig session llm).Yields () := by
  cases llm with
  | none => exact .ret
  | some llm =>
    unfold writeLLMConfig
    dsimp only
    by_cases codex : normalizeProvider session.spec.provider = "codex"
    · rw [if_pos codex]
      unfold writeCodexRuntimeConfig
      split_ifs
      · exact .ret
      · rcases yields_writeCodexModelCatalog manager.codec session.home
          (llm.extraOf "CODEX_MODEL_CATALOG") with ⟨head, catalog⟩
        exact yields_mkdirAll.andThen (yields_readText.andThen (catalog.andThen yields_writeFile))
    · rw [if_neg codex]
      by_cases openCode : normalizeProvider session.spec.provider = "opencode"
      · rw [if_pos openCode]
        unfold writeOpenCodeRuntimeConfig
        split_ifs
        · exact .ret
        · exact .ask (.error .notExist) yields_writeDocument
      · rw [if_neg openCode]
        exact .ret

theorem serversBy_eq_nil_iff {α : Type} (entry : MCPServer → α) (mcps : List MCPServer) :
    serversBy entry mcps = [] ↔ survivors mcps = [] := by
  rw [serversBy_eq_map, map_eq_nil_iff]

/-- A config written without resolution holds resolved URLs only if there was
nothing to resolve. -/
theorem absolute_of_writes (known : origin ≠ "") {stateRoot : List String}
    (writes : (writeRuntimeMCPConfig stateRoot mcps).Issues
      (WritesAddresses (runtimeMCPConfigPath stateRoot)
        (serversBy (MCPServer.address origin) mcps))) :
    ∀ server ∈ survivors mcps, server.2.isRelative = false := by
  by_cases empty : survivors mcps = []
  · rw [empty]
    exact forall_mem_nil _
  · rw [← serversBy_address_eq_iff known, ← addresses_unresolved]
    apply addresses_of_writes writes
    rwa [ne_eq, serversBy_eq_nil_iff]

/-- A command that tells the runtime resolved addresses has met the condition. -/
theorem resolvable_of_writes (known : origin ≠ "") {command : MCPCommand}
    (writes : (command.program manager session gatewayOrigin).Issues
      (WritesAddresses (runtimeMCPConfigPath session.stateRoot)
        (serversBy (MCPServer.address origin) (command.mcps session)))) :
    command.resolvable session := by
  intro system
  cases command with
  | applyMCPs mcps =>
    unfold MCPCommand.program applyMCPs at writes
    dsimp only at writes
    rw [if_pos system] at writes
    exact absolute_of_writes known writes
  | create =>
    unfold MCPCommand.program applyInitialConfig at writes
    rw [if_pos system] at writes
    have second := writes.of_bind (yields_writeLLMConfig manager session session.spec.llm).mapError
    have guarded := second.of_bind_left
    by_cases empty : session.spec.mcps = []
    · intro server member
      rw [MCPCommand.mcps, empty] at member
      cases member
    · rw [when, if_pos empty] at guarded
      exact absolute_of_writes known guarded.of_mapError

/-- With a known origin, a command tells the runtime the address of every server
with its origin exactly when the session is not a system one or no surviving spec
has a relative URL. -/
theorem relative_urls_resolved_iff (placed : session.Placed manager.host)
    (known : resolvedOrigin gatewayOrigin ≠ "") (command : MCPCommand) :
    (command.program manager session gatewayOrigin).Issues
        (WritesAddresses (runtimeMCPConfigPath session.stateRoot)
          (serversBy (MCPServer.address (resolvedOrigin gatewayOrigin)) (command.mcps session))) ↔
      command.resolvable session := by
  constructor
  · exact resolvable_of_writes known
  · intro resolvable
    cases command with
    | create => exact writes_applyInitialConfig known placed resolvable
    | applyMCPs mcps => exact writes_applyMCPs known resolvable

end GatewayCommands

/-- A server the platform offers. -/
def workflowServer : MCPServer where
  name := "issue-workflow"
  url := "/mcp/issue-workflow/sse"

/-- A session in a mode, with the platform's server. -/
def serverSpec (envMode : String) : SessionSpec where
  sessionId := "s"
  provider := "claude"
  envMode := envMode
  mcps := [workflowServer]

/-- Where such a session lives. -/
def serverSession (envMode : String) (home : List String) : Placement where
  spec := serverSpec envMode
  workDir := ["w", "s"]
  runtimeDir := ["w", "s", ".agent-compose", "sessions", "s"]
  home := home

/-- The HOME of an isolated session. -/
def isolatedHome : List String :=
  ["w", "s", ".agent-compose", "sessions", "s", "home"]

/-- An isolated session is told the whole URL. -/
theorem relative_urls_resolved_isolated :
    (serverSpec "").place systemHost = .ok (serverSession "" isolatedHome) ∧
      (MCPCommand.create.program (.plain systemHost) (serverSession "" isolatedHome)
          "https://gw/").Issues
        (WritesAddresses (runtimeMCPConfigPath (serverSession "" isolatedHome).stateRoot)
          (serversBy (MCPServer.address (resolvedOrigin "https://gw/"))
            (MCPCommand.create.mcps (serverSession "" isolatedHome)))) ∧
      serversBy (MCPServer.address (resolvedOrigin "https://gw/"))
          (MCPCommand.create.mcps (serverSession "" isolatedHome)) =
        [("issue-workflow", .remote "https://gw/mcp/issue-workflow/sse")] := by
  have placed : (serverSpec "").place systemHost = .ok (serverSession "" isolatedHome) := by
    decide +kernel
  have known : resolvedOrigin "https://gw/" ≠ "" := by decide +kernel
  have isolated : MCPCommand.create.resolvable (serverSession "" isolatedHome) := by
    intro system
    exact absurd system (by decide +kernel)
  exact ⟨placed, (relative_urls_resolved_iff (SessionSpec.placed_of_place placed).1 known
    .create).mpr isolated, by decide +kernel⟩

/-- A system session is told the path alone. -/
theorem relative_urls_not_resolved :
    ¬∀ (manager : Manager) (session : Placement) (gatewayOrigin : String) (command : MCPCommand),
      session.Placed manager.host → resolvedOrigin gatewayOrigin ≠ "" →
      (command.program manager session gatewayOrigin).Issues
        (WritesAddresses (runtimeMCPConfigPath session.stateRoot)
          (serversBy (MCPServer.address (resolvedOrigin gatewayOrigin))
            (command.mcps session))) := by
  intro resolved
  have placed : (serverSpec "system").place systemHost =
      .ok (serverSession "system" ["home", "op"]) := by
    decide +kernel
  have known : resolvedOrigin "https://gw" ≠ "" := by decide +kernel
  have writes := resolved (.plain systemHost) _ "https://gw" (.applyMCPs [workflowServer])
    (SessionSpec.placed_of_place placed).1 known
  have relative := resolvable_of_writes known writes (by decide +kernel)
    ("issue-workflow", workflowServer) (by decide +kernel)
  exact absurd relative (by decide +kernel)

end LubricantNodes.Execution
