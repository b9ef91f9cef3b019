import Mathlib.Data.List.Basic
import LubricantNodes.Transition.Core

/-!
# Pushed network configuration

The server pushes the egress proxy and the sources for public-address lookups;
each push has a revision, and an older push that arrives late is ignored.  Rounds
of lookups read the configuration, take their time and write their results back
if the configuration is still the one they read.
-/

namespace LubricantNodes.Agent

open Transition List

/-! ## Keeping the latest -/

section Latest

variable {α : Type} {revision : α → Nat} {received : List α} {current other : α}

/-- The element is one of those with the highest revision. -/
structure Latest (revision : α → Nat) (received : List α) (current : α) : Prop where
  member : current ∈ received
  highest : ∀ other ∈ received, revision other ≤ revision current

/-- Equal revisions mean equal content. -/
def Consistent (revision : α → Nat) (received : List α) : Prop :=
  ∀ first ∈ received, ∀ second ∈ received, revision first = revision second → first = second

theorem Consistent.cons (consistent : Consistent revision received)
    (agrees : ∀ known ∈ received, revision known = revision other → known = other) :
    Consistent revision (other :: received) := by
  intro first among second within same
  rcases mem_cons.mp among with rfl | known
  · rcases mem_cons.mp within with rfl | also
    · rfl
    · exact (agrees second also same.symm).symm
  · rcases mem_cons.mp within with rfl | also
    · exact agrees first known same
    · exact consistent first known second also same

namespace Latest

/-- An element with a higher revision takes over. -/
theorem newer (latest : Latest revision received current)
    (above : revision current < revision other) : Latest revision (other :: received) other := by
  constructor
  · exact mem_cons_self
  · intro third member
    rcases mem_cons.mp member with rfl | known
    · exact Nat.le_refl _
    · exact Nat.le_trans (latest.highest third known) (Nat.le_of_lt above)

/-- An element with no higher revision changes nothing. -/
theorem older (latest : Latest revision received current)
    (below : revision other ≤ revision current) : Latest revision (other :: received) current := by
  constructor
  · exact mem_cons_of_mem _ latest.member
  · intro third member
    rcases mem_cons.mp member with rfl | known
    · exact below
    · exact latest.highest third known

theorem first : Latest revision [other] other := by
  constructor
  · exact mem_cons_self
  · intro third member
    cases mem_singleton.mp member
    exact Nat.le_refl _

end Latest

end Latest

/-! ## Configuration -/

/-- `NodeProxyConfig`. -/
structure NodeProxyConfig where
  revision : Nat
  proxyMode : String
  proxyURL : String
  proxyURLPrefix : String
  deriving DecidableEq

/-- `proxyState`; it has the fields of the frame. -/
abbrev ProxyState := NodeProxyConfig

/-- The address families. -/
inductive Family
  | ipv4
  | ipv6
  deriving DecidableEq

/-- `NodePublicIPLookupConfig`. -/
structure LookupConfig where
  revision : Nat
  ipv4Urls : List String
  ipv6Urls : List String
  deriving DecidableEq

/-- The URLs that are asked for an address of a family. -/
def LookupConfig.urls (config : LookupConfig) : Family → List String
  | .ipv4 => config.ipv4Urls
  | .ipv6 => config.ipv6Urls

/-- The fields of `publicIPState` for one family. -/
structure FamilyState where
  urls : List String := []
  address : String := ""
  resolvedAt : String := ""
  disabled : Bool := false
  deriving DecidableEq

/-- `publicIPState`. -/
structure PublicIPState where
  configRevision : Nat := 0
  ipv4 : FamilyState := {}
  ipv6 : FamilyState := {}
  deriving DecidableEq

namespace PublicIPState

variable (state : PublicIPState)

/-- The fields of a family. -/
def family : Family → FamilyState
  | .ipv4 => state.ipv4
  | .ipv6 => state.ipv6

variable (value : FamilyState)

/-- Replace the fields of a family. -/
def setFamily : Family → PublicIPState
  | .ipv4 => { state with ipv4 := value }
  | .ipv6 => { state with ipv6 := value }

@[simp]
theorem configRevision_setFamily (family : Family) :
    (state.setFamily value family).configRevision = state.configRevision := by
  cases family <;> rfl

theorem family_setFamily (family other : Family) : (state.setFamily value family).family other =
      if other = family then value else state.family other := by
  cases family <;> cases other <;> rfl

end PublicIPState

/-- The sources of a family change; without sources it is disabled and loses its
address. -/
def FamilyState.configure (state : FamilyState) (urls : List String) : FamilyState :=
  let disabled := urls.isEmpty
  { urls := urls
    address := if disabled then "" else state.address
    resolvedAt := if disabled then "" else state.resolvedAt
    disabled := disabled }

/-- `applyPublicIPConfig` on the state. -/
def PublicIPState.apply (state : PublicIPState) (config : LookupConfig) : PublicIPState :=
  if config.revision ≤ state.configRevision then state
  else
    { configRevision := config.revision
      ipv4 := state.ipv4.configure config.ipv4Urls
      ipv6 := state.ipv6.configure config.ipv6Urls }

/-- `applyNodeProxyConfig` on the state. -/
def ProxyState.apply (state : ProxyState) (config : NodeProxyConfig) : ProxyState :=
  if config.revision ≤ state.revision ∧ state.revision ≠ 0 then state else config

/-! ## Lookups -/

/-- `publicIPConsensusVotes`. -/
def consensusVotes : Nat := 3

/-- `resolvePublicIP`, of what the sources answer one after the other. -/
def resolvePublicIP (votes : String → Nat) : List (Option String) → Option String
  | [] => none
  | none :: rest => resolvePublicIP votes rest
  | some address :: rest =>
    let counted := fun other => if other = address then votes other + 1 else votes other
    if consensusVotes ≤ counted address then some address else resolvePublicIP counted rest

/-- A call of `resolveFamily` that has not returned: what its round has read. -/
structure Lookup where
  revision : Nat
  family : Family
  urls : List String
  deriving DecidableEq

/-- `updatePublicIPResult` on the state. -/
def PublicIPState.update (state : PublicIPState) (revision : Nat) (family : Family)
    (address now : String) : PublicIPState :=
  if revision ≠ state.configRevision then state
  else
    state.setFamily
      { state.family family with address := address, resolvedAt := now, disabled := false } family

/-- The lookups that a round of `refreshPublicIPs` starts. -/
def PublicIPState.lookups (state : PublicIPState) : List Lookup :=
  if state.configRevision = 0 then []
  else
    ([.ipv4, .ipv6].filter fun family => !(state.family family).urls.isEmpty).map fun family =>
      { revision := state.configRevision, family := family, urls := (state.family family).urls }

/-! ## The client's network state -/

/-- The network part of `Client`, the lookups under way, and all frames that have
arrived. -/
structure Network where
  proxy : ProxyState := ⟨0, "", "", ""⟩
  publicIP : PublicIPState := {}
  /-- `publicIPWake` has a value. -/
  wake : Bool := false
  lookups : List Lookup := []
  proxies : List NodeProxyConfig := []
  configs : List LookupConfig := []

namespace Network

/-- The events of the dispatch loop, the lookup loops and the lookups. -/
inductive Event
  | proxyConfig (config : NodeProxyConfig)
  | lookupConfig (config : LookupConfig)
  /-- `refreshPublicIPs` reads the configuration, woken or by its ticker. -/
  | refresh (woken : Bool)
  /-- A lookup ends with the answers of its sources. -/
  | resolve (index : Nat) (answers : List (Option String)) (now : String)

/-- A lookup ends. -/
def finish (network : Network) (index : Nat) (answers : List (Option String)) (now : String)
    (lookup : Lookup) : Network :=
  { network with
    lookups := network.lookups.eraseIdx index
    publicIP :=
      match resolvePublicIP (fun _ => 0) (answers.take lookup.urls.length) with
      | none => network.publicIP
      | some address => network.publicIP.update lookup.revision lookup.family address now }

/-- One event. -/
def step : Step Network Event
  | network, .proxyConfig config =>
    some
      { network with
        proxy := ProxyState.apply network.proxy config
        proxies := config :: network.proxies }
  | network, .lookupConfig config =>
    some
      { network with
        publicIP := network.publicIP.apply config
        wake := network.wake || decide (network.publicIP.configRevision < config.revision)
        configs := config :: network.configs }
  | network, .refresh woken =>
    guarded (woken = true → network.wake = true)
      { network with
        wake := network.wake && !woken
        lookups := network.lookups ++ network.publicIP.lookups }
  | network, .resolve index answers now =>
    (network.lookups[index]?).map (network.finish index answers now)

/-- The server's frames have nonzero revisions, and equal revisions mean equal
content. -/
def Pushed : Discipline Network Event
  | network, .proxyConfig config =>
    config.revision ≠ 0 ∧
      ∀ known ∈ network.proxies, known.revision = config.revision → known = config
  | network, .lookupConfig config =>
    config.revision ≠ 0 ∧
      ∀ known ∈ network.configs, known.revision = config.revision → known = config
  | _, _ => True

instance (network : Network) (event : Event) : Decidable (Pushed network event) := by
  unfold Pushed
  split <;> infer_instance

end Network

/-! ## Invariants -/

/-- A family is as its sources say. -/
structure FamilyState.Configured (state : FamilyState) (sources : List String) : Prop where
  urls : state.urls = sources
  disabled : state.disabled = true ↔ sources = []
  blank : state.disabled = true → state.address = ""

/-- The state is as a configuration says. -/
structure PublicIPState.Configured (state : PublicIPState) (config : LookupConfig) : Prop where
  revision : state.configRevision = config.revision
  families : ∀ family, (state.family family).Configured (config.urls family)

theorem FamilyState.configured_configure (state : FamilyState) (urls : List String) :
    (state.configure urls).Configured urls := by
  constructor
  · rfl
  · exact isEmpty_iff
  · intro disabled
    exact if_pos disabled

namespace PublicIPState

variable {state : PublicIPState} {config : LookupConfig}

theorem configured_apply (newer : state.configRevision < config.revision) :
    (state.apply config).Configured config := by
  rw [apply, if_neg (Nat.not_le.mpr newer)]
  constructor
  · rfl
  · intro family
    cases family with
    | ipv4 => exact FamilyState.configured_configure _ _
    | ipv6 => exact FamilyState.configured_configure _ _

/-- A result for a family that has sources leaves the state configured. -/
theorem Configured.update (configured : state.Configured config) {family : Family}
    (sources : config.urls family ≠ []) (revision : Nat) (address now : String) :
    (state.update revision family address now).Configured config := by
  unfold PublicIPState.update
  split_ifs
  · exact configured
  constructor
  · rw [configRevision_setFamily]
    exact configured.revision
  · intro other
    rw [family_setFamily]
    split_ifs with same
    · subst same
      constructor
      · exact (configured.families other).urls
      · simp [sources]
      · rintro ⟨⟩
    · exact configured.families other

/-- The lookups of a round have sources. -/
theorem Configured.lookups (configured : state.Configured config) {lookup : Lookup}
    (member : lookup ∈ state.lookups) :
    lookup.revision = config.revision ∧ config.urls lookup.family ≠ [] := by
  unfold PublicIPState.lookups at member
  split_ifs at member
  · cases member
  rcases mem_map.mp member with ⟨family, listed, rfl⟩
  constructor
  · exact configured.revision
  · have nonempty := (mem_filter.mp listed).2
    rw [(configured.families family).urls] at nonempty
    simpa using nonempty

end PublicIPState

namespace Network

/-- What holds in every state. -/
structure Coherent (network : Network) : Prop where
  proxies : Consistent NodeProxyConfig.revision network.proxies
  configs : Consistent LookupConfig.revision network.configs
  proxy : network.proxies = [] ∧ network.proxy.revision = 0 ∨
    Latest NodeProxyConfig.revision network.proxies network.proxy
  publicIP : network.configs = [] ∧ network.publicIP = {} ∨
    ∃ config, Latest LookupConfig.revision network.configs config ∧
      network.publicIP.Configured config
  lookups : ∀ lookup ∈ network.lookups, ∃ config ∈ network.configs,
    config.revision = lookup.revision ∧ config.urls lookup.family ≠ []

theorem coherent_init : Coherent {} where
  proxies := nofun
  configs := nofun
  proxy := .inl ⟨rfl, rfl⟩
  publicIP := .inl ⟨rfl, rfl⟩
  lookups := nofun

variable {network network' : Network} {event : Event}

/-- A proxy frame keeps the latest proxy. -/
theorem proxy_apply {config : NodeProxyConfig} (nonzero : config.revision ≠ 0)
    (current : network.proxies = [] ∧ network.proxy.revision = 0 ∨
      Latest NodeProxyConfig.revision network.proxies network.proxy) :
    Latest NodeProxyConfig.revision (config :: network.proxies)
      (ProxyState.apply network.proxy config) := by
  unfold ProxyState.apply
  rcases current with ⟨none, zero⟩ | latest
  · rw [none, if_neg fun gate => gate.2 zero]
    exact .first
  · split_ifs with gate
    · exact latest.older gate.1
    · apply latest.newer
      omega

variable {config : LookupConfig} {answers : List (Option String)} {index : Nat} {now : String}

/-- A lookup frame keeps the state configured by the latest frame. -/
theorem publicIP_apply (nonzero : config.revision ≠ 0)
    (current : network.configs = [] ∧ network.publicIP = {} ∨
      ∃ known, Latest LookupConfig.revision network.configs known ∧
      network.publicIP.Configured known) :
    ∃ known, Latest LookupConfig.revision (config :: network.configs) known ∧
      (network.publicIP.apply config).Configured known := by
  rcases current with ⟨none, unset⟩ | ⟨known, latest, configured⟩
  · refine ⟨config, ?_, ?_⟩
    · rw [none]
      exact .first
    · rw [unset]
      exact PublicIPState.configured_apply (Nat.pos_of_ne_zero nonzero)
  by_cases newer : network.publicIP.configRevision < config.revision
  · refine ⟨config, latest.newer ?_, PublicIPState.configured_apply newer⟩
    rw [← configured.revision]
    exact newer
  · have kept : network.publicIP.apply config = network.publicIP := if_pos (Nat.not_lt.mp newer)
    refine ⟨known, latest.older ?_, ?_⟩
    · rw [← configured.revision]
      exact Nat.not_lt.mp newer
    · rw [kept]
      exact configured

/-- The end of a lookup keeps the state configured: only a lookup of the current
revision changes anything, and its family has sources. -/
theorem publicIP_finish {lookup : Lookup} (coherent : Coherent network)
    (latest : Latest LookupConfig.revision network.configs config)
    (configured : network.publicIP.Configured config) (found : lookup ∈ network.lookups) :
    (network.finish index answers now lookup).publicIP.Configured config := by
  simp only [finish]
  cases resolvePublicIP (fun _ => 0) (answers.take lookup.urls.length) with
  | none => exact configured
  | some address =>
    dsimp only
    by_cases current : lookup.revision = network.publicIP.configRevision
    · rcases coherent.lookups lookup found with ⟨known, member, revision, sources⟩
      have same : known = config := by
        apply coherent.configs known member config latest.member
        rw [revision, current, configured.revision]
      rw [same] at sources
      exact configured.update sources _ _ _
    · rw [PublicIPState.update, if_pos current]
      exact configured

theorem coherent_step (coherent : Coherent network) (pushed : Pushed network event)
    (moved : step network event = some network') : Coherent network' := by
  cases event with
  | proxyConfig config =>
    cases moved
    exact
      { coherent with
        proxies := coherent.proxies.cons pushed.2
        proxy := .inr (proxy_apply pushed.1 coherent.proxy) }
  | lookupConfig config =>
    cases moved
    exact
      { coherent with
        configs := coherent.configs.cons pushed.2
        publicIP := .inr (publicIP_apply pushed.1 coherent.publicIP)
        lookups := by
          intro lookup member
          rcases coherent.lookups lookup member with ⟨known, listed, facts⟩
          exact ⟨known, mem_cons_of_mem _ listed, facts⟩ }
  | refresh woken =>
    rcases guarded_eq_some_iff.mp moved with ⟨_, rfl⟩
    refine { coherent with lookups := ?_ }
    intro lookup member
    rcases mem_append.mp member with old | started
    · exact coherent.lookups lookup old
    rcases coherent.publicIP with ⟨_, unset⟩ | ⟨config, latest, configured⟩
    · rw [unset] at started
      cases started
    · rcases configured.lookups started with ⟨revision, sources⟩
      exact ⟨config, latest.member, revision.symm, sources⟩
  | resolve index answers now =>
    rcases Option.map_eq_some_iff.mp moved with ⟨lookup, found, rfl⟩
    have member := mem_of_getElem? found
    refine { coherent with publicIP := ?_, lookups := ?_ }
    · rcases coherent.publicIP with ⟨none, _⟩ | ⟨config, latest, configured⟩
      · rcases coherent.lookups lookup member with ⟨config, listed, _⟩
        rw [none] at listed
        cases listed
      · exact .inr ⟨config, latest, publicIP_finish coherent latest configured member⟩
    · intro other remaining
      exact coherent.lookups other (mem_of_mem_eraseIdx remaining)

theorem coherent_of_reaches (reached : Reaches step Pushed {} network) : Coherent network :=
  reached.invariant coherent_init fun _ coherent pushed moved =>
    coherent_step coherent pushed moved

/-! ## Convergence -/

/-- A lookup that changes the state has read the revision in effect. -/
theorem revision_of_resolve (moved : step network (.resolve index answers now) = some network')
    (changed : network'.publicIP ≠ network.publicIP) :
    ∃ lookup, network.lookups[index]? = some lookup ∧
      lookup.revision = network.publicIP.configRevision := by
  rcases Option.map_eq_some_iff.mp moved with ⟨lookup, found, rfl⟩
  refine ⟨lookup, found, ?_⟩
  by_contra stale
  apply changed
  simp only [finish]
  cases resolvePublicIP (fun _ => 0) (answers.take lookup.urls.length) with
  | none => rfl
  | some address => exact if_pos stale

/-- Whatever the order of the frames, the proxy and the sources are those of the
highest revision received; a result is stored only if its round has read the
revision in effect; and a family is disabled, without an address, exactly when it
has no sources. -/
theorem config_converges (reached : Reaches step Pushed {} network) : (network.proxies ≠ [] →
      Latest NodeProxyConfig.revision network.proxies network.proxy ∧
        Consistent NodeProxyConfig.revision network.proxies) ∧
      (network.configs ≠ [] → Consistent LookupConfig.revision network.configs ∧
        ∃ config, Latest LookupConfig.revision network.configs config ∧
          network.publicIP.configRevision = config.revision ∧
          ∀ family, (network.publicIP.family family).urls = config.urls family ∧
            ((network.publicIP.family family).disabled = true ↔
              (network.publicIP.family family).urls = []) ∧
            ((network.publicIP.family family).disabled = true →
              (network.publicIP.family family).address = "")) ∧
      ∀ index answers now network', step network (.resolve index answers now) = some network' →
        network'.publicIP ≠ network.publicIP →
        ∃ lookup, network.lookups[index]? = some lookup ∧
          lookup.revision = network.publicIP.configRevision := by
  have coherent := coherent_of_reaches reached
  refine ⟨?_, ?_, ?_⟩
  · intro some
    rcases coherent.proxy with ⟨none, _⟩ | latest
    · exact absurd none some
    · exact ⟨latest, coherent.proxies⟩
  · intro some
    refine ⟨coherent.configs, ?_⟩
    rcases coherent.publicIP with ⟨none, _⟩ | ⟨config, latest, configured⟩
    · exact absurd none some
    · refine ⟨config, latest, configured.revision, ?_⟩
      intro family
      have state := configured.families family
      refine ⟨state.urls, ?_, state.blank⟩
      rw [state.urls]
      exact state.disabled
  · intro index answers now network' moved changed
    exact revision_of_resolve moved changed

/-- Frames that arrive in the wrong order, and a round that outlives its
configuration. -/
def lateFrames : List Event :=
  [.proxyConfig ⟨2, "http", "http://proxy", ""⟩, .proxyConfig ⟨1, "", "", ""⟩,
    .lookupConfig ⟨1, ["a", "b", "c"], []⟩, .refresh true, .lookupConfig ⟨2, [], ["d"]⟩,
    .resolve 0 [some "1.2.3.4", some "1.2.3.4", some "1.2.3.4"] "now"]

/-- The later revisions are in effect, and the late result is dropped. -/
theorem config_converges_lateFrames :
    ∃ network, Reaches step Pushed {} network ∧ network.proxy.revision = 2 ∧
      network.publicIP.ipv4.address = "" ∧ network.publicIP.ipv4.disabled = true ∧
      Latest NodeProxyConfig.revision network.proxies network.proxy := by
  refine exists_reaches_imp_of_run (fun network => network.proxies ≠ [] ∧
        network.proxy.revision = 2 ∧ network.publicIP.ipv4.address = "" ∧
        network.publicIP.ipv4.disabled = true)
      lateFrames (by decide +kernel) ?_
  rintro network reached ⟨received, revision, blank, disabled⟩
  exact ⟨revision, blank, disabled, ((config_converges reached).1 received).1⟩

end Network

end LubricantNodes.Agent
