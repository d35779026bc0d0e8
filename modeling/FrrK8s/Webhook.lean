import FrrK8s.Selector
import FrrK8s.Validate
/-!
# Webhook — admission of configurations (`internal/webhooks`)

A configuration that is created or updated is validated on every node it selects, together with the stored
configurations that select the node and have another name, itself at the end (`validateConfig_ok`).  Deletions are
admitted as they come.  What the API server is asked for (nodes and stored configurations) and what the decoder makes of
a request may fail.
-/
namespace FrrK8s

structure Node where
  name : String
  labels : Labels
deriving DecidableEq

structure NodeAndConfigs where
  name : String
  labels : Labels
  cfgs : List FRRConfiguration

def containsDisableMP (routers : List Router) : Bool := routers.any (fun r => r.neighbors.any (fun n => n.disableMP))

/-- The warnings for neighbors whose graceful restart an update changes. -/
def gracefulRestartWarnings (old new : FRRConfiguration) : List String :=
  old.routers.flatMap (fun rold => new.routers.flatMap (fun rnew =>
    if rold.vrf ≠ rnew.vrf then []
    else rold.neighbors.flatMap (fun nold => rnew.neighbors.flatMap (fun nnew =>
      if nold.asn = nnew.asn ∧ nold.address = nnew.address ∧
        nold.enableGracefulRestart ≠ nnew.enableGracefulRestart then
        ["Graceful restart configuration changed, it will be available on the next restart"]
      else []))))

section

variable (lib : SelectorLib)

/-- What the loops of `validateConfig` carry: the configurations of a node, the warnings and the cache. -/
structure Collected where
  items : List FRRConfiguration := []
  warnings : List String
  cache : lib.Cache

/-- One stored configuration, for a node with these labels.  The one that is updated is not considered. -/
def collect (frrConfig : FRRConfiguration) (nodeLabels : Labels) (st : Collected lib) (cfg : FRRConfiguration) :
    Collected lib :=
  match getCachedSelector lib st.cache cfg.nodeSelector with
  | (.error _, cache) => { st with cache := cache }
  | (.ok selector, cache) =>
    if cfg.name = frrConfig.name then
      { st with warnings := st.warnings ++ gracefulRestartWarnings cfg frrConfig, cache := cache }
    else if selector nodeLabels then { st with items := st.items ++ [cfg], cache := cache }
    else { st with cache := cache }

/-- One node that the new configuration selects. -/
def collectForNode (existing : List FRRConfiguration) (frrConfig : FRRConfiguration)
    (st : List NodeAndConfigs × List String × lib.Cache) (n : Node) : List NodeAndConfigs × List String × lib.Cache :=
  let collected := existing.foldl (collect lib frrConfig n.labels) { warnings := st.2.1, cache := st.2.2 }
  (st.1 ++ [⟨n.name, n.labels, collected.items ++ [frrConfig]⟩], collected.warnings, collected.cache)

def validateNodes (nodes : List NodeAndConfigs) : Except String Unit :=
  nodes.forM (fun n =>
    match validate [.frrConfigurationList n.cfgs] with
    | .error err => .error s!"{err.text}\nresource is invalid for node {n.name}"
    | .ok _ => .ok ())

/-- The warnings, or why the configuration is refused. -/
def validateConfig (cache : lib.Cache) (existingNodes : Except String (List Node))
    (existingFRRConfigurations : Except String (List FRRConfiguration)) (frrConfig : FRRConfiguration) :
    Except String (List String) × lib.Cache :=
  match getCachedSelector lib cache frrConfig.nodeSelector with
  | (.error err, cache) => (.error s!"{err}\nresource contains an invalid NodeSelector", cache)
  | (.ok selector, cache) =>
    match existingNodes with
    | .error err => (.error s!"{err}\nfailed to get existing Node objects", cache)
    | .ok nodes =>
      match existingFRRConfigurations with
      | .error err => (.error s!"{err}\nfailed to get existing FRRConfiguration objects", cache)
      | .ok existing =>
        let warnings := if containsDisableMP frrConfig.routers then
          ["disableMP is deprecated, is ignored and will be removed in a future release"] else []
        let (matchingNodes, warnings, cache) := (nodes.filter (fun n => selector n.labels)).foldl
          (collectForNode lib existing frrConfig) ([], warnings, cache)
        ((validateNodes matchingNodes).map (fun _ => warnings), cache)

inductive Operation
  | create
  | update
  | delete
  | connect
deriving DecidableEq, Repr

/-- An `admission.Request`, with what the decoder makes of its objects; `oldObject` may be empty. -/
structure AdmissionRequest where
  operation : Operation
  object : Except String FRRConfiguration
  oldObject : Option (Except String FRRConfiguration) := none

inductive AdmissionResponse
  | allowed (warnings : List String)
  | denied (reason : String)
  | errored (code : Nat) (reason : String)
deriving DecidableEq, Repr

/-- The answer to a validation. -/
def answer (verdict : Except String (List String) × lib.Cache) : AdmissionResponse × lib.Cache :=
  match verdict with
  | (.error err, cache) => (.denied err, cache)
  | (.ok warnings, cache) => (.allowed warnings, cache)

/-- `FRRConfigValidator.Handle`. -/
def handle (cache : lib.Cache) (existingNodes : Except String (List Node))
    (existingFRRConfigurations : Except String (List FRRConfiguration)) (req : AdmissionRequest) :
    AdmissionResponse × lib.Cache :=
  if req.operation = .delete then
    match req.oldObject with
    | none => (.errored 400 "there is no content to decode", cache)
    | some (.error err) => (.errored 400 err, cache)
    | some (.ok _) => (.allowed [], cache)
  else
    match req.object, req.oldObject with
    | .error err, _ => (.errored 400 err, cache)
    | .ok _, some (.error err) => (.errored 400 err, cache)
    | .ok config, _ =>
      match req.operation with
      | .create | .update => answer lib (validateConfig lib cache existingNodes existingFRRConfigurations config)
      | _ => (.allowed [], cache)

end

/-! ## What was validated -/

section

variable {lib : SelectorLib}

theorem collect_sound {frrConfig : FRRConfiguration} {nodeLabels : Labels} {st : Collected lib}
    (h : CacheSound lib st.cache) (cfg : FRRConfiguration) :
    CacheSound lib (collect lib frrConfig nodeLabels st cfg).cache := by
  have hsound := getCachedSelector_sound h cfg.nodeSelector
  unfold collect
  split
  · rename_i cache heq
    rw [heq] at hsound
    exact hsound
  · rename_i selector cache heq
    rw [heq] at hsound
    split
    · exact hsound
    · split
      · exact hsound
      · exact hsound

/-- A stored configuration is considered when it has another name and selects the node. -/
theorem collect_items {frrConfig : FRRConfiguration} {nodeLabels : Labels} {st : Collected lib}
    (h : CacheSound lib st.cache) {cfg : FRRConfiguration} (hcfg : cfg.ValidSelector lib) :
    (collect lib frrConfig nodeLabels st cfg).items =
      st.items ++ [cfg].filter (fun cfg => cfg.name ≠ frrConfig.name && cfg.selects lib nodeLabels) := by
  obtain ⟨m, hm⟩ := hcfg
  have hget := getCachedSelector_valid h hm
  unfold collect
  split
  · rename_i heq
    rw [heq] at hget
    cases hget
  · rename_i selector cache heq
    rw [heq] at hget
    obtain rfl := Except.ok.inj hget
    by_cases hname : cfg.name = frrConfig.name
    · simp [hname]
    · by_cases hsel : selector nodeLabels = true
      · simp [hname, hsel, FRRConfiguration.selects, hm]
      · simp [hname, hsel, FRRConfiguration.selects, hm]

theorem foldl_collect (frrConfig : FRRConfiguration) (nodeLabels : Labels) : ∀ (existing : List FRRConfiguration)
    (st : Collected lib), CacheSound lib st.cache →
    CacheSound lib (existing.foldl (collect lib frrConfig nodeLabels) st).cache ∧
      ((∀ cfg ∈ existing, cfg.ValidSelector lib) → (existing.foldl (collect lib frrConfig nodeLabels) st).items =
        st.items ++ existing.filter (fun cfg => cfg.name ≠ frrConfig.name && cfg.selects lib nodeLabels))
  | [], st, h => ⟨h, fun _ => by simp⟩
  | cfg :: existing, st, h => by
    obtain ⟨hsound, hitems⟩ := foldl_collect frrConfig nodeLabels existing _ (collect_sound h cfg)
    refine ⟨hsound, fun hvalid => ?_⟩
    rw [List.foldl_cons, hitems (fun c hc => hvalid c (List.mem_cons_of_mem _ hc)),
      collect_items h (hvalid cfg (List.mem_cons_self ..)), List.append_assoc, ← List.filter_append,
      List.singleton_append]

/-- The stored configurations a new one is validated with on a node, and itself. -/
def validatedWith (lib : SelectorLib) (existing : List FRRConfiguration) (frrConfig : FRRConfiguration)
    (nodeLabels : Labels) : List FRRConfiguration :=
  existing.filter (fun cfg => cfg.name ≠ frrConfig.name && cfg.selects lib nodeLabels) ++ [frrConfig]

theorem foldl_collectForNode (existing : List FRRConfiguration) (frrConfig : FRRConfiguration) : ∀ (nodes : List Node)
    (st : List NodeAndConfigs × List String × lib.Cache), CacheSound lib st.2.2 →
      CacheSound lib (nodes.foldl (collectForNode lib existing frrConfig) st).2.2 ∧
      ((∀ cfg ∈ existing, cfg.ValidSelector lib) → (nodes.foldl (collectForNode lib existing frrConfig) st).1 =
        st.1 ++ nodes.map (fun n => ⟨n.name, n.labels, validatedWith lib existing frrConfig n.labels⟩))
  | [], st, h => ⟨h, fun _ => by simp⟩
  | n :: nodes, st, h => by
    obtain ⟨hone, hitems⟩ := foldl_collect frrConfig n.labels existing { warnings := st.2.1, cache := st.2.2 } h
    obtain ⟨hsound, hnodes⟩ := foldl_collectForNode existing frrConfig nodes
      (collectForNode lib existing frrConfig st n) hone
    refine ⟨hsound, fun hvalid => ?_⟩
    rw [List.foldl_cons, hnodes hvalid, collectForNode, hitems hvalid]
    simp [validatedWith]

theorem validateConfig_sound {cache : lib.Cache} (h : CacheSound lib cache) (nodes : Except String (List Node))
    (existing : Except String (List FRRConfiguration)) (frrConfig : FRRConfiguration) :
    CacheSound lib (validateConfig lib cache nodes existing frrConfig).2 := by
  have hsound := getCachedSelector_sound h frrConfig.nodeSelector
  unfold validateConfig
  split
  · rename_i heq
    rw [heq] at hsound
    exact hsound
  · rename_i selector cache' heq
    rw [heq] at hsound
    split
    · exact hsound
    · split
      · exact hsound
      · exact (foldl_collectForNode _ _ _ _ hsound).1

/-- **A configuration that passes was validated on every node it selects**, with those stored under other names. -/
theorem validateConfig_ok {cache : lib.Cache} (h : CacheSound lib cache) {nodes : Except String (List Node)}
    {existing : Except String (List FRRConfiguration)} {frrConfig : FRRConfiguration} {warnings : List String}
    (hvalid : frrConfig.ValidSelector lib)
    (hexisting : ∀ cfgs, existing = .ok cfgs → ∀ cfg ∈ cfgs, cfg.ValidSelector lib)
    (hok : (validateConfig lib cache nodes existing frrConfig).1 = .ok warnings) :
    ∃ ns cfgs, nodes = .ok ns ∧ existing = .ok cfgs ∧ ∀ n ∈ ns, frrConfig.selects lib n.labels = true →
      validate [.frrConfigurationList (validatedWith lib cfgs frrConfig n.labels)] = .ok () := by
  obtain ⟨m, hm⟩ := hvalid
  have hget := getCachedSelector_valid h hm
  have hsound := getCachedSelector_sound h frrConfig.nodeSelector
  unfold validateConfig at hok
  split at hok
  · cases hok
  · rename_i selector cache' heq
    rw [heq] at hget hsound
    obtain rfl := Except.ok.inj hget
    split at hok
    · cases hok
    · rename_i ns
      split at hok
      · cases hok
      · rename_i cfgs
        refine ⟨ns, cfgs, rfl, rfl, fun n hn hsel => ?_⟩
        have hnodes := (foldl_collectForNode cfgs frrConfig (ns.filter (fun n => selector n.labels))
          ([], if containsDisableMP frrConfig.routers then
            ["disableMP is deprecated, is ignored and will be removed in a future release"] else [], cache') hsound).2
          (hexisting cfgs rfl)
        simp only [hnodes, List.nil_append] at hok
        obtain ⟨_, hvalidated, -⟩ := (map_eq_ok _ _ _).1 hok
        have hsel' : selector n.labels = true := by
          unfold FRRConfiguration.selects at hsel
          rwa [hm] at hsel
        have hone := (forM_eq_ok _ _).1 hvalidated ⟨n.name, n.labels, validatedWith lib cfgs frrConfig n.labels⟩
          (List.mem_map.2 ⟨n, List.mem_filter.2 ⟨hn, hsel'⟩, rfl⟩)
        simp only at hone
        split at hone
        · cases hone
        · assumption

end

end FrrK8s
