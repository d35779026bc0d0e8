import FrrK8s.Order
import FrrK8s.Runs
import FrrK8s.Union
import FrrK8s.Webhook
/-!
# Admission — the stored configurations under requests

The API server applies the requests that `Handle` allows.  What is stored for a node is then always a part of what was
validated there, so `apiToFRR` fails on it only where an EVPN neighbor is missing (`admission_loads`): a deletion, or an
update that no longer selects the node, may take the neighbor that the EVPN settings of another configuration need, and
neither is validated there.
-/
namespace FrrK8s

/-! ## EVPN neighbors -/

/-- The EVPN settings of the entry need a neighbor with the EVPN address family. -/
def Router.needsEvpn (r : Router) : Bool := (r.evpn.map evpnToFRR).any evpnNeedsNeighbor

def Router.declaresEvpn (r : Router) : Bool :=
  r.neighbors.any (fun a => a.addressFamilies.elems.contains addressFamilyEVPN)

/-- For every entry that needs an EVPN neighbor, some entry of its VRF declares one. -/
def EvpnServed (cfgs : List FRRConfiguration) : Prop :=
  ∀ cfg ∈ cfgs, ∀ r ∈ cfg.routers, r.needsEvpn = true →
    ∃ cfg' ∈ cfgs, ∃ r' ∈ cfg'.routers, r'.vrf = r.vrf ∧ r'.declaresEvpn = true

theorem needsEvpn_iff (r : Router) : r.needsEvpn = true ↔
    evpnTells (r.evpn.map evpnToFRR) (.advertiseVNIsSet vniAdvertisementAll) ∨
      evpnTells (r.evpn.map evpnToFRR) (.advertiseSVI true) ∨ ∃ x, evpnTells (r.evpn.map evpnToFRR) (.l2 x) := by
  unfold Router.needsEvpn
  cases r.evpn.map evpnToFRR with
  | none => simp [not_evpnTells_none]
  | some e => simp only [Option.any_some, evpnNeedsNeighbor_iff, evpnTells_some]

theorem EvpnServed.congr {cfgs cfgs' : List FRRConfiguration} (hmem : ∀ c, c ∈ cfgs ↔ c ∈ cfgs') (h : EvpnServed cfgs) :
    EvpnServed cfgs' := by
  intro cfg hcfg r hr hneed
  obtain ⟨cfg', hcfg', hserved⟩ := h cfg ((hmem cfg).2 hcfg) r hr hneed
  exact ⟨cfg', (hmem cfg').1 hcfg', hserved⟩

section

variable {secrets : SortedMap String Secret} {alwaysBlock : List Net.IPNet} {cfgs : List FRRConfiguration}

theorem needsEvpnNeighbor_told
    (hentries : ∀ cfg ∈ cfgs, ∀ r ∈ cfg.routers, (entryFor secrets alwaysBlock cfg r).isOk = true) (vrf : String) :
    needsEvpnNeighbor (told secrets alwaysBlock cfgs) vrf ↔
      ∃ cfg ∈ cfgs, ∃ r ∈ cfg.routers, r.vrf = vrf ∧ r.needsEvpn = true := by
  have htold : ∀ x, told secrets alwaysBlock cfgs (vrf, .evpn x) ↔
      ∃ cfg ∈ cfgs, ∃ r ∈ cfg.routers, r.vrf = vrf ∧ evpnTells (r.evpn.map evpnToFRR) x := by
    refine fun x => told_iff_of_entries hentries (fun cfg e d hd => ?_) vrf
    rw [RouterConfig.tells, (entryFor_fields hd).2.2.2.2.2]
  simp only [needsEvpnNeighbor, htold, needsEvpn_iff]
  constructor
  · rintro (⟨cfg, hcfg, r, hr, hvrf, h⟩ | ⟨cfg, hcfg, r, hr, hvrf, h⟩ | ⟨x, cfg, hcfg, r, hr, hvrf, h⟩)
    · exact ⟨cfg, hcfg, r, hr, hvrf, Or.inl h⟩
    · exact ⟨cfg, hcfg, r, hr, hvrf, Or.inr (Or.inl h)⟩
    · exact ⟨cfg, hcfg, r, hr, hvrf, Or.inr (Or.inr ⟨x, h⟩)⟩
  · rintro ⟨cfg, hcfg, r, hr, hvrf, h | h | ⟨x, h⟩⟩
    · exact Or.inl ⟨cfg, hcfg, r, hr, hvrf, h⟩
    · exact Or.inr (Or.inl ⟨cfg, hcfg, r, hr, hvrf, h⟩)
    · exact Or.inr (Or.inr ⟨x, cfg, hcfg, r, hr, hvrf, h⟩)

/-- An entry is translated to a router with an EVPN neighbor exactly when it declares one. -/
theorem hasEVPNNeighbor_entry {cfg : FRRConfiguration} {r : Router} {d : RouterConfig}
    (hd : entryFor secrets alwaysBlock cfg r = .ok d) : hasEVPNNeighbor d = true ↔ r.declaresEvpn = true := by
  obtain ⟨-, htrans, hmem⟩ := entryFor_neighbors hd
  have hfamilies : ∀ {a m}, neighborToFRR a (entryPrefixes cfg r) (alwaysBlockToFRR alwaysBlock) r.vrf secrets
      (localProfiles cfg) = .ok m → m.addressFamilies = a.addressFamilies := by
    intro a m hm
    obtain ⟨-, _, -, _, -, _, -, _, -, _, -, rfl⟩ := (neighborToFRR_eq_ok ..).1 hm
    rfl
  unfold hasEVPNNeighbor Router.declaresEvpn
  simp only [List.any_eq_true]
  refine ⟨fun ⟨m, hm, h⟩ => ?_, fun ⟨a, ha, h⟩ => ?_⟩
  · obtain ⟨a, ha, hm⟩ := (hmem m).1 hm
    exact ⟨a, ha, hfamilies hm ▸ h⟩
  · obtain ⟨m, hm⟩ := htrans a ha
    exact ⟨m, (hmem m).2 ⟨a, ha, hm⟩, (hfamilies hm).symm ▸ h⟩

theorem exists_evpnNeighbor_told
    (hentries : ∀ cfg ∈ cfgs, ∀ r ∈ cfg.routers, (entryFor secrets alwaysBlock cfg r).isOk = true) (vrf : String) :
    (∃ id, told secrets alwaysBlock cfgs (vrf, .neighbor id (.addressFamily addressFamilyEVPN))) ↔
      ∃ cfg ∈ cfgs, ∃ r ∈ cfg.routers, r.vrf = vrf ∧ r.declaresEvpn = true := by
  constructor
  · rintro ⟨id, cfg, hcfg, r, hr, d, hd, hvrf, hx⟩
    exact ⟨cfg, hcfg, r, hr, (entryFor_fields hd).2.1.symm.trans hvrf,
      (hasEVPNNeighbor_entry hd).1 ((hasEVPNNeighbor_iff d).2 ⟨id, hx⟩)⟩
  · rintro ⟨cfg, hcfg, r, hr, hvrf, h⟩
    obtain ⟨d, hd⟩ := (isOk_iff _).1 (hentries cfg hcfg r hr)
    obtain ⟨id, hid⟩ := (hasEVPNNeighbor_iff d).1 ((hasEVPNNeighbor_entry hd).2 h)
    exact ⟨id, cfg, hcfg, r, hr, d, hd, (entryFor_fields hd).2.1.trans hvrf, hid⟩

/-- **A part of an acceptable list is acceptable exactly when its EVPN neighbors are there.** -/
theorem Acceptable.part_iff {l : List FRRConfiguration} (h : Acceptable secrets alwaysBlock cfgs)
    (hl : ∀ c ∈ l, c ∈ cfgs) : Acceptable secrets alwaysBlock l ↔ EvpnServed l := by
  have hentries : ∀ cfg ∈ l, ∀ r ∈ cfg.routers, (entryFor secrets alwaysBlock cfg r).isOk = true :=
    fun cfg hcfg => h.entries cfg (hl cfg hcfg)
  refine ⟨fun hacc cfg hcfg r hr hneed => ?_, fun hserved => h.part hl (fun vrf hevpn => ?_)⟩
  · exact (exists_evpnNeighbor_told hentries r.vrf).1 (hacc.evpn.neighbor r.vrf
      ((needsEvpnNeighbor_told hentries r.vrf).2 ⟨cfg, hcfg, r, hr, rfl, hneed⟩))
  · obtain ⟨cfg, hcfg, r, hr, rfl, hneed⟩ := (needsEvpnNeighbor_told hentries vrf).1 hevpn
    exact (exists_evpnNeighbor_told hentries r.vrf).2 (hserved cfg hcfg r hr hneed)

end

/-! ## Requests -/

section

variable (lib : SelectorLib)

/-- The webhook's cache and what the API server stores. -/
structure Admission where
  cache : lib.Cache
  stored : List FRRConfiguration := []

/-- A request, with what the webhook reads from the API server when it comes. -/
structure AdmissionEvent where
  request : AdmissionRequest
  nodes : Except String (List Node)
  configs : Except String (List FRRConfiguration)

/-- The API server creates only under a new name. -/
def createIn (stored : List FRRConfiguration) (config : FRRConfiguration) : Option (List FRRConfiguration) :=
  if config.name ∈ stored.map FRRConfiguration.name then none else some (stored ++ [config])

/-- The API server updates and deletes only what it has. -/
def updateIn (stored : List FRRConfiguration) (config : FRRConfiguration) : Option (List FRRConfiguration) :=
  if config.name ∈ stored.map FRRConfiguration.name then
    some (stored.map (fun cfg => if cfg.name = config.name then config else cfg))
  else none

def deleteIn (stored : List FRRConfiguration) (name : String) : Option (List FRRConfiguration) :=
  if name ∈ stored.map FRRConfiguration.name then some (stored.filter (fun cfg => cfg.name ≠ name)) else none

/-- What an allowed request makes of the stored configurations. -/
def AdmissionRequest.apply (req : AdmissionRequest) (stored : List FRRConfiguration) : Option (List FRRConfiguration) :=
  match req.operation, req.object, req.oldObject with
  | .create, .ok config, _ => createIn stored config
  | .update, .ok config, _ => updateIn stored config
  | .delete, _, some (.ok old) => deleteIn stored old.name
  | _, _, _ => some stored

variable {lib}

def Admission.step (s : Admission lib) (e : AdmissionEvent) : Option (Admission lib) :=
  match handle lib s.cache e.nodes e.configs e.request with
  | (.allowed _, cache) => (e.request.apply s.stored).map (fun stored => ⟨cache, stored⟩)
  | (_, cache) => some { s with cache := cache }

variable (lib)

def admission : System (Admission lib) AdmissionEvent where
  init := { cache := lib.new }
  step := Admission.step

end

section

variable {lib : SelectorLib}

theorem answer_snd (verdict : Except String (List String) × lib.Cache) : (answer lib verdict).2 = verdict.2 := by
  obtain ⟨r, cache⟩ := verdict
  cases r with
  | error err => rfl
  | ok warnings => rfl

theorem answer_allowed {verdict : Except String (List String) × lib.Cache} {warnings : List String} {cache : lib.Cache}
    (h : answer lib verdict = (.allowed warnings, cache)) : verdict.1 = .ok warnings := by
  obtain ⟨r, c⟩ := verdict
  cases r with
  | error err => cases h
  | ok ws =>
    cases h
    rfl

theorem handle_sound {cache : lib.Cache} (h : CacheSound lib cache) (nodes : Except String (List Node))
    (configs : Except String (List FRRConfiguration)) (req : AdmissionRequest) :
    CacheSound lib (handle lib cache nodes configs req).2 := by
  unfold handle
  split
  · split
    · exact h
    · exact h
    · exact h
  · split
    · exact h
    · exact h
    · split
      · rw [answer_snd]
        exact validateConfig_sound h _ _ _
      · rw [answer_snd]
        exact validateConfig_sound h _ _ _
      · exact h

/-- A creation or update that is allowed was validated. -/
theorem handle_put {cache cache' : lib.Cache} {nodes : Except String (List Node)}
    {configs : Except String (List FRRConfiguration)} {req : AdmissionRequest} {warnings : List String}
    (hop : req.operation = .create ∨ req.operation = .update)
    (h : handle lib cache nodes configs req = (.allowed warnings, cache')) :
    ∃ config, req.object = .ok config ∧ (validateConfig lib cache nodes configs config).1 = .ok warnings := by
  have hne : req.operation ≠ .delete := by
    rcases hop with hop | hop
    · simp [hop]
    · simp [hop]
  unfold handle at h
  rw [if_neg hne] at h
  split at h
  · cases h
  · cases h
  · rename_i config hobject _
    refine ⟨config, hobject, ?_⟩
    rcases hop with hop | hop
    · rw [hop] at h
      exact answer_allowed h
    · rw [hop] at h
      exact answer_allowed h

theorem mem_createIn {config : FRRConfiguration} {stored stored' : List FRRConfiguration}
    (h : createIn stored config = some stored') (cfg : FRRConfiguration) :
    cfg ∈ stored' ↔ cfg = config ∨ (cfg ∈ stored ∧ cfg.name ≠ config.name) := by
  unfold createIn at h
  split_ifs at h with hname
  obtain rfl := Option.some.inj h
  have hne : cfg ∈ stored → cfg.name ≠ config.name := fun hcfg heq => hname (heq ▸ List.mem_map_of_mem hcfg)
  rw [List.mem_append, List.mem_singleton, or_comm, and_iff_left_of_imp hne]

theorem mem_updateIn {config : FRRConfiguration} {stored stored' : List FRRConfiguration}
    (h : updateIn stored config = some stored') (cfg : FRRConfiguration) :
    cfg ∈ stored' ↔ cfg = config ∨ (cfg ∈ stored ∧ cfg.name ≠ config.name) := by
  unfold updateIn at h
  split_ifs at h with hname
  obtain rfl := Option.some.inj h
  obtain ⟨old, hold, hname⟩ := List.mem_map.1 hname
  rw [List.mem_map]
  constructor
  · rintro ⟨c, hc, rfl⟩
    by_cases hcname : c.name = config.name
    · exact Or.inl (if_pos hcname)
    · rw [if_neg hcname]
      exact Or.inr ⟨hc, hcname⟩
  · rintro (rfl | ⟨hcfg, hne⟩)
    · exact ⟨old, hold, if_pos hname⟩
    · exact ⟨cfg, hcfg, if_neg hne⟩

theorem mem_deleteIn {name : String} {stored stored' : List FRRConfiguration} (h : deleteIn stored name = some stored')
    (cfg : FRRConfiguration) : cfg ∈ stored' ↔ cfg ∈ stored ∧ cfg.name ≠ name := by
  unfold deleteIn at h
  split_ifs at h with hname
  obtain rfl := Option.some.inj h
  rw [List.mem_filter, decide_eq_true_eq]

/-- **What a step does**: nothing to what is stored, or it puts a configuration there that was validated, or deletes
those of a name. -/
theorem step_stored {s s' : Admission lib} {e : AdmissionEvent} (h : s.step e = some s') :
    s'.cache = (handle lib s.cache e.nodes e.configs e.request).2 ∧ (s'.stored = s.stored ∨
      (∃ config warnings, e.request.object = .ok config ∧
        (validateConfig lib s.cache e.nodes e.configs config).1 = .ok warnings ∧
        ∀ cfg, cfg ∈ s'.stored ↔ cfg = config ∨ (cfg ∈ s.stored ∧ cfg.name ≠ config.name)) ∨
      ∃ name, ∀ cfg, cfg ∈ s'.stored ↔ cfg ∈ s.stored ∧ cfg.name ≠ name) := by
  unfold Admission.step at h
  split at h
  · rename_i warnings cache hhandle
    rw [hhandle]
    obtain ⟨stored, hstored, rfl⟩ := Option.map_eq_some_iff.1 h
    refine ⟨rfl, ?_⟩
    unfold AdmissionRequest.apply at hstored
    split at hstored
    · rename_i config hop hobject
      obtain ⟨c, hc, hvalid⟩ := handle_put (Or.inl hop) hhandle
      obtain rfl := Except.ok.inj (hobject.symm.trans hc)
      exact Or.inr (Or.inl ⟨config, warnings, hobject, hvalid, mem_createIn hstored⟩)
    · rename_i config hop hobject
      obtain ⟨c, hc, hvalid⟩ := handle_put (Or.inr hop) hhandle
      obtain rfl := Except.ok.inj (hobject.symm.trans hc)
      exact Or.inr (Or.inl ⟨config, warnings, hobject, hvalid, mem_updateIn hstored⟩)
    · exact Or.inr (Or.inr ⟨_, mem_deleteIn hstored⟩)
    · exact Or.inl (Option.some.inj hstored).symm
  · rename_i cache _ hhandle
    rw [hhandle]
    obtain rfl := Option.some.inj h
    exact ⟨rfl, Or.inl rfl⟩

/-- What is stored was stored before or was sent. -/
theorem mem_stored_step {s s' : Admission lib} {e : AdmissionEvent} (h : s.step e = some s') {cfg : FRRConfiguration}
    (hcfg : cfg ∈ s'.stored) : cfg ∈ s.stored ∨ e.request.object = .ok cfg := by
  obtain ⟨-, hsame | ⟨config, _, hobject, -, hmem⟩ | ⟨name, hmem⟩⟩ := step_stored h
  · exact Or.inl (hsame ▸ hcfg)
  · obtain rfl | ⟨hcfg, -⟩ := (hmem cfg).1 hcfg
    · exact Or.inr hobject
    · exact Or.inl hcfg
  · exact Or.inl ((hmem cfg).1 hcfg).1

/-! ## One node -/

/-- The stored configurations that select the node. -/
def Admission.configsOf (s : Admission lib) (n : Node) : List FRRConfiguration :=
  s.stored.filter (fun cfg => cfg.selects lib n.labels)

/-- Some configuration selected the node, and what is stored under its name then does not. -/
def Admission.Takes (s : Admission lib) (n : Node) (s' : Admission lib) : Prop :=
  ∃ cfg ∈ s.configsOf n, ∀ cfg' ∈ s'.configsOf n, cfg'.name ≠ cfg.name

/-- The webhook reads what there is, and the configuration that is sent has a valid selector and no secret
references. -/
structure AdmissionEvent.Proper (lib : SelectorLib) (nodes : List Node) (s : Admission lib) (e : AdmissionEvent) :
    Prop where
  nodes_read : ∀ ns, e.nodes = .ok ns → ns.Perm nodes
  configs_read : ∀ cfgs, e.configs = .ok cfgs → cfgs.Perm s.stored
  selector : ∀ config, e.request.object = .ok config → config.ValidSelector lib
  noSecrets : ∀ config, e.request.object = .ok config → config.NoSecrets

theorem mem_configsOf {s : Admission lib} {n : Node} {cfg : FRRConfiguration} :
    cfg ∈ s.configsOf n ↔ cfg ∈ s.stored ∧ cfg.selects lib n.labels = true := by
  unfold Admission.configsOf
  rw [List.mem_filter]

/-- When, of those that select the node, only those of one name go, they are taken from the node or it had none. -/
theorem configsOf_removed {s s' : Admission lib} {n : Node} {name : String}
    (h : ∀ cfg, cfg.selects lib n.labels = true → (cfg ∈ s'.stored ↔ cfg ∈ s.stored ∧ cfg.name ≠ name)) :
    (∀ cfg ∈ s'.configsOf n, cfg ∈ s.configsOf n) ∧ (s.Takes n s' ∨ ∀ cfg ∈ s.configsOf n, cfg ∈ s'.configsOf n) := by
  have hmem : ∀ cfg, cfg ∈ s'.configsOf n ↔ cfg ∈ s.configsOf n ∧ cfg.name ≠ name := by
    intro cfg
    rw [mem_configsOf, mem_configsOf, and_right_comm]
    exact and_congr_left (h cfg)
  refine ⟨fun cfg hcfg => ((hmem cfg).1 hcfg).1, ?_⟩
  by_cases hold : ∃ old ∈ s.configsOf n, old.name = name
  · obtain ⟨old, hold, rfl⟩ := hold
    exact Or.inl ⟨old, hold, fun cfg' hcfg' => ((hmem cfg').1 hcfg').2⟩
  · exact Or.inr (fun cfg hcfg => (hmem cfg).2 ⟨hcfg, fun hname => hold ⟨cfg, hcfg, hname⟩⟩)

section

variable {secrets : SortedMap String Secret} {alwaysBlock : List Net.IPNet} {nodes : List Node} {s s' : Admission lib}
  {e : AdmissionEvent}

/-- A configuration that selects the node is stored with what it was validated with. -/
theorem configsOf_validated (hcache : CacheSound lib s.cache) (hselectors : ∀ cfg ∈ s.stored, cfg.ValidSelector lib)
    (hsecrets : ∀ cfg ∈ s.stored, cfg.NoSecrets) (hproper : e.Proper lib nodes s) {n : Node} (hn : n ∈ nodes)
    {config : FRRConfiguration} {warnings : List String} (hobject : e.request.object = .ok config)
    (hvalid : (validateConfig lib s.cache e.nodes e.configs config).1 = .ok warnings)
    (hsel : config.selects lib n.labels = true)
    (hmem : ∀ cfg, cfg ∈ s'.stored ↔ cfg = config ∨ (cfg ∈ s.stored ∧ cfg.name ≠ config.name)) :
    Acceptable secrets alwaysBlock (s'.configsOf n) := by
  obtain ⟨ns, cfgs, hns, hcfgs, hnodes⟩ := validateConfig_ok hcache (hproper.selector config hobject)
    (fun cfgs hread cfg hcfg => hselectors cfg ((hproper.configs_read cfgs hread).mem_iff.1 hcfg)) hvalid
  have hstored : ∀ cfg, cfg ∈ cfgs ↔ cfg ∈ s.stored := fun cfg => (hproper.configs_read cfgs hcfgs).mem_iff
  have hok := hnodes n ((hproper.nodes_read ns hns).mem_iff.2 hn) hsel
  have hwith : ∀ cfg, cfg ∈ validatedWith lib cfgs config n.labels ↔ cfg ∈ s'.configsOf n := by
    intro cfg
    rw [mem_configsOf, hmem]
    simp only [validatedWith, List.mem_append, List.mem_filter, List.mem_singleton, hstored, Bool.and_eq_true,
      decide_eq_true_eq]
    grind
  refine Acceptable.congr hwith (validated_noSecrets hok (fun cfg hcfg => ?_))
  obtain rfl | ⟨hcfg, -⟩ := (hmem cfg).1 (mem_configsOf.1 ((hwith cfg).1 hcfg)).1
  · exact hproper.noSecrets cfg hobject
  · exact hsecrets cfg hcfg

/-- **What a step does to a node**: it validates what the node then has, or takes from the node, or leaves it as it
is. -/
theorem step_node (hcache : CacheSound lib s.cache) (hselectors : ∀ cfg ∈ s.stored, cfg.ValidSelector lib)
    (hsecrets : ∀ cfg ∈ s.stored, cfg.NoSecrets) (hproper : e.Proper lib nodes s) {n : Node} (hn : n ∈ nodes)
    (h : s.step e = some s') : Acceptable secrets alwaysBlock (s'.configsOf n) ∨
      (∀ cfg ∈ s'.configsOf n, cfg ∈ s.configsOf n) ∧ (s.Takes n s' ∨ ∀ cfg ∈ s.configsOf n, cfg ∈ s'.configsOf n) := by
  obtain ⟨-, hsame | ⟨config, warnings, hobject, hvalid, hmem⟩ | ⟨name, hmem⟩⟩ := step_stored h
  · have hconfigs : s'.configsOf n = s.configsOf n := by
      unfold Admission.configsOf
      rw [hsame]
    rw [hconfigs]
    exact Or.inr ⟨fun cfg hcfg => hcfg, Or.inr (fun cfg hcfg => hcfg)⟩
  · by_cases hsel : config.selects lib n.labels = true
    · exact Or.inl (configsOf_validated hcache hselectors hsecrets hproper hn hobject hvalid hsel hmem)
    · have hothers : ∀ cfg, cfg.selects lib n.labels = true →
          (cfg ∈ s'.stored ↔ cfg ∈ s.stored ∧ cfg.name ≠ config.name) := by
        intro cfg hcfg
        rw [hmem, or_iff_right (fun heq : cfg = config => hsel (heq ▸ hcfg))]
      exact Or.inr (configsOf_removed hothers)
  · exact Or.inr (configsOf_removed (fun cfg _ => hmem cfg))

end

/-! ## Runs -/

/-- When the request takes a configuration from the node, what the node is left with has the EVPN neighbors it needs. -/
def Admission.LeavesServed (s : Admission lib) (n : Node) (e : AdmissionEvent) : Prop :=
  ∀ s', s.step e = some s' → s.Takes n s' → EvpnServed (s'.configsOf n)

/-- What requests keep: a node has a part of what was validated there, and the EVPN neighbors it needs as long as no
request took one. -/
structure Stored (secrets : SortedMap String Secret) (alwaysBlock : List Net.IPNet) (nodes : List Node)
    (past : List (Admission lib × AdmissionEvent)) (s : Admission lib) : Prop where
  cache : CacheSound lib s.cache
  selectors : ∀ cfg ∈ s.stored, cfg.ValidSelector lib
  noSecrets : ∀ cfg ∈ s.stored, cfg.NoSecrets
  validated : ∀ n ∈ nodes, ∃ l, Acceptable secrets alwaysBlock l ∧ ∀ cfg ∈ s.configsOf n, cfg ∈ l
  served : ∀ n ∈ nodes, (∀ x ∈ past, x.1.LeavesServed n x.2) → EvpnServed (s.configsOf n)

theorem acceptable_nil (secrets : SortedMap String Secret) (alwaysBlock : List Net.IPNet) :
    Acceptable secrets alwaysBlock [] := by
  have hnone : ∀ x, ¬ told secrets alwaysBlock [] x := fun x ⟨_, h, _⟩ => List.not_mem_nil h
  refine ⟨by simp, by simp, fun p q ⟨_, hp, _⟩ => (List.not_mem_nil hp).elim, fun x y hx =>
    (hnone x hx).elim, ?_, ?_, ?_⟩
  · rintro vrf (h | h | ⟨x, h⟩)
    · exact (hnone _ h).elim
    · exact (hnone _ h).elim
    · exact (hnone _ h).elim
  · exact fun vrf n id f h => (hnone _ h).elim
  · rintro u v n (⟨-, f, h⟩ | ⟨-, h⟩)
    · exact (hnone _ h).elim
    · exact (hnone _ h).elim

theorem stored_run {secrets : SortedMap String Secret} {alwaysBlock : List Net.IPNet} {nodes : List Node}
    {past : List (Admission lib × AdmissionEvent)} {s : Admission lib} (hrun : Run (admission lib) past s)
    (hproper : ∀ x ∈ past, x.2.Proper lib nodes x.1) : Stored secrets alwaysBlock nodes past s := by
  refine Run.invariant ?_ (fun past s e s' _ h hproper hstep => ?_) hrun hproper
  · refine ⟨cacheSound_new, by simp [admission], by simp [admission], fun n _ => ⟨[], acceptable_nil _ _, ?_⟩,
      fun n _ _ => ?_⟩
    · simp [Admission.configsOf, admission]
    · simp [EvpnServed, Admission.configsOf, admission]
  · have hnode : ∀ n ∈ nodes, Acceptable secrets alwaysBlock (s'.configsOf n) ∨
        (∀ cfg ∈ s'.configsOf n, cfg ∈ s.configsOf n) ∧ (s.Takes n s' ∨ ∀ cfg ∈ s.configsOf n, cfg ∈ s'.configsOf n) :=
      fun n hn => step_node h.cache h.selectors h.noSecrets hproper hn hstep
    refine ⟨?_, fun cfg hcfg => ?_, fun cfg hcfg => ?_, fun n hn => ?_, fun n hn hleaves => ?_⟩
    · rw [(step_stored hstep).1]
      exact handle_sound h.cache _ _ _
    · exact (mem_stored_step hstep hcfg).elim (h.selectors cfg) (hproper.selector cfg)
    · exact (mem_stored_step hstep hcfg).elim (h.noSecrets cfg) (hproper.noSecrets cfg)
    · obtain hacc | ⟨hsub, -⟩ := hnode n hn
      · exact ⟨_, hacc, fun cfg hcfg => hcfg⟩
      · obtain ⟨l, hl, hmem⟩ := h.validated n hn
        exact ⟨l, hl, fun cfg hcfg => hmem cfg (hsub cfg hcfg)⟩
    · obtain hacc | ⟨hsub, htakes | hsup⟩ := hnode n hn
      · exact (hacc.part_iff (fun cfg hcfg => hcfg)).1 hacc
      · exact hleaves _ (List.mem_cons_self ..) s' hstep htakes
      · exact (h.served n hn (fun x hx => hleaves x (List.mem_cons_of_mem _ hx))).congr
          (fun cfg => ⟨hsup cfg, hsub cfg⟩)

end

/-- **Admitted configurations fail to load only where an EVPN neighbor is missing.**  After any requests, what is stored
for a node is loaded, in any order and with any secrets and blocks, exactly when the entries that need an EVPN neighbor
have one; and it is loaded when no request took from the node an EVPN neighbor that those left need. -/
theorem admission_loads (lib : SelectorLib) (nodes : List Node) (past : List (Admission lib × AdmissionEvent))
    (s : Admission lib) (hrun : Run (admission lib) past s) (hproper : ∀ x ∈ past, x.2.Proper lib nodes x.1) (n : Node)
    (hn : n ∈ nodes) (listed : List FRRConfiguration) (hlisted : listed.Perm s.stored)
    (secrets : SortedMap String Secret) (alwaysBlock : List Net.IPNet) :
    ∃ cfgs, configsForNode lib listed n.labels = .ok cfgs ∧
      ((apiToFRR ⟨cfgs, secrets⟩ alwaysBlock).isOk = true ↔ EvpnServed cfgs) ∧
      ((∀ x ∈ past, x.1.LeavesServed n x.2) → (apiToFRR ⟨cfgs, secrets⟩ alwaysBlock).isOk = true) := by
  have h : Stored secrets alwaysBlock nodes past s := stored_run hrun hproper
  have hvalid : ∀ cfg ∈ listed, cfg.ValidSelector lib := fun cfg hcfg => h.selectors cfg (hlisted.mem_iff.1 hcfg)
  have hmem : ∀ cfg, cfg ∈ s.configsOf n ↔ cfg ∈ listed.filter (fun cfg => cfg.selects lib n.labels) := by
    intro cfg
    rw [mem_configsOf, List.mem_filter, hlisted.mem_iff]
  obtain ⟨l, hl, hsub⟩ := h.validated n hn
  have hiff := hl.part_iff (fun cfg hcfg => hsub cfg ((hmem cfg).2 hcfg))
  refine ⟨_, configsForNode_eq hvalid n.labels, ?_, fun hleaves => ?_⟩
  · rw [apiToFRR_isOk, hiff]
  · rw [apiToFRR_isOk, hiff]
    exact (h.served n hn hleaves).congr hmem

/-- A check of `Proper`, for one implementation of selectors. -/
def AdmissionEvent.proper {size : Nat} (nodes : List Node) (s : Admission (labelSelectors size)) (e : AdmissionEvent) :
    Bool :=
  decide (e.nodes = .ok nodes) && decide (e.configs = .ok s.stored) &&
    e.request.object.toOption.all (fun config => config.nodeSelector.wellFormed &&
      config.routers.all (fun r => r.neighbors.all (fun a => a.passwordSecret = "")))

theorem proper_of_checked {size : Nat} {nodes : List Node} {s : Admission (labelSelectors size)} {e : AdmissionEvent}
    (h : e.proper nodes s = true) : e.Proper (labelSelectors size) nodes s := by
  simp only [AdmissionEvent.proper, Bool.and_eq_true, decide_eq_true_eq] at h
  obtain ⟨⟨hnodes, hconfigs⟩, hobject⟩ := h
  refine ⟨fun ns hns => ?_, fun cfgs hcfgs => ?_, fun config hconfig => ?_, fun config hconfig => ?_⟩
  · rw [hnodes] at hns
    rw [Except.ok.inj hns]
  · rw [hconfigs] at hcfgs
    rw [Except.ok.inj hcfgs]
  · rw [hconfig] at hobject
    exact ⟨_, if_pos (Bool.and_eq_true_iff.1 hobject).1⟩
  · rw [hconfig] at hobject
    simpa [FRRConfiguration.NoSecrets] using (Bool.and_eq_true_iff.1 hobject).2

/-- The run of a list of requests, once it is checked. -/
theorem run_of_checked {size : Nat} {nodes : List Node} {events : List AdmissionEvent} {stored : List FRRConfiguration}
    (h : ((admission (labelSelectors size)).exec events [] { cache := (labelSelectors size).new }).any
      (fun r => decide (r.2.stored = stored) && r.1.all (fun x => x.2.proper nodes x.1)) = true) :
    ∃ past s, Run (admission (labelSelectors size)) past s ∧
      (∀ x ∈ past, x.2.Proper (labelSelectors size) nodes x.1) ∧ s.stored = stored := by
  obtain ⟨r, hexec, hr⟩ := (Option.any_eq_true _ _).1 h
  obtain ⟨hstored, hproper⟩ := Bool.and_eq_true_iff.1 hr
  exact ⟨r.1, r.2, Run.of_exec events .start hexec, fun x hx => proper_of_checked (List.all_eq_true.1 hproper x hx),
    of_decide_eq_true hstored⟩

/-- A session that carries EVPN routes. -/
def fabric : FRRConfiguration :=
  { name := "fabric"
    routers :=
      [{ asn := 64512, neighbors := [{ asn := 64513, address := "10.0.0.1", addressFamilies := some ["evpn"] }] }] }

/-- The session, on the nodes of another rack. -/
def fabricElsewhere : FRRConfiguration :=
  { fabric with nodeSelector := { matchLabels := SortedMap.empty.insert "rack" "b" } }

/-- EVPN settings that need such a session. -/
def overlay : FRRConfiguration :=
  { name := "overlay", routers := [{ asn := 64512, evpn := some { advertiseVNIs := some "All" } }] }

def rackNode : Node := ⟨"node", SortedMap.empty.insert "rack" "a"⟩

/-- A creation or update, with what is stored when it comes. -/
def sent (operation : Operation) (config : FRRConfiguration) (stored : List FRRConfiguration) : AdmissionEvent :=
  ⟨{ operation := operation, object := .ok config }, .ok [rackNode], .ok stored⟩

theorem admission_loads_fabric : ∃ past s, Run (admission (labelSelectors 300)) past s ∧
    (∀ x ∈ past, x.2.Proper (labelSelectors 300) [rackNode] x.1) ∧ [overlay, fabric].Perm s.stored ∧
    ∃ cfgs, configsForNode (labelSelectors 300) [overlay, fabric] rackNode.labels = .ok cfgs ∧
      ((apiToFRR ⟨cfgs, .empty⟩ []).isOk = true ↔ EvpnServed cfgs) ∧
      ((∀ x ∈ past, x.1.LeavesServed rackNode x.2) → (apiToFRR ⟨cfgs, .empty⟩ []).isOk = true) := by
  obtain ⟨past, s, hrun, hproper, hstored⟩ := @run_of_checked 300 [rackNode]
    [sent .create fabric [], sent .create overlay [fabric]] [fabric, overlay] (by decide +kernel)
  have hperm : [overlay, fabric].Perm s.stored := hstored ▸ List.Perm.swap fabric overlay []
  exact ⟨past, s, hrun, hproper, hperm, admission_loads (labelSelectors 300) [rackNode] past s hrun hproper rackNode
    (List.mem_singleton_self _) [overlay, fabric] hperm .empty []⟩

/-- Deleting the session, or moving it to other nodes, is allowed and leaves the node with settings it cannot load. -/
theorem admission_takes_session :
    (∃ past s, Run (admission (labelSelectors 300)) past s ∧
      (∀ x ∈ past, x.2.Proper (labelSelectors 300) [rackNode] x.1) ∧ s.stored = [overlay]) ∧
    (∃ past s, Run (admission (labelSelectors 300)) past s ∧
      (∀ x ∈ past, x.2.Proper (labelSelectors 300) [rackNode] x.1) ∧ s.stored = [fabricElsewhere, overlay]) ∧
    configsForNode (labelSelectors 300) [overlay] rackNode.labels = .ok [overlay] ∧
    configsForNode (labelSelectors 300) [fabricElsewhere, overlay] rackNode.labels = .ok [overlay] ∧
    (apiToFRR ⟨[overlay], .empty⟩ []).isOk = false := by
  refine ⟨@run_of_checked 300 [rackNode] [sent .create fabric [], sent .create overlay [fabric],
      ⟨{ operation := .delete, object := .error "", oldObject := some (.ok fabric) },
      .ok [rackNode], .ok [fabric, overlay]⟩] [overlay] ?_,
    @run_of_checked 300 [rackNode] [sent .create fabric [], sent .create overlay [fabric],
      sent .update fabricElsewhere [fabric, overlay]] [fabricElsewhere, overlay] ?_, ?_, ?_, ?_⟩
  all_goals decide +kernel

end FrrK8s
