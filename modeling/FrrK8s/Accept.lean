import FrrK8s.Outgoing
import FrrK8s.EvpnChecks
/-!
# Accept — when `apiToFRR` succeeds, and what its result knows

Every configuration is translated on its own; all that configurations share is the map of routers by VRF and the map of
BFD profiles by name, and both only accumulate facts.  So `apiToFRR` succeeds exactly when every configuration is
translated, no two facts told by them clash, and the EVPN checks hold of all facts together (`apiToFRR_isOk`); and its
result knows exactly what was told (`apiToFRR_result`).  None of this depends on the order of the configurations.
-/
namespace FrrK8s

/-! ## One configuration -/

/-- The BFD profiles of a configuration by name. -/
def localProfiles (cfg : FRRConfiguration) : SortedMap String BFDProfile :=
  SortedMap.insertAll BFDProfile.name .empty (cfg.bfdProfiles.map bfdProfileToFRR)

/-- A router entry of a configuration, as it is before it is merged with anything. -/
def entryFor (secrets : SortedMap String Secret) (alwaysBlock : List Net.IPNet) (cfg : FRRConfiguration) (r : Router) :
    Result RouterConfig :=
  routerFor (alwaysBlockToFRR alwaysBlock) secrets (localProfiles cfg) (prefixesForVRFs cfg.routers) r

/-- The same entry after the merge with itself. -/
def validEntryFor (secrets : SortedMap String Secret) (alwaysBlock : List Net.IPNet) (cfg : FRRConfiguration)
    (r : Router) : Result RouterConfig := do validateRouterConfig (← entryFor secrets alwaysBlock cfg r)

/-- The validated entries of all configurations, configuration by configuration. -/
def validEntries (secrets : SortedMap String Secret) (alwaysBlock : List Net.IPNet) (cfgs : List FRRConfiguration) :
    Result (List (List RouterConfig)) :=
  cfgs.mapM (fun cfg => cfg.routers.mapM (validEntryFor secrets alwaysBlock cfg))

/-- The profiles of all configurations, each with the name of its configuration. -/
def allProfiles (cfgs : List FRRConfiguration) : List (String × BFDProfile) :=
  cfgs.flatMap (fun cfg => cfg.bfdProfiles.map (fun b => (cfg.name, bfdProfileToFRR b)))

def addProfile (m : SortedMap String BFDProfile) (x : String × BFDProfile) : Result (SortedMap String BFDProfile) :=
  upsert BFDProfile.name (sameBFDProfile x.1) m x.2

/-- The raw snippets of all configurations. -/
def rawsOf (cfgs : List FRRConfiguration) : List NamedRawConfig :=
  (cfgs.filter (fun cfg => cfg.raw.config ≠ "")).map (fun cfg => ⟨cfg.raw, cfg.name⟩)

theorem addBFDProfile_foldlM (cfgName : String) : ∀ (l : List BFDProfileSpec)
    (st st' : SortedMap String BFDProfile × SortedMap String BFDProfile),
    l.foldlM (addBFDProfile cfgName) st = .ok st' ↔
      (l.map BFDProfileSpec.name).Nodup ∧ (∀ b ∈ l, st.1.find? b.name = none) ∧
      st'.1 = SortedMap.insertAll BFDProfile.name st.1 (l.map bfdProfileToFRR) ∧
      (l.map (fun b => (cfgName, bfdProfileToFRR b))).foldlM addProfile st.2 = .ok st'.2
  | [], st, st' => by
    simp only [List.foldlM_nil, List.map_nil, List.nodup_nil, List.not_mem_nil, false_implies, implies_true, true_and,
      pure_eq_ok, SortedMap.insertAll, List.foldl_nil]
    exact ⟨fun h => h ▸ ⟨rfl, rfl⟩, fun h => Prod.ext h.1.symm h.2⟩
  | b :: l, st, st' => by
    rw [List.foldlM_cons, bind_eq_ok]
    simp only [addBFDProfile_foldlM cfgName l, addBFDProfile, bind_eq_ok, reject_eq_ok, pure_eq_ok, not_not]
    rw [List.map_cons, List.map_cons, List.map_cons, List.nodup_cons, List.forall_mem_cons,
      List.foldlM_cons, bind_eq_ok, SortedMap.insertAll_cons]
    constructor
    · rintro ⟨_, ⟨_, hnew, all, hall, rfl⟩, hnd, hl, hloc, hrest⟩
      simp only [SortedMap.find?_insert] at hl
      refine ⟨⟨fun hmem => ?_, hnd⟩, ⟨hnew, fun c hc => ?_⟩, hloc, all, hall, hrest⟩
      · obtain ⟨c, hc, hcb⟩ := List.mem_map.1 hmem
        have := hl c hc
        rw [if_pos hcb] at this
        cases this
      · have := hl c hc
        split at this
        · cases this
        · exact this
    · rintro ⟨⟨hnot, hnd⟩, ⟨hnew, hl⟩, hloc, all, hall, hrest⟩
      refine ⟨_, ⟨(), hnew, all, hall, rfl⟩, hnd, fun c hc => ?_, hloc, hrest⟩
      rw [SortedMap.find?_insert, if_neg (fun h => hnot (List.mem_map.2 ⟨c, hc, h⟩))]
      exact hl c hc

/-- One configuration: its profiles have different names, its entries are translated and validated, and profiles and
routers are merged into those of the configurations before. -/
theorem addConfig_eq_ok (secrets : SortedMap String Secret) (alwaysBlock : List Net.IPNet) (st st' : ApiState)
    (cfg : FRRConfiguration) :
    addConfig secrets alwaysBlock st cfg = .ok st' ↔ (cfg.bfdProfiles.map BFDProfileSpec.name).Nodup ∧
      ∃ vs, cfg.routers.mapM (validEntryFor secrets alwaysBlock cfg) = .ok vs ∧
        vs.foldlM (upsert RouterConfig.vrf mergeRouterConfigs) st.routersForVRF = .ok st'.routersForVRF ∧
        (cfg.bfdProfiles.map (fun b => (cfg.name, bfdProfileToFRR b))).foldlM addProfile st.bfdProfilesAllConfigs =
          .ok st'.bfdProfilesAllConfigs ∧
        st'.rawConfigs = st.rawConfigs ++ rawsOf [cfg] := by
  have hrouters : ∀ m m' : SortedMap String RouterConfig, cfg.routers.foldlM (fun routersForVRF r => do
        let routerCfg ← routerFor (alwaysBlockToFRR alwaysBlock) secrets (localProfiles cfg)
          (prefixesForVRFs cfg.routers) r
        let routerCfg ← validateRouterConfig routerCfg
        upsert RouterConfig.vrf mergeRouterConfigs routersForVRF routerCfg) m = .ok m' ↔
      ∃ vs, cfg.routers.mapM (validEntryFor secrets alwaysBlock cfg) = .ok vs ∧
        vs.foldlM (upsert RouterConfig.vrf mergeRouterConfigs) m = .ok m' := by
    intro m m'
    rw [← foldlM_mapM]
    simp only [validEntryFor, entryFor, bind_assoc]
  unfold addConfig
  simp only [bind_eq_ok, pure_eq_ok, Prod.exists, addBFDProfile_foldlM]
  constructor
  · rintro ⟨loc, all, ⟨hnd, -, rfl, hall⟩, m, hm, rfl⟩
    obtain ⟨vs, hvs, hm⟩ := (hrouters _ _).1 hm
    refine ⟨hnd, vs, hvs, hm, hall, ?_⟩
    by_cases hraw : cfg.raw.config = "" <;> simp [rawsOf, hraw]
  · rintro ⟨hnd, vs, hvs, hm, hall, hraws⟩
    refine ⟨localProfiles cfg, _, ⟨hnd, fun b _ => rfl, rfl, hall⟩, _, (hrouters _ _).2 ⟨vs, hvs, hm⟩, ?_⟩
    obtain ⟨raws, routers, profiles⟩ := st'
    simp only at hraws
    subst hraws
    by_cases hraw : cfg.raw.config = "" <;> simp [rawsOf, hraw]

/-! ## All configurations -/

theorem addConfigs_eq_ok (secrets : SortedMap String Secret) (alwaysBlock : List Net.IPNet) :
    ∀ (cfgs : List FRRConfiguration) (st st' : ApiState),
    cfgs.foldlM (addConfig secrets alwaysBlock) st = .ok st' ↔
      (∀ cfg ∈ cfgs, (cfg.bfdProfiles.map BFDProfileSpec.name).Nodup) ∧
      ∃ vs, validEntries secrets alwaysBlock cfgs = .ok vs ∧
        vs.flatten.foldlM (upsert RouterConfig.vrf mergeRouterConfigs) st.routersForVRF = .ok st'.routersForVRF ∧
        (allProfiles cfgs).foldlM addProfile st.bfdProfilesAllConfigs = .ok st'.bfdProfilesAllConfigs ∧
        st'.rawConfigs = st.rawConfigs ++ rawsOf cfgs
  | [], st, st' => by
    simp only [List.foldlM_nil, validEntries, List.mapM_nil, pure_eq_ok, allProfiles, List.flatMap_nil, rawsOf,
      List.filter_nil,
      List.map_nil, List.append_nil, exists_eq_left', List.flatten_nil, List.not_mem_nil, false_implies, implies_true,
      true_and]
    constructor
    · rintro rfl; exact ⟨rfl, rfl, rfl⟩
    · rintro ⟨h1, h2, h3⟩; cases st; cases st'; simp_all
  | cfg :: cfgs, st, st' => by
    have hraws : rawsOf (cfg :: cfgs) = rawsOf [cfg] ++ rawsOf cfgs := by
      unfold rawsOf
      by_cases h : cfg.raw.config = "" <;> simp [h]
    rw [List.foldlM_cons, bind_eq_ok]
    simp only [addConfig_eq_ok, addConfigs_eq_ok secrets alwaysBlock cfgs, validEntries, List.mapM_cons, bind_eq_ok,
      pure_eq_ok, List.forall_mem_cons, allProfiles, List.flatMap_cons, List.foldlM_append, hraws]
    constructor
    · rintro ⟨t, ⟨hnd, v, hv, hr, hp, hraw⟩, hnds, vs, hvs, hrs, hps, hraws⟩
      refine ⟨⟨hnd, hnds⟩, v :: vs, ⟨v, hv, vs, hvs, rfl⟩, ?_, ⟨_, hp, hps⟩, ?_⟩
      · rw [List.flatten_cons, List.foldlM_append, bind_eq_ok]
        exact ⟨_, hr, hrs⟩
      · rw [hraws, hraw, List.append_assoc]
    · rintro ⟨⟨hnd, hnds⟩, _, ⟨v, hv, vs, hvs, rfl⟩, hrs, ⟨p, hp, hps⟩, hraws⟩
      rw [List.flatten_cons, List.foldlM_append, bind_eq_ok] at hrs
      obtain ⟨m, hm, hrs⟩ := hrs
      refine ⟨⟨st.rawConfigs ++ rawsOf [cfg], m, p⟩, ⟨hnd, v, hv, hm, hp, rfl⟩, hnds, vs, hvs, hrs, hps, ?_⟩
      rw [hraws, List.append_assoc]

/-! ## What configurations tell -/

section Told

variable (secrets : SortedMap String Secret) (alwaysBlock : List Net.IPNet)

/-- A fact of a VRF, told by an entry of the configuration. -/
def cfgTells (cfg : FRRConfiguration) (x : String × RouterFact) : Prop :=
  ∃ r ∈ cfg.routers, ∃ c, entryFor secrets alwaysBlock cfg r = .ok c ∧ keyTells RouterConfig.vrf RouterConfig.tells c x

/-- A fact of a VRF, told by one of the configurations. -/
def told (cfgs : List FRRConfiguration) (x : String × RouterFact) : Prop :=
  ∃ cfg ∈ cfgs, cfgTells secrets alwaysBlock cfg x

/-- What an entry of one of the configurations has of a neighbor besides its facts. -/
def brought (cfgs : List FRRConfiguration) (x : String × (String × NeighborOrigin)) : Prop :=
  ∃ cfg ∈ cfgs, ∃ r ∈ cfg.routers, ∃ c, entryFor secrets alwaysBlock cfg r = .ok c ∧
    keyTells RouterConfig.vrf RouterConfig.keeps c x

def toldProfile (cfgs : List FRRConfiguration) (p : BFDProfile) : Prop :=
  ∃ cfg ∈ cfgs, ∃ b ∈ cfg.bfdProfiles, bfdProfileToFRR b = p

/-- **What makes a list of configurations acceptable.** -/
structure Acceptable (cfgs : List FRRConfiguration) : Prop where
  profileNames : ∀ cfg ∈ cfgs, (cfg.bfdProfiles.map BFDProfileSpec.name).Nodup
  entries : ∀ cfg ∈ cfgs, ∀ r ∈ cfg.routers, (entryFor secrets alwaysBlock cfg r).isOk = true
  profiles : ∀ p q, toldProfile cfgs p → toldProfile cfgs q → p.name = q.name → p = q
  agree : Agree (keyClash RouterFact.clash) (told secrets alwaysBlock cfgs) (told secrets alwaysBlock cfgs)
  evpn : EvpnValid (told secrets alwaysBlock cfgs)

/-- **What the result of `apiToFRR` is, in terms of what the configurations tell.** -/
structure ResultOf (cfgs : List FRRConfiguration) (c : Config) : Prop where
  sorted : c.routers.Pairwise (fun r s => r.vrf < s.vrf)
  normal : ∀ r ∈ c.routers, r.Normal
  tells : ∀ vrf f, (∃ r ∈ c.routers, r.vrf = vrf ∧ r.tells f) ↔ told secrets alwaysBlock cfgs (vrf, f)
  keeps : ∀ r ∈ c.routers, ∀ x, r.keeps x → brought secrets alwaysBlock cfgs (r.vrf, x)
  profiles : ∀ p, p ∈ c.bfdProfiles ↔ toldProfile cfgs p
  profilesSorted : c.bfdProfiles.Pairwise (fun p q => p.name < q.name)
  extraConfig : c.extraConfig = joinRawConfigs (rawsOf cfgs)
  loglevel : c.loglevel = ""
  hostname : c.hostname = ""

end Told

/-! ## Entries -/

theorem routerNeighborToFRR_eq_ok (r : Router) (alwaysBlock : List IncomingFilter) (secrets : SortedMap String Secret)
    (bfdProfiles : SortedMap String BFDProfile) (routerPrefixes : List String) (n : Neighbor) (m : NeighborConfig) :
    routerNeighborToFRR r alwaysBlock secrets bfdProfiles routerPrefixes n = .ok m ↔
      ¬ (n.localASN ≠ 0 ∧ n.asn ≠ 0 ∧ n.asn = r.asn) ∧
        neighborToFRR n routerPrefixes alwaysBlock r.vrf secrets bfdProfiles = .ok m := by
  unfold routerNeighborToFRR
  simp only [bind_eq_ok, reject_eq_ok, wrap_eq_ok, exists_const]

theorem routerToFRRConfig_eq_ok (r : Router) (alwaysBlock : List IncomingFilter) (secrets : SortedMap String Secret)
    (bfdProfiles : SortedMap String BFDProfile) (routerPrefixes : List String) (c : RouterConfig) :
    routerToFRRConfig r alwaysBlock secrets bfdProfiles routerPrefixes = .ok c ↔
      ∃ ns, r.neighbors.mapM (routerNeighborToFRR r alwaysBlock secrets bfdProfiles routerPrefixes) = .ok ns ∧
        c = { myASN := r.asn, routerID := r.id, vrf := r.vrf, neighbors := ns
              ipv4Prefixes := filterPrefixes r.prefixes .ipv4, ipv6Prefixes := filterPrefixes r.prefixes .ipv6
              importVRFs := r.imports, evpn := r.evpn.map evpnToFRR } := by
  unfold routerToFRRConfig
  simp only [bind_eq_ok, pure_eq_ok]
  exact exists_congr fun ns => and_congr Iff.rfl eq_comm

/-- An entry is what `routerToFRRConfig` makes of it, after the checks on its prefixes and imports. -/
theorem routerFor_eq_ok (alwaysBlock : List IncomingFilter) (secrets : SortedMap String Secret)
    (bfdProfiles : SortedMap String BFDProfile) (routersPrefixes : SortedMap String (List String)) (r : Router)
    (c : RouterConfig) :
    routerFor alwaysBlock secrets bfdProfiles routersPrefixes r = .ok c ↔
      validatePrefixes r.prefixes = .ok () ∧ validateImportVRFs r routersPrefixes = .ok () ∧
        ∃ imported, importedPrefixes r routersPrefixes = .ok imported ∧
          validateOutgoingPrefixes (r.prefixes ++ imported) r = .ok () ∧
          routerToFRRConfig r alwaysBlock secrets bfdProfiles (r.prefixes ++ imported) = .ok c := by
  unfold routerFor
  simp only [bind_eq_ok]
  constructor
  · rintro ⟨_, h1, _, h2, imported, h3, _, h4, h5⟩; exact ⟨h1, h2, imported, h3, h4, h5⟩
  · rintro ⟨h1, h2, imported, h3, h4, h5⟩; exact ⟨(), h1, (), h2, imported, h3, (), h4, h5⟩

/-- The prefixes a neighbor that advertises all of them advertises: those of the entry and of the VRFs it imports. -/
def entryPrefixes (cfg : FRRConfiguration) (r : Router) : List String :=
  r.prefixes ++ ((importedPrefixes r (prefixesForVRFs cfg.routers)).toOption.getD [])

theorem entryPrefixes_eq {cfg : FRRConfiguration} {r : Router} {imported : List String}
    (h : importedPrefixes r (prefixesForVRFs cfg.routers) = .ok imported) :
    entryPrefixes cfg r = r.prefixes ++ imported := by
  unfold entryPrefixes
  rw [h]
  rfl

/-- An entry is refused where a neighbor of the router's own ASN has a local ASN. -/
theorem entryFor_localASN {secrets : SortedMap String Secret} {alwaysBlock : List Net.IPNet} {cfg : FRRConfiguration}
    {r : Router} {c : RouterConfig} (h : entryFor secrets alwaysBlock cfg r = .ok c) {a : Neighbor}
    (ha : a ∈ r.neighbors) : ¬ (a.localASN ≠ 0 ∧ a.asn ≠ 0 ∧ a.asn = r.asn) := by
  obtain ⟨-, -, imported, -, -, hc⟩ := (routerFor_eq_ok ..).1 h
  obtain ⟨ns, hns, -⟩ := (routerToFRRConfig_eq_ok ..).1 hc
  obtain ⟨m, hm⟩ := ok_of_mapM_eq_ok hns ha
  exact ((routerNeighborToFRR_eq_ok ..).1 hm).1

/-- **An entry translates its neighbors one by one**, after their advertisements were validated. -/
theorem entryFor_neighbors {secrets : SortedMap String Secret} {alwaysBlock : List Net.IPNet} {cfg : FRRConfiguration}
    {r : Router} {c : RouterConfig} (h : entryFor secrets alwaysBlock cfg r = .ok c) :
    (∀ a ∈ r.neighbors, ∃ f, OutgoingValid (SortedSet.ofList (entryPrefixes cfg r)) a f) ∧
    (∀ a ∈ r.neighbors, ∃ m, neighborToFRR a (entryPrefixes cfg r) (alwaysBlockToFRR alwaysBlock) r.vrf secrets
      (localProfiles cfg) = .ok m) ∧
    ∀ m, m ∈ c.neighbors ↔ ∃ a ∈ r.neighbors, neighborToFRR a (entryPrefixes cfg r) (alwaysBlockToFRR alwaysBlock) r.vrf
      secrets (localProfiles cfg) = .ok m := by
  obtain ⟨-, -, imported, himp, hout, hc⟩ := (routerFor_eq_ok ..).1 h
  obtain ⟨ns, hns, rfl⟩ := (routerToFRRConfig_eq_ok ..).1 hc
  rw [entryPrefixes_eq himp]
  refine ⟨fun a ha => validateOutgoingPrefixesFor_valid ((forM_eq_ok _ _).1 hout a ha), fun a ha => ?_, fun m => ?_⟩
  · obtain ⟨m, hm⟩ := ok_of_mapM_eq_ok hns ha
    exact ⟨m, ((routerNeighborToFRR_eq_ok ..).1 hm).2⟩
  · rw [mem_of_mapM_eq_ok hns m]
    refine exists_congr fun a => and_congr_right fun ha => ?_
    rw [routerNeighborToFRR_eq_ok, and_iff_right (entryFor_localASN h ha)]

theorem entryFor_wf {secrets : SortedMap String Secret} {alwaysBlock : List Net.IPNet} {cfg : FRRConfiguration}
    {r : Router} {c : RouterConfig} (h : entryFor secrets alwaysBlock cfg r = .ok c) :
    c.vrf = r.vrf ∧ ∀ n ∈ c.neighbors, n.WF := by
  obtain ⟨hvalid, -, hns⟩ := entryFor_neighbors h
  refine ⟨?_, fun m hm => ?_⟩
  · obtain ⟨-, -, imported, -, -, hc⟩ := (routerFor_eq_ok ..).1 h
    obtain ⟨ns, -, rfl⟩ := (routerToFRRConfig_eq_ok ..).1 hc
    rfl
  · obtain ⟨a, ha, hm⟩ := (hns m).1 hm
    obtain ⟨f, hv⟩ := hvalid a ha
    exact neighborToFRR_wf hm hv

theorem validEntryFor_isOk (secrets : SortedMap String Secret) (alwaysBlock : List Net.IPNet) (cfg : FRRConfiguration)
    (r : Router) : (validEntryFor secrets alwaysBlock cfg r).isOk = true ↔
      ∃ c, entryFor secrets alwaysBlock cfg r = .ok c ∧ Agree RouterFact.clash c.tells c.tells := by
  unfold validEntryFor
  rw [isOk_bind]
  refine exists_congr fun c => and_congr_right fun hc => ?_
  exact (mergeRouterConfigWithItself_spec (entryFor_wf hc).2).1

theorem validEntryFor_spec {secrets : SortedMap String Secret} {alwaysBlock : List Net.IPNet} {cfg : FRRConfiguration}
    {r : Router} {v : RouterConfig} (h : validEntryFor secrets alwaysBlock cfg r = .ok v) :
    ∃ c, entryFor secrets alwaysBlock cfg r = .ok c ∧ v.Normal ∧ v.vrf = c.vrf ∧ (∀ x, v.tells x ↔ c.tells x) ∧
      ∀ x, v.keeps x → c.keeps x := by
  unfold validEntryFor at h
  rw [bind_eq_ok] at h
  obtain ⟨c, hc, hv⟩ := h
  exact ⟨c, hc, (mergeRouterConfigWithItself_spec (entryFor_wf hc).2).2 v hv⟩

/-! ## Profiles -/

theorem sameBFDProfile_eq_ok (cfgName : String) (a b c : BFDProfile) :
    sameBFDProfile cfgName a b = .ok c ↔ a = b ∧ c = a := by
  unfold sameBFDProfile
  by_cases h : a = b
  · simp [h, eq_comm]
  · simp [h]

theorem profiles_accumulate :
    Accumulates (mapInv BFDProfile.name (fun _ => True)) (fun _ => True) (mapKnows (fun a x => a = x))
      (fun x : String × BFDProfile => keyTells BFDProfile.name (fun a x => a = x) x.2) (keyClash (fun x y => x ≠ y))
      addProfile := by
  have hacc : ∀ cfgName, Accumulates (mapInv BFDProfile.name (fun _ => True)) (fun _ => True)
    (mapKnows (fun a x => a = x))
      (keyTells BFDProfile.name (fun a x => a = x)) (keyClash (fun x y => x ≠ y))
      (upsert BFDProfile.name (sameBFDProfile cfgName)) := by
    intro cfgName
    refine upsert_accumulates (fun _ h => h) (fun a b _ _ _ => ?_) (fun a b c _ _ _ h => ?_)
    · rw [isOk_iff]
      simp only [sameBFDProfile_eq_ok, exists_and_left, exists_eq, and_true]
      exact ⟨fun h x y hx hy hc => hc (hx.symm.trans (h.trans hy)), fun h => not_not.1 (h a b rfl rfl)⟩
    · obtain ⟨rfl, rfl⟩ := (sameBFDProfile_eq_ok cfgName a b c).1 h
      exact ⟨trivial, rfl, fun x => (or_self_iff).symm⟩
  exact ⟨fun s a => (hacc a.1).accepts s a.2, fun s a => (hacc a.1).keeps s a.2⟩

theorem toldProfile_iff (cfgs : List FRRConfiguration) (p : BFDProfile) :
    toldProfile cfgs p ↔ ∃ x ∈ allProfiles cfgs, x.2 = p := by
  unfold toldProfile allProfiles
  simp only [List.mem_flatMap, List.mem_map]
  constructor
  · rintro ⟨cfg, hcfg, b, hb, hp⟩; exact ⟨(cfg.name, bfdProfileToFRR b), ⟨cfg, hcfg, b, hb, rfl⟩, hp⟩
  · rintro ⟨_, ⟨cfg, hcfg, b, hb, rfl⟩, hp⟩; exact ⟨cfg, hcfg, b, hb, hp⟩

theorem profiles_isOk (cfgs : List FRRConfiguration) : ((allProfiles cfgs).foldlM addProfile .empty).isOk = true ↔
    ∀ p q, toldProfile cfgs p → toldProfile cfgs q → p.name = q.name → p = q := by
  rw [profiles_accumulate.foldlM_isOk_iff (keyClash_symm fun _ _ => Ne.symm) (mapInv_empty _ _) (not_mapKnows_empty _)
    (fun _ _ => trivial) (fun x _ u v hu hv hc => hc.2 (hu.2.symm.trans hv.2))]
  simp only [toldProfile_iff]
  constructor
  · rintro h p q ⟨x, hx, rfl⟩ ⟨y, hy, rfl⟩ hname
    exact not_not.1 (fun hne => h (x.2.name, x.2) (x.2.name, y.2) ⟨x, hx, rfl, rfl⟩ ⟨y, hy, hname.symm, rfl⟩ ⟨rfl, hne⟩)
  · rintro h ⟨k, p⟩ ⟨k', q⟩ ⟨x, hx, hkx, hpx⟩ ⟨y, hy, hky, hqy⟩ ⟨hk, hne⟩
    simp only at hkx hpx hky hqy hk hne
    subst hpx hqy
    exact hne (h _ _ ⟨x, hx, rfl⟩ ⟨y, hy, rfl⟩ (hkx.trans (hk.trans hky.symm)))

theorem profiles_result {cfgs : List FRRConfiguration} {m : SortedMap String BFDProfile}
    (h : (allProfiles cfgs).foldlM addProfile .empty = .ok m) :
    (∀ p, p ∈ m.values ↔ toldProfile cfgs p) ∧ m.values.Pairwise (fun p q => p.name < q.name) := by
  obtain ⟨hinv, hknows⟩ := profiles_accumulate.foldlM_knows _ _ _ (mapInv_empty _ _) (fun _ _ => trivial) h
  refine ⟨fun p => ?_, (mapInv_values hinv).1⟩
  have hp := hknows (p.name, p)
  rw [mapKnows_iff_values hinv] at hp
  rw [toldProfile_iff]
  constructor
  · intro hm
    obtain ⟨x, hx, -, hxp⟩ := (hp.1 ⟨p, hm, rfl, rfl⟩).resolve_left (not_mapKnows_empty _ _)
    exact ⟨x, hx, hxp⟩
  · rintro ⟨x, hx, rfl⟩
    obtain ⟨a, ha, -, rfl⟩ := hp.2 (Or.inr ⟨x, hx, rfl, rfl⟩)
    exact ha

/-! ## Routers -/

section Main

variable {secrets : SortedMap String Secret} {alwaysBlock : List Net.IPNet} {cfgs : List FRRConfiguration}

theorem mem_validEntries {vs : List (List RouterConfig)}
    (h : validEntries secrets alwaysBlock cfgs = .ok vs) (v : RouterConfig) :
    v ∈ vs.flatten ↔ ∃ cfg ∈ cfgs, ∃ r ∈ cfg.routers, validEntryFor secrets alwaysBlock cfg r = .ok v := by
  unfold validEntries at h
  rw [List.mem_flatten]
  constructor
  · rintro ⟨l, hl, hv⟩
    obtain ⟨cfg, hcfg, hl⟩ := (mem_of_mapM_eq_ok h l).1 hl
    obtain ⟨r, hr, hv⟩ := (mem_of_mapM_eq_ok hl v).1 hv
    exact ⟨cfg, hcfg, r, hr, hv⟩
  · rintro ⟨cfg, hcfg, r, hr, hv⟩
    obtain ⟨l, hl⟩ := ok_of_mapM_eq_ok h hcfg
    exact ⟨l, (mem_of_mapM_eq_ok h l).2 ⟨cfg, hcfg, hl⟩, (mem_of_mapM_eq_ok hl v).2 ⟨r, hr, hv⟩⟩

/-- The validated entries tell what the entries tell. -/
theorem validEntries_tell {vs : List (List RouterConfig)}
    (h : validEntries secrets alwaysBlock cfgs = .ok vs)
    (x : String × RouterFact) :
    (∃ v ∈ vs.flatten, keyTells RouterConfig.vrf RouterConfig.tells v x) ↔ told secrets alwaysBlock cfgs x := by
  simp only [mem_validEntries h]
  constructor
  · rintro ⟨v, ⟨cfg, hcfg, r, hr, hv⟩, hk, hx⟩
    obtain ⟨c, hc, -, hvrf, htells, -⟩ := validEntryFor_spec hv
    exact ⟨cfg, hcfg, r, hr, c, hc, hvrf ▸ hk, (htells _).1 hx⟩
  · rintro ⟨cfg, hcfg, r, hr, c, hc, hk, hx⟩
    unfold validEntries at h
    obtain ⟨l, hl⟩ := ok_of_mapM_eq_ok h hcfg
    obtain ⟨v, hv⟩ := ok_of_mapM_eq_ok hl hr
    obtain ⟨c', hc', -, hvrf, htells, -⟩ := validEntryFor_spec hv
    rw [hc] at hc'
    cases hc'
    exact ⟨v, ⟨cfg, hcfg, r, hr, hv⟩, hvrf.trans hk, (htells _).2 hx⟩

theorem validEntries_normal {vs : List (List RouterConfig)}
    (h : validEntries secrets alwaysBlock cfgs = .ok vs) :
    ∀ v ∈ vs.flatten, v.Normal := by
  intro v hv
  obtain ⟨cfg, -, r, -, hv⟩ := (mem_validEntries h v).1 hv
  obtain ⟨c, -, hn, -⟩ := validEntryFor_spec hv
  exact hn

/-- Entries that are translated and agree with each other are all valid. -/
theorem validEntries_isOk :
    (validEntries secrets alwaysBlock cfgs).isOk = true ↔
      ∀ cfg ∈ cfgs, ∀ r ∈ cfg.routers,
        ∃ c, entryFor secrets alwaysBlock cfg r = .ok c ∧ Agree RouterFact.clash c.tells c.tells := by
  unfold validEntries
  rw [mapM_isOk]
  refine forall₂_congr fun cfg _ => ?_
  rw [mapM_isOk]
  exact forall₂_congr fun r _ => validEntryFor_isOk secrets alwaysBlock cfg r

theorem apiToFRR_eq_ok (c : Config) : apiToFRR ⟨cfgs, secrets⟩ alwaysBlock = .ok c ↔
    (∀ cfg ∈ cfgs, (cfg.bfdProfiles.map BFDProfileSpec.name).Nodup) ∧
    ∃ vs, validEntries secrets alwaysBlock cfgs = .ok vs ∧
      ∃ m, vs.flatten.foldlM (upsert RouterConfig.vrf mergeRouterConfigs) .empty = .ok m ∧
        ∃ p, (allProfiles cfgs).foldlM addProfile .empty = .ok p ∧ validateEVPN m = .ok () ∧
          c = { routers := m.values, extraConfig := joinRawConfigs (rawsOf cfgs), bfdProfiles := p.values } := by
  unfold apiToFRR
  simp only [bind_eq_ok, pure_eq_ok, addConfigs_eq_ok]
  constructor
  · rintro ⟨⟨raws, m, p⟩, ⟨hnd, vs, hvs, hm, hp, hraws⟩, _, hevpn, rfl⟩
    simp only [List.nil_append] at hraws
    exact ⟨hnd, vs, hvs, m, hm, p, hp, hevpn, by rw [hraws]⟩
  · rintro ⟨hnd, vs, hvs, m, hm, p, hp, hevpn, rfl⟩
    exact ⟨⟨rawsOf cfgs, m, p⟩, ⟨hnd, vs, hvs, hm, hp, rfl⟩, (), hevpn, rfl⟩

/-- Merging the validated entries succeeds exactly when all that is told agrees. -/
theorem routers_isOk {vs : List (List RouterConfig)} (h : validEntries secrets alwaysBlock cfgs = .ok vs) :
    (vs.flatten.foldlM (upsert RouterConfig.vrf mergeRouterConfigs) .empty).isOk = true ↔
      Agree (keyClash RouterFact.clash) (told secrets alwaysBlock cfgs) (told secrets alwaysBlock cfgs) := by
  have hself : ∀ v ∈ vs.flatten, Agree (keyClash RouterFact.clash) (keyTells RouterConfig.vrf RouterConfig.tells v)
      (keyTells RouterConfig.vrf RouterConfig.tells v) := by
    intro v hv x y hx hy hc
    obtain ⟨cfg, hcfg, r, hr, hv⟩ := (mem_validEntries h v).1 hv
    obtain ⟨c, hc', -, -, htells, -⟩ := validEntryFor_spec hv
    obtain ⟨c', hc'', hself⟩ := validEntries_isOk.1 (by rw [h]; rfl) cfg hcfg r hr
    rw [hc'] at hc''
    cases hc''
    exact hself x.2 y.2 ((htells _).1 hx.2) ((htells _).1 hy.2) hc.2
  rw [routers_accumulate.foldlM_isOk_iff (keyClash_symm RouterFact.clash_symm) (mapInv_empty _ _) (not_mapKnows_empty _)
    (validEntries_normal h) hself]
  exact agree_congr (validEntries_tell h) (validEntries_tell h)

theorem routers_result {vs : List (List RouterConfig)} (h : validEntries secrets alwaysBlock cfgs = .ok vs)
    {m : SortedMap String RouterConfig}
    (hm : vs.flatten.foldlM (upsert RouterConfig.vrf mergeRouterConfigs) .empty = .ok m) :
    mapInv RouterConfig.vrf RouterConfig.Normal m ∧
      ∀ x, mapKnows RouterConfig.tells m x ↔ told secrets alwaysBlock cfgs x := by
  obtain ⟨hinv, hknows⟩ :=
    routers_accumulate.foldlM_knows _ _ _ (mapInv_empty _ _) (validEntries_normal h) hm
  refine ⟨hinv, fun x => ?_⟩
  rw [hknows, or_iff_right (not_mapKnows_empty _ _)]
  exact validEntries_tell h x

/-- **`apiToFRR` succeeds exactly on acceptable configurations.** -/
theorem apiToFRR_isOk : (apiToFRR ⟨cfgs, secrets⟩ alwaysBlock).isOk = true ↔ Acceptable secrets alwaysBlock cfgs := by
  rw [isOk_iff]
  simp only [apiToFRR_eq_ok]
  constructor
  · rintro ⟨_, hnd, vs, hvs, m, hm, p, hp, hevpn, -⟩
    obtain ⟨hinv, hknows⟩ := routers_result hvs hm
    have hentries := validEntries_isOk.1 (by rw [hvs]; rfl)
    refine ⟨hnd, fun cfg hcfg r hr => ?_, (profiles_isOk cfgs).1 (by rw [hp]; rfl),
      (routers_isOk hvs).1 (by rw [hm]; rfl), ?_⟩
    · obtain ⟨c, hc, -⟩ := hentries cfg hcfg r hr
      rw [hc]; rfl
    · rw [validateEVPN_eq_ok hinv] at hevpn
      rwa [show mapKnows RouterConfig.tells m = told secrets alwaysBlock cfgs from funext fun x =>
        propext (hknows x)] at hevpn
  · intro h
    have hentries : (validEntries secrets alwaysBlock cfgs).isOk = true := by
      refine validEntries_isOk.2 (fun cfg hcfg r hr => ?_)
      obtain ⟨c, hc⟩ := (isOk_iff _).1 (h.entries cfg hcfg r hr)
      refine ⟨c, hc, fun x y hx hy hclash => h.agree (c.vrf, x) (c.vrf, y) ?_ ?_ ⟨rfl, hclash⟩⟩
      · exact ⟨cfg, hcfg, r, hr, c, hc, rfl, hx⟩
      · exact ⟨cfg, hcfg, r, hr, c, hc, rfl, hy⟩
    obtain ⟨vs, hvs⟩ := (isOk_iff _).1 hentries
    obtain ⟨m, hm⟩ := (isOk_iff _).1 ((routers_isOk hvs).2 h.agree)
    obtain ⟨p, hp⟩ := (isOk_iff _).1 ((profiles_isOk cfgs).2 h.profiles)
    obtain ⟨hinv, hknows⟩ := routers_result hvs hm
    refine ⟨_, h.profileNames, vs, hvs, m, hm, p, hp, (validateEVPN_eq_ok hinv).2 ?_, rfl⟩
    rw [show mapKnows RouterConfig.tells m = told secrets alwaysBlock cfgs from funext fun x => propext (hknows x)]
    exact h.evpn

theorem apiToFRR_acceptable {c : Config} (h : apiToFRR ⟨cfgs, secrets⟩ alwaysBlock = .ok c) :
    Acceptable secrets alwaysBlock cfgs := by
  apply apiToFRR_isOk.1
  rw [h]
  rfl

/-- **The result of `apiToFRR` knows what the configurations tell, in normal form.** -/
theorem apiToFRR_result {c : Config} (h : apiToFRR ⟨cfgs, secrets⟩ alwaysBlock = .ok c) :
    ResultOf secrets alwaysBlock cfgs c := by
  obtain ⟨-, vs, hvs, m, hm, p, hp, -, rfl⟩ := (apiToFRR_eq_ok c).1 h
  obtain ⟨hinv, hknows⟩ := routers_result hvs hm
  obtain ⟨hprofiles, hsorted⟩ := profiles_result hp
  refine ⟨(mapInv_values hinv).1, (mapInv_values hinv).2, fun vrf f => ?_, fun r hr x hx => ?_, hprofiles, hsorted, rfl,
    rfl, rfl⟩
  · rw [← hknows, mapKnows_iff_values hinv]
  · have hkept : mapKnows RouterConfig.keeps m (r.vrf, x) := (mapKnows_iff_values hinv _ _ _).2 ⟨r, hr, rfl, hx⟩
    obtain ⟨v, hv, hvrf, hx⟩ := routers_origin (validEntries_normal hvs) hm _ hkept
    obtain ⟨cfg, hcfg, e, he, hv⟩ := (mem_validEntries hvs v).1 hv
    obtain ⟨c, hc, -, hcv, -, hkeeps⟩ := validEntryFor_spec hv
    exact ⟨cfg, hcfg, e, he, c, hc, hcv ▸ hvrf, hkeeps _ hx⟩

end Main

end FrrK8s
