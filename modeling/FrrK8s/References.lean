import FrrK8s.Session
import FrrK8s.Union
/-!
# References — a result is closed under its own references

BFD profiles, imported VRFs and advertised prefixes are checked in the configuration that names them, before anything is
merged.  A merge takes nothing away, so whatever a neighbor or a router of a result refers to is in the result
(`apiToFRR_references`).
-/
namespace FrrK8s

/-- A prefix list of a family is part of what is advertised in the family. -/
def AllowedOut.Covers (out : AllowedOut) (l : PrefixList) : Prop :=
  ∀ p ∈ l.prefixes, (l.ipFamily = "ip" ∧ p ∈ out.prefixesV4) ∨ (l.ipFamily = "ipv6" ∧ p ∈ out.prefixesV6)

/-- The router itself, or one of a VRF that it imports. -/
def RouterConfig.Reaches (r s : RouterConfig) : Prop := s = r ∨ ∃ v ∈ r.importVRFs, s.vrf = importedVRF v

/-- **What the parts of a configuration refer to is in the configuration.** -/
structure Config.Closed (c : Config) : Prop where
  bfdProfiles : ∀ r ∈ c.routers, ∀ n ∈ r.neighbors, n.bfdProfile ≠ "" →
    ∃ p, c.bfdProfiles.filter (fun q => q.name = n.bfdProfile) = [p]
  imports : ∀ r ∈ c.routers, ∀ v ∈ r.importVRFs, ∃ s ∈ c.routers, s.vrf = importedVRF v
  prefixesV4 : ∀ r ∈ c.routers, ∀ n ∈ r.neighbors, ∀ p ∈ n.outgoing.prefixesV4,
    ∃ s ∈ c.routers, r.Reaches s ∧ p ∈ s.ipv4Prefixes
  prefixesV6 : ∀ r ∈ c.routers, ∀ n ∈ r.neighbors, ∀ p ∈ n.outgoing.prefixesV6,
    ∃ s ∈ c.routers, r.Reaches s ∧ p ∈ s.ipv6Prefixes
  localPrefs : ∀ r ∈ c.routers, ∀ n ∈ r.neighbors, ∀ l ∈ n.outgoing.localPrefPrefixesModifiers,
    n.outgoing.Covers l.toPrefixList
  communities : ∀ r ∈ c.routers, ∀ n ∈ r.neighbors, ∀ l ∈ n.outgoing.communityPrefixesModifiers,
    n.outgoing.Covers l.toPrefixList
  vrfNames : ∀ r ∈ c.routers, ∀ n ∈ r.neighbors, n.vrfName = r.vrf

section

variable {secrets : SortedMap String Secret} {alwaysBlock : List Net.IPNet} {cfgs : List FRRConfiguration} {c : Config}

/-! ## BFD profiles -/

/-- The profile a translated neighbor names is one of its configuration. -/
theorem translation_profile {cfg : FRRConfiguration} {e : Router} {a : Neighbor} {m : NeighborConfig}
    (h : translation secrets alwaysBlock cfg e a = .ok m) (hne : m.bfdProfile ≠ "") :
    ∃ b ∈ cfg.bfdProfiles, (bfdProfileToFRR b).name = m.bfdProfile := by
  obtain ⟨hchecks, f, -, timers, -, password, -, out, -, incoming, -, rfl⟩ := (neighborToFRR_eq_ok ..).1 h
  obtain ⟨p, hp⟩ := Option.ne_none_iff_exists'.1 (fun hnone => hchecks.bfdProfile ⟨hne, hnone⟩)
  obtain ⟨hmem, hname⟩ := SortedMap.mem_of_find?_insertAll hp
  obtain ⟨b, hb, rfl⟩ := List.mem_map.1 hmem
  exact ⟨b, hb, hname⟩

theorem ResultOf.profile_defined (hacc : Acceptable secrets alwaysBlock cfgs) (h : ResultOf secrets alwaysBlock cfgs c)
    {r : RouterConfig} (hr : r ∈ c.routers) {n : NeighborConfig} (hn : n ∈ r.neighbors) (hne : n.bfdProfile ≠ "") :
    ∃ p, c.bfdProfiles.filter (fun q => q.name = n.bfdProfile) = [p] := by
  have hattr : n.tells (.attr .bfdProfile (.text n.bfdProfile)) := by
    simp [NeighborConfig.tells, NeighborConfig.attr?, setting, hne]
  obtain ⟨cfg, e, a, hcon, m, hm, -, -, htells⟩ := (h.neighbor_tells hacc hr hn _).1 hattr
  have hprofile : m.bfdProfile = n.bfdProfile := setting_eq_some htells
  obtain ⟨b, hb, hname⟩ := translation_profile hm (hprofile ▸ hne)
  have hmem : bfdProfileToFRR b ∈ c.bfdProfiles := (h.profiles _).2 ⟨cfg, hcon.cfg_mem, b, hb, rfl⟩
  rw [← hprofile, ← hname]
  exact ⟨_, filter_key_eq_singleton (nodup_map_of_pairwise_lt h.profilesSorted) hmem⟩

/-! ## Imported VRFs -/

/-- A VRF that an entry imports has an entry in the same configuration. -/
theorem exists_imported {cfg : FRRConfiguration} {e : Router} (he : (entryFor secrets alwaysBlock cfg e).isOk = true)
    {v : String} (hv : v ∈ e.imports) : ∃ e' ∈ cfg.routers, e'.vrf = importedVRF v := by
  obtain ⟨d, hd⟩ := (isOk_iff _).1 he
  obtain ⟨-, -, imported, himp, -⟩ := (routerFor_eq_ok ..).1 hd
  obtain ⟨ps, hps⟩ := imported_defined himp hv
  rw [find?_prefixesForVRFs] at hps
  obtain ⟨e', he', -⟩ := Option.map_eq_some_iff.1 hps
  exact ⟨e', mem_of_lastWith he'⟩

theorem ResultOf.import_defined (hacc : Acceptable secrets alwaysBlock cfgs) (h : ResultOf secrets alwaysBlock cfgs c)
    {r : RouterConfig} (hr : r ∈ c.routers) {v : String} (hv : v ∈ r.importVRFs) :
    ∃ s ∈ c.routers, s.vrf = importedVRF v := by
  obtain ⟨cfg, hcfg, e, he, -, hv⟩ := (h.mem_importVRFs hacc hr v).1 hv
  obtain ⟨e', he', hvrf⟩ := exists_imported (hacc.entries cfg hcfg e he) hv
  obtain ⟨s, hs, hsvrf⟩ := h.exists_router hacc hcfg he'
  exact ⟨s, hs, hsvrf.trans hvrf⟩

/-! ## Advertised prefixes -/

theorem mem_entryPrefixes {cfg : FRRConfiguration} {e : Router} (hmem : e ∈ cfg.routers)
    (he : (entryFor secrets alwaysBlock cfg e).isOk = true) {p : String} (hp : p ∈ entryPrefixes cfg e) :
    ∃ e' ∈ cfg.routers, p ∈ e'.prefixes ∧ (e' = e ∨ ∃ v ∈ e.imports, e'.vrf = importedVRF v) := by
  rcases (mem_entryPrefixes_iff he p).1 hp with hp | ⟨v, hv, l, hl, hp⟩
  · exact ⟨e, hmem, hp, Or.inl rfl⟩
  · obtain ⟨hl, hvrf⟩ := mem_of_lastWith hl
    exact ⟨l, hl, hp, Or.inr ⟨v, hv, hvrf⟩⟩

theorem TranslatedTo.mem_entryPrefixes {cfg : FRRConfiguration} {e : Router} {a : Neighbor} {m : NeighborConfig}
    (h : TranslatedTo cfg e a m) {p : String} (hp : p ∈ allowedPrefixes cfg e a) : p ∈ entryPrefixes cfg e := by
  unfold allowedPrefixes at hp
  by_cases hmode : a.toAdvertise.allowed.mode = .all
  · rwa [if_pos hmode] at hp
  · rw [if_neg hmode] at hp
    exact (SortedSet.mem_ofList _ p).1 (h.valid.allowed hmode p hp).2

/-- What a contributor advertises is a prefix of an entry that has a router within reach. -/
theorem ResultOf.reaches_declared (hacc : Acceptable secrets alwaysBlock cfgs) (h : ResultOf secrets alwaysBlock cfgs c)
    {r : RouterConfig} (hr : r ∈ c.routers) {id : String} {cfg : FRRConfiguration} {e : Router} {a : Neighbor}
    (hcon : Contributes cfgs r.vrf id cfg e a) {m : NeighborConfig} (htr : TranslatedTo cfg e a m) {p : String}
    (hp : p ∈ allowedPrefixes cfg e a) :
    ∃ s ∈ c.routers, r.Reaches s ∧ ∃ e' ∈ cfg.routers, e'.vrf = s.vrf ∧ p ∈ e'.prefixes := by
  obtain ⟨e', he', hp', hfrom⟩ := FrrK8s.mem_entryPrefixes hcon.entry_mem
    (hacc.entries cfg hcon.cfg_mem e hcon.entry_mem) (htr.mem_entryPrefixes hp)
  rcases hfrom with rfl | ⟨v, hv, hvrf⟩
  · exact ⟨r, hr, Or.inl rfl, e', he', hcon.vrf_eq, hp'⟩
  · obtain ⟨s, hs, hsvrf⟩ := h.exists_router hacc hcon.cfg_mem he'
    have himport : v ∈ r.importVRFs :=
      (h.mem_importVRFs hacc hr v).2 ⟨cfg, hcon.cfg_mem, e, hcon.entry_mem, hcon.vrf_eq, hv⟩
    exact ⟨s, hs, Or.inr ⟨v, himport, hsvrf.trans hvrf⟩, e', he', hsvrf.symm, hp'⟩

theorem ResultOf.prefixesV4_declared (hacc : Acceptable secrets alwaysBlock cfgs)
    (h : ResultOf secrets alwaysBlock cfgs c) {r : RouterConfig} (hr : r ∈ c.routers) {n : NeighborConfig}
    (hn : n ∈ r.neighbors) {p : String} (hp : p ∈ n.outgoing.prefixesV4) :
    ∃ s ∈ c.routers, r.Reaches s ∧ p ∈ s.ipv4Prefixes := by
  obtain ⟨cfg, e, a, hcon, m, -, htr, -, htells⟩ := (h.neighbor_tells hacc hr hn (.prefixV4 p)).1 hp
  obtain ⟨-, hallowed, hfam⟩ := (htr.prefixV4 p).1 htells
  obtain ⟨s, hs, hreach, e', he', hvrf, hp'⟩ := h.reaches_declared hacc hr hcon htr hallowed
  exact ⟨s, hs, hreach, (h.mem_ipv4Prefixes hacc hs p).2 ⟨cfg, hcon.cfg_mem, e', he', hvrf, hp', hfam⟩⟩

theorem ResultOf.prefixesV6_declared (hacc : Acceptable secrets alwaysBlock cfgs)
    (h : ResultOf secrets alwaysBlock cfgs c) {r : RouterConfig} (hr : r ∈ c.routers) {n : NeighborConfig}
    (hn : n ∈ r.neighbors) {p : String} (hp : p ∈ n.outgoing.prefixesV6) :
    ∃ s ∈ c.routers, r.Reaches s ∧ p ∈ s.ipv6Prefixes := by
  obtain ⟨cfg, e, a, hcon, m, -, htr, -, htells⟩ := (h.neighbor_tells hacc hr hn (.prefixV6 p)).1 hp
  obtain ⟨-, hallowed, hfam⟩ := (htr.prefixV6 p).1 htells
  obtain ⟨s, hs, hreach, e', he', hvrf, hp'⟩ := h.reaches_declared hacc hr hcon htr hallowed
  exact ⟨s, hs, hreach, (h.mem_ipv6Prefixes hacc hs p).2 ⟨cfg, hcon.cfg_mem, e', he', hvrf, hp', hfam⟩⟩

/-! ## Modifiers -/

/-- A prefix that a translated neighbor advertises in a family is in its list of that family. -/
theorem TranslatedTo.advertises {cfg : FRRConfiguration} {e : Router} {a : Neighbor} {m : NeighborConfig}
    (h : TranslatedTo cfg e a m) {p : String} (hf : forCIDRString p ∈ neighborIPFamilies m)
    (hp : p ∈ prefixesForFamily a.toAdvertise (entryPrefixes cfg e) (forCIDRString p)) :
    (frrIPFamily (forCIDRString p) = "ip" ∧ m.tells (.prefixV4 p)) ∨
      (frrIPFamily (forCIDRString p) = "ipv6" ∧ m.tells (.prefixV6 p)) := by
  obtain ⟨hknown, hhas⟩ := (mem_neighborIPFamilies m h.family _).1 hf
  have hallowed := ((mem_prefixesForFamily hknown p).1 hp).1
  rcases hknown with hv4 | hv6
  · rw [hv4] at hhas ⊢
    exact Or.inl ⟨rfl, (h.prefixV4 p).2 ⟨hhas, hallowed, hv4⟩⟩
  · rw [hv6] at hhas ⊢
    exact Or.inr ⟨rfl, (h.prefixV6 p).2 ⟨hhas, hallowed, hv6⟩⟩

theorem TranslatedTo.localPref_advertises {cfg : FRRConfiguration} {e : Router} {a : Neighbor} {m : NeighborConfig}
    (h : TranslatedTo cfg e a m) {lp : Nat} {fam p : String} (htells : m.tells (.localPref lp fam p)) :
    (fam = "ip" ∧ m.tells (.prefixV4 p)) ∨ (fam = "ipv6" ∧ m.tells (.prefixV6 p)) := by
  obtain ⟨rfl, x, hx, -, hp⟩ := (h.localPref lp fam p).1 htells
  obtain ⟨hknown, hmatch⟩ := h.valid.localPrefs x hx p hp
  have hf := h.covers hknown hmatch
  have hmem := (mem_filterPrefixes_iff (known_family hknown) p).2 ⟨hp, rfl⟩
  exact h.advertises hf (h.advertised.localPrefsAdvertised _ hf x hx p hmem)

theorem TranslatedTo.community_advertises {cfg : FRRConfiguration} {e : Router} {a : Neighbor} {m : NeighborConfig}
    (h : TranslatedTo cfg e a m) {k : BGPCommunity} {fam p : String} (htells : m.tells (.community k fam p)) :
    (fam = "ip" ∧ m.tells (.prefixV4 p)) ∨ (fam = "ipv6" ∧ m.tells (.prefixV6 p)) := by
  obtain ⟨rfl, x, hx, -, hp⟩ := (h.community k fam p).1 htells
  obtain ⟨hknown, hmatch⟩ := h.valid.communities x hx p hp
  have hf := h.covers hknown hmatch
  have hmem := (mem_filterPrefixes_iff (known_family hknown) p).2 ⟨hp, rfl⟩
  exact h.advertises hf (h.advertised.communitiesAdvertised _ hf x hx p hmem)

/-- A fact on which every contributor advertises is one on which the neighbor does. -/
theorem ResultOf.advertises (hacc : Acceptable secrets alwaysBlock cfgs) (h : ResultOf secrets alwaysBlock cfgs c)
    {r : RouterConfig} (hr : r ∈ c.routers) {n : NeighborConfig} (hn : n ∈ r.neighbors) {x : NeighborFact}
    {fam p : String} (hx : ∀ {cfg e a m}, TranslatedTo cfg e a m → m.tells x →
      (fam = "ip" ∧ m.tells (.prefixV4 p)) ∨ (fam = "ipv6" ∧ m.tells (.prefixV6 p)))
    (htells : n.tells x) : (fam = "ip" ∧ n.tells (.prefixV4 p)) ∨ (fam = "ipv6" ∧ n.tells (.prefixV6 p)) := by
  obtain ⟨cfg, e, a, hcon, m, hm, htr, -, hmx⟩ := (h.neighbor_tells hacc hr hn x).1 htells
  have hkept : ∀ {y}, m.tells y → n.tells y := h.tells_of_translation hacc hr hn hcon hm
  exact (hx htr hmx).imp (And.imp_right hkept) (And.imp_right hkept)

end

/-- **A successful translation is closed under its references.** -/
theorem apiToFRR_references (secrets : SortedMap String Secret) (alwaysBlock : List Net.IPNet)
    (cfgs : List FRRConfiguration) (c : Config) (h : apiToFRR ⟨cfgs, secrets⟩ alwaysBlock = .ok c) : c.Closed := by
  have hacc := apiToFRR_acceptable h
  have hres := apiToFRR_result h
  constructor
  case bfdProfiles => exact fun r hr n hn hne => hres.profile_defined hacc hr hn hne
  case imports => exact fun r hr v hv => hres.import_defined hacc hr hv
  case prefixesV4 => exact fun r hr n hn p hp => hres.prefixesV4_declared hacc hr hn hp
  case prefixesV6 => exact fun r hr n hn p hp => hres.prefixesV6_declared hacc hr hn hp
  case localPrefs =>
    intro r hr n hn l hl p hp
    have htells : n.tells (.localPref l.localPref l.ipFamily p) := ⟨l, hl, rfl, rfl, hp⟩
    exact hres.advertises hacc hr hn (fun htr hx => htr.localPref_advertises hx) htells
  case communities =>
    intro r hr n hn l hl p hp
    have htells : n.tells (.community l.community l.ipFamily p) := ⟨l, hl, rfl, rfl, hp⟩
    exact hres.advertises hacc hr hn (fun htr hx => htr.community_advertises hx) htells
  case vrfNames => exact fun r hr n hn => hres.vrfName_eq hacc hr hn

/-- A session under BFD that prefers a prefix of the VRF `red`, which its router imports. -/
def imported : FRRConfiguration :=
  { name := "imported", bfdProfiles := [{ name := "fast", receiveInterval := some 300 }]
    routers := [
      { asn := 64512, imports := ["red"], neighbors := [{
          asn := 64513, address := "10.0.0.1", bfdProfile := "fast"
          toAdvertise := { allowed := { prefixes := ["192.0.2.0/24"] }
                           prefixesWithLocalPref := [{ prefixes := ["192.0.2.0/24"], localPref := 200 }] } }] },
      { asn := 64512, vrf := "red", prefixes := ["192.0.2.0/24"], imports := ["default"] }] }

theorem apiToFRR_references_imported : ∃ c, apiToFRR ⟨[imported, firstPart], .empty⟩ [] = .ok c ∧ c.Closed := by
  obtain ⟨c, hc⟩ := (isOk_iff (apiToFRR ⟨[imported, firstPart], .empty⟩ [])).1 (by decide +kernel)
  exact ⟨c, hc, apiToFRR_references .empty [] [imported, firstPart] c hc⟩

end FrrK8s
