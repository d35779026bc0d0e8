import FrrK8s.Accept
import FrrK8s.Determined
/-!
# Contributors — the declared neighbors behind a neighbor of the result

A neighbor of a result is made of the declared neighbors of its VRF and ID, its contributors.  Each of its facts is told
by the translation of one of them (`told_neighbor_iff`), and what the translation tells is read off the declaration.
-/
namespace FrrK8s

/-- The ID a declared neighbor gets in a VRF. -/
def neighborID (vrf : String) (a : Neighbor) : String :=
  (if a.interface ≠ "" then a.interface else a.address) ++ (if vrf ≠ "" then "-" ++ vrf else "")

/-- **`a` contributes to the neighbor `id` of `vrf`**: it is declared with that ID in an entry `e` of that VRF. -/
structure Contributes (cfgs : List FRRConfiguration) (vrf id : String) (cfg : FRRConfiguration) (e : Router)
    (a : Neighbor) : Prop where
  cfg_mem : cfg ∈ cfgs
  entry_mem : e ∈ cfg.routers
  vrf_eq : e.vrf = vrf
  mem : a ∈ e.neighbors
  id_eq : neighborID vrf a = id

/-- What a declared neighbor of an entry is translated to. -/
def translation (secrets : SortedMap String Secret) (alwaysBlock : List Net.IPNet) (cfg : FRRConfiguration) (e : Router)
    (a : Neighbor) : Result NeighborConfig :=
  neighborToFRR a (entryPrefixes cfg e) (alwaysBlockToFRR alwaysBlock) e.vrf secrets (localProfiles cfg)

theorem translation_id {secrets : SortedMap String Secret} {alwaysBlock : List Net.IPNet} {cfg : FRRConfiguration}
    {e : Router} {a : Neighbor} {m : NeighborConfig} (h : translation secrets alwaysBlock cfg e a = .ok m) :
    m.id = neighborID e.vrf a := by
  obtain ⟨-, f, -, timers, -, password, -, out, -, incoming, -, rfl⟩ := (neighborToFRR_eq_ok ..).1 h
  rfl

section

variable {secrets : SortedMap String Secret} {alwaysBlock : List Net.IPNet} {cfgs : List FRRConfiguration}

theorem Contributes.of_subset {cfgs' : List FRRConfiguration} (hsub : ∀ cfg ∈ cfgs, cfg ∈ cfgs') {vrf id : String}
    {cfg : FRRConfiguration} {e : Router} {a : Neighbor} (h : Contributes cfgs vrf id cfg e a) :
    Contributes cfgs' vrf id cfg e a := { h with cfg_mem := hsub cfg h.cfg_mem }

/-- Every contributor of an acceptable list was validated and translated. -/
theorem Contributes.translated (hacc : Acceptable secrets alwaysBlock cfgs) {vrf id : String} {cfg : FRRConfiguration}
    {e : Router} {a : Neighbor} (h : Contributes cfgs vrf id cfg e a) :
    ∃ m f, translation secrets alwaysBlock cfg e a = .ok m ∧ m.id = id ∧
      OutgoingValid (SortedSet.ofList (entryPrefixes cfg e)) a f := by
  obtain ⟨c, hc⟩ := (isOk_iff _).1 (hacc.entries cfg h.cfg_mem e h.entry_mem)
  obtain ⟨hvalid, htrans, -⟩ := entryFor_neighbors hc
  obtain ⟨f, hf⟩ := hvalid a h.mem
  obtain ⟨m, hm⟩ := htrans a h.mem
  refine ⟨m, f, hm, ?_, hf⟩
  rw [translation_id hm, h.vrf_eq, h.id_eq]

/-- **A fact of a neighbor is told by a contributor's translation.** -/
theorem told_neighbor_iff (hacc : Acceptable secrets alwaysBlock cfgs) (vrf id : String) (x : NeighborFact) :
    told secrets alwaysBlock cfgs (vrf, .neighbor id x) ↔ ∃ cfg e a, Contributes cfgs vrf id cfg e a ∧
      ∃ m, translation secrets alwaysBlock cfg e a = .ok m ∧ m.tells x := by
  constructor
  · rintro ⟨cfg, hcfg, e, he, c, hc, hvrf, m, hm, hid, hx⟩
    obtain ⟨-, -, hns⟩ := entryFor_neighbors hc
    obtain ⟨a, ha, hm⟩ := (hns m).1 hm
    have hvrf' : e.vrf = vrf := (entryFor_wf hc).1.symm.trans hvrf
    refine ⟨cfg, e, a, ⟨hcfg, he, hvrf', ha, ?_⟩, m, hm, hx⟩
    rw [← hvrf', ← translation_id hm, hid]
  · rintro ⟨cfg, e, a, hcon, m, hm, hx⟩
    obtain ⟨c, hc⟩ := (isOk_iff _).1 (hacc.entries cfg hcon.cfg_mem e hcon.entry_mem)
    obtain ⟨-, -, hns⟩ := entryFor_neighbors hc
    refine ⟨cfg, hcon.cfg_mem, e, hcon.entry_mem, c, hc, (entryFor_wf hc).1.trans hcon.vrf_eq, m, ?_, ?_, hx⟩
    · exact (hns m).2 ⟨a, hcon.mem, hm⟩
    · rw [translation_id hm, hcon.vrf_eq, hcon.id_eq]

/-- What a neighbor has besides its facts comes from a contributor's translation. -/
theorem brought_neighbor {vrf id : String} {x : NeighborOrigin} (h : brought secrets alwaysBlock cfgs (vrf, (id, x))) :
    ∃ cfg e a, Contributes cfgs vrf id cfg e a ∧
      ∃ m, translation secrets alwaysBlock cfg e a = .ok m ∧ m.keeps x := by
  obtain ⟨cfg, hcfg, e, he, c, hc, hvrf, m, hm, hid, hx⟩ := h
  obtain ⟨-, -, hns⟩ := entryFor_neighbors hc
  obtain ⟨a, ha, hm⟩ := (hns m).1 hm
  have hvrf' : e.vrf = vrf := (entryFor_wf hc).1.symm.trans hvrf
  refine ⟨cfg, e, a, ⟨hcfg, he, hvrf', ha, ?_⟩, m, hm, hx⟩
  rw [← hvrf', ← translation_id hm, hid]

end

/-! ## What a translation tells -/

/-- The family of a declared neighbor is one of the three that mean something. -/
theorem addressFamilyForNeighbor_cases {n : Neighbor} {bfdProfiles : SortedMap String BFDProfile}
    (hn : NeighborChecks n bfdProfiles) {f : Family} (h : addressFamilyForNeighbor n = .ok f) :
    f = .ipv4 ∨ f = .ipv6 ∨ f = .dual := by
  unfold addressFamilyForNeighbor at h
  simp only [bind_eq_ok, pure_eq_ok] at h
  obtain ⟨g, hg, rfl⟩ := h
  by_cases hi : n.interface ≠ "" ∨ n.dualStackAddressFamily = true
  · rw [if_pos hi]; exact Or.inr (Or.inr rfl)
  · rw [if_neg hi]
    have haddr : n.address ≠ "" := fun ha => hn.hasPeer ⟨ha, not_not.1 (fun h => hi (Or.inl h))⟩
    rw [if_pos haddr] at hg
    unfold forAddresses forAddress at hg
    cases hp : Net.parseIP n.address with
    | none => simp [hp] at hg
    | some ip =>
      simp only [hp, Except.ok.injEq] at hg
      subst hg
      split <;> simp

theorem forCIDRString_cases (p : String) :
    forCIDRString p = .ipv4 ∨ forCIDRString p = .ipv6 ∨ forCIDRString p = .unknown := by
  unfold forCIDRString forAddress
  cases Net.parseCIDR p with
  | none => simp
  | some c => simp only; split <;> simp

/-- The prefixes a declared neighbor may advertise. -/
def allowedPrefixes (cfg : FRRConfiguration) (e : Router) (a : Neighbor) : List String :=
  if a.toAdvertise.allowed.mode = .all then entryPrefixes cfg e else a.toAdvertise.allowed.prefixes

theorem mem_filterPrefixes_iff {prefixes : List String} {f : Family} (hf : f = .ipv4 ∨ f = .ipv6) (p : String) :
    p ∈ filterPrefixes prefixes f ↔ p ∈ prefixes ∧ forCIDRString p = f := by
  unfold filterPrefixes
  rw [if_neg (by rcases hf with rfl | rfl <;> decide)]
  simp [List.mem_filter]

theorem mem_prefixesForFamily {cfg : FRRConfiguration} {e : Router} {a : Neighbor} {f : Family}
    (hf : f = .ipv4 ∨ f = .ipv6) (p : String) :
    p ∈ prefixesForFamily a.toAdvertise (entryPrefixes cfg e) f ↔ p ∈ allowedPrefixes cfg e a ∧
    forCIDRString p = f := by
  unfold prefixesForFamily prefixesToAdvertiseForFamily allowedPrefixes
  rw [if_pos hf]
  by_cases hm : a.toAdvertise.allowed.mode = .all
  · rw [if_pos hm, if_pos hm, SortedSet.mem_ofList, mem_filterPrefixes_iff hf]
  · rw [if_neg hm, if_neg hm, SortedSet.mem_ofList]
    simp [List.mem_filter]

theorem mem_neighborIPFamilies (n : NeighborConfig) (hn : n.ipFamily = .ipv4 ∨ n.ipFamily = .ipv6 ∨ n.ipFamily = .dual)
    (f : Family) : f ∈ neighborIPFamilies n ↔ (f = .ipv4 ∨ f = .ipv6) ∧ neighborHasIPFamily n f = true := by
  unfold neighborIPFamilies neighborHasIPFamily
  rcases hn with h | h | h <;> simp only [h] <;> cases f <;> decide

/-- **What the translation of a declared neighbor is**, as far as its advertisement goes. -/
structure TranslatedTo (cfg : FRRConfiguration) (e : Router) (a : Neighbor) (m : NeighborConfig) : Prop where
  family : m.ipFamily = .ipv4 ∨ m.ipFamily = .ipv6 ∨ m.ipFamily = .dual
  valid : OutgoingValid (SortedSet.ofList (entryPrefixes cfg e)) a m.ipFamily
  advertised : Advertised m a.toAdvertise (entryPrefixes cfg e) m.outgoing

theorem translation_translatedTo {secrets : SortedMap String Secret} {alwaysBlock : List Net.IPNet}
    {cfg : FRRConfiguration} {e : Router} {a : Neighbor} {m : NeighborConfig} {f : Family}
    (h : translation secrets alwaysBlock cfg e a = .ok m)
    (hv : OutgoingValid (SortedSet.ofList (entryPrefixes cfg e)) a f) : TranslatedTo cfg e a m := by
  obtain ⟨hchecks, g, hg, timers, -, password, -, out, hout, incoming, -, rfl⟩ := (neighborToFRR_eq_ok ..).1 h
  have hfg : f = g := Except.ok.inj (hv.ipFamily.symm.trans hg)
  subst hfg
  obtain ⟨h1, h2, h3, h4, h5, h6, h7, h8, h9, h10⟩ := toAdvertiseToFRR_advertised hout
  exact ⟨addressFamilyForNeighbor_cases hchecks hg, hv, ⟨h1, h2, h3, h4, h5, h6, h7, h8, h9, h10⟩⟩

section

variable {cfg : FRRConfiguration} {e : Router} {a : Neighbor} {m : NeighborConfig}

theorem TranslatedTo.prefixV4 (h : TranslatedTo cfg e a m) (p : String) : m.tells (.prefixV4 p) ↔
    neighborHasIPFamily m .ipv4 = true ∧ p ∈ allowedPrefixes cfg e a ∧ forCIDRString p = .ipv4 := by
  simp only [NeighborConfig.tells, h.advertised.prefixesV4]
  by_cases hf : neighborHasIPFamily m .ipv4 = true
  · rw [if_pos hf, SortedSet.mem_toList, mem_prefixesForFamily (Or.inl rfl), and_iff_right hf]
  · simp [hf]

theorem TranslatedTo.prefixV6 (h : TranslatedTo cfg e a m) (p : String) : m.tells (.prefixV6 p) ↔
    neighborHasIPFamily m .ipv6 = true ∧ p ∈ allowedPrefixes cfg e a ∧ forCIDRString p = .ipv6 := by
  simp only [NeighborConfig.tells, h.advertised.prefixesV6]
  by_cases hf : neighborHasIPFamily m .ipv6 = true
  · rw [if_pos hf, SortedSet.mem_toList, mem_prefixesForFamily (Or.inr rfl), and_iff_right hf]
  · simp [hf]

/-- A validated prefix is of a family its neighbor has. -/
theorem TranslatedTo.covers (h : TranslatedTo cfg e a m) {p : String} (hp : forCIDRString p ≠ .unknown)
    (hmatch : matchesPrefix m.ipFamily p = true) : forCIDRString p ∈ neighborIPFamilies m := by
  rw [mem_neighborIPFamilies m h.family]
  unfold matchesPrefix at hmatch
  unfold neighborHasIPFamily
  simp only [Bool.or_eq_true, decide_eq_true_eq] at hmatch ⊢
  rcases forCIDRString_cases p with hf | hf | hf
  · exact ⟨Or.inl hf, hmatch.imp id Eq.symm⟩
  · exact ⟨Or.inr hf, hmatch.imp id Eq.symm⟩
  · exact (hp hf).elim

theorem TranslatedTo.localPref (h : TranslatedTo cfg e a m) (lp : Nat) (fam p : String) :
    m.tells (.localPref lp fam p) ↔ fam = frrIPFamily (forCIDRString p) ∧
      ∃ x ∈ a.toAdvertise.prefixesWithLocalPref, x.localPref = lp ∧ p ∈ x.prefixes := by
  constructor
  · rintro ⟨l, hl, rfl, rfl, hp⟩
    obtain ⟨f, hf, x, hx, -, rfl⟩ := (h.advertised.localPrefs l).1 hl
    have hf' := ((mem_neighborIPFamilies m h.family f).1 hf).1
    obtain ⟨hp, hpf⟩ := (mem_filterPrefixes_iff hf' p).1 ((SortedSet.mem_ofList _ p).1 hp)
    exact ⟨by rw [hpf]; rfl, x, hx, rfl, hp⟩
  · rintro ⟨rfl, x, hx, rfl, hp⟩
    obtain ⟨hknown, hmatch⟩ := h.valid.localPrefs x hx p hp
    have hf := h.covers hknown hmatch
    have hf' := ((mem_neighborIPFamilies m h.family _).1 hf).1
    have hmem : p ∈ filterPrefixes x.prefixes (forCIDRString p) := (mem_filterPrefixes_iff hf' p).2 ⟨hp, rfl⟩
    refine ⟨localPrefListFor m.id (forCIDRString p) x, ?_, rfl, rfl, (SortedSet.mem_ofList _ p).2 hmem⟩
    exact (h.advertised.localPrefs _).2 ⟨_, hf, x, hx, List.ne_nil_of_mem hmem, rfl⟩

theorem TranslatedTo.community (h : TranslatedTo cfg e a m) (c : BGPCommunity) (fam p : String) :
    m.tells (.community c fam p) ↔ fam = frrIPFamily (forCIDRString p) ∧
      ∃ x ∈ a.toAdvertise.prefixesWithCommunity, Community.new x.community = .ok c ∧ p ∈ x.prefixes := by
  constructor
  · rintro ⟨l, hl, rfl, rfl, hp⟩
    obtain ⟨f, hf, x, hx, c, hc, -, rfl⟩ := (h.advertised.communities l).1 hl
    have hf' := ((mem_neighborIPFamilies m h.family f).1 hf).1
    obtain ⟨hp, hpf⟩ := (mem_filterPrefixes_iff hf' p).1 ((SortedSet.mem_ofList _ p).1 hp)
    exact ⟨by rw [hpf]; rfl, x, hx, hc, hp⟩
  · rintro ⟨rfl, x, hx, hc, hp⟩
    obtain ⟨hknown, hmatch⟩ := h.valid.communities x hx p hp
    have hf := h.covers hknown hmatch
    have hf' := ((mem_neighborIPFamilies m h.family _).1 hf).1
    have hmem : p ∈ filterPrefixes x.prefixes (forCIDRString p) := (mem_filterPrefixes_iff hf' p).2 ⟨hp, rfl⟩
    refine ⟨communityListFor m.id (forCIDRString p) c x, ?_, rfl, rfl, (SortedSet.mem_ofList _ p).2 hmem⟩
    exact (h.advertised.communities _).2 ⟨_, hf, x, hx, c, hc, List.ne_nil_of_mem hmem, rfl⟩

end

/-! ## The neighbors of a result -/

section

variable {secrets : SortedMap String Secret} {alwaysBlock : List Net.IPNet} {cfgs : List FRRConfiguration} {c : Config}

theorem ResultOf.router_inj (h : ResultOf secrets alwaysBlock cfgs c) {r s : RouterConfig} (hr : r ∈ c.routers)
    (hs : s ∈ c.routers) (hvrf : r.vrf = s.vrf) : r = s :=
  List.inj_on_of_nodup_map (nodup_map_of_pairwise_lt h.sorted) hr hs hvrf

theorem ResultOf.neighbor_inj (h : ResultOf secrets alwaysBlock cfgs c) {r : RouterConfig} (hr : r ∈ c.routers)
    {n m : NeighborConfig} (hn : n ∈ r.neighbors) (hm : m ∈ r.neighbors) (hid : n.id = m.id) : n = m :=
  List.inj_on_of_nodup_map (nodup_map_of_pairwise_lt (h.normal r hr).sorted) hn hm hid

theorem ResultOf.tells_of_mem (h : ResultOf secrets alwaysBlock cfgs c) {r : RouterConfig}
    (hr : r ∈ c.routers) (f : RouterFact) : r.tells f ↔ told secrets alwaysBlock cfgs (r.vrf, f) := by
  rw [← h.tells]
  refine ⟨fun hf => ⟨r, hr, rfl, hf⟩, fun ⟨s, hs, hvrf, hf⟩ => ?_⟩
  rwa [h.router_inj hs hr hvrf] at hf

theorem ResultOf.neighbor_told (h : ResultOf secrets alwaysBlock cfgs c) {r : RouterConfig} (hr : r ∈ c.routers)
    {n : NeighborConfig} (hn : n ∈ r.neighbors) (x : NeighborFact) :
    n.tells x ↔ told secrets alwaysBlock cfgs (r.vrf, .neighbor n.id x) := by
  rw [← h.tells_of_mem hr, ← neighborsTell_id (h.normal r hr).sorted hn]
  rfl

/-- Every contributor of a neighbor of the result is translated, to a neighbor of the same families. -/
theorem ResultOf.contributor (hacc : Acceptable secrets alwaysBlock cfgs) (h : ResultOf secrets alwaysBlock cfgs c)
    {r : RouterConfig} (hr : r ∈ c.routers) {n : NeighborConfig} (hn : n ∈ r.neighbors) {cfg : FRRConfiguration}
    {e : Router} {a : Neighbor} (hcon : Contributes cfgs r.vrf n.id cfg e a) :
    ∃ m, translation secrets alwaysBlock cfg e a = .ok m ∧ TranslatedTo cfg e a m ∧ m.ipFamily = n.ipFamily := by
  obtain ⟨m, f, hm, -, hv⟩ := hcon.translated hacc
  refine ⟨m, hm, translation_translatedTo hm hv, ?_⟩
  have htold : told secrets alwaysBlock cfgs (r.vrf, .neighbor n.id (.attr .ipFamily (.family m.ipFamily))) :=
    (told_neighbor_iff hacc _ _ _).2 ⟨cfg, e, a, hcon, m, hm, rfl⟩
  have := (h.neighbor_told hr hn _).2 htold
  simpa [NeighborConfig.tells, NeighborConfig.attr?, eq_comm] using this

/-- **A fact of a neighbor of the result is a fact of a contributor's translation.** -/
theorem ResultOf.neighbor_tells (hacc : Acceptable secrets alwaysBlock cfgs) (h : ResultOf secrets alwaysBlock cfgs c)
    {r : RouterConfig} (hr : r ∈ c.routers) {n : NeighborConfig} (hn : n ∈ r.neighbors) (x : NeighborFact) :
    n.tells x ↔ ∃ cfg e a, Contributes cfgs r.vrf n.id cfg e a ∧ ∃ m, translation secrets alwaysBlock cfg e a = .ok m ∧
      TranslatedTo cfg e a m ∧ m.ipFamily = n.ipFamily ∧ m.tells x := by
  rw [h.neighbor_told hr hn, told_neighbor_iff hacc]
  refine exists_congr fun cfg => exists_congr fun e => exists_congr fun a => and_congr_right fun hcon => ?_
  refine exists_congr fun m => and_congr_right fun hm => ?_
  obtain ⟨m', hm', htr, hfam⟩ := h.contributor hacc hr hn hcon
  rw [hm] at hm'
  cases hm'
  exact ⟨fun hx => ⟨htr, hfam, hx⟩, fun hx => hx.2.2⟩

theorem ResultOf.tells_of_translation (hacc : Acceptable secrets alwaysBlock cfgs)
    (h : ResultOf secrets alwaysBlock cfgs c) {r : RouterConfig} (hr : r ∈ c.routers) {n : NeighborConfig}
    (hn : n ∈ r.neighbors) {cfg : FRRConfiguration} {e : Router} {a : Neighbor}
    (hcon : Contributes cfgs r.vrf n.id cfg e a) {m : NeighborConfig}
    (hm : translation secrets alwaysBlock cfg e a = .ok m) {x : NeighborFact} (hx : m.tells x) : n.tells x :=
  (h.neighbor_told hr hn x).2 ((told_neighbor_iff hacc _ _ _).2 ⟨cfg, e, a, hcon, m, hm, hx⟩)

/-- A fact that translations tell by a property of what is declared is told exactly if a contributor has the
property. -/
theorem ResultOf.tells_iff (hacc : Acceptable secrets alwaysBlock cfgs) (h : ResultOf secrets alwaysBlock cfgs c)
    {r : RouterConfig} (hr : r ∈ c.routers) {n : NeighborConfig} (hn : n ∈ r.neighbors) {x : NeighborFact}
    {P : FRRConfiguration → Router → Neighbor → Prop}
    (hx : ∀ {cfg e a m}, Contributes cfgs r.vrf n.id cfg e a → translation secrets alwaysBlock cfg e a = .ok m →
      TranslatedTo cfg e a m → m.ipFamily = n.ipFamily → (m.tells x ↔ P cfg e a)) :
    n.tells x ↔ ∃ cfg e a, Contributes cfgs r.vrf n.id cfg e a ∧ P cfg e a := by
  constructor
  · intro htells
    obtain ⟨cfg, e, a, hcon, m, hm, htr, hfam, hmx⟩ := (h.neighbor_tells hacc hr hn x).1 htells
    exact ⟨cfg, e, a, hcon, (hx hcon hm htr hfam).1 hmx⟩
  · rintro ⟨cfg, e, a, hcon, hP⟩
    obtain ⟨m, hm, htr, hfam⟩ := h.contributor hacc hr hn hcon
    exact h.tells_of_translation hacc hr hn hcon hm ((hx hcon hm htr hfam).2 hP)

/-- A neighbor of a result has a contributor. -/
theorem ResultOf.exists_contributor (hacc : Acceptable secrets alwaysBlock cfgs)
    (h : ResultOf secrets alwaysBlock cfgs c) {r : RouterConfig} (hr : r ∈ c.routers) {n : NeighborConfig}
    (hn : n ∈ r.neighbors) : ∃ cfg e a, Contributes cfgs r.vrf n.id cfg e a := by
  obtain ⟨cfg, e, a, hcon, -⟩ := (h.neighbor_tells hacc hr hn (.attr .asn (.text n.asn))).1 rfl
  exact ⟨cfg, e, a, hcon⟩

/-- A declared neighbor has a neighbor of the result. -/
theorem ResultOf.exists_neighbor (hacc : Acceptable secrets alwaysBlock cfgs) (h : ResultOf secrets alwaysBlock cfgs c)
    {vrf id : String} {cfg : FRRConfiguration} {e : Router} {a : Neighbor} (hcon : Contributes cfgs vrf id cfg e a) :
    ∃ r ∈ c.routers, r.vrf = vrf ∧ ∃ n ∈ r.neighbors, n.id = id := by
  obtain ⟨m, f, hm, -, -⟩ := hcon.translated hacc
  have htold := (told_neighbor_iff hacc vrf id (.attr .asn (.text m.asn))).2 ⟨cfg, e, a, hcon, m, hm, rfl⟩
  obtain ⟨r, hr, hvrf, n, hn, hid, -⟩ := (h.tells vrf _).2 htold
  exact ⟨r, hr, hvrf, n, hn, hid⟩

/-- The neighbor of the result that a declared neighbor contributes to. -/
theorem ResultOf.exists_contributed (hacc : Acceptable secrets alwaysBlock cfgs)
    (h : ResultOf secrets alwaysBlock cfgs c) {cfg : FRRConfiguration} (hcfg : cfg ∈ cfgs) {e : Router}
    (he : e ∈ cfg.routers) {a : Neighbor} (ha : a ∈ e.neighbors) :
    ∃ r ∈ c.routers, r.vrf = e.vrf ∧ ∃ n ∈ r.neighbors, n.id = neighborID e.vrf a ∧
    Contributes cfgs r.vrf n.id cfg e a := by
  have hcon : Contributes cfgs e.vrf (neighborID e.vrf a) cfg e a := ⟨hcfg, he, rfl, ha, rfl⟩
  obtain ⟨r, hr, hvrf, n, hn, hid⟩ := h.exists_neighbor hacc hcon
  rw [← hid, ← hvrf] at hcon
  exact ⟨r, hr, hvrf, n, hn, by rw [hid], hcon⟩

end

end FrrK8s
