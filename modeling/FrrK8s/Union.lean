import FrrK8s.Order
/-!
# Union — the result is the union the resources ask for

Every router of a result has the prefixes and imports of all entries of its VRF; every neighbor advertises what its
contributors allow, under the local preferences and communities they ask for, and nothing else (`apiToFRR_union`).
-/
namespace FrrK8s

/-! ## What the resources ask for -/

/-- A declared neighbor lets `p` be advertised: it names it, or advertises everything and the entry or a VRF that the
entry imports declares it. -/
def Allows (cfg : FRRConfiguration) (e : Router) (a : Neighbor) (p : String) : Prop :=
  if a.toAdvertise.allowed.mode = .all then
    p ∈ e.prefixes ∨ ∃ v ∈ e.imports, ∃ e' ∈ cfg.routers, e'.vrf = importedVRF v ∧ p ∈ e'.prefixes
  else p ∈ a.toAdvertise.allowed.prefixes

/-- A contributor of the neighbor asks for a local preference on the prefix. -/
def AsksLocalPref (cfgs : List FRRConfiguration) (vrf id : String) (lp : Nat) (f : Family) (p : String) : Prop :=
  forCIDRString p = f ∧ ∃ cfg e a, Contributes cfgs vrf id cfg e a ∧
    ∃ x ∈ a.toAdvertise.prefixesWithLocalPref, x.localPref = lp ∧ p ∈ x.prefixes

/-- A contributor of the neighbor asks for a community on the prefix. -/
def AsksCommunity (cfgs : List FRRConfiguration) (vrf id : String) (c : BGPCommunity) (f : Family) (p : String) :
    Prop :=
  forCIDRString p = f ∧ ∃ cfg e a, Contributes cfgs vrf id cfg e a ∧
    ∃ x ∈ a.toAdvertise.prefixesWithCommunity, Community.new x.community = .ok c ∧ p ∈ x.prefixes

structure UnionNeighbor (cfgs : List FRRConfiguration) (vrf : String) (n : NeighborConfig) : Prop where
  sortedV4 : n.outgoing.prefixesV4.Pairwise (· < ·)
  sortedV6 : n.outgoing.prefixesV6.Pairwise (· < ·)
  prefixesV4 : ∀ p, p ∈ n.outgoing.prefixesV4 ↔ neighborHasIPFamily n .ipv4 = true ∧ forCIDRString p = .ipv4 ∧
    ∃ cfg e a, Contributes cfgs vrf n.id cfg e a ∧ Allows cfg e a p
  prefixesV6 : ∀ p, p ∈ n.outgoing.prefixesV6 ↔ neighborHasIPFamily n .ipv6 = true ∧ forCIDRString p = .ipv6 ∧
    ∃ cfg e a, Contributes cfgs vrf n.id cfg e a ∧ Allows cfg e a p
  localPrefs : ∀ lp f, f = .ipv4 ∨ f = .ipv6 → (∃ p, AsksLocalPref cfgs vrf n.id lp f p) →
    ∃ l ∈ n.outgoing.localPrefPrefixesModifiers, l.localPref = lp ∧ l.ipFamily = frrIPFamily f ∧
      (∀ p, p ∈ l.prefixes ↔ AsksLocalPref cfgs vrf n.id lp f p) ∧
      ∀ l' ∈ n.outgoing.localPrefPrefixesModifiers, l'.localPref = lp → l'.ipFamily = frrIPFamily f → l' = l
  localPrefsOnly : ∀ l ∈ n.outgoing.localPrefPrefixesModifiers, ∃ f, (f = .ipv4 ∨ f = .ipv6) ∧
    l.ipFamily = frrIPFamily f ∧ ∃ p, AsksLocalPref cfgs vrf n.id l.localPref f p
  communities : ∀ c f, f = .ipv4 ∨ f = .ipv6 → (∃ p, AsksCommunity cfgs vrf n.id c f p) →
    ∃ l ∈ n.outgoing.communityPrefixesModifiers, l.community = c ∧ l.ipFamily = frrIPFamily f ∧
      (∀ p, p ∈ l.prefixes ↔ AsksCommunity cfgs vrf n.id c f p) ∧
      ∀ l' ∈ n.outgoing.communityPrefixesModifiers, l'.community = c → l'.ipFamily = frrIPFamily f → l' = l
  communitiesOnly : ∀ l ∈ n.outgoing.communityPrefixesModifiers, ∃ f, (f = .ipv4 ∨ f = .ipv6) ∧
    l.ipFamily = frrIPFamily f ∧ ∃ p, AsksCommunity cfgs vrf n.id l.community f p

structure UnionRouter (cfgs : List FRRConfiguration) (r : RouterConfig) : Prop where
  sortedV4 : r.ipv4Prefixes.Pairwise (· < ·)
  sortedV6 : r.ipv6Prefixes.Pairwise (· < ·)
  sortedImports : r.importVRFs.Pairwise (· < ·)
  sortedNeighbors : r.neighbors.Pairwise (fun a b => a.id < b.id)
  ipv4Prefixes : ∀ p, p ∈ r.ipv4Prefixes ↔
    ∃ cfg ∈ cfgs, ∃ e ∈ cfg.routers, e.vrf = r.vrf ∧ p ∈ e.prefixes ∧ forCIDRString p = .ipv4
  ipv6Prefixes : ∀ p, p ∈ r.ipv6Prefixes ↔
    ∃ cfg ∈ cfgs, ∃ e ∈ cfg.routers, e.vrf = r.vrf ∧ p ∈ e.prefixes ∧ forCIDRString p = .ipv6
  importVRFs : ∀ v, v ∈ r.importVRFs ↔ ∃ cfg ∈ cfgs, ∃ e ∈ cfg.routers, e.vrf = r.vrf ∧ v ∈ e.imports
  ids : ∀ id, (∃ n ∈ r.neighbors, n.id = id) ↔ ∃ cfg e a, Contributes cfgs r.vrf id cfg e a
  neighbors : ∀ n ∈ r.neighbors, UnionNeighbor cfgs r.vrf n

/-- **The result has what the resources declare, VRF by VRF and neighbor by neighbor, in order and once.** -/
structure UnionOf (cfgs : List FRRConfiguration) (c : Config) : Prop where
  sorted : c.routers.Pairwise (fun r s => r.vrf < s.vrf)
  vrfs : ∀ vrf, (∃ r ∈ c.routers, r.vrf = vrf) ↔ ∃ cfg ∈ cfgs, ∃ e ∈ cfg.routers, e.vrf = vrf
  routers : ∀ r ∈ c.routers, UnionRouter cfgs r

/-! ## Imported prefixes -/

theorem find?_foldl_insert_prefixes : ∀ (l : List Router) (m : SortedMap String Router),
    l.foldl (fun res r => res.insert r.vrf r.prefixes) (m.mapVal Router.prefixes) =
      (SortedMap.insertAll Router.vrf m l).mapVal Router.prefixes
  | [], m => rfl
  | r :: l, m => by
    have hins : (m.mapVal Router.prefixes).insert r.vrf r.prefixes = (m.insert r.vrf r).mapVal Router.prefixes :=
      SortedMap.ext_find? (fun k => by
        simp only [SortedMap.find?_mapVal, SortedMap.find?_insert]
        split <;> rfl)
    rw [List.foldl_cons, hins, find?_foldl_insert_prefixes l, SortedMap.insertAll_cons]

theorem prefixesForVRFs_eq (routers : List Router) :
    prefixesForVRFs routers = (SortedMap.insertAll Router.vrf .empty routers).mapVal Router.prefixes :=
  find?_foldl_insert_prefixes routers .empty

/-- **The prefixes of a VRF are those of its last entry.** -/
theorem find?_prefixesForVRFs (routers : List Router) (vrf : String) :
    (prefixesForVRFs routers).find? vrf = (lastWith Router.vrf vrf routers).map Router.prefixes := by
  rw [prefixesForVRFs_eq, SortedMap.find?_mapVal, SortedMap.find?_insertAll, SortedMap.find?_empty, Option.or_none]

theorem imported_defined {e : Router} {m : SortedMap String (List String)} {imported : List String}
    (h : importedPrefixes e m = .ok imported) {v : String} (hv : v ∈ e.imports) :
    ∃ ps, m.find? (importedVRF v) = some ps := by
  unfold importedPrefixes at h
  simp only [bind_eq_ok, pure_eq_ok] at h
  obtain ⟨l, hl, -⟩ := h
  have hok := (mapM_isOk _ _).1 ((isOk_iff _).2 ⟨l, hl⟩) v hv
  cases hf : m.find? (importedVRF v) with
  | none =>
    rw [hf] at hok
    cases hok
  | some ps => exact ⟨ps, rfl⟩

theorem mem_importedPrefixes {e : Router} {m : SortedMap String (List String)} {imported : List String}
    (h : importedPrefixes e m = .ok imported) (p : String) :
    p ∈ imported ↔ ∃ v ∈ e.imports, ∃ ps, m.find? (importedVRF v) = some ps ∧ p ∈ ps := by
  unfold importedPrefixes at h
  simp only [bind_eq_ok, pure_eq_ok] at h
  obtain ⟨l, hl, rfl⟩ := h
  simp only [List.mem_flatten, mem_of_mapM_eq_ok hl]
  constructor
  · rintro ⟨ps, ⟨v, hv, hps⟩, hp⟩
    refine ⟨v, hv, ps, ?_, hp⟩
    cases hf : m.find? (importedVRF v) with
    | none => rw [hf] at hps; simp at hps
    | some qs => rw [hf] at hps; exact congrArg some (Except.ok.inj hps)
  · rintro ⟨v, hv, ps, hps, hp⟩
    exact ⟨ps, ⟨v, hv, by rw [hps]⟩, hp⟩

section

variable {secrets : SortedMap String Secret} {alwaysBlock : List Net.IPNet} {cfgs : List FRRConfiguration} {c : Config}

/-- The prefixes of an entry are its own and those of the last entries of the VRFs it imports. -/
theorem mem_entryPrefixes_iff {cfg : FRRConfiguration} {e : Router}
    (he : (entryFor secrets alwaysBlock cfg e).isOk = true) (p : String) : p ∈ entryPrefixes cfg e ↔ p ∈ e.prefixes ∨
      ∃ v ∈ e.imports, ∃ l, lastWith Router.vrf (importedVRF v) cfg.routers = some l ∧ p ∈ l.prefixes := by
  obtain ⟨d, hd⟩ := (isOk_iff _).1 he
  obtain ⟨-, -, imported, himp, -⟩ := (routerFor_eq_ok ..).1 hd
  rw [entryPrefixes_eq himp, List.mem_append, mem_importedPrefixes himp]
  refine or_congr Iff.rfl (exists_congr fun v => and_congr_right fun _ => ?_)
  simp only [find?_prefixesForVRFs, Option.map_eq_some_iff]
  constructor
  · rintro ⟨_, ⟨l, hl, rfl⟩, hp⟩
    exact ⟨l, hl, hp⟩
  · rintro ⟨l, hl, hp⟩
    exact ⟨_, ⟨l, hl, rfl⟩, hp⟩

theorem mem_allowedPrefixes {cfg : FRRConfiguration} (hone : (cfg.routers.map Router.vrf).Nodup) {e : Router}
    (he : (entryFor secrets alwaysBlock cfg e).isOk = true) (a : Neighbor) (p : String) :
    p ∈ allowedPrefixes cfg e a ↔ Allows cfg e a p := by
  unfold allowedPrefixes Allows
  by_cases hm : a.toAdvertise.allowed.mode = .all
  · rw [if_pos hm, if_pos hm, mem_entryPrefixes_iff he]
    simp only [lastWith_of_nodup hone, and_assoc]
  · rw [if_neg hm, if_neg hm]

/-! ## Routers -/

/-- What an entry is translated to, but for its neighbors. -/
theorem entryFor_fields {cfg : FRRConfiguration} {e : Router} {d : RouterConfig}
    (h : entryFor secrets alwaysBlock cfg e = .ok d) : d.myASN = e.asn ∧ d.vrf = e.vrf ∧
      d.ipv4Prefixes = filterPrefixes e.prefixes .ipv4 ∧ d.ipv6Prefixes = filterPrefixes e.prefixes .ipv6 ∧
      d.importVRFs = e.imports ∧ d.evpn = e.evpn.map evpnToFRR := by
  obtain ⟨-, -, imported, -, -, hc⟩ := (routerFor_eq_ok ..).1 h
  obtain ⟨ns, -, rfl⟩ := (routerToFRRConfig_eq_ok ..).1 hc
  exact ⟨rfl, rfl, rfl, rfl, rfl, rfl⟩

/-- A fact of a router that is read off its entries one by one. -/
theorem told_iff_of_entries
    (hentries : ∀ cfg ∈ cfgs, ∀ e ∈ cfg.routers, (entryFor secrets alwaysBlock cfg e).isOk = true) {f : RouterFact}
    {P : Router → Prop} (hP : ∀ cfg e d, entryFor secrets alwaysBlock cfg e = .ok d → (d.tells f ↔ P e))
    (vrf : String) : told secrets alwaysBlock cfgs (vrf, f) ↔ ∃ cfg ∈ cfgs, ∃ e ∈ cfg.routers, e.vrf = vrf ∧ P e := by
  constructor
  · rintro ⟨cfg, hcfg, e, he, d, hd, hvrf, hf⟩
    exact ⟨cfg, hcfg, e, he, (entryFor_fields hd).2.1.symm.trans hvrf, (hP cfg e d hd).1 hf⟩
  · rintro ⟨cfg, hcfg, e, he, hvrf, hPe⟩
    obtain ⟨d, hd⟩ := (isOk_iff _).1 (hentries cfg hcfg e he)
    exact ⟨cfg, hcfg, e, he, d, hd, (entryFor_fields hd).2.1.trans hvrf, (hP cfg e d hd).2 hPe⟩

/-! ## Neighbors -/

theorem neighborHasIPFamily_congr {n m : NeighborConfig} (h : m.ipFamily = n.ipFamily) (f : Family) :
    neighborHasIPFamily m f = neighborHasIPFamily n f := by unfold neighborHasIPFamily; rw [h]

theorem frrIPFamily_inj {f g : Family} (hf : f = .ipv4 ∨ f = .ipv6) (hg : g = .ipv4 ∨ g = .ipv6)
    (h : frrIPFamily f = frrIPFamily g) : f = g := by
  rcases hf with rfl | rfl <;> rcases hg with rfl | rfl <;> first | rfl | exact absurd h (by decide)

theorem known_family {p : String} (h : forCIDRString p ≠ .unknown) :
    forCIDRString p = .ipv4 ∨ forCIDRString p = .ipv6 := by
  rcases forCIDRString_cases p with hf | hf | hf
  · exact Or.inl hf
  · exact Or.inr hf
  · exact (h hf).elim

/-- A property that contributors ask for on a prefix is carried exactly when one of them does. -/
theorem ResultOf.asked_iff (hacc : Acceptable secrets alwaysBlock cfgs) (h : ResultOf secrets alwaysBlock cfgs c)
    {r : RouterConfig} (hr : r ∈ c.routers) {n : NeighborConfig} (hn : n ∈ r.neighbors) {x : NeighborFact}
    {fam p : String} {A : Neighbor → Prop}
    (hx : ∀ {cfg e a m}, TranslatedTo cfg e a m → ((m.tells x ↔ fam = frrIPFamily (forCIDRString p) ∧ A a) ∧
    (A a → forCIDRString p ≠ .unknown))) :
    n.tells x ↔ ∃ f, (f = .ipv4 ∨ f = .ipv6) ∧ fam = frrIPFamily f ∧ forCIDRString p = f ∧
      ∃ cfg e a, Contributes cfgs r.vrf n.id cfg e a ∧ A a := by
  rw [h.tells_iff hacc hr hn (fun _ _ htr _ => (hx htr).1)]
  constructor
  · rintro ⟨cfg, e, a, hcon, hfam, ha⟩
    obtain ⟨m, hm, htr, -⟩ := h.contributor hacc hr hn hcon
    exact ⟨_, known_family ((hx htr).2 ha), hfam, rfl, cfg, e, a, hcon, ha⟩
  · rintro ⟨f, -, rfl, rfl, cfg, e, a, hcon, ha⟩
    exact ⟨cfg, e, a, hcon, rfl, ha⟩

/-- A neighbor carries a local preference on a prefix exactly when a contributor asks for it. -/
theorem ResultOf.localPref_iff (hacc : Acceptable secrets alwaysBlock cfgs) (h : ResultOf secrets alwaysBlock cfgs c)
    {r : RouterConfig} (hr : r ∈ c.routers) {n : NeighborConfig} (hn : n ∈ r.neighbors) (lp : Nat) (fam p : String) :
    n.tells (.localPref lp fam p) ↔
      ∃ f, (f = .ipv4 ∨ f = .ipv6) ∧ fam = frrIPFamily f ∧ AsksLocalPref cfgs r.vrf n.id lp f p :=
  h.asked_iff hacc hr hn (fun htr => ⟨htr.localPref lp fam p, fun ⟨x, hx, _, hp⟩ => (htr.valid.localPrefs x hx p hp).1⟩)

/-- A neighbor carries a community on a prefix exactly when a contributor asks for it. -/
theorem ResultOf.community_iff (hacc : Acceptable secrets alwaysBlock cfgs) (h : ResultOf secrets alwaysBlock cfgs c)
    {r : RouterConfig} (hr : r ∈ c.routers) {n : NeighborConfig} (hn : n ∈ r.neighbors) (k : BGPCommunity)
    (fam p : String) : n.tells (.community k fam p) ↔
      ∃ f, (f = .ipv4 ∨ f = .ipv6) ∧ fam = frrIPFamily f ∧ AsksCommunity cfgs r.vrf n.id k f p :=
  h.asked_iff hacc hr hn (fun htr => ⟨htr.community k fam p, fun ⟨x, hx, _, hp⟩ => (htr.valid.communities x hx p hp).1⟩)

/-- A prefix of a family is advertised exactly when the neighbor has the family and a contributor allows the prefix. -/
theorem ResultOf.allowed_iff (hacc : Acceptable secrets alwaysBlock cfgs) (h : ResultOf secrets alwaysBlock cfgs c)
    (hone : ∀ cfg ∈ cfgs, (cfg.routers.map Router.vrf).Nodup) {r : RouterConfig} (hr : r ∈ c.routers)
    {n : NeighborConfig} (hn : n ∈ r.neighbors) {x : NeighborFact} {f : Family} {p : String}
    (hx : ∀ {cfg e a m}, TranslatedTo cfg e a m →
      (m.tells x ↔ neighborHasIPFamily m f = true ∧ p ∈ allowedPrefixes cfg e a ∧ forCIDRString p = f)) :
    n.tells x ↔ neighborHasIPFamily n f = true ∧ forCIDRString p = f ∧
      ∃ cfg e a, Contributes cfgs r.vrf n.id cfg e a ∧ Allows cfg e a p := by
  have hallows : ∀ {cfg e a}, Contributes cfgs r.vrf n.id cfg e a → (p ∈ allowedPrefixes cfg e a ↔ Allows cfg e a p) :=
    fun {cfg e a} hcon => mem_allowedPrefixes (hone cfg hcon.cfg_mem)
      (hacc.entries cfg hcon.cfg_mem e hcon.entry_mem) a p
  have htells : ∀ {cfg e a m}, Contributes cfgs r.vrf n.id cfg e a → TranslatedTo cfg e a m → m.ipFamily = n.ipFamily →
      (m.tells x ↔ neighborHasIPFamily n f = true ∧ Allows cfg e a p ∧ forCIDRString p = f) := by
    intro cfg e a m hcon htr hfam
    rw [hx htr, neighborHasIPFamily_congr hfam f, hallows hcon]
  rw [h.tells_iff hacc hr hn (fun hcon _ htr hfam => htells hcon htr hfam)]
  constructor
  · rintro ⟨cfg, e, a, hcon, hhas, hp, hpf⟩
    exact ⟨hhas, hpf, cfg, e, a, hcon, hp⟩
  · rintro ⟨hhas, hpf, cfg, e, a, hcon, hp⟩
    exact ⟨cfg, e, a, hcon, hhas, hp, hpf⟩

/-- Lists that carry just what is asked for, one for each value and family: there is one exactly for each value and
family asked for. -/
theorem lists_of_asked {α β : Type} {lists : List α} {value : α → β} {fam : α → String} {holds : α → String → Prop}
    {asks : β → Family → String → Prop} (hasked : ∀ v w p, (∃ l ∈ lists, value l = v ∧ fam l = w ∧ holds l p) ↔
      ∃ f, (f = .ipv4 ∨ f = .ipv6) ∧ w = frrIPFamily f ∧ asks v f p)
    (huniq : ∀ l ∈ lists, ∀ l' ∈ lists, value l' = value l → fam l' = fam l → l' = l)
    (hne : ∀ l ∈ lists, ∃ p, holds l p) :
    (∀ v f, f = .ipv4 ∨ f = .ipv6 → (∃ p, asks v f p) → ∃ l ∈ lists, value l = v ∧ fam l = frrIPFamily f ∧
      (∀ p, holds l p ↔ asks v f p) ∧ ∀ l' ∈ lists, value l' = v → fam l' = frrIPFamily f → l' = l) ∧
    ∀ l ∈ lists, ∃ f, (f = .ipv4 ∨ f = .ipv6) ∧ fam l = frrIPFamily f ∧ ∃ p, asks (value l) f p := by
  refine ⟨fun v f hf hsome => ?_, fun l hl => ?_⟩
  · obtain ⟨p₀, hp₀⟩ := hsome
    obtain ⟨l, hl, rfl, hfam, -⟩ := (hasked v (frrIPFamily f) p₀).2 ⟨f, hf, rfl, hp₀⟩
    have honly : ∀ l' ∈ lists, value l' = value l → fam l' = frrIPFamily f → l' = l :=
      fun l' hl' hv hfam' => huniq l hl l' hl' hv (hfam'.trans hfam.symm)
    refine ⟨l, hl, rfl, hfam, fun p => ⟨fun hp => ?_, fun hp => ?_⟩, honly⟩
    · obtain ⟨g, hg, hfg, hp⟩ := (hasked (value l) (frrIPFamily f) p).1 ⟨l, hl, rfl, hfam, hp⟩
      rwa [frrIPFamily_inj hf hg hfg]
    · obtain ⟨l', hl', hv, hfam', hp⟩ := (hasked (value l) (frrIPFamily f) p).2 ⟨f, hf, rfl, hp⟩
      rwa [honly l' hl' hv hfam'] at hp
  · obtain ⟨p, hp⟩ := hne l hl
    obtain ⟨f, hf, hfam, hp⟩ := (hasked (value l) (fam l) p).1 ⟨l, hl, rfl, rfl, hp⟩
    exact ⟨f, hf, hfam, p, hp⟩

theorem ResultOf.unionNeighbor (hacc : Acceptable secrets alwaysBlock cfgs) (h : ResultOf secrets alwaysBlock cfgs c)
    (hone : ∀ cfg ∈ cfgs, (cfg.routers.map Router.vrf).Nodup) {r : RouterConfig} (hr : r ∈ c.routers)
    {n : NeighborConfig} (hn : n ∈ r.neighbors) : UnionNeighbor cfgs r.vrf n := by
  have hnormal := (h.normal r hr).neighbors n hn
  obtain ⟨hlp, hlpOnly⟩ := lists_of_asked (h.localPref_iff hacc hr hn)
    (fun l hl l' hl' hv hfam => List.inj_on_of_nodup_map hnormal.localPrefKeys hl' hl
      ((LocalPrefPrefixList.key_eq_iff l' l.localPref l.ipFamily).2 ⟨hv, hfam⟩))
    (fun l hl => List.exists_mem_of_ne_nil _ (hnormal.localPrefNamed l hl).2)
  obtain ⟨hc, hcOnly⟩ := lists_of_asked (h.community_iff hacc hr hn)
    (fun l hl l' hl' hv hfam => List.inj_on_of_nodup_map hnormal.communityKeys hl' hl
      ((CommunityPrefixList.key_eq_iff l' l.community l.ipFamily).2 ⟨hv, hfam⟩))
    (fun l hl => List.exists_mem_of_ne_nil _ (hnormal.communityNamed l hl).2)
  exact ⟨hnormal.prefixesV4, hnormal.prefixesV6, fun p => h.allowed_iff hacc hone hr hn (fun htr => htr.prefixV4 p),
    fun p => h.allowed_iff hacc hone hr hn (fun htr => htr.prefixV6 p), hlp, hlpOnly, hc, hcOnly⟩

theorem ResultOf.mem_ipv4Prefixes (hacc : Acceptable secrets alwaysBlock cfgs) (h : ResultOf secrets alwaysBlock cfgs c)
    {r : RouterConfig} (hr : r ∈ c.routers) (p : String) : p ∈ r.ipv4Prefixes ↔
      ∃ cfg ∈ cfgs, ∃ e ∈ cfg.routers, e.vrf = r.vrf ∧ p ∈ e.prefixes ∧ forCIDRString p = .ipv4 := by
  refine (h.tells_of_mem hr (.ipv4Prefix p)).trans (told_iff_of_entries hacc.entries (fun cfg e d hd => ?_) r.vrf)
  rw [RouterConfig.tells, (entryFor_fields hd).2.2.1, mem_filterPrefixes_iff (Or.inl rfl)]

theorem ResultOf.mem_ipv6Prefixes (hacc : Acceptable secrets alwaysBlock cfgs) (h : ResultOf secrets alwaysBlock cfgs c)
    {r : RouterConfig} (hr : r ∈ c.routers) (p : String) : p ∈ r.ipv6Prefixes ↔
      ∃ cfg ∈ cfgs, ∃ e ∈ cfg.routers, e.vrf = r.vrf ∧ p ∈ e.prefixes ∧ forCIDRString p = .ipv6 := by
  refine (h.tells_of_mem hr (.ipv6Prefix p)).trans (told_iff_of_entries hacc.entries (fun cfg e d hd => ?_) r.vrf)
  rw [RouterConfig.tells, (entryFor_fields hd).2.2.2.1, mem_filterPrefixes_iff (Or.inr rfl)]

theorem ResultOf.mem_importVRFs (hacc : Acceptable secrets alwaysBlock cfgs) (h : ResultOf secrets alwaysBlock cfgs c)
    {r : RouterConfig} (hr : r ∈ c.routers) (v : String) :
    v ∈ r.importVRFs ↔ ∃ cfg ∈ cfgs, ∃ e ∈ cfg.routers, e.vrf = r.vrf ∧ v ∈ e.imports := by
  refine (h.tells_of_mem hr (.importVRF v)).trans (told_iff_of_entries hacc.entries (fun cfg e d hd => ?_) r.vrf)
  rw [RouterConfig.tells, (entryFor_fields hd).2.2.2.2.1]

theorem ResultOf.unionRouter (hacc : Acceptable secrets alwaysBlock cfgs) (h : ResultOf secrets alwaysBlock cfgs c)
    (hone : ∀ cfg ∈ cfgs, (cfg.routers.map Router.vrf).Nodup) {r : RouterConfig} (hr : r ∈ c.routers) :
    UnionRouter cfgs r := by
  have hnormal := h.normal r hr
  refine ⟨hnormal.ipv4Prefixes, hnormal.ipv6Prefixes, hnormal.importVRFs, hnormal.sorted, h.mem_ipv4Prefixes hacc hr,
    h.mem_ipv6Prefixes hacc hr, h.mem_importVRFs hacc hr, fun id => ?_, fun n hn => h.unionNeighbor hacc hone hr hn⟩
  constructor
  · rintro ⟨n, hn, rfl⟩
    exact h.exists_contributor hacc hr hn
  · rintro ⟨cfg, e, a, hcon⟩
    obtain ⟨s, hs, hvrf, n, hn, hid⟩ := h.exists_neighbor hacc hcon
    exact ⟨n, h.router_inj hs hr hvrf ▸ hn, hid⟩

/-- Every entry has a router of the result. -/
theorem ResultOf.exists_router (hacc : Acceptable secrets alwaysBlock cfgs) (h : ResultOf secrets alwaysBlock cfgs c)
    {cfg : FRRConfiguration} (hcfg : cfg ∈ cfgs) {e : Router} (he : e ∈ cfg.routers) :
    ∃ r ∈ c.routers, r.vrf = e.vrf := by
  obtain ⟨d, hd⟩ := (isOk_iff _).1 (hacc.entries cfg hcfg e he)
  have htold : told secrets alwaysBlock cfgs (e.vrf, .myASN d.myASN) :=
    ⟨cfg, hcfg, e, he, d, hd, (entryFor_fields hd).2.1, rfl⟩
  obtain ⟨r, hr, hvrf, -⟩ := (h.tells e.vrf _).2 htold
  exact ⟨r, hr, hvrf⟩

/-- **A successful translation is the union the resources ask for**, when no resource names a VRF twice. -/
theorem apiToFRR_union (secrets : SortedMap String Secret) (alwaysBlock : List Net.IPNet) (cfgs : List FRRConfiguration)
    (hone : ∀ cfg ∈ cfgs, (cfg.routers.map Router.vrf).Nodup) (c : Config)
    (h : apiToFRR ⟨cfgs, secrets⟩ alwaysBlock = .ok c) : UnionOf cfgs c := by
  have hacc := apiToFRR_acceptable h
  have hres := apiToFRR_result h
  refine ⟨hres.sorted, fun vrf => ?_, fun r hr => hres.unionRouter hacc hone hr⟩
  constructor
  · rintro ⟨r, hr, rfl⟩
    obtain ⟨cfg, hcfg, e, he, d, hd, hvrf, -⟩ := (hres.tells_of_mem hr (.myASN r.myASN)).1 rfl
    exact ⟨cfg, hcfg, e, he, (entryFor_fields hd).2.1.symm.trans hvrf⟩
  · rintro ⟨cfg, hcfg, e, he, rfl⟩
    exact hres.exists_router hacc hcfg he

theorem apiToFRR_union_parts :
    ∃ c, apiToFRR ⟨[firstPart, secondPart], .empty⟩ [] = .ok c ∧ UnionOf [firstPart, secondPart] c := by
  obtain ⟨c, hc⟩ := (isOk_iff (apiToFRR ⟨[firstPart, secondPart], .empty⟩ [])).1 (by decide +kernel)
  exact ⟨c, hc, apiToFRR_union .empty [] [firstPart, secondPart] (by decide) c hc⟩

end

end FrrK8s
