import FrrK8s.Union
/-!
# Networks — the networks a neighbor advertises

Two prefixes may be different texts of one network.  Local preferences are compared by text, so a neighbor carries one
for each network exactly when its contributors do not give different ones to different texts of a network
(`apiToFRR_localPref_iff`).  An import brings the prefixes of the last entry of the imported VRF, so that it brings all
of them exactly when that entry or the importing one has those of the others (`apiToFRR_imports_iff`).
-/
namespace FrrK8s

/-! ## Local preferences -/

/-- The texts denote one network: the same masked address and mask length. -/
def SameNetwork (p q : String) : Prop := ∃ net ∈ Net.parseNet p, Net.parseNet q = some net

/-- **No neighbor carries two local preferences on one network.** -/
def OneLocalPref (c : Config) : Prop :=
  ∀ r ∈ c.routers, ∀ n ∈ r.neighbors, ∀ l ∈ n.outgoing.localPrefPrefixesModifiers,
    ∀ l' ∈ n.outgoing.localPrefPrefixesModifiers, ∀ p ∈ l.prefixes, ∀ q ∈ l'.prefixes, SameNetwork p q →
      l.localPref = l'.localPref

/-- The contributors of a neighbor ask for two local preferences, on prefixes that `R` relates. -/
def AskTwo (cfgs : List FRRConfiguration) (R : String → String → Prop) : Prop :=
  ∃ vrf id lp lp' p q, AsksLocalPref cfgs vrf id lp (forCIDRString p) p ∧
    AsksLocalPref cfgs vrf id lp' (forCIDRString q) q ∧ R p q ∧ lp ≠ lp'

section

variable {secrets : SortedMap String Secret} {alwaysBlock : List Net.IPNet} {cfgs : List FRRConfiguration} {c : Config}

/-- What is asked for is carried by the neighbor it is asked of. -/
theorem ResultOf.carries_localPref (hacc : Acceptable secrets alwaysBlock cfgs)
    (h : ResultOf secrets alwaysBlock cfgs c) {r : RouterConfig} (hr : r ∈ c.routers) {n : NeighborConfig}
    (hn : n ∈ r.neighbors) {lp : Nat} {p : String} (hasks : AsksLocalPref cfgs r.vrf n.id lp (forCIDRString p) p) :
    n.tells (.localPref lp (frrIPFamily (forCIDRString p)) p) := by
  obtain ⟨cfg, e, a, hcon, x, hx, -, hp⟩ := hasks.2
  obtain ⟨m, f, -, -, hvalid⟩ := hcon.translated hacc
  have hknown := known_family (hvalid.localPrefs x hx p hp).1
  exact (h.localPref_iff hacc hr hn _ _ p).2 ⟨_, hknown, rfl, hasks⟩

theorem ResultOf.oneLocalPref_iff (hacc : Acceptable secrets alwaysBlock cfgs)
    (h : ResultOf secrets alwaysBlock cfgs c) : OneLocalPref c ↔ ¬ AskTwo cfgs SameNetwork := by
  constructor
  · rintro hone ⟨vrf, id, lp, lp', p, q, hp, hq, hsame, hne⟩
    obtain ⟨cfg, e, a, hcon, -⟩ := hp.2
    obtain ⟨r, hr, rfl, n, hn, rfl⟩ := h.exists_neighbor hacc hcon
    obtain ⟨l, hl, rfl, -, hp⟩ := h.carries_localPref hacc hr hn hp
    obtain ⟨l', hl', rfl, -, hq⟩ := h.carries_localPref hacc hr hn hq
    exact hne (hone r hr n hn l hl l' hl' p hp q hq hsame)
  · intro hno r hr n hn l hl l' hl' p hp q hq hsame
    by_contra hne
    obtain ⟨f, -, -, hasks⟩ := (h.localPref_iff hacc hr hn l.localPref l.ipFamily p).1 ⟨l, hl, rfl, rfl, hp⟩
    obtain ⟨f', -, -, hasks'⟩ := (h.localPref_iff hacc hr hn l'.localPref l'.ipFamily q).1 ⟨l', hl', rfl, rfl, hq⟩
    obtain rfl := hasks.1
    obtain rfl := hasks'.1
    exact hno ⟨_, _, _, _, p, q, hasks, hasks', hsame, hne⟩

/-- Two local preferences on one text are refused. -/
theorem ResultOf.localPref_once (hacc : Acceptable secrets alwaysBlock cfgs) (h : ResultOf secrets alwaysBlock cfgs c)
    {vrf id : String} {lp lp' : Nat} {p : String} (hp : AsksLocalPref cfgs vrf id lp (forCIDRString p) p)
    (hp' : AsksLocalPref cfgs vrf id lp' (forCIDRString p) p) : lp = lp' := by
  by_contra hne
  obtain ⟨cfg, e, a, hcon, -⟩ := hp.2
  obtain ⟨r, hr, rfl, n, hn, rfl⟩ := h.exists_neighbor hacc hcon
  have htold := (h.neighbor_told hr hn _).1 (h.carries_localPref hacc hr hn hp)
  have htold' := (h.neighbor_told hr hn _).1 (h.carries_localPref hacc hr hn hp')
  exact hacc.agree _ _ htold htold' ⟨rfl, rfl, rfl, hne⟩

end

/-- **A neighbor carries one local preference for each network, and is asked for no more, exactly when its contributors
do not give different ones to different texts of a network.** -/
theorem apiToFRR_localPref_iff (secrets : SortedMap String Secret) (alwaysBlock : List Net.IPNet)
    (cfgs : List FRRConfiguration) (c : Config) (h : apiToFRR ⟨cfgs, secrets⟩ alwaysBlock = .ok c) :
    (OneLocalPref c ∧ ¬ AskTwo cfgs SameNetwork) ↔ ¬ AskTwo cfgs (fun p q => p ≠ q ∧ SameNetwork p q) := by
  have hacc := apiToFRR_acceptable h
  have hres := apiToFRR_result h
  rw [hres.oneLocalPref_iff hacc, and_self]
  refine not_congr ⟨?_, ?_⟩
  · rintro ⟨vrf, id, lp, lp', p, q, hp, hq, hsame, hne⟩
    refine ⟨vrf, id, lp, lp', p, q, hp, hq, ⟨?_, hsame⟩, hne⟩
    rintro rfl
    exact hne (hres.localPref_once hacc hp hq)
  · rintro ⟨vrf, id, lp, lp', p, q, hp, hq, ⟨-, hsame⟩, hne⟩
    exact ⟨vrf, id, lp, lp', p, q, hp, hq, hsame, hne⟩

/-- A router with these prefixes, and local preferences for them towards one neighbor. -/
def preferring (prefixes : List String) (localPrefs : List LocalPrefPrefixes) : FRRConfiguration :=
  { name := "preferring"
    routers := [{
      asn := 64512
      prefixes := prefixes
      neighbors := [{ asn := 64513, address := "10.0.0.1", toAdvertise := {
        allowed := { prefixes := prefixes }, prefixesWithLocalPref := localPrefs } }] }] }

/-- Two networks, each with a local preference of its own. -/
def preferringBoth : FRRConfiguration :=
  preferring ["192.0.2.0/24", "198.51.100.0/24"] [⟨["192.0.2.0/24"], 100⟩, ⟨["198.51.100.0/24"], 200⟩]

theorem apiToFRR_localPref_iff_preferring : ∃ c, apiToFRR ⟨[preferringBoth], .empty⟩ [] = .ok c ∧
    c.routers.flatMap (fun r => r.neighbors.flatMap (fun n => n.outgoing.localPrefPrefixesModifiers.map (fun l =>
      l.localPref))) = [100, 200] ∧ OneLocalPref c := by
  obtain ⟨c, hc, hprefs⟩ := (toOption_map_eq_some (apiToFRR ⟨[preferringBoth], .empty⟩ []) (fun c => c.routers.flatMap
    (fun r => r.neighbors.flatMap (fun n => n.outgoing.localPrefPrefixesModifiers.map (fun l => l.localPref))))
    [100, 200]).1
    (by decide +kernel)
  refine ⟨c, hc, hprefs, ((apiToFRR_localPref_iff .empty [] _ c hc).2 ?_).1⟩
  have hprefixes : ∀ cfg ∈ [preferringBoth], ∀ e ∈ cfg.routers, ∀ a ∈ e.neighbors,
      ∀ x ∈ a.toAdvertise.prefixesWithLocalPref, ∀ p ∈ x.prefixes, p ∈ ["192.0.2.0/24", "198.51.100.0/24"] := by decide
  have hapart : ∀ p ∈ ["192.0.2.0/24", "198.51.100.0/24"], ∀ q ∈ ["192.0.2.0/24", "198.51.100.0/24"],
      ¬ (p ≠ q ∧ SameNetwork p q) := by
    unfold SameNetwork
    decide +kernel
  rintro ⟨vrf, id, lp, lp', p, q, ⟨-, cfg, e, a, hcon, x, hx, -, hp⟩,
    ⟨-, cfg', e', a', hcon', x', hx', -, hq⟩, hsame, -⟩
  exact hapart p (hprefixes cfg hcon.cfg_mem e hcon.entry_mem a hcon.mem x hx p hp)
    q (hprefixes cfg' hcon'.cfg_mem e' hcon'.entry_mem a' hcon'.mem x' hx' q hq) hsame

/-- The network 192.0.2.0/24 and two local preferences for it, each for one of two texts. -/
def preferringTwice : FRRConfiguration :=
  preferring ["192.0.2.0/24", "192.0.2.1/24"] [⟨["192.0.2.0/24"], 100⟩, ⟨["192.0.2.1/24"], 200⟩]

theorem localPref_twice : ∃ c, apiToFRR ⟨[preferringTwice], .empty⟩ [] = .ok c ∧
    c.routers.flatMap (fun r => r.neighbors.flatMap (fun n => n.outgoing.localPrefPrefixesModifiers.map (fun l =>
      (l.localPref, l.prefixes.toList)))) = [(100, ["192.0.2.0/24"]), (200, ["192.0.2.1/24"])] ∧
    SameNetwork "192.0.2.0/24" "192.0.2.1/24" ∧ ¬ OneLocalPref c := by
  obtain ⟨c, hc, hlists⟩ := (toOption_map_eq_some (apiToFRR ⟨[preferringTwice], .empty⟩ []) (fun c =>
    c.routers.flatMap (fun r => r.neighbors.flatMap (fun n => n.outgoing.localPrefPrefixesModifiers.map (fun l =>
      (l.localPref, l.prefixes.toList))))) [(100, ["192.0.2.0/24"]), (200, ["192.0.2.1/24"])]).1 (by decide +kernel)
  have hsame : SameNetwork "192.0.2.0/24" "192.0.2.1/24" := by
    unfold SameNetwork
    decide +kernel
  refine ⟨c, hc, hlists, hsame, fun hone => ?_⟩
  have hacc := apiToFRR_acceptable hc
  have hcon : Contributes [preferringTwice] "" "10.0.0.1" preferringTwice _ _ :=
    ⟨List.mem_singleton_self _, List.mem_singleton_self _, rfl, List.mem_singleton_self _, rfl⟩
  refine ((apiToFRR_result hc).oneLocalPref_iff hacc).1 hone ⟨"", "10.0.0.1", 100, 200, "192.0.2.0/24", "192.0.2.1/24",
    ⟨rfl, _, _, _, hcon, ⟨["192.0.2.0/24"], 100⟩, ?_, rfl, ?_⟩,
    ⟨rfl, _, _, _, hcon, ⟨["192.0.2.1/24"], 200⟩, ?_, rfl, ?_⟩, hsame, by decide⟩
  all_goals decide

/-! ## Imports -/

/-- The neighbor has the family of the prefix. -/
def Neighbor.Covers (a : Neighbor) (p : String) : Prop :=
  ∃ f, addressFamilyForNeighbor a = .ok f ∧ matchesPrefix f p = true

/-- The neighbor with `p` for the prefixes it is allowed to advertise. -/
def Neighbor.allowing (a : Neighbor) (p : String) : Neighbor :=
  { a with toAdvertise := { a.toAdvertise with allowed := { prefixes := [p], mode := .filtered } } }

/-- The prefix is advertised to the neighbor, in its family. -/
def NeighborConfig.Advertises (n : NeighborConfig) (p : String) : Prop :=
  (forCIDRString p = .ipv4 ∧ p ∈ n.outgoing.prefixesV4) ∨ (forCIDRString p = .ipv6 ∧ p ∈ n.outgoing.prefixesV6)

/-- `e` is an entry of `cfg` that imports the VRF of the entry `e'` of the prefix `p`, and has a neighbor `a` of the
prefix's family. -/
structure ImportsTo (cfg : FRRConfiguration) (e : Router) (a : Neighbor) (p : String) : Prop where
  entry_mem : e ∈ cfg.routers
  mem : a ∈ e.neighbors
  imported : ∃ v ∈ e.imports, ∃ e' ∈ cfg.routers, e'.vrf = importedVRF v ∧ p ∈ e'.prefixes
  covers : a.Covers p

/-- **Imported prefixes are advertised to the neighbors that advertise everything, and any neighbor may name them.** -/
def ImportsCovered (cfgs : List FRRConfiguration) (c : Config) : Prop :=
  ∀ cfg ∈ cfgs, ∀ e a p, ImportsTo cfg e a p →
    (a.toAdvertise.allowed.mode = .all → ∀ r ∈ c.routers, r.vrf = e.vrf → ∀ n ∈ r.neighbors, n.id = neighborID e.vrf a →
      n.Advertises p) ∧
    validateOutgoingPrefixesFor (SortedSet.ofList (entryPrefixes cfg e)) e.vrf (a.allowing p) = .ok ()

/-- An imported prefix is declared by the importing entry, or by the last entry of a VRF that it imports. -/
def ImportsDeclared (cfg : FRRConfiguration) : Prop :=
  ∀ e a p, ImportsTo cfg e a p → p ∈ e.prefixes ∨
    ∃ v ∈ e.imports, ∃ l, lastWith Router.vrf (importedVRF v) cfg.routers = some l ∧ p ∈ l.prefixes

/-- Naming a prefix of its family is refused to a validated neighbor only if the prefix is not configured. -/
theorem validateOutgoingPrefixesFor_allowing {prefixesSet : SortedSet String} {vrf p : String} {a : Neighbor}
    {f : Family} (hf : addressFamilyForNeighbor a = .ok f) (hp : forCIDRString p ≠ .unknown ∧ matchesPrefix f p = true)
    (h : validateOutgoingPrefixesFor prefixesSet vrf a = .ok ()) :
    validateOutgoingPrefixesFor prefixesSet vrf (a.allowing p) = .ok () ↔ p ∈ prefixesSet := by
  unfold validateOutgoingPrefixesFor at h ⊢
  simp only [bind_eq_ok, wrap_eq_ok, forM_eq_ok] at h ⊢
  obtain ⟨g, hg, localPrefs, hlp, _, hcomm, -⟩ := h
  have hfg : g = f := Except.ok.inj (hg.symm.trans hf)
  subst hfg
  have hallowed : validatePrefixesForNeighborFamily [p] g = .ok () :=
    (validatePrefixesForNeighborFamily_eq_ok [p] g).2 (fun q hq => by rwa [List.mem_singleton.1 hq])
  have hmode : (a.allowing p).toAdvertise.allowed.mode ≠ .all := by
    intro h
    cases h
  simp only [if_neg hmode, bind_eq_ok, wrap_eq_ok, forM_eq_ok, reject_eq_ok, not_not]
  constructor
  · rintro ⟨_, -, _, -, _, -, _, -, hmem⟩
    exact hmem p (List.mem_singleton_self p)
  · intro hmem
    refine ⟨g, hg, localPrefs, hlp, (), hcomm, (), hallowed, fun q hq => ?_⟩
    rwa [List.mem_singleton.1 hq]

section

variable {secrets : SortedMap String Secret} {alwaysBlock : List Net.IPNet} {cfgs : List FRRConfiguration} {c : Config}

/-- What an accepted entry imports is of a known family. -/
theorem Acceptable.known_prefix (hacc : Acceptable secrets alwaysBlock cfgs) {cfg : FRRConfiguration}
    (hcfg : cfg ∈ cfgs) {e : Router} (he : e ∈ cfg.routers) {p : String} (hp : p ∈ e.prefixes) :
    forCIDRString p ≠ .unknown := by
  obtain ⟨d, hd⟩ := (isOk_iff _).1 (hacc.entries cfg hcfg e he)
  obtain ⟨hvalid, -⟩ := (routerFor_eq_ok ..).1 hd
  exact (reject_eq_ok _ _ ()).1 ((forM_eq_ok _ _).1 hvalid p hp)

/-- A neighbor that advertises everything advertises the prefixes of its entry. -/
theorem ResultOf.advertises_entryPrefixes (hacc : Acceptable secrets alwaysBlock cfgs)
    (h : ResultOf secrets alwaysBlock cfgs c) {r : RouterConfig} (hr : r ∈ c.routers) {n : NeighborConfig}
    (hn : n ∈ r.neighbors) {cfg : FRRConfiguration} {e : Router} {a : Neighbor}
    (hcon : Contributes cfgs r.vrf n.id cfg e a) (hall : a.toAdvertise.allowed.mode = .all) {p : String}
    (hknown : forCIDRString p ≠ .unknown) (hcovers : a.Covers p) (hp : p ∈ entryPrefixes cfg e) : n.Advertises p := by
  obtain ⟨m, hm, htr, hfam⟩ := h.contributor hacc hr hn hcon
  obtain ⟨f, hf, hmatch⟩ := hcovers
  have hmf : f = m.ipFamily := Except.ok.inj (hf.symm.trans htr.valid.ipFamily)
  subst hmf
  have hhas := ((mem_neighborIPFamilies m htr.family _).1 (htr.covers hknown hmatch)).2
  have hallowed : p ∈ allowedPrefixes cfg e a := by rwa [allowedPrefixes, if_pos hall]
  rcases known_family hknown with hv4 | hv6
  · have htells : m.tells (.prefixV4 p) := (htr.prefixV4 p).2 ⟨hv4 ▸ hhas, hallowed, hv4⟩
    exact Or.inl ⟨hv4, h.tells_of_translation hacc hr hn hcon hm htells⟩
  · have htells : m.tells (.prefixV6 p) := (htr.prefixV6 p).2 ⟨hv6 ▸ hhas, hallowed, hv6⟩
    exact Or.inr ⟨hv6, h.tells_of_translation hacc hr hn hcon hm htells⟩

/-- Naming an imported prefix is refused only if it is not among the prefixes of the entry. -/
theorem Acceptable.allowing_iff (hacc : Acceptable secrets alwaysBlock cfgs) {cfg : FRRConfiguration}
    (hcfg : cfg ∈ cfgs) {e : Router} {a : Neighbor} {p : String} (h : ImportsTo cfg e a p) :
    validateOutgoingPrefixesFor (SortedSet.ofList (entryPrefixes cfg e)) e.vrf (a.allowing p) = .ok () ↔
      p ∈ entryPrefixes cfg e := by
  obtain ⟨d, hd⟩ := (isOk_iff _).1 (hacc.entries cfg hcfg e h.entry_mem)
  obtain ⟨-, -, imported, himp, hout, -⟩ := (routerFor_eq_ok ..).1 hd
  rw [← entryPrefixes_eq himp] at hout
  obtain ⟨v, -, e', he', -, hp⟩ := h.imported
  obtain ⟨f, hf, hmatch⟩ := h.covers
  rw [validateOutgoingPrefixesFor_allowing hf ⟨hacc.known_prefix hcfg he' hp, hmatch⟩ ((forM_eq_ok _ _).1 hout a h.mem),
    SortedSet.mem_ofList]

theorem ResultOf.importsCovered_iff (hacc : Acceptable secrets alwaysBlock cfgs)
    (h : ResultOf secrets alwaysBlock cfgs c) : ImportsCovered cfgs c ↔ ∀ cfg ∈ cfgs, ImportsDeclared cfg := by
  constructor
  · intro hcovered cfg hcfg e a p himports
    rw [← mem_entryPrefixes_iff (hacc.entries cfg hcfg e himports.entry_mem), ← hacc.allowing_iff hcfg himports]
    exact (hcovered cfg hcfg e a p himports).2
  · intro hdeclared cfg hcfg e a p himports
    have hp : p ∈ entryPrefixes cfg e :=
      (mem_entryPrefixes_iff (hacc.entries cfg hcfg e himports.entry_mem) p).2 (hdeclared cfg hcfg e a p himports)
    refine ⟨fun hall r hr hvrf n hn hid => ?_, (hacc.allowing_iff hcfg himports).2 hp⟩
    obtain ⟨v, -, e', he', -, hp'⟩ := himports.imported
    have hcon : Contributes cfgs r.vrf n.id cfg e a :=
      ⟨hcfg, himports.entry_mem, hvrf.symm, himports.mem, by rw [hvrf, hid]⟩
    exact h.advertises_entryPrefixes hacc hr hn hcon hall (hacc.known_prefix hcfg he' hp') himports.covers hp

end

/-- **Imports cover the imported VRFs exactly when every imported prefix is declared by the last entry of an imported
VRF, or by the importing entry.** -/
theorem apiToFRR_imports_iff (secrets : SortedMap String Secret) (alwaysBlock : List Net.IPNet)
    (cfgs : List FRRConfiguration) (c : Config) (h : apiToFRR ⟨cfgs, secrets⟩ alwaysBlock = .ok c) :
    ImportsCovered cfgs c ↔ ∀ cfg ∈ cfgs, ImportsDeclared cfg :=
  (apiToFRR_result h).importsCovered_iff (apiToFRR_acceptable h)

/-- A router that imports a VRF, and the entries of the VRF with these prefixes. -/
def importing (prefixes : List (List String)) : FRRConfiguration :=
  { name := "importing"
    routers := { asn := 64512, imports := ["red"], neighbors := [{
      asn := 64513, address := "10.0.0.1", toAdvertise := { allowed := { mode := .all } } }] } ::
        prefixes.map (fun ps => { asn := 64512, vrf := "red", prefixes := ps }) }

theorem apiToFRR_imports_iff_importing : ∃ c, apiToFRR ⟨[importing [["192.0.2.0/24"]]], .empty⟩ [] = .ok c ∧
    ImportsCovered [importing [["192.0.2.0/24"]]] c := by
  obtain ⟨c, hc⟩ := (isOk_iff (apiToFRR ⟨[importing [["192.0.2.0/24"]]], .empty⟩ [])).1 (by decide +kernel)
  refine ⟨c, hc, (apiToFRR_imports_iff .empty [] _ c hc).2 (fun cfg hcfg e a p himports => Or.inr ?_)⟩
  obtain rfl := List.mem_singleton.1 hcfg
  have hone : ((importing [["192.0.2.0/24"]]).routers.map Router.vrf).Nodup := by decide
  obtain ⟨v, hv, e', he', hvrf, hp⟩ := himports.imported
  exact ⟨v, hv, e', (lastWith_of_nodup hone _ _).2 ⟨he', hvrf⟩, hp⟩

/-- Of two entries of the imported VRF only the prefixes of the last are brought. -/
theorem imports_last : ∃ c,
    apiToFRR ⟨[importing [["192.0.2.0/24"], ["198.51.100.0/24"]]], .empty⟩ [] = .ok c ∧
      c.routers.map (fun r => (r.vrf, r.ipv4Prefixes)) = [("", []), ("red", ["192.0.2.0/24", "198.51.100.0/24"])] ∧
      c.routers.flatMap (fun r => r.neighbors.map (fun n => n.outgoing.prefixesV4)) = [["198.51.100.0/24"]] ∧
      ¬ ImportsCovered [importing [["192.0.2.0/24"], ["198.51.100.0/24"]]] c := by
  obtain ⟨c, hc, hparts⟩ := (toOption_map_eq_some
    (apiToFRR ⟨[importing [["192.0.2.0/24"], ["198.51.100.0/24"]]], .empty⟩ [])
    (fun c => (c.routers.map (fun r => (r.vrf, r.ipv4Prefixes)),
      c.routers.flatMap (fun r => r.neighbors.map (fun n => n.outgoing.prefixesV4))))
    ([("", []), ("red", ["192.0.2.0/24", "198.51.100.0/24"])], [["198.51.100.0/24"]])).1 (by decide +kernel)
  obtain ⟨hprefixes, hadvertised⟩ := Prod.mk.inj hparts
  refine ⟨c, hc, hprefixes, hadvertised, fun hcovered => ?_⟩
  have hacc := apiToFRR_acceptable hc
  have hcovers : ImportsTo (importing [["192.0.2.0/24"], ["198.51.100.0/24"]]) _ _ "192.0.2.0/24" :=
    ⟨List.mem_cons_self, List.mem_singleton_self _, ⟨"red", List.mem_singleton_self _, _,
      List.mem_cons_of_mem _ List.mem_cons_self, by decide, List.mem_singleton_self _⟩, .ipv4, by decide +kernel,
      by decide +kernel⟩
  rcases ((apiToFRR_result hc).importsCovered_iff hacc).1 hcovered _ (List.mem_singleton_self _) _ _ _ hcovers with
    hown | ⟨v, hv, l, hl, hp⟩
  · exact List.not_mem_nil hown
  · obtain rfl := List.mem_singleton.1 hv
    have hlast : lastWith Router.vrf (importedVRF "red") (importing [["192.0.2.0/24"], ["198.51.100.0/24"]]).routers =
        some { asn := 64512, vrf := "red", prefixes := ["198.51.100.0/24"] } := by decide
    rw [hlast] at hl
    cases hl
    exact absurd hp (by decide)

end FrrK8s
