import Mathlib.Data.Prod.Lex
import FrrK8s.Contributors
/-!
# Order — the order of the configurations does not matter, and conflicts are between two of them

What configurations tell depends on which they are, not on their order, so `apiToFRR` accepts every order or none and
gives the same result (`apiToFRR_perm`).  A clash is between two facts, and the EVPN checks hold of a list once they
hold of its members and pairs, so a conflict always shows in two configurations alone (`apiToFRR_isOk_iff_pairs`).
-/
namespace FrrK8s

section

variable {secrets : SortedMap String Secret} {alwaysBlock : List Net.IPNet} {cfgs cfgs' : List FRRConfiguration}

/-! ## Configurations by their members -/

theorem told_mono (h : ∀ c ∈ cfgs, c ∈ cfgs') {x : String × RouterFact} (hx : told secrets alwaysBlock cfgs x) :
    told secrets alwaysBlock cfgs' x := by
  obtain ⟨c, hc, hx⟩ := hx
  exact ⟨c, h c hc, hx⟩

theorem told_singleton (c : FRRConfiguration) (x : String × RouterFact) :
    told secrets alwaysBlock [c] x ↔ cfgTells secrets alwaysBlock c x := by simp [told]

theorem brought_mono (h : ∀ c ∈ cfgs, c ∈ cfgs') {x : String × (String × NeighborOrigin)}
    (hx : brought secrets alwaysBlock cfgs x) : brought secrets alwaysBlock cfgs' x := by
  obtain ⟨c, hc, hx⟩ := hx
  exact ⟨c, h c hc, hx⟩

theorem toldProfile_mono (h : ∀ c ∈ cfgs, c ∈ cfgs') {p : BFDProfile} (hp : toldProfile cfgs p) :
    toldProfile cfgs' p := by
  obtain ⟨c, hc, hp⟩ := hp
  exact ⟨c, h c hc, hp⟩

/-- The configurations have the same routers and BFD profiles, whatever they are called and wherever they apply. -/
def FRRConfiguration.SameContent (cfg cfg' : FRRConfiguration) : Prop :=
  cfg.routers = cfg'.routers ∧ cfg.bfdProfiles = cfg'.bfdProfiles

theorem entryFor_sameContent {cfg cfg' : FRRConfiguration} (h : cfg.SameContent cfg') (r : Router) :
    entryFor secrets alwaysBlock cfg r = entryFor secrets alwaysBlock cfg' r := by
  unfold entryFor localProfiles
  rw [h.1, h.2]

theorem told_of_sameContent (h : ∀ c ∈ cfgs, ∃ c' ∈ cfgs', c.SameContent c') {x : String × RouterFact}
    (hx : told secrets alwaysBlock cfgs x) : told secrets alwaysBlock cfgs' x := by
  obtain ⟨c, hc, r, hr, rc, hrc, hx⟩ := hx
  obtain ⟨c', hc', hsame⟩ := h c hc
  exact ⟨c', hc', r, hsame.1 ▸ hr, rc, entryFor_sameContent hsame r ▸ hrc, hx⟩

theorem toldProfile_of_sameContent (h : ∀ c ∈ cfgs, ∃ c' ∈ cfgs', c.SameContent c') {p : BFDProfile}
    (hp : toldProfile cfgs p) : toldProfile cfgs' p := by
  obtain ⟨c, hc, b, hb, hp⟩ := hp
  obtain ⟨c', hc', hsame⟩ := h c hc
  exact ⟨c', hc', b, hsame.2 ▸ hb, hp⟩

/-- Only which contents there are matters. -/
theorem Acceptable.of_sameContent (hto : ∀ c ∈ cfgs', ∃ c' ∈ cfgs, c.SameContent c')
    (hfrom : ∀ c ∈ cfgs, ∃ c' ∈ cfgs', c.SameContent c') (h : Acceptable secrets alwaysBlock cfgs) :
    Acceptable secrets alwaysBlock cfgs' := by
  have htold : told secrets alwaysBlock cfgs' = told secrets alwaysBlock cfgs :=
    funext fun x => propext ⟨told_of_sameContent hto, told_of_sameContent hfrom⟩
  refine ⟨fun c hc => ?_, fun c hc r hr => ?_, fun p q hp hq => ?_, ?_, ?_⟩
  · obtain ⟨c', hc', hsame⟩ := hto c hc
    rw [hsame.2]
    exact h.profileNames c' hc'
  · obtain ⟨c', hc', hsame⟩ := hto c hc
    rw [entryFor_sameContent hsame]
    exact h.entries c' hc' r (hsame.1 ▸ hr)
  · exact h.profiles p q (toldProfile_of_sameContent hto hp) (toldProfile_of_sameContent hto hq)
  · rw [htold]; exact h.agree
  · rw [htold]; exact h.evpn

theorem Acceptable.congr (hmem : ∀ c, c ∈ cfgs ↔ c ∈ cfgs') (h : Acceptable secrets alwaysBlock cfgs) :
    Acceptable secrets alwaysBlock cfgs' :=
  h.of_sameContent (fun c hc => ⟨c, (hmem c).2 hc, rfl, rfl⟩) (fun c hc => ⟨c, (hmem c).1 hc, rfl, rfl⟩)

/-! ## Pairs -/

theorem usesVNI_mono {T T' : String × RouterFact → Prop} (h : ∀ x, T x → T' x) {u : String × String} {n : Nat}
    (hu : usesVNI T u n) : usesVNI T' u n :=
  hu.imp (fun ⟨hk, f, hf⟩ => ⟨hk, f, h _ hf⟩) (fun ⟨hk, hf⟩ => ⟨hk, h _ hf⟩)

/-- A VNI used by all configurations together is used by one of them. -/
theorem usesVNI_told {u : String × String} {n : Nat} (h : usesVNI (told secrets alwaysBlock cfgs) u n) :
    ∃ c ∈ cfgs, usesVNI (told secrets alwaysBlock [c]) u n := by
  rcases h with ⟨hk, f, c, hc, hf⟩ | ⟨hk, c, hc, hf⟩
  · exact ⟨c, hc, Or.inl ⟨hk, f, (told_singleton c _).2 hf⟩⟩
  · exact ⟨c, hc, Or.inr ⟨hk, (told_singleton c _).2 hf⟩⟩

/-- A configuration that asks for an EVPN neighbor is acceptable alone only if it brings one. -/
theorem evpn_neighbor_of_alone (halone : ∀ c ∈ cfgs, Acceptable secrets alwaysBlock [c]) (vrf : String)
    (h : needsEvpnNeighbor (told secrets alwaysBlock cfgs) vrf) :
    ∃ id, told secrets alwaysBlock cfgs (vrf, .neighbor id (.addressFamily addressFamilyEVPN)) := by
  have hone : ∃ c ∈ cfgs, needsEvpnNeighbor (told secrets alwaysBlock [c]) vrf := by
    rcases h with ⟨c, hc, h⟩ | ⟨c, hc, h⟩ | ⟨x, c, hc, h⟩
    · exact ⟨c, hc, Or.inl ((told_singleton c _).2 h)⟩
    · exact ⟨c, hc, Or.inr (Or.inl ((told_singleton c _).2 h))⟩
    · exact ⟨c, hc, Or.inr (Or.inr ⟨x, (told_singleton c _).2 h⟩)⟩
  obtain ⟨c, hc, hneed⟩ := hone
  obtain ⟨id, hid⟩ := (halone c hc).evpn.neighbor vrf hneed
  exact ⟨id, told_mono (fun d hd => by rwa [List.mem_singleton.1 hd]) hid⟩

/-- A list is acceptable when its members are and any two of them are together in an acceptable list. -/
theorem acceptable_of_pairs (halone : ∀ c ∈ cfgs, Acceptable secrets alwaysBlock [c])
    (hpair : ∀ a ∈ cfgs, ∀ b ∈ cfgs, ∃ l, a ∈ l ∧ b ∈ l ∧ Acceptable secrets alwaysBlock l) :
    Acceptable secrets alwaysBlock cfgs := by
  have hin : ∀ (c : FRRConfiguration) (l : List FRRConfiguration), c ∈ l → ∀ d ∈ [c], d ∈ l := by
    intro c l hc d hd
    rwa [List.mem_singleton.1 hd]
  refine ⟨fun c hc => (halone c hc).profileNames c (List.mem_singleton_self c),
    fun c hc => (halone c hc).entries c (List.mem_singleton_self c), ?_, ?_, ?_, ?_, ?_⟩
  · rintro p q ⟨a, ha, hp⟩ ⟨b, hb, hq⟩
    obtain ⟨l, hal, hbl, hl⟩ := hpair a ha b hb
    exact hl.profiles p q ⟨a, hal, hp⟩ ⟨b, hbl, hq⟩
  · rintro x y ⟨a, ha, hx⟩ ⟨b, hb, hy⟩
    obtain ⟨l, hal, hbl, hl⟩ := hpair a ha b hb
    exact hl.agree x y ⟨a, hal, hx⟩ ⟨b, hbl, hy⟩
  · exact evpn_neighbor_of_alone halone
  · rintro vrf n id f ⟨a, ha, h3⟩ ⟨b, hb, hn⟩
    obtain ⟨l, hal, hbl, hl⟩ := hpair a ha b hb
    exact hl.evpn.l3 vrf n id f ⟨a, hal, h3⟩ ⟨b, hbl, hn⟩
  · intro u v n hu hv
    obtain ⟨a, ha, hu⟩ := usesVNI_told hu
    obtain ⟨b, hb, hv⟩ := usesVNI_told hv
    obtain ⟨l, hal, hbl, hl⟩ := hpair a ha b hb
    exact hl.evpn.unique u v n (usesVNI_mono (fun x => told_mono (hin a l hal)) hu)
      (usesVNI_mono (fun x => told_mono (hin b l hbl)) hv)

/-- A part of an acceptable list is acceptable, once it brings the EVPN neighbors it needs. -/
theorem Acceptable.part {l : List FRRConfiguration} (h : Acceptable secrets alwaysBlock cfgs) (hl : ∀ c ∈ l, c ∈ cfgs)
    (hevpn : ∀ vrf, needsEvpnNeighbor (told secrets alwaysBlock l) vrf →
      ∃ id, told secrets alwaysBlock l (vrf, .neighbor id (.addressFamily addressFamilyEVPN))) :
    Acceptable secrets alwaysBlock l := by
  refine ⟨fun c hc => h.profileNames c (hl c hc), fun c hc => h.entries c (hl c hc), fun p q hp hq => ?_, ?_,
    hevpn, ?_, ?_⟩
  · exact h.profiles p q (toldProfile_mono hl hp) (toldProfile_mono hl hq)
  · exact fun x y hx hy => h.agree x y (told_mono hl hx) (told_mono hl hy)
  · exact fun vrf n id f h3 hn => h.evpn.l3 vrf n id f (told_mono hl h3) (told_mono hl hn)
  · exact fun u v n hu hv => h.evpn.unique u v n (usesVNI_mono (fun x => told_mono hl) hu)
      (usesVNI_mono (fun x => told_mono hl) hv)

theorem pair_sublist_or {α : Type} {a b : α} : ∀ {l : List α}, a ∈ l → b ∈ l →
    a = b ∨ [a, b].Sublist l ∨ [b, a].Sublist l
  | c :: l, ha, hb => by
    rcases List.mem_cons.1 ha with hac | hal <;> rcases List.mem_cons.1 hb with hbc | hbl
    · exact Or.inl (hac.trans hbc.symm)
    · exact Or.inr (Or.inl (hac ▸ (List.singleton_sublist.2 hbl).cons_cons a))
    · exact Or.inr (Or.inr (hbc ▸ (List.singleton_sublist.2 hal).cons_cons b))
    · exact (pair_sublist_or hal hbl).imp_right (Or.imp (fun h => h.cons c) (fun h => h.cons c))

/-- **Conflicts are between two configurations.**  When each configuration is accepted alone, a list of them is accepted
exactly when every two of them are. -/
theorem apiToFRR_isOk_iff_pairs (secrets : SortedMap String Secret) (alwaysBlock : List Net.IPNet)
    (cfgs : List FRRConfiguration) (halone : ∀ c ∈ cfgs, (apiToFRR ⟨[c], secrets⟩ alwaysBlock).isOk = true) :
    (apiToFRR ⟨cfgs, secrets⟩ alwaysBlock).isOk = true ↔
      ∀ a b, [a, b].Sublist cfgs → (apiToFRR ⟨[a, b], secrets⟩ alwaysBlock).isOk = true := by
  simp only [apiToFRR_isOk] at halone ⊢
  constructor
  · intro h a b hab
    exact h.part (fun c hc => hab.subset hc) (evpn_neighbor_of_alone (fun c hc => halone c (hab.subset hc)))
  · intro h
    refine acceptable_of_pairs halone (fun a ha b hb => ?_)
    rcases pair_sublist_or ha hb with rfl | hab | hba
    · exact ⟨[a], List.mem_singleton_self a, List.mem_singleton_self a, halone a ha⟩
    · exact ⟨[a, b], by simp, by simp, h a b hab⟩
    · exact ⟨[b, a], by simp, by simp, h b a hba⟩

/-- A router's session with its first peer, and its prefix with a local preference. -/
def firstPart : FRRConfiguration :=
  { name := "first", raw := { config := "log stdout" }
    routers := [{ asn := 64512, prefixes := ["192.0.2.0/24"], neighbors := [{
      asn := 64513, address := "10.0.0.1"
      toAdvertise := { allowed := { prefixes := ["192.0.2.0/24"] }
                       prefixesWithLocalPref := [{ prefixes := ["192.0.2.0/24"], localPref := 200 }] } }] }] }

/-- The same router's session with its second peer, and the port of the first. -/
def secondPart : FRRConfiguration :=
  { name := "second"
    routers := [{ asn := 64512, id := "10.0.0.254", prefixes := ["198.51.100.0/24"], neighbors := [
      { asn := 64513, address := "10.0.0.1", port := some 179, enableGracefulRestart := true },
      { asn := 64514, interface := "eth1", toAdvertise := { allowed := { mode := .all } } }] }] }

/-- The session with the second peer once more, and a router for another VRF. -/
def thirdPart : FRRConfiguration :=
  { name := "third"
    routers := [{ asn := 64512, neighbors := [{ asn := 64514, interface := "eth1" }] },
      { asn := 64512, vrf := "red", neighbors := [{ asn := 64515, address := "10.0.1.1" }] }] }

theorem apiToFRR_isOk_iff_pairs_parts :
    (∀ c ∈ [firstPart, secondPart, thirdPart], (apiToFRR ⟨[c], .empty⟩ []).isOk = true) ∧
      (apiToFRR ⟨[firstPart, secondPart, thirdPart], .empty⟩ []).isOk = true := by
  have halone : ∀ c ∈ [firstPart, secondPart, thirdPart], (apiToFRR ⟨[c], .empty⟩ []).isOk = true := by decide +kernel
  have hpairs : ∀ a ∈ [firstPart, secondPart, thirdPart], ∀ b ∈ [firstPart, secondPart, thirdPart],
      (apiToFRR ⟨[a, b], .empty⟩ []).isOk = true := by decide +kernel
  refine ⟨halone, (apiToFRR_isOk_iff_pairs .empty [] _ halone).2 (fun a b hab => ?_)⟩
  exact hpairs a (hab.subset (by simp)) b (hab.subset (by simp))

/-! ## The raw snippets -/

/-- The order of `LessThan`: by priority, then by name. -/
def NamedRawConfig.rank (a : NamedRawConfig) : Lex (Int × String) := toLex (a.raw.priority, a.configName)

theorem NamedRawConfig.lessThan_iff (a b : NamedRawConfig) : a.lessThan b = true ↔ a.rank < b.rank := by
  unfold NamedRawConfig.lessThan NamedRawConfig.rank
  rw [Prod.Lex.toLex_lt_toLex]
  by_cases h : a.raw.priority = b.raw.priority
  · simp [h]
  · simp [h]

/-- `sort.Slice` by `LessThan` puts snippets of different configurations in an order of their own. -/
theorem joinRawConfigs_perm {l l' : List NamedRawConfig} (hperm : l.Perm l')
    (hnames : (l.map NamedRawConfig.configName).Nodup) : joinRawConfigs l = joinRawConfigs l' := by
  have hle : ∀ a b : NamedRawConfig, ¬ b.lessThan a = true ↔ a.rank ≤ b.rank := by
    intro a b
    rw [NamedRawConfig.lessThan_iff, not_lt]
  have : Std.Total (fun a b : NamedRawConfig => ¬ b.lessThan a = true) :=
    ⟨fun a b => by simp only [hle]; exact le_total _ _⟩
  have : IsTrans NamedRawConfig (fun a b => ¬ b.lessThan a = true) :=
    ⟨fun a b c => by simp only [hle]; exact le_trans⟩
  have hsort : l.insertionSort (fun a b => ¬ b.lessThan a = true) = l'.insertionSort
      (fun a b => ¬ b.lessThan a = true) := by
    refine (((List.perm_insertionSort _ l).trans hperm).trans (List.perm_insertionSort _ l').symm).eq_of_pairwise
      (fun a b ha hb hab hba => ?_) (List.pairwise_insertionSort _ l) (List.pairwise_insertionSort _ l')
    -- no two snippets are of one configuration, so equal ranks mean the same snippet
    have hrank : a.rank = b.rank := le_antisymm ((hle a b).1 hab) ((hle b a).1 hba)
    have hname : a.configName = b.configName := (Prod.mk.inj (toLex.injective hrank)).2
    have ha : a ∈ l := (List.mem_insertionSort _).1 ha
    have hb : b ∈ l := hperm.mem_iff.2 ((List.mem_insertionSort _).1 hb)
    exact List.inj_on_of_nodup_map hnames ha hb hname
  unfold joinRawConfigs
  rw [hsort]

theorem rawsOf_names (hnames : (cfgs.map FRRConfiguration.name).Nodup) :
    ((rawsOf cfgs).map NamedRawConfig.configName).Nodup := by
  have : (rawsOf cfgs).map NamedRawConfig.configName =
      (cfgs.filter (fun cfg => cfg.raw.config ≠ "")).map FRRConfiguration.name := by
    unfold rawsOf
    rw [List.map_map]
    rfl
  rw [this]
  exact (hnames.sublist (List.filter_sublist.map _))

/-! ## Neighbors of one ID -/

/-- The neighbors of all entries, each with the VRF of its entry. -/
def declaredNeighbors (cfgs : List FRRConfiguration) : List (String × Neighbor) :=
  cfgs.flatMap (fun cfg => cfg.routers.flatMap (fun r => r.neighbors.map (fun n => (r.vrf, n))))

/-- Within a VRF, no neighbor's interface is another neighbor's address. -/
def InterfacesApart (cfgs : List FRRConfiguration) : Prop :=
  ∀ x ∈ declaredNeighbors cfgs, ∀ y ∈ declaredNeighbors cfgs,
    x.1 = y.1 → x.2 ≠ y.2 → x.2.interface ≠ "" → x.2.interface ≠ y.2.address

theorem mem_declaredNeighbors {vrf : String} {n : Neighbor} : (vrf, n) ∈ declaredNeighbors cfgs ↔
    ∃ cfg ∈ cfgs, ∃ r ∈ cfg.routers, r.vrf = vrf ∧ n ∈ r.neighbors := by
  simp only [declaredNeighbors, List.mem_flatMap, List.mem_map, Prod.mk.injEq]
  refine exists_congr fun cfg => and_congr_right fun _ => exists_congr fun r => and_congr_right fun _ => ?_
  exact ⟨fun ⟨m, hm, hvrf, hn⟩ => ⟨hvrf, hn ▸ hm⟩, fun ⟨hvrf, hn⟩ => ⟨n, hn, hvrf, rfl⟩⟩

/-- Where a neighbor's identity comes from: a neighbor of an entry of the VRF. -/
structure IdentityFrom (secrets : SortedMap String Secret) (alwaysBlock : List Net.IPNet) (cfgs : List FRRConfiguration)
    (vrf id : String) (i : Identity) (n : Neighbor) : Prop where
  declared : (vrf, n) ∈ declaredNeighbors cfgs
  peer : (n.address = "" ∧ n.interface ≠ "") ∨ (n.address ≠ "" ∧ n.interface = "")
  name : i.name = neighborName n
  addr : i.addr = n.address
  iface : i.iface = n.interface
  vrfName : i.vrfName = vrf
  block : i.alwaysBlock = alwaysBlockToFRR alwaysBlock
  id_eq : id = neighborID vrf n
  asn : told secrets alwaysBlock cfgs (vrf, .neighbor id (.attr .asn (.text (asnFor n))))

theorem exists_identityFrom (hacc : Acceptable secrets alwaysBlock cfgs) {vrf id : String} {i : Identity}
    (h : brought secrets alwaysBlock cfgs (vrf, (id, .identity i))) :
    ∃ n, IdentityFrom secrets alwaysBlock cfgs vrf id i n := by
  obtain ⟨cfg, e, n, hcon, m, htr, hi⟩ := brought_neighbor h
  have hasn : m.asn = asnFor n := by
    obtain ⟨-, f, -, timers, -, password, -, out, -, incoming, -, rfl⟩ := (neighborToFRR_eq_ok ..).1 htr
    rfl
  have htold : told secrets alwaysBlock cfgs (vrf, .neighbor id (.attr .asn (.text (asnFor n)))) :=
    (told_neighbor_iff hacc _ _ _).2 ⟨cfg, e, n, hcon, m, htr, by rw [← hasn]; rfl⟩
  obtain ⟨hchecks, f, -, timers, -, password, -, out, -, incoming, -, rfl⟩ := (neighborToFRR_eq_ok ..).1 htr
  subst hi
  refine ⟨n, mem_declaredNeighbors.2 ⟨cfg, hcon.cfg_mem, e, hcon.entry_mem, hcon.vrf_eq, hcon.mem⟩, ?_, rfl, rfl, rfl,
    hcon.vrf_eq, rfl, hcon.id_eq.symm, htold⟩
  by_cases ha : n.address = ""
  · exact Or.inl ⟨ha, fun hi => hchecks.hasPeer ⟨ha, hi⟩⟩
  · exact Or.inr ⟨ha, not_not.1 (fun hi => hchecks.onePeer ⟨ha, hi⟩)⟩

/-- A neighbor of a result has the identity of a declared one. -/
theorem ResultOf.identityFrom (hacc : Acceptable secrets alwaysBlock cfgs) {c : Config}
    (h : ResultOf secrets alwaysBlock cfgs c) {r : RouterConfig} (hr : r ∈ c.routers) {n : NeighborConfig}
    (hn : n ∈ r.neighbors) : ∃ a, IdentityFrom secrets alwaysBlock cfgs r.vrf n.id n.identity a :=
  exists_identityFrom hacc (h.keeps r hr (n.id, .identity n.identity) ⟨n, hn, rfl, rfl⟩)

theorem ResultOf.vrfName_eq (hacc : Acceptable secrets alwaysBlock cfgs) {c : Config}
    (h : ResultOf secrets alwaysBlock cfgs c) {r : RouterConfig} (hr : r ∈ c.routers) {n : NeighborConfig}
    (hn : n ∈ r.neighbors) : n.vrfName = r.vrf := by
  obtain ⟨a, ha⟩ := h.identityFrom hacc hr hn
  exact ha.vrfName

/-- Neighbors of one VRF and ID have one identity, but for graceful restart. -/
theorem identity_unique (hacc : Acceptable secrets alwaysBlock cfgs) (hapart : InterfacesApart cfgs) {vrf id : String}
    {i i' : Identity} (h : brought secrets alwaysBlock cfgs (vrf, (id, .identity i)))
    (h' : brought secrets alwaysBlock cfgs (vrf, (id, .identity i'))) :
    i.name = i'.name ∧ i.addr = i'.addr ∧ i.iface = i'.iface ∧ i.vrfName = i'.vrfName ∧
    i.alwaysBlock = i'.alwaysBlock := by
  obtain ⟨n, hn⟩ := exists_identityFrom hacc h
  obtain ⟨n', hn'⟩ := exists_identityFrom hacc h'
  have hasn : asnFor n = asnFor n' := by
    have := hacc.agree _ _ hn.asn hn'.asn
    simpa [keyClash, RouterFact.clash, NeighborFact.clash] using this
  have hpeer : (if n.interface ≠ "" then n.interface else n.address) =
      (if n'.interface ≠ "" then n'.interface else n'.address) := by
    have := hn.id_eq.symm.trans hn'.id_eq
    exact String.append_left_inj _ |>.1 this
  have hsame : n.address = n'.address ∧ n.interface = n'.interface := by
    rcases hn.peer with ⟨ha, hi⟩ | ⟨ha, hi⟩ <;> rcases hn'.peer with ⟨ha', hi'⟩ | ⟨ha', hi'⟩
    · rw [if_pos hi, if_pos hi'] at hpeer
      exact ⟨ha.trans ha'.symm, hpeer⟩
    · rw [if_pos hi, if_neg (not_not.2 hi')] at hpeer
      have hne : n ≠ n' := fun h => hi (h ▸ hi')
      exact (hapart _ hn.declared _ hn'.declared rfl hne hi hpeer).elim
    · rw [if_neg (not_not.2 hi), if_pos hi'] at hpeer
      have hne : n' ≠ n := fun h => hi' (h ▸ hi)
      exact (hapart _ hn'.declared _ hn.declared rfl hne hi' hpeer.symm).elim
    · rw [if_neg (not_not.2 hi), if_neg (not_not.2 hi')] at hpeer
      exact ⟨hpeer, hi.trans hi'.symm⟩
  refine ⟨?_, ?_, ?_, hn.vrfName.trans hn'.vrfName.symm, hn.block.trans hn'.block.symm⟩
  · rw [hn.name, hn'.name]
    unfold neighborName
    rw [hasn, hsame.1, hsame.2]
  · rw [hn.addr, hn'.addr, hsame.1]
  · rw [hn.iface, hn'.iface, hsame.2]

/-! ## Order -/

/-- A configuration without what a merge takes from one of the merged neighbors only. -/
def Config.erase (c : Config) : Config := { c with routers := c.routers.map RouterConfig.erase }

theorem erasedRouters_subset (hacc : Acceptable secrets alwaysBlock cfgs) (hapart : InterfacesApart cfgs)
    {c c' : Config} (h : ResultOf secrets alwaysBlock cfgs c) (h' : ResultOf secrets alwaysBlock cfgs c') :
    ∀ s ∈ c.routers.map RouterConfig.erase, s ∈ c'.routers.map RouterConfig.erase := by
  intro s hs
  obtain ⟨r, hr, rfl⟩ := List.mem_map.1 hs
  obtain ⟨r', hr', hvrf, -⟩ := (h'.tells r.vrf (.myASN r.myASN)).2 ((h.tells_of_mem hr _).1 rfl)
  refine List.mem_map.2 ⟨r', hr', ((h.normal r hr).erase_eq (h'.normal r' hr') hvrf.symm (fun x => ?_) ?_).symm⟩
  · rw [h.tells_of_mem hr, h'.tells_of_mem hr', hvrf]
  · intro n hn n' hn' hid
    have hb := h.keeps r hr (n.id, .identity n.identity) ⟨n, hn, rfl, rfl⟩
    have hb' := h'.keeps r' hr' (n'.id, .identity n'.identity) ⟨n', hn', rfl, rfl⟩
    rw [hvrf, ← hid] at hb'
    exact identity_unique hacc hapart hb hb'

theorem ResultOf.erase_eq (hacc : Acceptable secrets alwaysBlock cfgs) (hapart : InterfacesApart cfgs) {c c' : Config}
    (h : ResultOf secrets alwaysBlock cfgs c) (h' : ResultOf secrets alwaysBlock cfgs c') : c.erase = c'.erase := by
  have hrouters : c.routers.map RouterConfig.erase = c'.routers.map RouterConfig.erase :=
    @eq_of_sorted_key_of_mem_iff _ _ _ RouterConfig.vrf _ _ (List.pairwise_map.2 h.sorted)
    (List.pairwise_map.2 h'.sorted)
      (fun s => ⟨erasedRouters_subset hacc hapart h h' s, erasedRouters_subset hacc hapart h' h s⟩)
  have hprofiles : c.bfdProfiles = c'.bfdProfiles :=
    eq_of_sorted_key_of_mem_iff h.profilesSorted h'.profilesSorted (fun p => (h.profiles p).trans (h'.profiles p).symm)
  have hextra := h.extraConfig.trans h'.extraConfig.symm
  have hlog := h.loglevel.trans h'.loglevel.symm
  have hhost := h.hostname.trans h'.hostname.symm
  unfold Config.erase
  cases c; cases c'
  simp_all

theorem ResultOf.of_perm {c : Config} (hperm : cfgs.Perm cfgs') (hnames : (cfgs.map FRRConfiguration.name).Nodup)
    (h : ResultOf secrets alwaysBlock cfgs' c) : ResultOf secrets alwaysBlock cfgs c := by
  have hto : ∀ d ∈ cfgs, d ∈ cfgs' := fun d => hperm.mem_iff.1
  have hfrom : ∀ d ∈ cfgs', d ∈ cfgs := fun d => hperm.mem_iff.2
  refine ⟨h.sorted, h.normal, fun vrf f => ?_, fun r hr x hx => brought_mono hfrom (h.keeps r hr x hx), fun p => ?_,
    h.profilesSorted, ?_, h.loglevel, h.hostname⟩
  · rw [h.tells]; exact ⟨told_mono hfrom, told_mono hto⟩
  · rw [h.profiles]; exact ⟨toldProfile_mono hfrom, toldProfile_mono hto⟩
  · rw [h.extraConfig]
    have hraws : (rawsOf cfgs).Perm (rawsOf cfgs') := (hperm.filter _).map _
    exact (joinRawConfigs_perm hraws (rawsOf_names hnames)).symm

/-- **The order of the configurations does not matter.**  Every order of configurations with different names is accepted
or none is, and the results are equal but for graceful restart and the incoming filters, if within a VRF no neighbor's
interface is named like another neighbor's address. -/
theorem apiToFRR_perm (secrets : SortedMap String Secret) (alwaysBlock : List Net.IPNet)
    (cfgs cfgs' : List FRRConfiguration) (hperm : cfgs.Perm cfgs') (hnames : (cfgs.map FRRConfiguration.name).Nodup)
    (hapart : InterfacesApart cfgs) :
    (apiToFRR ⟨cfgs, secrets⟩ alwaysBlock).toOption.map Config.erase =
      (apiToFRR ⟨cfgs', secrets⟩ alwaysBlock).toOption.map Config.erase := by
  have hmem : ∀ c, c ∈ cfgs ↔ c ∈ cfgs' := fun c => hperm.mem_iff
  by_cases hacc : Acceptable secrets alwaysBlock cfgs
  · obtain ⟨c, hc⟩ := (isOk_iff _).1 (apiToFRR_isOk.2 hacc)
    obtain ⟨c', hc'⟩ := (isOk_iff _).1 (apiToFRR_isOk.2 (hacc.congr hmem))
    rw [hc, hc']
    exact congrArg some
      ((apiToFRR_result hc).erase_eq hacc hapart ((apiToFRR_result hc').of_perm hperm hnames))
  · have hacc' : ¬ Acceptable secrets alwaysBlock cfgs' := fun h => hacc (h.congr (fun c => (hmem c).symm))
    rw [← apiToFRR_isOk] at hacc hacc'
    have hnone : ∀ x : Result Config, ¬ x.isOk = true → x.toOption = none := by
      intro x hx
      cases x with
      | error e => rfl
      | ok c => exact (hx rfl).elim
    rw [hnone _ hacc, hnone _ hacc']

theorem apiToFRR_perm_parts : (apiToFRR ⟨[firstPart, secondPart], .empty⟩ []).isOk = true ∧
    (apiToFRR ⟨[firstPart, secondPart], .empty⟩ []).toOption.map Config.erase =
      (apiToFRR ⟨[secondPart, firstPart], .empty⟩ []).toOption.map Config.erase :=
  ⟨by decide +kernel, apiToFRR_perm .empty [] [firstPart, secondPart] [secondPart, firstPart] (List.Perm.swap _ _ [])
    (by decide) (by unfold InterfacesApart; decide +kernel)⟩

end

end FrrK8s
