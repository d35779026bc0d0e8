import FrrK8s.MergeRouter
/-!
# Determined — in normal form, facts determine the configuration

Two neighbors, EVPN sections or routers in normal form that tell the same facts are equal, but for what no fact is
about: a neighbor's identity, which comes from its ID, graceful restart and the incoming filters.
-/
namespace FrrK8s

/-! ## Neighbors -/

/-- A neighbor without what a merge takes from one of the merged neighbors only. -/
def NeighborConfig.erase (n : NeighborConfig) : NeighborConfig :=
  { n with gracefulRestart := false, incoming := { n.incoming with prefixesV4 := [], prefixesV6 := [] } }

theorem attr_of_tells {n n' : NeighborConfig} (h : ∀ x, n.tells x ↔ n'.tells x) (a : Attribute) :
    n.attr? a = n'.attr? a := by
  cases hn : n.attr? a with
  | none =>
    cases hn' : n'.attr? a with
    | none => rfl
    | some v => rw [← hn, (h (.attr a v)).2 hn']
  | some v => exact ((h (.attr a v)).1 hn).symm

theorem setting_inj {s t : String} (h : setting s = setting t) : s = t := by
  unfold setting at h
  by_cases hs : s = "" <;> by_cases ht : t = "" <;> simp_all

/-- A pointer never spelled as the default is determined by the value it stands for. -/
theorem getD_inj {α : Type} {p q : Option α} {d : α} (hp : p ≠ some d) (hq : q ≠ some d) (h : p.getD d = q.getD d) :
    p = q := by
  cases p with
  | none =>
    cases q with
    | none => rfl
    | some w => exact absurd (congrArg some h.symm) hq
  | some v =>
    cases q with
    | none => exact absurd (congrArg some h) hp
    | some w => exact congrArg some h

/-- A list of keyed prefix lists is contained in another that has the same prefixes under each key. -/
theorem prefixLists_subset {α : Type} {key : α → String} {prefixesOf : α → SortedSet String} {L L' : List α}
    (hL : (L.map key).Nodup) (hL' : (L'.map key).Nodup) (hne : ∀ l ∈ L, (prefixesOf l).toList ≠ [])
    (hmem : ∀ l₀ ∈ L, ∀ p, (∃ l ∈ L, key l = key l₀ ∧ p ∈ prefixesOf l) ↔ ∃ l ∈ L', key l = key l₀ ∧ p ∈ prefixesOf l)
    (hext : ∀ l ∈ L, ∀ l' ∈ L', key l = key l' → prefixesOf l = prefixesOf l' → l = l') : ∀ l ∈ L, l ∈ L' := by
  intro l hl
  obtain ⟨p, hp⟩ := List.exists_mem_of_ne_nil _ (hne l hl)
  obtain ⟨l', hl', hkey, -⟩ := (hmem l hl p).1 ⟨l, hl, rfl, hp⟩
  have hprefixes : prefixesOf l = prefixesOf l' := by
    refine SortedSet.ext_mem (fun q => ⟨fun hq => ?_, fun hq => ?_⟩)
    · obtain ⟨m, hm, hmkey, hq⟩ := (hmem l hl q).1 ⟨l, hl, rfl, hq⟩
      rwa [List.inj_on_of_nodup_map hL' hm hl' (hmkey.trans hkey.symm)] at hq
    · obtain ⟨m, hm, hmkey, hq⟩ := (hmem l hl q).2 ⟨l', hl', hkey, hq⟩
      rwa [List.inj_on_of_nodup_map hL hm hl hmkey] at hq
  rw [hext l hl l' hl' hkey.symm hprefixes]
  exact hl'

theorem localPrefLists_subset {n n' : NeighborConfig} (hn : n.WF) (hn' : n'.WF) (hid : n.id = n'.id)
    (h : ∀ x, n.tells x ↔ n'.tells x) :
    ∀ l ∈ n.outgoing.localPrefPrefixesModifiers, l ∈ n'.outgoing.localPrefPrefixesModifiers := by
  refine prefixLists_subset hn.localPrefKeys hn'.localPrefKeys (fun l hl => (hn.localPrefNamed l hl).2)
    (fun l₀ _ p => ?_) (fun l hl l' hl' hkey hps => ?_)
  · have hkey : ∀ l : LocalPrefPrefixList, l.key = l₀.key ↔ l.localPref = l₀.localPref ∧ l.ipFamily = l₀.ipFamily :=
      fun l => LocalPrefPrefixList.key_eq_iff l l₀.localPref l₀.ipFamily
    simp only [hkey, and_assoc]
    exact h (.localPref l₀.localPref l₀.ipFamily p)
  · have hname := (hn.localPrefNamed l hl).1
    have hname' := (hn'.localPrefNamed l' hl').1
    obtain ⟨hlp, hf⟩ := (LocalPrefPrefixList.key_eq_iff l l'.localPref l'.ipFamily).1 hkey
    obtain ⟨⟨name, fam, ps⟩, lp⟩ := l
    obtain ⟨⟨name', fam', ps'⟩, lp'⟩ := l'
    simp only at hlp hf hps hname hname'
    subst hlp hf hps
    rw [hname, hname', hid]

theorem communityLists_subset {n n' : NeighborConfig} (hn : n.WF) (hn' : n'.WF) (hid : n.id = n'.id)
    (h : ∀ x, n.tells x ↔ n'.tells x) :
    ∀ l ∈ n.outgoing.communityPrefixesModifiers, l ∈ n'.outgoing.communityPrefixesModifiers := by
  refine prefixLists_subset hn.communityKeys hn'.communityKeys (fun l hl => (hn.communityNamed l hl).2)
    (fun l₀ _ p => ?_) (fun l hl l' hl' hkey hps => ?_)
  · have hkey : ∀ l : CommunityPrefixList, l.key = l₀.key ↔ l.community = l₀.community ∧ l.ipFamily = l₀.ipFamily :=
      fun l => CommunityPrefixList.key_eq_iff l l₀.community l₀.ipFamily
    simp only [hkey, and_assoc]
    exact h (.community l₀.community l₀.ipFamily p)
  · have hname := (hn.communityNamed l hl).1
    have hname' := (hn'.communityNamed l' hl').1
    obtain ⟨hc, hf⟩ := (CommunityPrefixList.key_eq_iff l l'.community l'.ipFamily).1 hkey
    obtain ⟨⟨name, fam, ps⟩, c⟩ := l
    obtain ⟨⟨name', fam', ps'⟩, c'⟩ := l'
    simp only at hc hf hps hname hname'
    subst hc hf hps
    rw [hname, hname', hid]

/-- **A neighbor in normal form is determined by its facts and its identity.** -/
theorem NeighborConfig.Normal.erase_eq {n n' : NeighborConfig} (hn : n.Normal) (hn' : n'.Normal)
    (h : ∀ x, n.tells x ↔ n'.tells x) (hname : n.name = n'.name) (haddr : n.addr = n'.addr)
    (hiface : n.iface = n'.iface) (hvrf : n.vrfName = n'.vrfName) (hblock : n.alwaysBlock = n'.alwaysBlock) :
    n.erase = n'.erase := by
  have hattr := attr_of_tells h
  have hid : n.id = n'.id := by unfold NeighborConfig.id; rw [haddr, hiface, hvrf]
  have hasn : n.asn = n'.asn := by simpa [NeighborConfig.attr?] using hattr .asn
  have hsrc : n.srcAddr = n'.srcAddr := by simpa [NeighborConfig.attr?] using hattr .srcAddr
  have hpw : n.password = n'.password := by simpa [NeighborConfig.attr?] using hattr .password
  have hmulti : n.ebgpMultiHop = n'.ebgpMultiHop := by simpa [NeighborConfig.attr?] using hattr .ebgpMultiHop
  have hfam : n.ipFamily = n'.ipFamily := by simpa [NeighborConfig.attr?] using hattr .ipFamily
  have hlasn : n.localASN = n'.localASN := by simpa [NeighborConfig.attr?] using hattr .localASN
  have hport : n.port = n'.port := getD_inj hn.port hn'.port (by simpa [NeighborConfig.attr?] using hattr .port)
  have hhold : n.holdTime = n'.holdTime :=
    getD_inj hn.holdTime hn'.holdTime (by simpa [NeighborConfig.attr?] using hattr .holdTime)
  have hka : n.keepaliveTime = n'.keepaliveTime :=
    getD_inj hn.keepaliveTime hn'.keepaliveTime (by simpa [NeighborConfig.attr?] using hattr .keepaliveTime)
  have hct : n.connectTime = n'.connectTime :=
    getD_inj hn.connectTime hn'.connectTime (by simpa [NeighborConfig.attr?] using hattr .connectTime)
  have hbfd : n.bfdProfile = n'.bfdProfile := setting_inj (hattr .bfdProfile)
  have hnh4 : n.outgoing.nextHopV4 = n'.outgoing.nextHopV4 := setting_inj (hattr .nextHopV4)
  have hnh6 : n.outgoing.nextHopV6 = n'.outgoing.nextHopV6 := setting_inj (hattr .nextHopV6)
  have hv4 : n.outgoing.prefixesV4 = n'.outgoing.prefixesV4 :=
    eq_of_sorted_of_mem_iff hn.prefixesV4 hn'.prefixesV4 (fun p => h (.prefixV4 p))
  have hv6 : n.outgoing.prefixesV6 = n'.outgoing.prefixesV6 :=
    eq_of_sorted_of_mem_iff hn.prefixesV6 hn'.prefixesV6 (fun p => h (.prefixV6 p))
  have hlp : n.outgoing.localPrefPrefixesModifiers = n'.outgoing.localPrefPrefixesModifiers :=
    eq_of_sorted_key_of_mem_iff hn.localPrefs hn'.localPrefs (fun l =>
      ⟨localPrefLists_subset hn.toWF hn'.toWF hid h l,
        localPrefLists_subset hn'.toWF hn.toWF hid.symm (fun x => (h x).symm) l⟩)
  have hcomm : n.outgoing.communityPrefixesModifiers = n'.outgoing.communityPrefixesModifiers :=
    eq_of_sorted_key_of_mem_iff hn.communities hn'.communities (fun l =>
      ⟨communityLists_subset hn.toWF hn'.toWF hid h l,
        communityLists_subset hn'.toWF hn.toWF hid.symm (fun x => (h x).symm) l⟩)
  have haf : n.addressFamilies = n'.addressFamilies := by
    obtain ⟨l, hl, hs⟩ := hn.addressFamilies
    obtain ⟨l', hl', hs'⟩ := hn'.addressFamilies
    rw [hl, hl', eq_of_sorted_of_mem_iff hs hs' (fun f => by
      have := h (.addressFamily f)
      simpa [NeighborConfig.tells, hl, hl', Slice.elems] using this)]
  have hall : n.incoming.all = n'.incoming.all := Bool.eq_iff_iff.2 (h .receiveAll)
  have hout : n.outgoing = n'.outgoing := by
    cases ho : n.outgoing; cases ho' : n'.outgoing
    simp_all
  unfold NeighborConfig.erase
  cases n; cases n'
  simp_all

/-! ## EVPN -/

theorem NormalRTs.ext {s t : Slice String} (hs : NormalRTs s) (ht : NormalRTs t)
    (h : ∀ v, v ∈ s.elems ↔ v ∈ t.elems) : s = t := by
  rcases hs with rfl | ⟨l, rfl, hl, hsl⟩ <;> rcases ht with rfl | ⟨l', rfl, hl', hsl'⟩
  · rfl
  · obtain ⟨v, hv⟩ := List.exists_mem_of_ne_nil l' hl'
    exact (List.not_mem_nil ((h v).2 hv)).elim
  · obtain ⟨v, hv⟩ := List.exists_mem_of_ne_nil l hl
    exact (List.not_mem_nil ((h v).1 hv)).elim
  · rw [eq_of_sorted_of_mem_iff hsl hsl' h]

theorem VNIProperties.Normal.ext {p q : VNIProperties} (hp : p.Normal) (hq : q.Normal)
    (h : ∀ x, p.tells x ↔ q.tells x) : p = q := by
  have hrd : p.rd = q.rd := by
    by_cases hpe : p.rd = ""
    · by_cases hqe : q.rd = ""
      · rw [hpe, hqe]
      · exact ((h (.rd q.rd)).2 ⟨hqe, rfl⟩).2
    · exact ((h (.rd p.rd)).1 ⟨hpe, rfl⟩).2.symm
  have him := hp.1.ext hq.1 (fun v => h (.importRT v))
  have hex := hp.2.ext hq.2 (fun v => h (.exportRT v))
  cases p; cases q
  simp_all

theorem l2_subset {a b : Slice L2VNI} (ha : NormalL2 a) (hb : NormalL2 b)
    (h : ∀ x, l2Tells a.elems x ↔ l2Tells b.elems x) : ∀ v ∈ a.elems, v ∈ b.elems := by
  intro v hv
  -- the VNI of that number in the other list has the same facts
  have hfacts : ∀ (l : Slice L2VNI), NormalL2 l → ∀ u ∈ l.elems, ∀ f, l2Tells l.elems (u.vni, f) ↔
      u.properties.tells f := by
    intro l hl u hu f
    refine ⟨fun ⟨z, hz, hzk, hzf⟩ => ?_, fun hf => ⟨u, hu, rfl, hf⟩⟩
    rwa [List.inj_on_of_nodup_map hl.nodup hz hu hzk] at hzf
  obtain ⟨y, z, hz, -, hyf⟩ := exists_l2Tells (List.cons_ne_nil v [])
  obtain rfl := List.mem_singleton.1 hz
  obtain ⟨u, hu, huk, -⟩ := (h (z.vni, y.2)).1 ⟨z, hv, rfl, hyf⟩
  have hprops : z.properties = u.properties := by
    refine (ha.normal z hv).ext (hb.normal u hu) (fun f => ?_)
    rw [← hfacts a ha z hv f, h, ← hfacts b hb u hu f, huk]
  have : z = u := by
    cases z; cases u
    simp_all
  rwa [this]

theorem NormalL2.ext {a b : Slice L2VNI} (ha : NormalL2 a) (hb : NormalL2 b)
    (h : ∀ x, l2Tells a.elems x ↔ l2Tells b.elems x) : a = b := by
  have hab := l2_subset ha hb h
  have hba := l2_subset hb ha (fun x => (h x).symm)
  rcases ha with rfl | ⟨l, rfl, hl, hsl, -⟩ <;> rcases hb with rfl | ⟨l', rfl, hl', hsl', -⟩
  · rfl
  · obtain ⟨v, hv⟩ := List.exists_mem_of_ne_nil l' hl'
    exact (List.not_mem_nil (hba v hv)).elim
  · obtain ⟨v, hv⟩ := List.exists_mem_of_ne_nil l hl
    exact (List.not_mem_nil (hab v hv)).elim
  · rw [eq_of_sorted_key_of_mem_iff hsl hsl' (fun v => ⟨hab v, hba v⟩)]

theorem EVPNConfig.Normal.ext {a b : EVPNConfig} (ha : a.Normal) (hb : b.Normal) (h : ∀ x, a.tells x ↔ b.tells x) :
    a = b := by
  have hadv : a.advertiseVNIs = b.advertiseVNIs := by
    cases hav : a.advertiseVNIs with
    | none =>
      cases hbv : b.advertiseVNIs with
      | none => rfl
      | some v => rw [← hav, (h (.advertiseVNIsSet v)).2 hbv]
    | some v => exact ((h (.advertiseVNIsSet v)).1 hav).symm
  have hsvi : a.advertiseSVI = b.advertiseSVI := ((h (.advertiseSVI b.advertiseSVI)).2 rfl)
  have hl2 : a.l2vnis = b.l2vnis := ha.l2.ext hb.l2 (fun x => h (.l2 x))
  have hl3 : a.l3vni = b.l3vni := by
    cases hav : a.l3vni with
    | none =>
      cases hbv : b.l3vni with
      | none => rfl
      | some v =>
        obtain ⟨u, hu, -⟩ := (h (.l3vni v.vni)).2 ⟨v, hbv, rfl⟩
        rw [hav] at hu; cases hu
    | some u =>
      obtain ⟨v, hbv, hvni⟩ := (h (.l3vni u.vni)).1 ⟨u, hav, rfl⟩
      obtain ⟨hun, l, hl, hsl⟩ := ha.l3 u hav
      obtain ⟨hvn, l', hl', hsl'⟩ := hb.l3 v hbv
      have hprops : u.properties = v.properties := by
        refine hun.ext hvn (fun f => ?_)
        have := h (.l3 f)
        simpa [EVPNConfig.tells, hav, hbv] using this
      have hlist : l = l' := by
        refine eq_of_sorted_of_mem_iff hsl hsl' (fun p => ?_)
        have := h (.l3Advertise p)
        simpa [EVPNConfig.tells, hav, hbv, hl, hl', Slice.elems] using this
      rw [hbv]
      cases u; cases v
      simp_all
  cases a; cases b
  simp_all

theorem EvpnNormal.ext {a b : Option EVPNConfig} (ha : EvpnNormal a) (hb : EvpnNormal b)
    (h : ∀ x, evpnTells a x ↔ evpnTells b x) : a = b := by
  cases a with
  | none =>
    cases b with
    | none => rfl
    | some b => exact (not_evpnTells_none _ ((h (.advertiseSVI b.advertiseSVI)).2 ⟨b, rfl, rfl⟩)).elim
  | some a =>
    cases b with
    | none => exact (not_evpnTells_none _ ((h (.advertiseSVI a.advertiseSVI)).1 ⟨a, rfl, rfl⟩)).elim
    | some b =>
      simp only [evpnTells_some] at h
      rw [(ha a rfl).ext (hb b rfl) h]

/-! ## Routers -/

def RouterConfig.erase (r : RouterConfig) : RouterConfig := { r with neighbors := r.neighbors.map NeighborConfig.erase }

/-- Neighbors of one ID have the same identity, but for graceful restart. -/
def SameIdentity (n n' : NeighborConfig) : Prop :=
  n.name = n'.name ∧ n.addr = n'.addr ∧ n.iface = n'.iface ∧ n.vrfName = n'.vrfName ∧ n.alwaysBlock = n'.alwaysBlock

/-- The facts under a neighbor's ID are the neighbor's own. -/
theorem neighborsTell_id {ns : List NeighborConfig} (hs : ns.Pairwise (fun a b => a.id < b.id)) {n : NeighborConfig}
    (hn : n ∈ ns) (x : NeighborFact) : neighborsTell ns n.id x ↔ n.tells x := by
  refine ⟨fun ⟨m, hm, hid, hx⟩ => ?_, fun hx => ⟨n, hn, rfl, hx⟩⟩
  rwa [List.inj_on_of_nodup_map (nodup_map_of_pairwise_lt hs) hm hn hid] at hx

theorem erased_subset {r r' : RouterConfig} (hr : r.Normal) (hr' : r'.Normal) (h : ∀ x, r.tells x ↔ r'.tells x)
    (hsame : ∀ n ∈ r.neighbors, ∀ n' ∈ r'.neighbors, n.id = n'.id → SameIdentity n n') :
    ∀ m ∈ r.neighbors.map NeighborConfig.erase, m ∈ r'.neighbors.map NeighborConfig.erase := by
  intro m hm
  obtain ⟨n, hn, rfl⟩ := List.mem_map.1 hm
  obtain ⟨n', hn', hid, -⟩ := (h (.neighbor n.id (.attr .asn (.text n.asn)))).1 ⟨n, hn, rfl, rfl⟩
  obtain ⟨h1, h2, h3, h4, h5⟩ := hsame n hn n' hn' hid.symm
  refine List.mem_map.2 ⟨n', hn', ((hr.neighbors n hn).erase_eq (hr'.neighbors n' hn') (fun x => ?_)
    h1 h2 h3 h4 h5).symm⟩
  rw [← neighborsTell_id hr.sorted hn x, ← neighborsTell_id hr'.sorted hn' x, hid]
  exact h (.neighbor n.id x)

theorem RouterConfig.Normal.sorted_erase {r : RouterConfig} (hr : r.Normal) :
    (r.neighbors.map NeighborConfig.erase).Pairwise (fun a b => a.id < b.id) :=
  List.pairwise_map.2 hr.sorted

/-- **A router in normal form is determined by its facts and its neighbors' identities.** -/
theorem RouterConfig.Normal.erase_eq {r r' : RouterConfig} (hr : r.Normal) (hr' : r'.Normal) (hvrf : r.vrf = r'.vrf)
    (h : ∀ x, r.tells x ↔ r'.tells x)
    (hsame : ∀ n ∈ r.neighbors, ∀ n' ∈ r'.neighbors, n.id = n'.id → SameIdentity n n') : r.erase = r'.erase := by
  have hasn : r.myASN = r'.myASN := (h (.myASN r'.myASN)).2 rfl
  have hid : r.routerID = r'.routerID := by
    by_cases hre : r.routerID = ""
    · by_cases hre' : r'.routerID = ""
      · rw [hre, hre']
      · exact ((h (.routerID r'.routerID)).2 ⟨hre', rfl⟩).2
    · exact ((h (.routerID r.routerID)).1 ⟨hre, rfl⟩).2.symm
  have hv4 := eq_of_sorted_of_mem_iff hr.ipv4Prefixes hr'.ipv4Prefixes (fun p => h (.ipv4Prefix p))
  have hv6 := eq_of_sorted_of_mem_iff hr.ipv6Prefixes hr'.ipv6Prefixes (fun p => h (.ipv6Prefix p))
  have himp := eq_of_sorted_of_mem_iff hr.importVRFs hr'.importVRFs (fun p => h (.importVRF p))
  have hevpn : r.evpn = r'.evpn := hr.evpn.ext hr'.evpn (fun x => h (.evpn x))
  have hns : r.neighbors.map NeighborConfig.erase = r'.neighbors.map NeighborConfig.erase :=
    eq_of_sorted_key_of_mem_iff hr.sorted_erase hr'.sorted_erase (fun m => ⟨erased_subset hr hr' h hsame m,
      erased_subset hr' hr (fun x => (h x).symm) (fun n' hn' n hn hid => by
        obtain ⟨h1, h2, h3, h4, h5⟩ := hsame n hn n' hn' hid.symm
        exact ⟨h1.symm, h2.symm, h3.symm, h4.symm, h5.symm⟩) m⟩)
  unfold RouterConfig.erase
  cases r; cases r'
  simp_all

end FrrK8s
