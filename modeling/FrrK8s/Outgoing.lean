import FrrK8s.MergeNeighbor
/-!
# Outgoing — what a neighbor is translated to

What `toAdvertiseToFRR` makes of a neighbor's advertisement: the prefix list of each property and family, for the
prefixes of the property in that family, and no other.  A neighbor that was validated and translated is well formed.
-/
namespace FrrK8s

/-! ## The lists of one property -/

theorem addPrefix_foldlM (routerPrefixes : SortedSet String) (missing repeated : String → String) :
    ∀ (l : List String) (s s' : SortedSet String),
      l.foldlM (addPrefix routerPrefixes missing repeated) s = .ok s' →
        s' = s.insertAll l ∧ ∀ p ∈ l, p ∈ routerPrefixes
  | [], s, s', h => by
    obtain rfl : s = s' := by simpa using h
    exact ⟨rfl, fun p hp => (List.not_mem_nil hp).elim⟩
  | p :: l, s, s', h => by
    rw [List.foldlM_cons, bind_eq_ok] at h
    obtain ⟨t, ht, h⟩ := h
    simp only [addPrefix, bind_eq_ok, reject_eq_ok, pure_eq_ok, not_not] at ht
    obtain ⟨_, hp, _, _, rfl⟩ := ht
    obtain ⟨rfl, hl⟩ := addPrefix_foldlM routerPrefixes missing repeated l _ s' h
    exact ⟨rfl, List.forall_mem_cons.2 ⟨hp, hl⟩⟩

/-- A list under its key. -/
def listed {α : Type} (m : SortedMap String α) (x : String × α) : Prop := m.find? x.1 = some x.2

/-- One property and family: a new list for its prefixes, if it has any, all of them advertised. -/
theorem addPrefixList_collects {α : Type} {key : String} {mk : SortedSet String → α} {ps : List String}
    {routerPrefixes : SortedSet String} {defined : String} {missing repeated : String → String}
    {toAdd m : SortedMap String α}
    (h : addPrefixList key mk ps routerPrefixes defined missing repeated toAdd = .ok m) :
    (∀ p ∈ ps, p ∈ routerPrefixes) ∧
      ∀ x, listed m x ↔ listed toAdd x ∨ (ps ≠ [] ∧ x = (key, mk (SortedSet.ofList ps))) := by
  unfold addPrefixList at h
  simp only [bind_eq_ok, reject_eq_ok, not_not] at h
  obtain ⟨_, hnone, h⟩ := h
  by_cases hps : ps = []
  · rw [if_pos hps] at h
    cases h
    simp [hps]
  · rw [if_neg hps] at h
    simp only [bind_eq_ok, pure_eq_ok] at h
    obtain ⟨s, hs, rfl⟩ := h
    obtain ⟨rfl, hall⟩ := addPrefix_foldlM _ _ _ ps _ s hs
    refine ⟨hall, fun x => ?_⟩
    obtain ⟨k, a⟩ := x
    simp only [listed]
    rw [SortedMap.find?_insert]
    by_cases hk : k = key
    · subst hk
      rw [if_pos rfl, hnone]
      simp only [Option.some.injEq, reduceCtorEq, false_or, Prod.mk.injEq, true_and]
      exact ⟨fun h => ⟨hps, h.symm⟩, fun h => h.2.symm⟩
    · rw [if_neg hk]
      simp only [Prod.mk.injEq, hk, false_and, and_false, or_false]

/-- The list of a local preference for one family. -/
def localPrefListFor (neighborID : String) (ipFamily : Family) (x : LocalPrefPrefixes) : LocalPrefPrefixList :=
  { name := localPrefPrefixListName neighborID x.localPref (frrIPFamily ipFamily)
    ipFamily := frrIPFamily ipFamily
    prefixes := SortedSet.ofList (filterPrefixes x.prefixes ipFamily)
    localPref := x.localPref }

/-- The list of a community for one family. -/
def communityListFor (neighborID : String) (ipFamily : Family) (c : BGPCommunity) (x : CommunityPrefixes) :
    CommunityPrefixList :=
  { name := communityPrefixListName neighborID c (frrIPFamily ipFamily)
    ipFamily := frrIPFamily ipFamily
    prefixes := SortedSet.ofList (filterPrefixes x.prefixes ipFamily)
    community := c }

/-- What a local preference of the advertisement contributes for one family. -/
def localPrefBrings (neighborID : String) (ipFamily : Family) (e : LocalPrefPrefixes)
    (x : String × LocalPrefPrefixList) : Prop :=
  x.1 = x.2.key ∧ filterPrefixes e.prefixes ipFamily ≠ [] ∧ x.2 = localPrefListFor neighborID ipFamily e

/-- What a community of the advertisement contributes for one family. -/
def communityBrings (neighborID : String) (ipFamily : Family) (e : CommunityPrefixes)
    (x : String × CommunityPrefixList) : Prop :=
  x.1 = x.2.key ∧ ∃ c, Community.new e.community = .ok c ∧ filterPrefixes e.prefixes ipFamily ≠ [] ∧
    x.2 = communityListFor neighborID ipFamily c e

/-- A list stored under its own key. -/
theorem eq_keyed_iff {α : Type} {key : α → String} {p : Prop} {x : String × α} {l : α} :
    (p ∧ x = (key l, l)) ↔ x.1 = key x.2 ∧ p ∧ x.2 = l := by
  constructor
  · rintro ⟨hp, rfl⟩
    exact ⟨rfl, hp, rfl⟩
  · rintro ⟨hk, hp, rfl⟩
    exact ⟨hp, Prod.ext hk rfl⟩

theorem prefixesWithLocalPrefToFRR_collects {toAdd m : SortedMap String LocalPrefPrefixList} {neighbor : NeighborConfig}
    {toAdvertise : Advertise} {ipFamily : Family} {routerPrefixes : SortedSet String}
    (h : prefixesWithLocalPrefToFRR toAdd neighbor toAdvertise ipFamily routerPrefixes = .ok m) :
    (∀ e ∈ toAdvertise.prefixesWithLocalPref, ∀ p ∈ filterPrefixes e.prefixes ipFamily, p ∈ routerPrefixes) ∧
      ∀ x, listed m x ↔ listed toAdd x ∨
        ∃ e ∈ toAdvertise.prefixesWithLocalPref, localPrefBrings neighbor.id ipFamily e x := by
  refine ⟨foldlM_forall (fun s e s' hs => ?_) _ _ _ h, foldlM_collect listed (fun s e s' hs x => ?_) _ _ _ h⟩
  · exact (addPrefixList_collects hs).1
  · rw [(addPrefixList_collects hs).2 x]
    exact or_congr Iff.rfl (@eq_keyed_iff _ LocalPrefPrefixList.key _ x (localPrefListFor neighbor.id ipFamily e))

theorem prefixesWithCommunityToFRR_collects {toAdd m : SortedMap String CommunityPrefixList} {neighbor : NeighborConfig}
    {toAdvertise : Advertise} {ipFamily : Family} {routerPrefixes : SortedSet String}
    (h : prefixesWithCommunityToFRR toAdd neighbor toAdvertise ipFamily routerPrefixes = .ok m) :
    (∀ e ∈ toAdvertise.prefixesWithCommunity, ∀ p ∈ filterPrefixes e.prefixes ipFamily, p ∈ routerPrefixes) ∧
      ∀ x, listed m x ↔ listed toAdd x ∨
        ∃ e ∈ toAdvertise.prefixesWithCommunity, communityBrings neighbor.id ipFamily e x := by
  refine ⟨foldlM_forall (fun s e s' hs => ?_) _ _ _ h, foldlM_collect listed (fun s e s' hs x => ?_) _ _ _ h⟩
  · simp only [bind_eq_ok] at hs
    obtain ⟨c, -, hs⟩ := hs
    exact (addPrefixList_collects hs).1
  · simp only [bind_eq_ok, wrap_eq_ok] at hs
    obtain ⟨c, hc, hs⟩ := hs
    rw [(addPrefixList_collects hs).2 x]
    simp only [communityBrings, hc, Except.ok.injEq, exists_eq_left']
    exact or_congr Iff.rfl (@eq_keyed_iff _ CommunityPrefixList.key _ x (communityListFor neighbor.id ipFamily c e))

/-! ## The advertisement -/

/-- **What an advertisement is translated to**, for a neighbor of that ID and those families. -/
structure Advertised (neighbor : NeighborConfig) (toAdvertise : Advertise) (prefixesInRouter : List String)
    (out : AllowedOut) : Prop where
  prefixesV4 : out.prefixesV4 = if neighborHasIPFamily neighbor .ipv4 then
    (prefixesForFamily toAdvertise prefixesInRouter .ipv4).toList else []
  prefixesV6 : out.prefixesV6 = if neighborHasIPFamily neighbor .ipv6 then
    (prefixesForFamily toAdvertise prefixesInRouter .ipv6).toList else []
  nextHopV4 : out.nextHopV4 = toAdvertise.nextHop.ipv4
  nextHopV6 : out.nextHopV6 = toAdvertise.nextHop.ipv6
  localPrefsAdvertised : ∀ f ∈ neighborIPFamilies neighbor, ∀ e ∈ toAdvertise.prefixesWithLocalPref,
    ∀ p ∈ filterPrefixes e.prefixes f, p ∈ prefixesForFamily toAdvertise prefixesInRouter f
  communitiesAdvertised : ∀ f ∈ neighborIPFamilies neighbor, ∀ e ∈ toAdvertise.prefixesWithCommunity,
    ∀ p ∈ filterPrefixes e.prefixes f, p ∈ prefixesForFamily toAdvertise prefixesInRouter f
  localPrefs : ∀ l, l ∈ out.localPrefPrefixesModifiers ↔ ∃ f ∈ neighborIPFamilies neighbor,
    ∃ e ∈ toAdvertise.prefixesWithLocalPref, filterPrefixes e.prefixes f ≠ [] ∧ l = localPrefListFor neighbor.id f e
  communities : ∀ l, l ∈ out.communityPrefixesModifiers ↔ ∃ f ∈ neighborIPFamilies neighbor,
    ∃ e ∈ toAdvertise.prefixesWithCommunity, ∃ c, Community.new e.community = .ok c ∧
      filterPrefixes e.prefixes f ≠ [] ∧ l = communityListFor neighbor.id f c e
  localPrefsSorted : out.localPrefPrefixesModifiers.Pairwise (fun a b => a.key < b.key)
  communitiesSorted : out.communityPrefixesModifiers.Pairwise (fun a b => a.key < b.key)

/-- The values of a map that holds just what is brought to it, each under its own key. -/
theorem values_of_collected {α β : Type} {key : α → String} {m : SortedMap String α} {fs : List Family} {es : List β}
    {E : Family → β → α → Prop} (hlisted : ∀ x, listed m x ↔ ∃ f ∈ fs, ∃ e ∈ es, x.1 = key x.2 ∧ E f e x.2) :
    (∀ l, l ∈ m.values ↔ ∃ f ∈ fs, ∃ e ∈ es, E f e l) ∧ m.values.Pairwise (fun a b => key a < key b) := by
  have h : ∀ x, listed m x ↔ x.1 = key x.2 ∧ ∃ f ∈ fs, ∃ e ∈ es, E f e x.2 := by
    intro x
    rw [hlisted x]
    constructor
    · rintro ⟨f, hf, e, he, hk, hE⟩
      exact ⟨hk, f, hf, e, he, hE⟩
    · rintro ⟨hk, f, hf, e, he, hE⟩
      exact ⟨f, hf, e, he, hk, hE⟩
  refine ⟨fun l => ?_, SortedMap.sorted_values m key (fun k a hk => ((h (k, a)).1 hk).1.symm)⟩
  rw [SortedMap.mem_values]
  exact ⟨fun ⟨k, hk⟩ => ((h (k, l)).1 hk).2, fun hl => ⟨key l, (h (key l, l)).2 ⟨rfl, hl⟩⟩⟩

theorem nextHopToFRR_eq_ok (neighbor : NeighborConfig) (nextHop : NextHop) (r : String × String) :
    nextHopToFRR neighbor nextHop = .ok r ↔
      (nextHop.ipv4 ≠ "" → (Net.parseIP nextHop.ipv4).bind Net.to4 ≠ none ∧ neighborHasIPFamily neighbor .ipv4 = true) ∧
      (nextHop.ipv6 ≠ "" → (Net.parseIP nextHop.ipv6 ≠ none ∧ (Net.parseIP nextHop.ipv6).bind Net.to4 = none) ∧
        neighborHasIPFamily neighbor .ipv6 = true) ∧ r = (nextHop.ipv4, nextHop.ipv6) := by
  unfold nextHopToFRR
  by_cases h4 : nextHop.ipv4 = "" <;> by_cases h6 : nextHop.ipv6 = "" <;>
    simp only [h4, h6, ne_eq, not_true_eq_false, not_false_eq_true, if_true, if_false, bind_eq_ok, pure_eq_ok,
      reject_eq_ok, not_not, not_or, exists_const, false_implies, true_implies, true_and, and_assoc, eq_comm (a := r)]

theorem addFamily_eq_ok {neighbor : NeighborConfig} {toAdvertise : Advertise} {prefixesInRouter : List String}
    {acc acc' : SortedMap String LocalPrefPrefixList × SortedMap String CommunityPrefixList} {f : Family}
    (h : addFamily neighbor toAdvertise prefixesInRouter acc f = .ok acc') :
    prefixesWithLocalPrefToFRR acc.1 neighbor toAdvertise f
      (prefixesForFamily toAdvertise prefixesInRouter f) = .ok acc'.1 ∧
    prefixesWithCommunityToFRR acc.2 neighbor toAdvertise f
      (prefixesForFamily toAdvertise prefixesInRouter f) = .ok acc'.2 := by
  unfold addFamily at h
  simp only [bind_eq_ok, wrap_eq_ok, pure_eq_ok] at h
  obtain ⟨l, hl, c, hc, rfl⟩ := h
  exact ⟨hl, hc⟩

theorem toAdvertiseToFRR_advertised {neighbor : NeighborConfig} {toAdvertise : Advertise}
    {prefixesInRouter : List String} {out : AllowedOut}
    (h : toAdvertiseToFRR neighbor toAdvertise prefixesInRouter = .ok out) :
    Advertised neighbor toAdvertise prefixesInRouter out := by
  unfold toAdvertiseToFRR at h
  simp only [bind_eq_ok, Prod.exists, pure_eq_ok] at h
  obtain ⟨v4, v6, hnext, localPrefs, communities, hloop, rfl⟩ := h
  obtain ⟨rfl, rfl⟩ := Prod.mk.inj ((nextHopToFRR_eq_ok ..).1 hnext).2.2
  have hl := foldlM_collect (fun acc => listed acc.1) (fun _ _ _ h =>
    (prefixesWithLocalPrefToFRR_collects (addFamily_eq_ok h).1).2) _ _ _ hloop
  have hc := foldlM_collect (fun acc => listed acc.2) (fun _ _ _ h =>
    (prefixesWithCommunityToFRR_collects (addFamily_eq_ok h).2).2) _ _ _ hloop
  have hempty : ∀ {α : Type} (x : String × α), ¬ listed SortedMap.empty x := by simp [listed]
  have hlocal := @values_of_collected _ _ LocalPrefPrefixList.key localPrefs (neighborIPFamilies neighbor)
    toAdvertise.prefixesWithLocalPref
    (fun f e l => filterPrefixes e.prefixes f ≠ [] ∧ l = localPrefListFor neighbor.id f e)
    (fun x => (hl x).trans (or_iff_right (hempty x)))
  have hcomm := @values_of_collected _ _ CommunityPrefixList.key communities (neighborIPFamilies neighbor)
    toAdvertise.prefixesWithCommunity (fun f e l => ∃ c, Community.new e.community = .ok c ∧
      filterPrefixes e.prefixes f ≠ [] ∧ l = communityListFor neighbor.id f c e)
    (fun x => (hc x).trans (or_iff_right (hempty x)))
  have hladv := foldlM_forall (Q := fun f => ∀ e ∈ toAdvertise.prefixesWithLocalPref,
      ∀ p ∈ filterPrefixes e.prefixes f, p ∈ prefixesForFamily toAdvertise prefixesInRouter f)
    (fun _ _ _ h => (prefixesWithLocalPrefToFRR_collects (addFamily_eq_ok h).1).1) _ _ _ hloop
  have hcadv := foldlM_forall (Q := fun f => ∀ e ∈ toAdvertise.prefixesWithCommunity,
      ∀ p ∈ filterPrefixes e.prefixes f, p ∈ prefixesForFamily toAdvertise prefixesInRouter f)
    (fun _ _ _ h => (prefixesWithCommunityToFRR_collects (addFamily_eq_ok h).2).1) _ _ _ hloop
  exact ⟨rfl, rfl, rfl, rfl, hladv, hcadv, hlocal.1, hcomm.1, hlocal.2, hcomm.2⟩

/-! ## The checks on an advertisement -/

theorem validatePrefixesForNeighborFamily_eq_ok (prefixes : List String) (family : Family) :
    validatePrefixesForNeighborFamily prefixes family = .ok () ↔
      ∀ p ∈ prefixes, forCIDRString p ≠ .unknown ∧ matchesPrefix family p = true := by
  unfold validatePrefixesForNeighborFamily
  rw [forM_eq_ok]
  refine forall₂_congr fun p _ => ?_
  simp only [bind_eq_ok, reject_eq_ok, not_not, exists_const]

/-- A local preference is noted for each of its prefixes, where no other one is noted already. -/
theorem checkLocalPref_collects {n : Neighbor} {f : Family} {localPrefs localPrefs' : SortedMap String Nat}
    {e : LocalPrefPrefixes} (h : checkLocalPref n f localPrefs e = .ok localPrefs') :
    (∀ p ∈ e.prefixes, forCIDRString p ≠ .unknown ∧ matchesPrefix f p = true) ∧
      ∀ x, listed localPrefs' x ↔ listed localPrefs x ∨ ∃ p ∈ e.prefixes, x = (p, e.localPref) := by
  unfold checkLocalPref at h
  simp only [bind_eq_ok, wrap_eq_ok] at h
  obtain ⟨_, hps, h⟩ := h
  refine ⟨(validatePrefixesForNeighborFamily_eq_ok _ _).1 hps, ?_⟩
  refine foldlM_collect listed (fun m p m' hm x => ?_) _ _ _ h
  simp only [bind_eq_ok, reject_eq_ok, pure_eq_ok, not_not] at hm
  obtain ⟨_, hsame, rfl⟩ := hm
  obtain ⟨q, lp⟩ := x
  simp only [listed]
  rw [SortedMap.find?_insert]
  by_cases hq : q = p
  · subst hq
    simp only [if_true, Option.some.injEq, Prod.mk.injEq, true_and]
    refine ⟨fun h => Or.inr h.symm, fun h => h.elim (fun h => ?_) Eq.symm⟩
    rw [h, Option.getD_some] at hsame
    exact hsame.symm
  · rw [if_neg hq]
    simp only [Prod.mk.injEq, hq, false_and, or_false]

/-- **What `validateOutgoingPrefixes` ensures of a neighbor.** -/
structure OutgoingValid (prefixesSet : SortedSet String) (n : Neighbor) (family : Family) : Prop where
  ipFamily : addressFamilyForNeighbor n = .ok family
  localPrefs : ∀ e ∈ n.toAdvertise.prefixesWithLocalPref, ∀ p ∈ e.prefixes,
    forCIDRString p ≠ .unknown ∧ matchesPrefix family p = true
  once : ∀ e ∈ n.toAdvertise.prefixesWithLocalPref, ∀ e' ∈ n.toAdvertise.prefixesWithLocalPref,
    ∀ p ∈ e.prefixes, p ∈ e'.prefixes → e.localPref = e'.localPref
  communities : ∀ e ∈ n.toAdvertise.prefixesWithCommunity, ∀ p ∈ e.prefixes,
    forCIDRString p ≠ .unknown ∧ matchesPrefix family p = true
  allowed : n.toAdvertise.allowed.mode ≠ .all → ∀ p ∈ n.toAdvertise.allowed.prefixes,
    (forCIDRString p ≠ .unknown ∧ matchesPrefix family p = true) ∧ p ∈ prefixesSet

theorem validateOutgoingPrefixesFor_valid {prefixesSet : SortedSet String} {vrf : String} {n : Neighbor}
    (h : validateOutgoingPrefixesFor prefixesSet vrf n = .ok ()) : ∃ family, OutgoingValid prefixesSet n family := by
  unfold validateOutgoingPrefixesFor at h
  simp only [bind_eq_ok, wrap_eq_ok] at h
  obtain ⟨family, hf, localPrefs, hlp, _, hcomm, h⟩ := h
  have hstep : ∀ m e m', checkLocalPref n family m e = .ok m' →
      ∀ x, listed m' x ↔ listed m x ∨ ∃ p ∈ e.prefixes, x = (p, e.localPref) :=
    fun _ _ _ h => (checkLocalPref_collects h).2
  have hnoted := foldlM_collect listed hstep _ _ _ hlp
  have hmatch : ∀ m e m', checkLocalPref n family m e = .ok m' →
      ∀ p ∈ e.prefixes, forCIDRString p ≠ .unknown ∧ matchesPrefix family p = true :=
    fun _ _ _ h => (checkLocalPref_collects h).1
  refine ⟨family, hf, foldlM_forall hmatch _ _ _ hlp, ?_, ?_, fun hmode => ?_⟩
  · intro e he e' he' p hp hp'
    have h1 := (hnoted (p, e.localPref)).2 (Or.inr ⟨e, he, p, hp, rfl⟩)
    have h2 := (hnoted (p, e'.localPref)).2 (Or.inr ⟨e', he', p, hp', rfl⟩)
    exact Option.some.inj (h1.symm.trans h2)
  · intro e he
    rw [forM_eq_ok] at hcomm
    have := hcomm e he
    rw [wrap_eq_ok] at this
    exact (validatePrefixesForNeighborFamily_eq_ok _ _).1 this
  · rw [if_neg hmode] at h
    simp only [bind_eq_ok, wrap_eq_ok, forM_eq_ok, reject_eq_ok, not_not] at h
    obtain ⟨_, hps, hin⟩ := h
    exact fun p hp => ⟨(validatePrefixesForNeighborFamily_eq_ok _ _).1 hps p hp, hin p hp⟩

/-! ## A neighbor -/

/-- The checks `neighborToFRR` makes before it translates anything. -/
structure NeighborChecks (n : Neighbor) (bfdProfiles : SortedMap String BFDProfile) : Prop where
  hasPeer : ¬ (n.address = "" ∧ n.interface = "")
  onePeer : ¬ (n.address ≠ "" ∧ n.interface ≠ "")
  bfdProfile : ¬ (n.bfdProfile ≠ "" ∧ bfdProfiles.find? n.bfdProfile = none)
  hasASN : ¬ (n.asn = 0 ∧ n.dynamicASN = "")
  oneASN : ¬ (n.asn ≠ 0 ∧ n.dynamicASN ≠ "")
  dynamicASN : ¬ (n.dynamicASN ≠ "" ∧ n.dynamicASN ≠ internalASNMode ∧ n.dynamicASN ≠ externalASNMode)

/-- The neighbor before its filters are translated. -/
def neighborBase (n : Neighbor) (alwaysBlock : List IncomingFilter) (routerVRF : String) (family : Family)
    (timers : Option Int × Option Int) (password : String) : NeighborConfig :=
  { name := neighborName n
    asn := asnFor n
    localASN := n.localASN
    srcAddr := n.sourceAddress
    addr := n.address
    iface := n.interface
    port := n.port
    ipFamily := family
    ebgpMultiHop := n.ebgpMultiHop
    bfdProfile := n.bfdProfile
    gracefulRestart := n.enableGracefulRestart
    vrfName := routerVRF
    alwaysBlock := alwaysBlock
    addressFamilies := n.addressFamilies
    holdTime := timers.1
    keepaliveTime := timers.2
    connectTime := n.connectTime.map seconds
    password := password }

theorem neighborToFRR_eq_ok (n : Neighbor) (prefixesInRouter : List String) (alwaysBlock : List IncomingFilter)
    (routerVRF : String) (secrets : SortedMap String Secret) (bfdProfiles : SortedMap String BFDProfile)
    (c : NeighborConfig) :
    neighborToFRR n prefixesInRouter alwaysBlock routerVRF secrets bfdProfiles = .ok c ↔
      NeighborChecks n bfdProfiles ∧ ∃ family, addressFamilyForNeighbor n = .ok family ∧
        ∃ timers, parseTimers n.holdTime n.keepaliveTime = .ok timers ∧
          ∃ password, passwordForNeighbor n secrets = .ok password ∧
            ∃ out, toAdvertiseToFRR (neighborBase n alwaysBlock routerVRF family timers password) n.toAdvertise
                prefixesInRouter = .ok out ∧
              ∃ incoming, toReceiveToFRR n.toReceive = .ok incoming ∧
                c = { neighborBase n alwaysBlock routerVRF family timers password with
                  outgoing := out, incoming := incoming } := by
  unfold neighborToFRR
  simp only [bind_eq_ok, reject_eq_ok, wrap_eq_ok, pure_eq_ok]
  constructor
  · rintro ⟨_, h1, _, h2, _, h3, _, h4, _, h5, _, h6, family, hf, timers, ht, password, hp, out, hout,
      incoming, hin, rfl⟩
    exact ⟨⟨h1, h2, h3, h4, h5, h6⟩, family, hf, timers, ht, password, hp, out, hout, incoming, hin, rfl⟩
  · rintro ⟨⟨h1, h2, h3, h4, h5, h6⟩, family, hf, timers, ht, password, hp, out, hout, incoming, hin, rfl⟩
    exact ⟨(), h1, (), h2, (), h3, (), h4, (), h5, (), h6, family, hf, timers, ht, password, hp, out, hout,
      incoming, hin,
      rfl⟩

theorem mem_filterPrefixes {prefixes : List String} {f : Family} {p : String} (h : p ∈ filterPrefixes prefixes f) :
    p ∈ prefixes := by
  unfold filterPrefixes at h
  split at h
  · exact h
  · exact (List.mem_filter.1 h).1

theorem ofList_toList_ne_nil {l : List String} (h : l ≠ []) : (SortedSet.ofList l).toList ≠ [] := by
  obtain ⟨p, hp⟩ := List.exists_mem_of_ne_nil l h
  exact List.ne_nil_of_mem ((SortedSet.mem_ofList l p).2 hp)

/-- **A validated and translated neighbor is well formed.** -/
theorem neighborToFRR_wf {n : Neighbor} {prefixesInRouter : List String} {alwaysBlock : List IncomingFilter}
    {routerVRF : String} {secrets : SortedMap String Secret} {bfdProfiles : SortedMap String BFDProfile}
    {c : NeighborConfig} {prefixesSet : SortedSet String} {family : Family}
    (h : neighborToFRR n prefixesInRouter alwaysBlock routerVRF secrets bfdProfiles = .ok c)
    (hv : OutgoingValid prefixesSet n family) : c.WF := by
  obtain ⟨-, f, hf, timers, -, password, -, out, hout, incoming, -, rfl⟩ := (neighborToFRR_eq_ok ..).1 h
  have hadv := toAdvertiseToFRR_advertised hout
  refine ⟨nodup_map_of_pairwise_lt hadv.localPrefsSorted, nodup_map_of_pairwise_lt hadv.communitiesSorted, ?_, ?_, ?_⟩
  · rintro lp lp' f f' p ⟨l, hl, rfl, -, hp⟩ ⟨l', hl', rfl, -, hp'⟩
    obtain ⟨_, -, e, he, -, rfl⟩ := (hadv.localPrefs l).1 hl
    obtain ⟨_, -, e', he', -, rfl⟩ := (hadv.localPrefs l').1 hl'
    exact hv.once e he e' he' p (mem_filterPrefixes ((SortedSet.mem_ofList _ p).1 hp))
      (mem_filterPrefixes ((SortedSet.mem_ofList _ p).1 hp'))
  · intro l hl
    obtain ⟨f, -, e, -, hps, rfl⟩ := (hadv.localPrefs l).1 hl
    exact ⟨rfl, ofList_toList_ne_nil hps⟩
  · intro l hl
    obtain ⟨f, -, e, -, c, -, hps, rfl⟩ := (hadv.communities l).1 hl
    exact ⟨rfl, ofList_toList_ne_nil hps⟩

end FrrK8s
