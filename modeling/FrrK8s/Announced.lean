import FrrK8s.Families
import FrrK8s.Union
/-!
# Announced — what the peers of a VRF are told

Which networks a peer is told is said in five places of the rendered text: the `network` lines, the `import vrf` lines,
the lists, the route maps and the `activate` lines.  What FRR does with them is a parameter (`Speaker`), of which two
things are assumed: nothing goes out past the outgoing route map, and the networks of the text that the map permits do.
For every such speaker, whatever its peers send, the text lets out exactly what the configurations allow, with the
communities and the local preference these ask for (`offered_iff`), and a further configuration takes nothing of it back
(`offered_grows`).
-/
namespace FrrK8s

/-! ## What FRR does with the text -/

/-- The address family FRR has a route in. -/
def netFamily (route : Net.IPNet) : Family := if route.bits = 32 then .ipv4 else .ipv6

/-- A `network` line of the VRF's block, or of a block that it imports, has the route. -/
def HasNetwork (c : Config) (r : RouterConfig) (route : Net.IPNet) : Prop :=
  ∃ s ∈ c.routers, r.Reaches s ∧
    ∃ p, (unicast (netFamily route).string, .network p) ∈ familyLines s ∧ Net.parseNet p = some route

/-- The session is activated for the route's family, and the outgoing route map permits the route and executes these
clauses for it. -/
structure LetOut (c : Config) (vrf : String) (n : NeighborConfig) (route : Net.IPNet) (sets : List SetClause) :
    Prop where
  activated : Activates c vrf (unicast (netFamily route).string) n.peer
  permitted : evalRouteMap (renderedFilters c) (routeMapName n.id .outward) route = some sets

/-- **FRR with the configuration loaded**, as far as it is assumed here.  Which routes peers send, which of them it has
in its tables and which path it takes is open. -/
structure Speaker (c : Config) where
  /-- The routes that a neighbor of a VRF is told, with the clauses that were executed for them. -/
  tells : String → NeighborConfig → Net.IPNet → List SetClause → Prop
  /-- Nothing goes out past the route map. -/
  letOut : ∀ r ∈ c.routers, ∀ n ∈ r.neighbors, ∀ route sets, tells r.vrf n route sets → LetOut c r.vrf n route sets
  /-- The networks of the text are announced; no other condition is put on them, as `no bgp network import-check`
  stands in every block. -/
  announces : ∀ r ∈ c.routers, ∀ n ∈ r.neighbors, ∀ route sets, HasNetwork c r route → LetOut c r.vrf n route sets →
    tells r.vrf n route sets

/-- Everything that is let out is told. -/
def Speaker.unreserved (c : Config) : Speaker c where
  tells := LetOut c
  letOut _ _ _ _ _ _ h := h
  announces _ _ _ _ _ _ _ h := h

/-! ## What the configurations ask for -/

/-- Unicast is what every neighbor of this ID leaves open, or what one of them lists. -/
def ServesUnicast (cfgs : List FRRConfiguration) (vrf id : String) : Prop :=
  (∀ cfg e a, Contributes cfgs vrf id cfg e a → a.addressFamilies.elems = []) ∨
    ∃ cfg e a, Contributes cfgs vrf id cfg e a ∧ addressFamilyUnicast ∈ a.addressFamilies.elems

/-- The prefix is to be advertised to the neighbor, over a session of its family. -/
structure AsksFor (cfgs : List FRRConfiguration) (vrf : String) (n : NeighborConfig) (p : String) (f : Family) :
    Prop where
  covered : neighborHasIPFamily n f = true
  unicast : ServesUnicast cfgs vrf n.id
  allowed : ∃ cfg e a, Contributes cfgs vrf n.id cfg e a ∧ Allows cfg e a p

/-- The communities and the local preference are those that are asked for. -/
structure SetsAsked (cfgs : List FRRConfiguration) (vrf id : String) (p : String) (f : Family) (sets : List SetClause) :
    Prop where
  communities : ∀ k, k ∈ (applied sets).communities ↔ AsksCommunity cfgs vrf id k f p
  localPref : ∀ v, (applied sets).localPref = some v ↔ AsksLocalPref cfgs vrf id v f p

/-- Each text denotes its own network: no other declared prefix is the route. -/
def WrittenAs (cfgs : List FRRConfiguration) (p : String) (route : Net.IPNet) : Prop :=
  ∀ cfg ∈ cfgs, ∀ e ∈ cfg.routers, ∀ q ∈ e.prefixes, Net.parseNet q = some route → q = p

section

theorem netFamily_cases (route : Net.IPNet) : netFamily route = .ipv4 ∨ netFamily route = .ipv6 := by
  unfold netFamily
  split
  · exact Or.inl rfl
  · exact Or.inr rfl

theorem parseNet_bits {p : String} {route : Net.IPNet} (h : Net.parseNet p = some route) :
    ∃ c, Net.parseCIDR p = some c ∧ route.bits = c.addr.bitLen := by
  unfold Net.parseNet at h
  cases hc : Net.parseCIDR p with
  | none => simp [hc] at h
  | some c =>
    rw [hc] at h
    simp only [Option.bind_eq_bind, Option.bind_some] at h
    split at h
    · cases h
      exact ⟨c, rfl, rfl⟩
    · cases h

/-- The family of a prefix and that of its route differ only where an IPv4 address is written as IPv6. -/
theorem forCIDRString_netFamily {p : String} {route : Net.IPNet} (hp : Net.parseNet p = some route)
    (hplain : ¬ IsMappedPrefix p) : forCIDRString p = netFamily route := by
  obtain ⟨c, hc, hbits⟩ := parseNet_bits hp
  unfold netFamily
  obtain ⟨h32, hto4⟩ | h128 := parseCIDR_cases hc
  · rw [if_pos (hbits.trans h32)]
    exact (forCIDRString_ipv4_iff p).2 ⟨c, hc, hto4⟩
  · rw [if_neg (by omega)]
    refine (forCIDRString_ipv6_iff p).2 ⟨c, hc, ?_⟩
    by_contra hto4
    exact hplain ⟨c, hc, h128, hto4⟩

theorem network_mem_familyLines (r : RouterConfig) (route : Net.IPNet) (p : String) :
    (unicast (netFamily route).string, .network p) ∈ familyLines r ↔
      p ∈ if route.bits = 32 then r.ipv4Prefixes else r.ipv6Prefixes := by
  rw [familyLines_eq]
  unfold netFamily
  split <;> simp [activateRead, networkRead, evpnRead, unicast, Family.string]

end

section

variable {secrets : SortedMap String Secret} {alwaysBlock : List Net.IPNet} {cfgs : List FRRConfiguration} {c : Config}

/-- Every prefix that is written for a neighbor is declared by a router entry. -/
theorem ResultOf.writtenOut_declared (hacc : Acceptable secrets alwaysBlock cfgs)
    (h : ResultOf secrets alwaysBlock cfgs c) {r : RouterConfig} (hr : r ∈ c.routers) {n : NeighborConfig}
    (hn : n ∈ r.neighbors) {q : String} (hq : q ∈ n.writtenOut) : ∃ cfg ∈ cfgs, ∃ e ∈ cfg.routers, q ∈ e.prefixes := by
  have hV4 : q ∈ n.outgoing.prefixesV4 → ∃ cfg ∈ cfgs, ∃ e ∈ cfg.routers, q ∈ e.prefixes := fun hq => by
    obtain ⟨s, hs, -, hmem⟩ := h.prefixesV4_declared hacc hr hn hq
    obtain ⟨cfg, hcfg, e, he, -, hpfx, -⟩ := (h.mem_ipv4Prefixes hacc hs q).1 hmem
    exact ⟨cfg, hcfg, e, he, hpfx⟩
  have hV6 : q ∈ n.outgoing.prefixesV6 → ∃ cfg ∈ cfgs, ∃ e ∈ cfg.routers, q ∈ e.prefixes := fun hq => by
    obtain ⟨s, hs, -, hmem⟩ := h.prefixesV6_declared hacc hr hn hq
    obtain ⟨cfg, hcfg, e, he, -, hpfx, -⟩ := (h.mem_ipv6Prefixes hacc hs q).1 hmem
    exact ⟨cfg, hcfg, e, he, hpfx⟩
  obtain hq | hq | ⟨l, hl, hq⟩ | ⟨l, hl, hq⟩ := mem_writtenOut.1 hq
  · exact hV4 hq
  · exact hV6 hq
  · have htells : n.tells (.localPref l.localPref l.ipFamily q) := ⟨l, hl, rfl, rfl, hq⟩
    obtain ⟨-, hq⟩ | ⟨-, hq⟩ := h.advertises hacc hr hn (fun htr hx => htr.localPref_advertises hx) htells
    · exact hV4 hq
    · exact hV6 hq
  · have htells : n.tells (.community l.community l.ipFamily q) := ⟨l, hl, rfl, rfl, hq⟩
    obtain ⟨-, hq⟩ | ⟨-, hq⟩ := h.advertises hacc hr hn (fun htr hx => htr.community_advertises hx) htells
    · exact hV4 hq
    · exact hV6 hq

/-- What the outgoing lists have is in a `network` line of the block or of an imported one. -/
theorem ResultOf.hasNetwork (hacc : Acceptable secrets alwaysBlock cfgs) (h : ResultOf secrets alwaysBlock cfgs c)
    {r : RouterConfig} (hr : r ∈ c.routers) {n : NeighborConfig} (hn : n ∈ r.neighbors) {p : String} {route : Net.IPNet}
    (hp : Net.parseNet p = some route) (hadv : p ∈ n.advertises route) : HasNetwork c r route := by
  obtain ⟨s, hs, hreach, hmem⟩ : ∃ s ∈ c.routers, r.Reaches s ∧
      p ∈ if route.bits = 32 then s.ipv4Prefixes else s.ipv6Prefixes := by
    unfold NeighborConfig.advertises at hadv
    by_cases hb : route.bits = 32
    · simp only [if_pos hb] at hadv ⊢
      exact h.prefixesV4_declared hacc hr hn hadv
    · simp only [if_neg hb] at hadv ⊢
      exact h.prefixesV6_declared hacc hr hn hadv
  exact ⟨s, hs, hreach, p, (network_mem_familyLines s route p).2 hmem, hp⟩

theorem ResultOf.mem_advertises (hacc : Acceptable secrets alwaysBlock cfgs) (h : ResultOf secrets alwaysBlock cfgs c)
    (hone : ∀ cfg ∈ cfgs, (cfg.routers.map Router.vrf).Nodup) {r : RouterConfig} (hr : r ∈ c.routers)
    {n : NeighborConfig} (hn : n ∈ r.neighbors) {p : String} {route : Net.IPNet}
    (hf : forCIDRString p = netFamily route) :
    p ∈ n.advertises route ↔ neighborHasIPFamily n (netFamily route) = true ∧
      ∃ cfg e a, Contributes cfgs r.vrf n.id cfg e a ∧ Allows cfg e a p := by
  have hunion := h.unionNeighbor hacc hone hr hn
  unfold NeighborConfig.advertises
  unfold netFamily at hf ⊢
  split
  · rw [if_pos ‹_›] at hf
    simp [hunion.prefixesV4, hf]
  · rw [if_neg ‹_›] at hf
    simp [hunion.prefixesV6, hf]

theorem ResultOf.servesUnicast_iff (hacc : Acceptable secrets alwaysBlock cfgs)
    (h : ResultOf secrets alwaysBlock cfgs c) {r : RouterConfig} (hr : r ∈ c.routers) {n : NeighborConfig}
    (hn : n ∈ r.neighbors) :
    (n.addressFamilies.elems = [] ∨ addressFamilyUnicast ∈ n.addressFamilies.elems) ↔
    ServesUnicast cfgs r.vrf n.id := by
  rw [h.addressFamilies_nil_iff hacc hr hn, h.addressFamily_iff hacc hr hn, ServesUnicast]

/-- The clauses set what is asked for. -/
theorem ResultOf.setsAsked (hacc : Acceptable secrets alwaysBlock cfgs) (h : ResultOf secrets alwaysBlock cfgs c)
    {r : RouterConfig} (hr : r ∈ c.routers) {n : NeighborConfig} (hn : n ∈ r.neighbors) {p : String} {route : Net.IPNet}
    (hf : forCIDRString p = netFamily route) {outcome : Option (List SetClause)}
    (hpolicy : OutgoingPolicy n p route outcome) {sets : List SetClause} (hsets : outcome = some sets) :
    SetsAsked cfgs r.vrf n.id p (netFamily route) sets := by
  refine ⟨fun k => ?_, fun v => ?_⟩
  · rw [hpolicy.communities sets hsets k]
    constructor
    · rintro ⟨l, hl, rfl, hpl⟩
      obtain ⟨f, -, -, hasks⟩ := (h.community_iff hacc hr hn l.community l.ipFamily p).1 ⟨l, hl, rfl, rfl, hpl⟩
      rwa [← hf, hasks.1]
    · intro hasks
      obtain ⟨l, hl, hk, -, hpl⟩ := (h.community_iff hacc hr hn k _ p).2 ⟨_, netFamily_cases route, rfl, hasks⟩
      exact ⟨l, hl, hk, hpl⟩
  · rw [hpolicy.localPref sets hsets v]
    constructor
    · rintro ⟨l, hl, rfl, hpl⟩
      obtain ⟨f, -, -, hasks⟩ := (h.localPref_iff hacc hr hn l.localPref l.ipFamily p).1 ⟨l, hl, rfl, rfl, hpl⟩
      rwa [← hf, hasks.1]
    · intro hasks
      obtain ⟨l, hl, hv, -, hpl⟩ := (h.localPref_iff hacc hr hn v _ p).2 ⟨_, netFamily_cases route, rfl, hasks⟩
      exact ⟨l, hl, hv, hpl⟩

theorem ResultOf.outgoingPolicy (hacc : Acceptable secrets alwaysBlock cfgs) (h : ResultOf secrets alwaysBlock cfgs c)
    (hids : c.IdsApart) {r : RouterConfig} (hr : r ∈ c.routers) {n : NeighborConfig} (hn : n ∈ r.neighbors) {p : String}
    {route : Net.IPNet} (hp : Net.parseNet p = some route) (hcanon : WrittenAs cfgs p route) :
    OutgoingPolicy n p route (evalRouteMap (renderedFilters c) (routeMapName n.id .outward) route) := by
  refine FrrK8s.outgoingPolicy hids (fun m hm => ?_) (List.mem_flatMap.2 ⟨r, hr, hn⟩) hp (fun q hq hroute => ?_)
  · obtain ⟨s, hs, hm⟩ := List.mem_flatMap.1 hm
    exact h.outReady hacc hs hm
  · obtain ⟨cfg, hcfg, e, he, hdeclared⟩ := h.writtenOut_declared hacc hr hn hq
    exact hcanon cfg hcfg e he q hdeclared hroute

theorem ResultOf.told_iff_asked (hacc : Acceptable secrets alwaysBlock cfgs) (h : ResultOf secrets alwaysBlock cfgs c)
    (hids : c.IdsApart) (hone : ∀ cfg ∈ cfgs, (cfg.routers.map Router.vrf).Nodup) (speaker : Speaker c)
    {r : RouterConfig} (hr : r ∈ c.routers) {n : NeighborConfig} (hn : n ∈ r.neighbors) {p : String} {route : Net.IPNet}
    (hp : Net.parseNet p = some route) (hplain : ¬ IsMappedPrefix p) (hcanon : WrittenAs cfgs p route) :
    (∃ sets, speaker.tells r.vrf n route sets) ↔ AsksFor cfgs r.vrf n p (netFamily route) := by
  have hpolicy := h.outgoingPolicy hacc hids hr hn hp hcanon
  have hadv := h.mem_advertises hacc hone hr hn (forCIDRString_netFamily hp hplain)
  have hact := h.activates_unicast_iff hacc hr hn (netFamily_cases route)
  rw [h.servesUnicast_iff hacc hr hn] at hact
  constructor
  · rintro ⟨sets, htold⟩
    have hlet := speaker.letOut r hr n hn route sets htold
    have hpermits := hpolicy.permits.1 (by rw [hlet.permitted]; rfl)
    exact ⟨(hadv.1 hpermits).1, (hact.1 hlet.activated).2, (hadv.1 hpermits).2⟩
  · intro hasks
    have hpermits := hadv.2 ⟨hasks.covered, hasks.allowed⟩
    obtain ⟨sets, hsets⟩ := Option.isSome_iff_exists.1 (hpolicy.permits.2 hpermits)
    exact ⟨sets, speaker.announces r hr n hn route sets (h.hasNetwork hacc hr hn hp hpermits)
      ⟨hact.2 ⟨hasks.covered, hasks.unicast⟩, hsets⟩⟩

/-- What a neighbor is told comes with what is asked for. -/
theorem ResultOf.told_setsAsked (hacc : Acceptable secrets alwaysBlock cfgs) (h : ResultOf secrets alwaysBlock cfgs c)
    (hids : c.IdsApart) (speaker : Speaker c) {r : RouterConfig} (hr : r ∈ c.routers) {n : NeighborConfig}
    (hn : n ∈ r.neighbors) {p : String} {route : Net.IPNet} (hp : Net.parseNet p = some route)
    (hplain : ¬ IsMappedPrefix p) (hcanon : WrittenAs cfgs p route) {sets : List SetClause}
    (htold : speaker.tells r.vrf n route sets) : SetsAsked cfgs r.vrf n.id p (netFamily route) sets :=
  h.setsAsked hacc hr hn (forCIDRString_netFamily hp hplain) (h.outgoingPolicy hacc hids hr hn hp hcanon)
    (speaker.letOut r hr n hn route sets htold).permitted

/-- A contributor that asks for unicast is served among more configurations as well, where none of these takes it
away. -/
theorem ServesUnicast.of_subset {cfgs' : List FRRConfiguration} (hsub : ∀ cfg ∈ cfgs, cfg ∈ cfgs')
    (hkept : UnicastKept cfgs') {vrf id : String} (hcon : ∃ cfg e a, Contributes cfgs vrf id cfg e a)
    (h : ServesUnicast cfgs vrf id) : ServesUnicast cfgs' vrf id := by
  obtain hopen | ⟨cfg, e, a, hcon, hlists⟩ := h
  · obtain ⟨cfg, e, a, hcon⟩ := hcon
    exact hkept vrf id cfg e a (hcon.of_subset hsub) (hopen cfg e a hcon)
  · exact Or.inr ⟨cfg, e, a, hcon.of_subset hsub, hlists⟩

end

/-- **A peer is told what the configurations allow and nothing else, with the communities and the local preference they
ask for**, whatever FRR that loads the text, and whatever its peers send: nothing that was learned from one goes out to
another unless it is allowed as well. -/
theorem offered_iff (secrets : SortedMap String Secret) (alwaysBlock : List Net.IPNet) (cfgs : List FRRConfiguration)
    (c : Config) (h : apiToFRR ⟨cfgs, secrets⟩ alwaysBlock = .ok c) (hids : c.IdsApart)
    (hone : ∀ cfg ∈ cfgs, (cfg.routers.map Router.vrf).Nodup) (speaker : Speaker c) (r : RouterConfig)
    (hr : r ∈ c.routers) (n : NeighborConfig) (hn : n ∈ r.neighbors) (p : String) (route : Net.IPNet)
    (hp : Net.parseNet p = some route) (hplain : ¬ IsMappedPrefix p) (hcanon : WrittenAs cfgs p route) :
    ((∃ sets, speaker.tells r.vrf n route sets) ↔ AsksFor cfgs r.vrf n p (netFamily route)) ∧
      ∀ sets, speaker.tells r.vrf n route sets → SetsAsked cfgs r.vrf n.id p (netFamily route) sets := by
  have hacc := apiToFRR_acceptable h
  have hres := apiToFRR_result h
  refine ⟨hres.told_iff_asked hacc hids hone speaker hr hn hp hplain hcanon, fun sets htold => ?_⟩
  exact hres.told_setsAsked hacc hids speaker hr hn hp hplain hcanon htold

/-- One configuration, none of whose neighbors lists an address family. -/
theorem AsksFor.of_one {cfg : FRRConfiguration}
    (hopen : ∀ e ∈ cfg.routers, ∀ a ∈ e.neighbors, a.addressFamilies.elems = []) {vrf : String} {n : NeighborConfig}
    {e : Router} {a : Neighbor} (hcon : Contributes [cfg] vrf n.id cfg e a) {f : Family}
    (hcovered : neighborHasIPFamily n f = true) {p : String} (hallows : Allows cfg e a p) :
    AsksFor [cfg] vrf n p f := by
  refine ⟨hcovered, Or.inl (fun cfg' e a hcon => ?_), cfg, e, a, hcon, hallows⟩
  cases List.mem_singleton.1 hcon.cfg_mem
  exact hopen e hcon.entry_mem a hcon.mem

/-- The network `192.0.2.0/24`. -/
def documentation : Net.IPNet := Net.IPNet.mask 32 24 0xc0000200 Net.v4_bits (by decide)

theorem documentation_plain : Net.parseNet "192.0.2.0/24" = some documentation ∧ ¬ IsMappedPrefix "192.0.2.0/24" := by
  refine ⟨by decide +kernel, ?_⟩
  rintro ⟨c, hc, hbits, -⟩
  have hwritten : (Net.parseCIDR "192.0.2.0/24").map (fun c => c.addr.bitLen) = some 32 := by decide +kernel
  rw [hc] at hwritten
  cases hbits.symm.trans (Option.some.inj hwritten)

def importedResult : Config := (apiToFRR ⟨[imported], .empty⟩ []).toOption.getD {}

/-- The prefix of the VRF `red` goes out to the neighbor of the default VRF, which imports it. -/
theorem offered_iff_imported : apiToFRR ⟨[imported], .empty⟩ [] = .ok importedResult ∧
    ∀ r ∈ importedResult.routers, ∀ n ∈ r.neighbors,
      ∃ sets, (Speaker.unreserved importedResult).tells r.vrf n documentation sets ∧
      (applied sets).localPref = some 200 := by
  have hok : apiToFRR ⟨[imported], .empty⟩ [] = .ok importedResult := eq_ok_of_isOk (by decide +kernel) {}
  have hids : importedResult.IdsApart := by unfold Config.IdsApart; decide +kernel
  have hcanon : WrittenAs [imported] "192.0.2.0/24" documentation := by
    unfold WrittenAs
    decide +kernel
  have hsession : ∀ r ∈ importedResult.routers, ∀ n ∈ r.neighbors,
      r.vrf = "" ∧ n.id = "10.0.0.1" ∧ neighborHasIPFamily n .ipv4 = true := by decide +kernel
  refine ⟨hok, fun r hr n hn => ?_⟩
  obtain ⟨hvrf, hid, hcovered⟩ := hsession r hr n hn
  obtain ⟨hiff, hsets⟩ := offered_iff .empty [] [imported] importedResult hok hids (by decide +kernel)
    (.unreserved _) r hr n hn "192.0.2.0/24" documentation documentation_plain.1 documentation_plain.2 hcanon
  obtain ⟨e, he, a, ha, hdefault, hneighbor, hallowed, hasked⟩ : ∃ e ∈ imported.routers, ∃ a ∈ e.neighbors,
      e.vrf = "" ∧ neighborID "" a = "10.0.0.1" ∧
        (a.toAdvertise.allowed.mode ≠ .all ∧ "192.0.2.0/24" ∈ a.toAdvertise.allowed.prefixes) ∧
        ∃ x ∈ a.toAdvertise.prefixesWithLocalPref, x.localPref = 200 ∧ "192.0.2.0/24" ∈ x.prefixes := by decide +kernel
  have hcon : Contributes [imported] r.vrf n.id imported e a :=
    ⟨List.mem_singleton_self _, he, hdefault.trans hvrf.symm, ha, hid ▸ hvrf ▸ hneighbor⟩
  obtain ⟨sets, htold⟩ := hiff.2 (.of_one (by decide) hcon hcovered ((if_neg hallowed.1).mpr hallowed.2))
  exact ⟨sets, htold, ((hsets sets htold).localPref 200).2 ⟨by decide +kernel, imported, e, a, hcon, hasked⟩⟩

end FrrK8s
