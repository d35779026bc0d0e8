import FrrK8s.Precedence
import FrrK8s.Timers
/-!
# Peers — the addresses of the sessions

A neighbor is identified by the text of its address, so neighbors of one VRF that spell one address in two ways are kept
apart (`apiToFRR_peers_iff`).  The connected check is disabled by the families a neighbor is enabled for, which are
those of its session unless `dualStackAddressFamily` is set (`apiToFRR_connectedCheck_iff`).  A local ASN is refused for
a neighbor of the router's own ASN, and not for one whose ASN is `internal` (`apiToFRR_localASN_iff`).
-/
namespace FrrK8s

/-- Both texts are of one IP address (`net.ParseIP`). -/
def SameAddress (s t : String) : Prop := ∃ ip, Net.parseIP s = some ip ∧ Net.parseIP t = some ip

theorem SameAddress.ne_empty {s t : String} (h : SameAddress s t) : s ≠ "" ∧ t ≠ "" := by
  obtain ⟨ip, hs, ht⟩ := h
  refine ⟨?_, ?_⟩
  · rintro rfl
    cases hs
  · rintro rfl
    cases ht

/-- **No router has two neighbors of one address.** -/
def OneNeighborEach (c : Config) : Prop :=
  ∀ r ∈ c.routers, ∀ n ∈ r.neighbors, ∀ n' ∈ r.neighbors, SameAddress n.addr n'.addr → n = n'

/-- Declared neighbors of one VRF and one address are merged into one neighbor, which has what either asks for. -/
def MergedByAddress (secrets : SortedMap String Secret) (cfgs : List FRRConfiguration) (c : Config) : Prop :=
  ∀ vrf, ∀ a ∈ declaredIn cfgs vrf, ∀ a' ∈ declaredIn cfgs vrf, SameAddress a.address a'.address →
    ∃ r ∈ c.routers, r.vrf = vrf ∧ ∃ n ∈ r.neighbors, (n.id = neighborID vrf a ∧ ComparedOf secrets a n) ∧
      n.id = neighborID vrf a' ∧ ComparedOf secrets a' n

/-- Two of these neighbors of a VRF spell one address in two ways. -/
def SpelledTwice (declared : String → Neighbor → Prop) : Prop :=
  ∃ vrf a a', declared vrf a ∧ declared vrf a' ∧ a.address ≠ a'.address ∧ SameAddress a.address a'.address

section

variable {secrets : SortedMap String Secret} {alwaysBlock : List Net.IPNet} {cfgs : List FRRConfiguration} {c : Config}

theorem mem_declaredIn {vrf : String} {a : Neighbor} :
    a ∈ declaredIn cfgs vrf ↔ ∃ cfg e, Contributes cfgs vrf (neighborID vrf a) cfg e a := by
  rw [← mem_contributors]
  unfold contributors
  rw [List.mem_filter, decide_eq_true rfl, and_iff_left rfl]

theorem Contributes.checks (hacc : Acceptable secrets alwaysBlock cfgs) {vrf id : String} {cfg : FRRConfiguration}
    {e : Router} {a : Neighbor} (hcon : Contributes cfgs vrf id cfg e a) : NeighborChecks a (localProfiles cfg) := by
  obtain ⟨m, -, hm, -⟩ := hcon.translated hacc
  exact ((neighborToFRR_eq_ok ..).1 hm).1

/-- A neighbor with an address has an ID of that address. -/
theorem Contributes.interface_eq (hacc : Acceptable secrets alwaysBlock cfgs) {vrf id : String} {cfg : FRRConfiguration}
    {e : Router} {a : Neighbor} (hcon : Contributes cfgs vrf id cfg e a) (ha : a.address ≠ "") : a.interface = "" :=
  not_not.1 (fun hi => (hcon.checks hacc).onePeer ⟨ha, hi⟩)

theorem neighborID_eq_iff {vrf : String} {a a' : Neighbor} (ha : a.interface = "") (ha' : a'.interface = "") :
    neighborID vrf a = neighborID vrf a' ↔ a.address = a'.address := by
  unfold neighborID
  rw [if_neg (not_not.2 ha), if_neg (not_not.2 ha')]
  exact ⟨fun h => String.append_left_inj _ |>.1 h, fun h => by rw [h]⟩

/-- Two declared neighbors of one address have one ID exactly when they spell it alike. -/
theorem SameAddress.id_eq_iff (hacc : Acceptable secrets alwaysBlock cfgs) {vrf : String} {a a' : Neighbor}
    (h : SameAddress a.address a'.address) (ha : a ∈ declaredIn cfgs vrf) (ha' : a' ∈ declaredIn cfgs vrf) :
    neighborID vrf a = neighborID vrf a' ↔ a.address = a'.address := by
  obtain ⟨cfg, e, hcon⟩ := mem_declaredIn.1 ha
  obtain ⟨cfg', e', hcon'⟩ := mem_declaredIn.1 ha'
  exact neighborID_eq_iff (hcon.interface_eq hacc h.ne_empty.1) (hcon'.interface_eq hacc h.ne_empty.2)

theorem oneNeighborEach_iff (h : apiToFRR ⟨cfgs, secrets⟩ alwaysBlock = .ok c) :
    OneNeighborEach c ↔ ¬ SpelledTwice (IsFirst cfgs) := by
  have hacc := apiToFRR_acceptable h
  have hres := apiToFRR_result h
  constructor
  · rintro hone ⟨vrf, a, a', ha, ha', hne, hsame⟩
    obtain ⟨r, hr, rfl, n, hn, -, haddr, -⟩ := ha.exists_neighbor h
    obtain ⟨r', hr', hvrf, n', hn', -, haddr', -⟩ := ha'.exists_neighbor h
    obtain rfl := hres.router_inj hr' hr hvrf
    have heq : n = n' := hone r' hr' n hn n' hn' (by rw [haddr, haddr']; exact hsame)
    apply hne
    rw [← haddr, ← haddr', heq]
  · intro hspelled r hr n hn n' hn' hsame
    obtain ⟨a, ha, hid, hident⟩ := apiToFRR_first h hr hn
    obtain ⟨a', ha', hid', hident'⟩ := apiToFRR_first h hr hn'
    have haddr : n.addr = a.address := congrArg Identity.addr hident
    have haddr' : n'.addr = a'.address := congrArg Identity.addr hident'
    rw [haddr, haddr'] at hsame
    have heq : a.address = a'.address := by
      by_contra hne
      exact hspelled ⟨r.vrf, a, a', ha, ha', hne, hsame⟩
    apply hres.neighbor_inj hr hn hn'
    rw [← hid, ← hid']
    exact (hsame.id_eq_iff hacc (mem_declaredIn.2 ha.contributes) (mem_declaredIn.2 ha'.contributes)).2 heq

theorem mergedByAddress_iff (h : apiToFRR ⟨cfgs, secrets⟩ alwaysBlock = .ok c) :
    MergedByAddress secrets cfgs c ↔ ¬ SpelledTwice (fun vrf a => a ∈ declaredIn cfgs vrf) := by
  have hacc := apiToFRR_acceptable h
  have hres := apiToFRR_result h
  constructor
  · rintro hmerged ⟨vrf, a, a', ha, ha', hne, hsame⟩
    obtain ⟨r, -, -, n, -, ⟨hid, -⟩, hid', -⟩ := hmerged vrf a ha a' ha' hsame
    exact hne ((hsame.id_eq_iff hacc ha ha').1 (hid.symm.trans hid'))
  · intro hspelled vrf a ha a' ha' hsame
    have heq : a.address = a'.address := by
      by_contra hne
      exact hspelled ⟨vrf, a, a', ha, ha', hne, hsame⟩
    have hids : neighborID vrf a = neighborID vrf a' := (hsame.id_eq_iff hacc ha ha').2 heq
    obtain ⟨cfg, e, hcon⟩ := mem_declaredIn.1 ha
    obtain ⟨cfg', e', hcon'⟩ := mem_declaredIn.1 ha'
    obtain ⟨r, hr, rfl, n, hn, hid⟩ := hres.exists_neighbor hacc hcon
    rw [← hids, ← hid] at hcon'
    rw [← hid] at hcon
    exact ⟨r, hr, rfl, n, hn, ⟨hid, hres.comparedOf hacc hr hn hcon⟩, hid.trans hids, hres.comparedOf hacc hr hn hcon'⟩

/-- **There is one neighbor for each address exactly when no address is spelled in two ways.**  For the neighbors of the
result this is asked of the first neighbor declared with each ID, whose address they have. -/
theorem apiToFRR_peers_iff (h : apiToFRR ⟨cfgs, secrets⟩ alwaysBlock = .ok c) :
    (OneNeighborEach c ↔ ¬ SpelledTwice (IsFirst cfgs)) ∧
      (MergedByAddress secrets cfgs c ↔ ¬ SpelledTwice (fun vrf a => a ∈ declaredIn cfgs vrf)) :=
  ⟨oneNeighborEach_iff h, mergedByAddress_iff h⟩

end

/-- A router and its sessions. -/
def peering (neighbors : List Neighbor) : FRRConfiguration :=
  { name := "peering", routers := [{ asn := 64512, neighbors := neighbors }] }

/-- One session, declared twice. -/
def declaredTwice : FRRConfiguration :=
  peering [{ asn := 64513, address := "2001:db8::1" }, { asn := 64513, address := "2001:db8::1" }]

theorem apiToFRR_peers_iff_declaredTwice : ∃ c, apiToFRR ⟨[declaredTwice], .empty⟩ [] = .ok c ∧
    OneNeighborEach c ∧ MergedByAddress .empty [declaredTwice] c := by
  obtain ⟨c, hc⟩ := (isOk_iff (apiToFRR ⟨[declaredTwice], .empty⟩ [])).1 (by decide +kernel)
  have haddress : ∀ vrf, ∀ a ∈ declaredIn [declaredTwice] vrf, a.address = "2001:db8::1" := by
    intro vrf a ha
    obtain ⟨cfg, e, hcon⟩ := mem_declaredIn.1 ha
    have hall : ∀ cfg ∈ [declaredTwice], ∀ e ∈ cfg.routers, ∀ a ∈ e.neighbors, a.address = "2001:db8::1" := by decide
    exact hall cfg hcon.cfg_mem e hcon.entry_mem a hcon.mem
  obtain ⟨hone, hmerged⟩ := apiToFRR_peers_iff hc
  refine ⟨c, hc, hone.2 ?_, hmerged.2 ?_⟩
  · rintro ⟨vrf, a, a', ha, ha', hne, -⟩
    exact hne ((haddress vrf a (mem_declaredIn.2 ha.contributes)).trans
      (haddress vrf a' (mem_declaredIn.2 ha'.contributes)).symm)
  · rintro ⟨vrf, a, a', ha, ha', hne, -⟩
    exact hne ((haddress vrf a ha).trans (haddress vrf a' ha').symm)

/-- One address in two spellings, and two AS numbers for it. -/
def spelledTwice : FRRConfiguration :=
  peering [{ asn := 64513, address := "2001:db8::1" }, { asn := 64514, address := "2001:db8:0::1" }]

theorem peers_apart : ∃ c, apiToFRR ⟨[spelledTwice], .empty⟩ [] = .ok c ∧
    c.routers.map (fun r => r.neighbors.map (fun n => (n.addr, n.asn))) =
      [[("2001:db8:0::1", "64514"), ("2001:db8::1", "64513")]] ∧ ¬ OneNeighborEach c := by
  obtain ⟨c, hc, hpeers⟩ := (toOption_map_eq_some (apiToFRR ⟨[spelledTwice], .empty⟩ [])
    (fun c => c.routers.map (fun r => r.neighbors.map (fun n => (n.addr, n.asn))))
    [[("2001:db8:0::1", "64514"), ("2001:db8::1", "64513")]]).1 (by decide +kernel)
  refine ⟨c, hc, hpeers, fun hone => ?_⟩
  obtain ⟨r, hr, hneighbors⟩ := List.mem_map.1 (hpeers ▸ List.mem_singleton_self _)
  obtain ⟨n, hn, heq⟩ := List.mem_map.1 (hneighbors ▸ List.mem_cons_self)
  obtain ⟨n', hn', heq'⟩ := List.mem_map.1 (hneighbors ▸ List.mem_cons_of_mem _ (List.mem_singleton_self _))
  have haddr := (Prod.mk.inj heq).1
  have haddr' := (Prod.mk.inj heq').1
  have hsame : SameAddress n.addr n'.addr := by
    rw [haddr, haddr']
    exact ⟨_, rfl, by decide +kernel⟩
  rw [hone r hr n hn n' hn' hsame, haddr'] at haddr
  exact absurd haddr (by decide)

/-! ## The connected check -/

/-- The text is of an IPv6 address, as `internal/ipfamily` tells the families apart. -/
def IsIPv6 (s : String) : Prop := ∃ ip, Net.parseIP s = some ip ∧ Net.to4 ip = none

/-- The peer is in another AS: `asn` says so, or is its number. -/
def IsEBGP (routerASN : Nat) (asn : String) : Prop :=
  asn = externalASNMode ∨ ∃ k : Nat, asn = toString k ∧ k ≠ routerASN

/-- **The connected check is disabled exactly for IPv6 eBGP sessions that are not multihop.** -/
def ConnectedCheckDisabled (c : Config) : Prop :=
  ∀ r ∈ c.routers, ∀ n ∈ r.neighbors, n.addr ≠ "" → (.disableConnectedCheck ∈ sessionLines r.myASN n ↔
    IsIPv6 n.addr ∧ n.ebgpMultiHop = false ∧ IsEBGP r.myASN n.asn)

/-- An IPv6 eBGP session that is not multihop is enabled for both families. -/
def DualStackSingleHop (cfgs : List FRRConfiguration) : Prop :=
  ∃ cfg ∈ cfgs, ∃ e ∈ cfg.routers, ∃ a ∈ e.neighbors, IsFirst cfgs e.vrf a ∧ IsIPv6 a.address ∧ a.ebgpMultiHop = false ∧
    IsEBGP e.asn (asnFor a) ∧ a.dualStackAddressFamily = true

theorem disableConnectedCheck_mem_sessionLines (routerASN : Nat) (n : NeighborConfig) :
    .disableConnectedCheck ∈ sessionLines routerASN n ↔
      mustDisableConnectedCheck n.ipFamily routerASN n.asn n.iface n.ebgpMultiHop = true := by
  have hif : ∀ (p : Prop) [Decidable p] (l : SessionLine), SessionLine.disableConnectedCheck ∈ (if p then [l] else []) ↔
      p ∧ SessionLine.disableConnectedCheck = l := by
    intro p _ l
    split <;> simp [*]
  have hremote : SessionLine.disableConnectedCheck ≠ (if n.iface ≠ "" then .interfaceRemoteAs n.asn
      else .remoteAs n.asn) := by
    split <;> simp
  have htimers : SessionLine.disableConnectedCheck ∉ linesOf (timersTokens n) := by
    unfold timersTokens
    cases n.keepaliveTime <;> cases n.holdTime <;> simp [linesOf_text, linesOf_line, linesOf_nil]
  unfold sessionLines sessionTokens
  simp only [linesOf_append, linesOf_lineIf, linesOf_lineOrBlank, linesOf_text, linesOf_line, linesOf_nil,
    List.mem_append, List.mem_singleton, hif, hremote, htimers]
  cases n.port <;> cases n.connectTime <;> simp [linesOf_text, linesOf_line, linesOf_nil]

theorem isEBGP_asnFor {a : Neighbor} {bfdProfiles : SortedMap String BFDProfile} (ha : NeighborChecks a bfdProfiles)
    (routerASN : Nat) : IsEBGP routerASN (asnFor a) ↔
      asnFor a ≠ "internal" ∧ (asnFor a = "external" ∨ toString routerASN ≠ asnFor a) := by
  unfold IsEBGP
  by_cases hd : a.dynamicASN = ""
  · have hasn : asnFor a = toString a.asn := if_neg (not_not.2 hd)
    rw [hasn]
    constructor
    · rintro (h | ⟨k, hk, hne⟩)
      · exact absurd h (decimal_ne a.asn (by decide))
      · refine ⟨decimal_ne a.asn (by decide), Or.inr fun h => hne ?_⟩
        exact decimal_inj (hk.symm.trans h.symm)
    · rintro ⟨-, h | h⟩
      · exact absurd h (decimal_ne a.asn (by decide))
      · exact Or.inr ⟨a.asn, rfl, fun heq => h (by rw [heq])⟩
  · have hasn : asnFor a = a.dynamicASN := if_pos hd
    rw [hasn]
    by_cases hint : a.dynamicASN = "internal"
    · rw [hint]
      refine ⟨?_, fun h => (h.1 rfl).elim⟩
      rintro (h | ⟨k, hk, -⟩)
      · exact absurd h (by decide)
      · exact absurd hk.symm (decimal_ne k (by decide))
    · have hext : a.dynamicASN = "external" := by
        by_contra hext
        exact ha.dynamicASN ⟨hd, hint, hext⟩
      rw [hext]
      exact ⟨fun _ => ⟨by decide, Or.inl rfl⟩, fun _ => Or.inl rfl⟩

/-- A neighbor with an address is of its family, unless it is enabled for both. -/
theorem addressFamily_ipv6_iff {a : Neighbor} {f : Family} (ha : a.address ≠ "") (hi : a.interface = "")
    (h : addressFamilyForNeighbor a = .ok f) : f = .ipv6 ↔ a.dualStackAddressFamily = false ∧ IsIPv6 a.address := by
  unfold addressFamilyForNeighbor at h
  simp only [bind_eq_ok, pure_eq_ok] at h
  obtain ⟨g, hg, rfl⟩ := h
  rw [if_pos ha] at hg
  unfold forAddresses forAddress at hg
  unfold IsIPv6
  cases hp : Net.parseIP a.address with
  | none => simp [hp] at hg
  | some ip =>
    simp only [hp, Except.ok.injEq] at hg
    subst hg
    cases a.dualStackAddressFamily <;> simp [hi]

section

variable {secrets : SortedMap String Secret} {alwaysBlock : List Net.IPNet} {cfgs : List FRRConfiguration} {c : Config}

theorem ResultOf.myASN_eq (hacc : Acceptable secrets alwaysBlock cfgs) (h : ResultOf secrets alwaysBlock cfgs c)
    {r : RouterConfig} (hr : r ∈ c.routers) {cfg : FRRConfiguration} (hcfg : cfg ∈ cfgs) {e : Router}
    (he : e ∈ cfg.routers) (hvrf : e.vrf = r.vrf) : r.myASN = e.asn := by
  obtain ⟨d, hd⟩ := (isOk_iff _).1 (hacc.entries cfg hcfg e he)
  obtain ⟨hasn, hdvrf, -⟩ := entryFor_fields hd
  exact (h.tells_of_mem hr (.myASN e.asn)).2 ⟨cfg, hcfg, e, he, d, hd, hdvrf.trans hvrf, hasn⟩

/-- The check of a neighbor with an address is disabled by what its contributor asks for. -/
theorem ResultOf.disableConnectedCheck_iff (hacc : Acceptable secrets alwaysBlock cfgs)
    (h : ResultOf secrets alwaysBlock cfgs c) {r : RouterConfig} (hr : r ∈ c.routers) {n : NeighborConfig}
    (hn : n ∈ r.neighbors) {cfg : FRRConfiguration} {e : Router} {a : Neighbor}
    (hcon : Contributes cfgs r.vrf n.id cfg e a) (haddr : n.addr = a.address) (hiface : n.iface = a.interface)
    (hne : n.addr ≠ "") :
    .disableConnectedCheck ∈ sessionLines r.myASN n ↔
      a.dualStackAddressFamily = false ∧ IsIPv6 n.addr ∧ n.ebgpMultiHop = false ∧ IsEBGP r.myASN n.asn := by
  have hcompared := h.comparedOf hacc hr hn hcon
  rw [haddr] at hne
  have hinterface := hcon.interface_eq hacc hne
  have hfamily := addressFamily_ipv6_iff hne hinterface hcompared.ipFamily
  have hebgp := isEBGP_asnFor (hcon.checks hacc) r.myASN
  rw [disableConnectedCheck_mem_sessionLines, haddr, hcompared.asn, ← and_assoc, ← hfamily, hebgp, hiface, hinterface]
  unfold mustDisableConnectedCheck
  by_cases hv6 : n.ipFamily = .ipv6
  · cases n.ebgpMultiHop with
    | true => simp [hv6]
    | false =>
      by_cases hint : asnFor a = "internal"
      · simp [hv6, hint]
      · by_cases hext : asnFor a = "external"
        · simp [hv6, hext]
        · simp [hv6, hint, hext]
  · simp [hv6]

/-- **The connected check is disabled exactly for IPv6 eBGP sessions that are not multihop, where none of them is
enabled for both families.** -/
theorem apiToFRR_connectedCheck_iff (h : apiToFRR ⟨cfgs, secrets⟩ alwaysBlock = .ok c) :
    ConnectedCheckDisabled c ↔ ¬ DualStackSingleHop cfgs := by
  have hacc := apiToFRR_acceptable h
  have hres := apiToFRR_result h
  constructor
  · rintro hall ⟨cfg, hcfg, e, he, a, ha, hfirst, hv6, hhop, hebgp, hdual⟩
    obtain ⟨r, hr, hvrf, n, hn, hid, haddr, hiface⟩ := hfirst.exists_neighbor h
    have hcon : Contributes cfgs r.vrf n.id cfg e a := ⟨hcfg, he, hvrf.symm, ha, by rw [hid, hvrf]⟩
    have hne : n.addr ≠ "" := by
      obtain ⟨ip, hip, -⟩ := hv6
      rw [haddr]
      intro heq
      rw [heq] at hip
      cases hip
    have hcompared := hres.comparedOf hacc hr hn hcon
    have hline := (hall r hr n hn hne).2 ⟨haddr ▸ hv6, hcompared.ebgpMultiHop.trans hhop,
      by rw [hcompared.asn, hres.myASN_eq hacc hr hcfg he hvrf.symm]; exact hebgp⟩
    have hfalse := ((hres.disableConnectedCheck_iff hacc hr hn hcon haddr hiface hne).1 hline).1
    rw [hdual] at hfalse
    cases hfalse
  · intro hnone r hr n hn hne
    obtain ⟨a, hfirst, hid, hident⟩ := apiToFRR_first h hr hn
    have haddr : n.addr = a.address := congrArg Identity.addr hident
    have hiface : n.iface = a.interface := congrArg Identity.iface hident
    obtain ⟨cfg, e, hcon⟩ := hfirst.contributes
    rw [hid] at hcon
    rw [hres.disableConnectedCheck_iff hacc hr hn hcon haddr hiface hne, and_iff_right_iff_imp]
    rintro ⟨hv6, hhop, hebgp⟩
    have hcompared := hres.comparedOf hacc hr hn hcon
    rw [← Bool.not_eq_true]
    intro hdual
    refine hnone ⟨cfg, hcon.cfg_mem, e, hcon.entry_mem, a, hcon.mem, hcon.vrf_eq ▸ hfirst, haddr ▸ hv6,
      hcompared.ebgpMultiHop.symm.trans hhop, ?_, hdual⟩
    rw [← hcompared.asn, ← hres.myASN_eq hacc hr hcon.cfg_mem hcon.entry_mem hcon.vrf_eq]
    exact hebgp

end

theorem apiToFRR_connectedCheck_iff_declaredTwice : ∃ c, apiToFRR ⟨[declaredTwice], .empty⟩ [] = .ok c ∧
    c.routers.map (fun r => r.neighbors.map (sessionLines r.myASN)) = [[[.remoteAs "64513", .disableConnectedCheck]]] ∧
    ConnectedCheckDisabled c := by
  obtain ⟨c, hc, hlines⟩ := (toOption_map_eq_some (apiToFRR ⟨[declaredTwice], .empty⟩ [])
    (fun c => c.routers.map (fun r => r.neighbors.map (sessionLines r.myASN)))
    [[[.remoteAs "64513", .disableConnectedCheck]]]).1 (by decide +kernel)
  refine ⟨c, hc, hlines, (apiToFRR_connectedCheck_iff hc).2 ?_⟩
  rintro ⟨cfg, hcfg, e, he, a, ha, -, -, -, -, hdual⟩
  have hall : ∀ cfg ∈ [declaredTwice], ∀ e ∈ cfg.routers, ∀ a ∈ e.neighbors, a.dualStackAddressFamily = false := by
    decide
  rw [hall cfg hcfg e he a ha] at hdual
  cases hdual

/-- A session over IPv6, enabled for both families. -/
def dualStackSession : FRRConfiguration :=
  peering [{ asn := 64513, address := "2001:db8::1", dualStackAddressFamily := true }]

theorem connectedCheck_dualStack : ∃ c, apiToFRR ⟨[dualStackSession], .empty⟩ [] = .ok c ∧
    c.routers.flatMap (fun r => r.neighbors.map (fun n => (r.myASN, n.addr, n.asn, n.ebgpMultiHop))) =
      [(64512, "2001:db8::1", "64513", false)] ∧
    c.routers.map (fun r => r.neighbors.map (sessionLines r.myASN)) = [[[.remoteAs "64513"]]] ∧
    ¬ ConnectedCheckDisabled c := by
  obtain ⟨c, hc, hlines⟩ := (toOption_map_eq_some (apiToFRR ⟨[dualStackSession], .empty⟩ [])
    (fun c => c.routers.map (fun r => r.neighbors.map (sessionLines r.myASN))) [[[.remoteAs "64513"]]]).1
    (by decide +kernel)
  have hpeers : (apiToFRR ⟨[dualStackSession], .empty⟩ []).toOption.map (fun c => c.routers.flatMap (fun r =>
      r.neighbors.map (fun n => (r.myASN, n.addr, n.asn, n.ebgpMultiHop)))) =
      some [(64512, "2001:db8::1", "64513", false)] := by decide +kernel
  rw [hc] at hpeers
  have hpeers := Option.some.inj hpeers
  refine ⟨c, hc, hpeers, hlines, fun hall => ?_⟩
  obtain ⟨r, hr, hmem⟩ := List.mem_flatMap.1 (hpeers ▸ List.mem_singleton_self _)
  obtain ⟨n, hn, heq⟩ := List.mem_map.1 hmem
  simp only [Prod.mk.injEq] at heq
  obtain ⟨hasn, haddr, hpeer, hhop⟩ := heq
  have hline := (hall r hr n hn (by rw [haddr]; decide)).2 ⟨?_, hhop, ?_⟩
  · have hsession : sessionLines r.myASN n = [.remoteAs "64513"] := by
      have hr' := List.mem_map_of_mem (f := fun r => r.neighbors.map (sessionLines r.myASN)) hr
      rw [hlines, List.mem_singleton] at hr'
      have hn' := List.mem_map_of_mem (f := sessionLines r.myASN) hn
      rwa [hr', List.mem_singleton] at hn'
    rw [hsession] at hline
    exact absurd hline (by decide)
  · rw [haddr]
    exact ⟨_, rfl, by decide +kernel⟩
  · rw [hpeer, hasn]
    exact Or.inr ⟨64513, rfl, by decide⟩

/-! ## The local AS -/

/-- The peer is in the AS of the router: `asn` is its number, or says so. -/
def IsIBGP (routerASN : Nat) (asn : String) : Prop := asn = toString routerASN ∨ asn = internalASNMode

/-- **No session inside the AS has a local ASN.** -/
def LocalASNOutside (c : Config) : Prop :=
  ∀ r ∈ c.routers, ∀ n ∈ r.neighbors, IsIBGP r.myASN n.asn → n.localASN = 0

/-- An accepted neighbor is in the AS of its entry by number, or is declared so. -/
theorem isIBGP_asnFor {a : Neighbor} {bfdProfiles : SortedMap String BFDProfile} (ha : NeighborChecks a bfdProfiles)
    {routerASN : Nat} (h : IsIBGP routerASN (asnFor a)) :
    (a.asn ≠ 0 ∧ a.asn = routerASN) ∨ a.dynamicASN = internalASNMode := by
  by_cases hd : a.dynamicASN = ""
  · have hasn : asnFor a = toString a.asn := if_neg (not_not.2 hd)
    rw [hasn] at h
    refine Or.inl ⟨fun hzero => ha.hasASN ⟨hzero, hd⟩, ?_⟩
    rcases h with h | h
    · exact decimal_inj h
    · exact absurd h (decimal_ne a.asn (by decide))
  · have hasn : asnFor a = a.dynamicASN := if_pos hd
    rw [hasn] at h
    right
    rcases h with h | h
    · by_contra hint
      -- what is left is `external`, which is no number
      have hext : a.dynamicASN = externalASNMode := not_not.1 (fun hext => ha.dynamicASN ⟨hd, hint, hext⟩)
      exact absurd (h.symm.trans hext) (decimal_ne routerASN (by decide))
    · exact h

section

variable {secrets : SortedMap String Secret} {alwaysBlock : List Net.IPNet} {cfgs : List FRRConfiguration} {c : Config}

/-- A contributor in the AS by number has no local ASN. -/
theorem Contributes.localASN_eq (hacc : Acceptable secrets alwaysBlock cfgs) {vrf id : String} {cfg : FRRConfiguration}
    {e : Router} {a : Neighbor} (hcon : Contributes cfgs vrf id cfg e a) (hne : a.asn ≠ 0) (hasn : a.asn = e.asn) :
    a.localASN = 0 := by
  obtain ⟨d, hd⟩ := (isOk_iff _).1 (hacc.entries cfg hcon.cfg_mem e hcon.entry_mem)
  exact not_not.1 (fun hlocal => entryFor_localASN hd hcon.mem ⟨hlocal, hne, hasn⟩)

/-- **No session inside the AS has a local ASN exactly when none that is declared `internal` asks for one.** -/
theorem apiToFRR_localASN_iff (h : apiToFRR ⟨cfgs, secrets⟩ alwaysBlock = .ok c) :
    LocalASNOutside c ↔
      ∀ cfg ∈ cfgs, ∀ e ∈ cfg.routers, ∀ a ∈ e.neighbors, a.dynamicASN = internalASNMode → a.localASN = 0 := by
  have hacc := apiToFRR_acceptable h
  have hres := apiToFRR_result h
  constructor
  · intro hall cfg hcfg e he a ha hint
    obtain ⟨r, hr, -, n, hn, -, hcon⟩ := hres.exists_contributed hacc hcfg he ha
    have hcompared := hres.comparedOf hacc hr hn hcon
    have hasn : n.asn = internalASNMode := by
      rw [hcompared.asn, asnFor, hint]
      rfl
    rw [← hcompared.localASN]
    exact hall r hr n hn (Or.inr hasn)
  · intro hnone r hr n hn hibgp
    obtain ⟨cfg, e, a, hcon⟩ := hres.exists_contributor hacc hr hn
    have hcompared := hres.comparedOf hacc hr hn hcon
    rw [hcompared.localASN]
    rw [hcompared.asn, hres.myASN_eq hacc hr hcon.cfg_mem hcon.entry_mem hcon.vrf_eq] at hibgp
    rcases isIBGP_asnFor (hcon.checks hacc) hibgp with ⟨hne, hasn⟩ | hint
    · exact hcon.localASN_eq hacc hne hasn
    · exact hnone cfg hcon.cfg_mem e hcon.entry_mem a hcon.mem hint

end

/-- A session inside the AS and one to another AS, the latter with a local ASN. -/
def localASNOutside : FRRConfiguration :=
  peering [{ dynamicASN := internalASNMode, address := "10.0.0.1" },
  { asn := 64513, address := "10.0.0.2", localASN := 64999 }]

theorem apiToFRR_localASN_iff_outside : ∃ c, apiToFRR ⟨[localASNOutside], .empty⟩ [] = .ok c ∧ LocalASNOutside c := by
  obtain ⟨c, hc⟩ := (isOk_iff (apiToFRR ⟨[localASNOutside], .empty⟩ [])).1 (by decide +kernel)
  exact ⟨c, hc, (apiToFRR_localASN_iff hc).2 (by decide)⟩

/-- A session that is declared to be inside the AS, with a local ASN. -/
def localASNInside : FRRConfiguration :=
  peering [{ dynamicASN := internalASNMode, address := "10.0.0.1", localASN := 64999 }]

theorem localASN_internal : ∃ c, apiToFRR ⟨[localASNInside], .empty⟩ [] = .ok c ∧
    c.routers.flatMap (fun r => r.neighbors.map (sessionLines r.myASN)) = [[.remoteAs "internal", .localAs 64999]] ∧
    ¬ LocalASNOutside c := by
  obtain ⟨c, hc, hlines⟩ := (toOption_map_eq_some (apiToFRR ⟨[localASNInside], .empty⟩ [])
    (fun c => c.routers.flatMap (fun r => r.neighbors.map (sessionLines r.myASN)))
    [[.remoteAs "internal", .localAs 64999]]).1 (by decide +kernel)
  obtain ⟨c', hc', hpeers⟩ := (toOption_map_eq_some (apiToFRR ⟨[localASNInside], .empty⟩ [])
    (fun c => c.routers.flatMap (fun r => r.neighbors.map (fun n => (n.asn, n.localASN)))) [("internal", 64999)]).1
      (by decide +kernel)
  obtain rfl := Except.ok.inj (hc'.symm.trans hc)
  refine ⟨c', hc, hlines, fun hall => ?_⟩
  obtain ⟨r, hr, hmem⟩ := List.mem_flatMap.1 (hpeers ▸ List.mem_singleton_self _)
  obtain ⟨n, hn, heq⟩ := List.mem_map.1 hmem
  obtain ⟨hasn, hlocal⟩ := Prod.mk.inj heq
  have hzero := hall r hr n hn (Or.inr hasn)
  rw [hlocal] at hzero
  exact absurd hzero (by decide)

end FrrK8s
