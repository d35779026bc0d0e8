import FrrK8s.Activation
import FrrK8s.Inbound
import FrrK8s.Peers
import FrrK8s.References
/-!
# Families — the family of a prefix and the text that is rendered

`internal/ipfamily` takes the family of a prefix from its value, by `To4`, and the templates write its text.  The two
agree but for an IPv6 text of an IPv4 address (`::ffff:10.0.0.0/104`), which is taken for IPv4 (`isIPv4Prefix_iff`).  So
every list of a result is of one family in text as well, and every rendered line has prefixes and next hops of the
family of its keyword, exactly when no such text was declared (`apiToFRR_families_iff`).
-/
namespace FrrK8s

/-! ## Texts -/

/-- A prefix written as IPv4, as a dotted quad. -/
def IsIPv4Prefix (s : String) : Prop := ∃ c, Net.parseCIDR s = some c ∧ c.addr.bitLen = 32 ∧ c.ones ≤ 32

/-- A prefix written as IPv6 that is not an IPv4 address. -/
def IsIPv6Prefix (s : String) : Prop :=
  ∃ c, Net.parseCIDR s = some c ∧ c.addr.bitLen = 128 ∧ Net.to4 c.addr.as16 = none

/-- A prefix of an IPv4 address that is written as IPv6. -/
def IsMappedPrefix (s : String) : Prop :=
  ∃ c, Net.parseCIDR s = some c ∧ c.addr.bitLen = 128 ∧ Net.to4 c.addr.as16 ≠ none

theorem parseCIDR_cases {s : String} {c : Net.CIDR} (h : Net.parseCIDR s = some c) :
    (c.addr.bitLen = 32 ∧ Net.to4 c.addr.as16 ≠ none) ∨ c.addr.bitLen = 128 := by
  obtain ⟨addr, mask, -, -, haddr, -⟩ := Net.parseCIDR_split h
  refine (Net.parseAddr_cases haddr).imp_left (And.imp_right fun ⟨v, hv⟩ => ?_)
  rw [hv]
  exact Option.some_ne_none v

theorem forCIDRString_ipv6_iff (s : String) :
    forCIDRString s = .ipv6 ↔ ∃ c, Net.parseCIDR s = some c ∧ Net.to4 c.addr.as16 = none := by
  unfold forCIDRString forAddress
  cases Net.parseCIDR s with
  | none => simp
  | some c => by_cases h : Net.to4 c.addr.as16 = none <;> simp [h]

theorem forCIDRString_ipv4_iff (s : String) :
    forCIDRString s = .ipv4 ↔ ∃ c, Net.parseCIDR s = some c ∧ Net.to4 c.addr.as16 ≠ none := by
  unfold forCIDRString forAddress
  cases Net.parseCIDR s with
  | none => simp
  | some c => by_cases h : Net.to4 c.addr.as16 = none <;> simp [h]

theorem isIPv6Prefix_iff (s : String) : IsIPv6Prefix s ↔ forCIDRString s = .ipv6 := by
  rw [forCIDRString_ipv6_iff]
  constructor
  · rintro ⟨c, hc, -, hto4⟩
    exact ⟨c, hc, hto4⟩
  · rintro ⟨c, hc, hto4⟩
    exact ⟨c, hc, (parseCIDR_cases hc).resolve_left (fun h => h.2 hto4), hto4⟩

theorem IsMappedPrefix.family {s : String} (h : IsMappedPrefix s) : forCIDRString s = .ipv4 := by
  obtain ⟨c, hc, -, hto4⟩ := h
  exact (forCIDRString_ipv4_iff s).2 ⟨c, hc, hto4⟩

/-- **A prefix taken for IPv4 is written so, unless it is an IPv4 address written as IPv6.** -/
theorem isIPv4Prefix_iff (s : String) : IsIPv4Prefix s ↔ forCIDRString s = .ipv4 ∧ ¬ IsMappedPrefix s := by
  rw [forCIDRString_ipv4_iff]
  constructor
  · rintro ⟨c, hc, hbits, -⟩
    have hto4 : Net.to4 c.addr.as16 ≠ none := ((parseCIDR_cases hc).resolve_right (by omega)).2
    refine ⟨⟨c, hc, hto4⟩, ?_⟩
    rintro ⟨c', hc', hbits', -⟩
    rw [hc] at hc'
    cases hc'
    omega
  · rintro ⟨⟨c, hc, hto4⟩, hnot⟩
    obtain ⟨-, -, -, -, -, hones⟩ := Net.parseCIDR_split hc
    have hbits : c.addr.bitLen = 32 := by
      rcases parseCIDR_cases hc with h | h
      · exact h.1
      · exact (hnot ⟨c, hc, h, hto4⟩).elim
    exact ⟨c, hc, hbits, hbits ▸ hones⟩

/-- Selectors of one text of prefix and bounds have one address, and both or neither is written as IPv6. -/
theorem isMappedPrefix_congr {s t : PrefixSelector} (hkey : s.key = t.key) (hs : forCIDRString s.pfx ≠ .unknown)
    (ht : IsMappedPrefix t.pfx) : IsMappedPrefix s.pfx := by
  obtain ⟨c', hc', hbits, hto4⟩ := ht
  cases hc : Net.parseCIDR s.pfx with
  | none =>
    unfold forCIDRString at hs
    rw [hc] at hs
    exact (hs rfl).elim
  | some c =>
    obtain ⟨addr, mask, htext, hslash, haddr, -⟩ := Net.parseCIDR_split hc
    obtain ⟨addr', mask', htext', hslash', haddr', -⟩ := Net.parseCIDR_split hc'
    have hlist := congrArg String.toList hkey
    simp only [PrefixSelector.key, toString_string, String.toList_append, htext, htext', List.append_assoc,
      List.cons_append] at hlist
    obtain ⟨heq, -⟩ := append_sep_inj hslash hslash' hlist
    subst heq
    have hsame : c.addr = c'.addr := Option.some.inj (haddr.symm.trans haddr')
    exact ⟨c, hc, hsame ▸ hbits, hsame ▸ hto4⟩

/-! ## Lists and lines -/

/-- Under the one keyword stands an IPv4 prefix, under the other an IPv6 prefix. -/
def Under (v4 v6 keyword s : String) : Prop := (keyword = v4 ∧ IsIPv4Prefix s) ∨ (keyword = v6 ∧ IsIPv6Prefix s)

theorem under_ip (s : String) : Under "ip" "ipv6" "ip" s ↔ IsIPv4Prefix s := by
  simp [Under]

theorem under_ipv6 (s : String) : Under "ip" "ipv6" "ipv6" s ↔ IsIPv6Prefix s := by
  simp [Under]

/-- **The lists of a neighbor are of the family they are for.** -/
structure NeighborConfig.PrefixesByFamily (n : NeighborConfig) : Prop where
  prefixesV4 : ∀ p ∈ n.outgoing.prefixesV4, IsIPv4Prefix p
  prefixesV6 : ∀ p ∈ n.outgoing.prefixesV6, IsIPv6Prefix p
  modifiers : ∀ pl ∈ n.outgoing.prefixLists, ∀ p ∈ pl.prefixes, Under "ip" "ipv6" pl.ipFamily p
  filtersV4 : ∀ i ∈ n.incoming.prefixesV4, IsIPv4Prefix i.pfx
  filtersV6 : ∀ i ∈ n.incoming.prefixesV6, IsIPv6Prefix i.pfx

structure RouterConfig.PrefixesByFamily (r : RouterConfig) : Prop where
  ipv4Prefixes : ∀ p ∈ r.ipv4Prefixes, IsIPv4Prefix p
  ipv6Prefixes : ∀ p ∈ r.ipv6Prefixes, IsIPv6Prefix p
  neighbors : ∀ n ∈ r.neighbors, n.PrefixesByFamily

/-- An address written as IPv4. -/
def IsIPv4Address (s : String) : Prop := ∃ a, Net.parseAddr s.toList = some a ∧ a.bitLen = 32

/-- An IPv4 address written as IPv6. -/
def IsMappedAddress (s : String) : Prop :=
  ∃ a, Net.parseAddr s.toList = some a ∧ a.bitLen = 128 ∧ Net.to4 a.as16 ≠ none

/-- The next hops of a neighbor are of the family they are for. -/
structure NeighborConfig.NextHopsByFamily (n : NeighborConfig) : Prop where
  nextHopV4 : n.outgoing.nextHopV4 ≠ "" → IsIPv4Address n.outgoing.nextHopV4
  nextHopV6 : n.outgoing.nextHopV6 ≠ "" → IsIPv6 n.outgoing.nextHopV6

def SetClause.ByFamily : SetClause → Prop
  | .ipNextHop addr => IsIPv4Address addr
  | .ipv6NextHopGlobal addr => IsIPv6 addr
  | _ => True

/-- The prefix a line of a prefix list names. -/
def Matcher.network? : Matcher → Option String
  | .any => none
  | .exactly p => some p
  | .within f => some f.pfx

def Line.ByFamily : Line → Prop
  | .prefixList family _ _ m => ∀ p, m.network? = some p → Under "ip" "ipv6" family p
  | .routeMap _ _ _ _ _ sets _ => ∀ s ∈ sets, s.ByFamily

/-- **No rendered line has a prefix or an address of one family under a keyword of the other.** -/
structure Config.LinesByFamily (c : Config) : Prop where
  filters : ∀ x ∈ renderedFilters c, x.2.ByFamily
  networks : ∀ r ∈ c.routers, ∀ x ∈ familyLines r, ∀ p, x.2 = .network p →
    Under (unicast "ipv4") (unicast "ipv6") x.1 p

theorem setStatement_byFamily {a : AllowedOut} {pl : PropertyPrefixList} (h : pl ∈ a.prefixLists) :
    pl.setStatement.ByFamily := by
  rcases mem_prefixLists.1 h with ⟨l, -, rfl⟩ | ⟨l, -, rfl⟩
  · trivial
  · show (CommunityPrefixList.setStatement l).ByFamily
    unfold CommunityPrefixList.setStatement
    split <;> trivial

theorem propertyLines_byFamily {a : AllowedOut} {pl : PropertyPrefixList} (h : pl ∈ a.prefixLists) (id : String) :
    (∀ l ∈ propertyLines id pl, l.ByFamily) ↔ ∀ p ∈ pl.prefixes, Under "ip" "ipv6" pl.ipFamily p := by
  unfold propertyLines
  simp only [List.forall_mem_append, List.forall_mem_map, List.forall_mem_singleton, Line.ByFamily, Matcher.network?,
    Option.some.injEq, forall_eq', setStatement_byFamily h, and_true]
  rfl

theorem any_byFamily (family name : String) (permit : Bool) : (Line.prefixList family name permit .any).ByFamily :=
  fun _ h => nomatch h

theorem toAdvertiseLines_byFamily (family name : String) (prefixes : List String) :
    (∀ l ∈ toAdvertiseLines family name prefixes, l.ByFamily) ↔ ∀ p ∈ prefixes, Under "ip" "ipv6" family p := by
  unfold toAdvertiseLines
  have hany : ∀ l ∈ (if prefixes = [] then [Line.prefixList family name false .any] else []), l.ByFamily := by
    split <;> simp [any_byFamily]
  rw [List.forall_mem_append, and_iff_right hany]
  simp only [List.forall_mem_map, Line.ByFamily, Matcher.network?, Option.some.injEq, forall_eq']

theorem within_byFamily (filters : List IncomingFilter) (name : String) (permit : Bool) :
    (∀ l ∈ filters.map (fun i => Line.prefixList (frrIPFamily i.ipFamily) name permit (.within i)), l.ByFamily) ↔
      ∀ i ∈ filters, Under "ip" "ipv6" (frrIPFamily i.ipFamily) i.pfx := by
  simp only [List.forall_mem_map, Line.ByFamily, Matcher.network?, Option.some.injEq, forall_eq']

theorem allowedIncomingLines_byFamily (n : NeighborConfig) : (∀ l ∈ allowedIncomingLines n, l.ByFamily) ↔
    ∀ i ∈ n.incoming.allPrefixes, Under "ip" "ipv6" (frrIPFamily i.ipFamily) i.pfx := by
  unfold allowedIncomingLines
  rw [List.forall_mem_append, within_byFamily]
  apply and_iff_left
  split
  · simp [any_byFamily]
  · rw [List.forall_mem_append]
    refine ⟨?_, ?_⟩ <;> split <;> simp [any_byFamily]

theorem deniedIncomingLines_byFamily (n : NeighborConfig) : (∀ l ∈ deniedIncomingLines n, l.ByFamily) ↔
    ∀ i ∈ n.alwaysBlock, Under "ip" "ipv6" (frrIPFamily i.ipFamily) i.pfx := by
  unfold deniedIncomingLines
  split
  · rename_i hnil
    simp [hnil]
  · rw [List.forall_mem_append, within_byFamily]
    apply and_iff_left
    simp [Line.ByFamily]

/-- The filters of a neighbor, which stand with those of their family, are of the family in text. -/
theorem AllowedIn.ByFamily.under_iff {a : AllowedIn} (h : a.ByFamily) :
    (∀ i ∈ a.allPrefixes, Under "ip" "ipv6" (frrIPFamily i.ipFamily) i.pfx) ↔
      (∀ i ∈ a.prefixesV4, IsIPv4Prefix i.pfx) ∧ ∀ i ∈ a.prefixesV6, IsIPv6Prefix i.pfx := by
  unfold AllowedIn.allPrefixes
  rw [List.forall_mem_append]
  refine and_congr (forall₂_congr fun i hi => ?_) (forall₂_congr fun i hi => ?_)
  · rw [h.familyV4 i hi]
    exact under_ip i.pfx
  · rw [h.familyV6 i hi]
    exact under_ipv6 i.pfx

/-- **The lines of a neighbor's filters are of their family exactly when its lists and next hops are**, where what is
always blocked is. -/
theorem neighborFilters_byFamily {n : NeighborConfig} (hfam : n.incoming.ByFamily)
    (hblock : ∀ i ∈ n.alwaysBlock, Under "ip" "ipv6" (frrIPFamily i.ipFamily) i.pfx) :
    (∀ l ∈ neighborFilters n, l.ByFamily) ↔ n.PrefixesByFamily ∧ n.NextHopsByFamily := by
  have hmodifiers : (∀ l ∈ n.outgoing.prefixLists.flatMap (propertyLines n.id), l.ByFamily) ↔
      ∀ pl ∈ n.outgoing.prefixLists, ∀ p ∈ pl.prefixes, Under "ip" "ipv6" pl.ipFamily p := by
    rw [List.forall_mem_flatMap]
    exact forall₂_congr fun pl hpl => propertyLines_byFamily hpl n.id
  have hentries : (∀ l ∈ [Line.routeMap n.id .outward true "ip" n.toAdvertisePrefixListV4
        (if n.outgoing.nextHopV4 ≠ "" then [.ipNextHop n.outgoing.nextHopV4] else []) false,
      .routeMap n.id .outward true "ipv6" n.toAdvertisePrefixListV6
        (if n.outgoing.nextHopV6 ≠ "" then [.ipv6NextHopGlobal n.outgoing.nextHopV6] else []) false], l.ByFamily) ↔
      n.NextHopsByFamily := by
    rw [List.forall_mem_cons, List.forall_mem_singleton]
    constructor
    · rintro ⟨h4, h6⟩
      exact ⟨fun hne => h4 (.ipNextHop _) (by rw [if_pos hne]; exact List.mem_singleton_self _),
        fun hne => h6 (.ipv6NextHopGlobal _) (by rw [if_pos hne]; exact List.mem_singleton_self _)⟩
    · intro h
      refine ⟨fun s hs => ?_, fun s hs => ?_⟩
      · obtain ⟨hne, hs⟩ := List.mem_ite_nil_right.1 hs
        rw [List.mem_singleton.1 hs]
        exact h.nextHopV4 hne
      · obtain ⟨hne, hs⟩ := List.mem_ite_nil_right.1 hs
        rw [List.mem_singleton.1 hs]
        exact h.nextHopV6 hne
  have hentries' : ∀ l ∈ [Line.routeMap n.id .inward true "ip" (allowedIncomingList n) [] false,
      .routeMap n.id .inward true "ipv6" (allowedIncomingList n) [] false], l.ByFamily := by
    simp [Line.ByFamily]
  unfold neighborFilters outgoingLines incomingLines
  simp only [List.forall_mem_append, hmodifiers, hentries, and_iff_left hentries', toAdvertiseLines_byFamily, under_ip,
    under_ipv6, allowedIncomingLines_byFamily, deniedIncomingLines_byFamily, and_iff_left hblock, hfam.under_iff]
  constructor
  · rintro ⟨⟨⟨⟨hmod, h4⟩, h6⟩, hnext⟩, hf4, hf6⟩
    exact ⟨⟨h4, h6, hmod, hf4, hf6⟩, hnext⟩
  · rintro ⟨h, hnext⟩
    exact ⟨⟨⟨⟨h.modifiers, h.prefixesV4⟩, h.prefixesV6⟩, hnext⟩, h.filtersV4, h.filtersV6⟩

theorem networks_byFamily (r : RouterConfig) : (∀ x ∈ familyLines r, ∀ p, x.2 = .network p →
      Under (unicast "ipv4") (unicast "ipv6") x.1 p) ↔
    (∀ p ∈ r.ipv4Prefixes, IsIPv4Prefix p) ∧ ∀ p ∈ r.ipv6Prefixes, IsIPv6Prefix p := by
  have hne : unicast "ipv4" ≠ unicast "ipv6" := by decide
  have hactivate : ∀ n : NeighborConfig, ∀ f, ∀ x ∈ activateRead f n, ∀ p, x.2 ≠ .network p := by
    intro n f x hx p
    unfold activateRead at hx
    obtain ⟨-, hx⟩ := List.mem_ite_nil_right.1 hx
    rw [List.mem_singleton.1 hx]
    exact nofun
  have hevpn : ∀ x ∈ evpnRead r, ∀ p, x.2 ≠ .network p := by
    intro x hx p
    obtain ⟨-, n, -, -, rfl⟩ := mem_evpnRead.1 hx
    exact nofun
  rw [familyLines_eq]
  simp only [List.forall_mem_append, List.forall_mem_flatMap]
  constructor
  · rintro ⟨⟨⟨-, h4⟩, h6⟩, -⟩
    refine ⟨fun p hp => ?_, fun p hp => ?_⟩
    · rcases h4 (unicast "ipv4", .network p) (List.mem_map_of_mem hp) p rfl with ⟨-, h⟩ | ⟨h, -⟩
      · exact h
      · exact (hne h).elim
    · rcases h6 (unicast "ipv6", .network p) (List.mem_map_of_mem hp) p rfl with ⟨h, -⟩ | ⟨-, h⟩
      · exact (hne h.symm).elim
      · exact h
  · rintro ⟨h4, h6⟩
    refine ⟨⟨⟨fun n _ => ⟨fun x hx p h => (hactivate n _ x hx p h).elim, fun x hx p h => (hactivate n _ x hx p h).elim⟩,
      fun x hx p h => ?_⟩, fun x hx p h => ?_⟩, fun x hx p h => (hevpn x hx p h).elim⟩
    · obtain ⟨q, hq, rfl⟩ := List.mem_map.1 hx
      cases h
      exact Or.inl ⟨rfl, h4 p hq⟩
    · obtain ⟨q, hq, rfl⟩ := List.mem_map.1 hx
      cases h
      exact Or.inr ⟨rfl, h6 p hq⟩

/-! ## Results -/

/-- No prefix is declared as IPv6 that is an IPv4 address, nor is one selected by a neighbor that filters. -/
structure PrefixesUnmapped (cfgs : List FRRConfiguration) : Prop where
  prefixes : ∀ cfg ∈ cfgs, ∀ e ∈ cfg.routers, ∀ p ∈ e.prefixes, ¬ IsMappedPrefix p
  selectors : ∀ vrf id s, ¬ ReceivesAll cfgs vrf id → Selects cfgs vrf id s → ¬ IsMappedPrefix s.pfx

/-- No IPv4 next hop is written as IPv6. -/
def NextHopsUnmapped (cfgs : List FRRConfiguration) : Prop :=
  ∀ cfg ∈ cfgs, ∀ e ∈ cfg.routers, ∀ a ∈ e.neighbors, ¬ IsMappedAddress a.toAdvertise.nextHop.ipv4

theorem alwaysBlock_under (alwaysBlock : List Net.IPNet) :
    ∀ i ∈ alwaysBlockToFRR alwaysBlock, Under "ip" "ipv6" (frrIPFamily i.ipFamily) i.pfx := by
  unfold alwaysBlockToFRR
  rw [List.forall_mem_map]
  intro b _
  show Under "ip" "ipv6" (frrIPFamily (forCIDR b)) b.string
  unfold forCIDR
  cases hv : b.to4 with
  | some v => exact Or.inl ⟨rfl, _, Net.parseCIDR_string_of_to4 hv, rfl, b.v4_ones_le⟩
  | none =>
    refine Or.inr ⟨rfl, _, Net.parseCIDR_string_of_to4_none hv, rfl, ?_⟩
    have hbits := Net.IPNet.bits_of_to4 hv
    unfold Net.IPNet.to4 at hv
    rwa [if_neg (by omega)] at hv

section

variable {secrets : SortedMap String Secret} {alwaysBlock : List Net.IPNet} {cfgs : List FRRConfiguration} {c : Config}

/-- The next hops of a translated neighbor are the declared ones, which are addresses of their family. -/
theorem translation_nextHops {cfg : FRRConfiguration} {e : Router} {a : Neighbor} {m : NeighborConfig}
    (h : translation secrets alwaysBlock cfg e a = .ok m) :
    m.outgoing.nextHopV4 = a.toAdvertise.nextHop.ipv4 ∧ m.outgoing.nextHopV6 = a.toAdvertise.nextHop.ipv6 ∧
      (a.toAdvertise.nextHop.ipv4 ≠ "" → (Net.parseIP a.toAdvertise.nextHop.ipv4).bind Net.to4 ≠ none) ∧
      (a.toAdvertise.nextHop.ipv6 ≠ "" → IsIPv6 a.toAdvertise.nextHop.ipv6) := by
  obtain ⟨-, f, -, timers, -, password, -, out, hout, incoming, -, rfl⟩ := (neighborToFRR_eq_ok ..).1 h
  have hadv := toAdvertiseToFRR_advertised hout
  unfold toAdvertiseToFRR at hout
  simp only [bind_eq_ok, Prod.exists] at hout
  obtain ⟨v4, v6, hnext, -⟩ := hout
  obtain ⟨h4, h6, -⟩ := (nextHopToFRR_eq_ok ..).1 hnext
  refine ⟨hadv.nextHopV4, hadv.nextHopV6, fun hne => (h4 hne).1, fun hne => ?_⟩
  obtain ⟨hsome, hto4⟩ := (h6 hne).1
  obtain ⟨ip, hip⟩ := Option.ne_none_iff_exists'.1 hsome
  rw [hip] at hto4
  exact ⟨ip, hip, hto4⟩

/-- An address that `nextHopToFRR` takes for IPv4 is written so, unless it is written as IPv6. -/
theorem isIPv4Address_iff {s : String} (h : (Net.parseIP s).bind Net.to4 ≠ none) :
    IsIPv4Address s ↔ ¬ IsMappedAddress s := by
  unfold Net.parseIP at h
  unfold IsIPv4Address IsMappedAddress
  cases ha : Net.parseAddr s.toList with
  | none => simp [ha] at h
  | some a =>
    have hto4 : Net.to4 a.as16 ≠ none := by simpa [ha] using h
    simp only [Option.some.injEq, exists_eq_left', hto4, ne_eq, not_false_eq_true, and_true]
    rcases Net.parseAddr_cases ha with ⟨hbits, -⟩ | hbits <;> simp [hbits]

theorem ResultOf.nextHopV4_iff (hacc : Acceptable secrets alwaysBlock cfgs) (h : ResultOf secrets alwaysBlock cfgs c)
    {r : RouterConfig} (hr : r ∈ c.routers) {n : NeighborConfig} (hn : n ∈ r.neighbors) {v : String} (hne : v ≠ "") :
    n.outgoing.nextHopV4 = v ↔ ∃ cfg e a, Contributes cfgs r.vrf n.id cfg e a ∧ a.toAdvertise.nextHop.ipv4 = v := by
  rw [← setting_iff hne]
  apply h.tells_iff hacc hr hn (x := .attr .nextHopV4 (.text v))
  intro cfg e a m _ hm _ _
  rw [← (translation_nextHops hm).1]
  exact setting_iff hne

theorem ResultOf.nextHopV6_iff (hacc : Acceptable secrets alwaysBlock cfgs) (h : ResultOf secrets alwaysBlock cfgs c)
    {r : RouterConfig} (hr : r ∈ c.routers) {n : NeighborConfig} (hn : n ∈ r.neighbors) {v : String} (hne : v ≠ "") :
    n.outgoing.nextHopV6 = v ↔ ∃ cfg e a, Contributes cfgs r.vrf n.id cfg e a ∧ a.toAdvertise.nextHop.ipv6 = v := by
  rw [← setting_iff hne]
  apply h.tells_iff hacc hr hn (x := .attr .nextHopV6 (.text v))
  intro cfg e a m _ hm _ _
  rw [← (translation_nextHops hm).2.1]
  exact setting_iff hne

theorem ResultOf.nextHops_iff (hacc : Acceptable secrets alwaysBlock cfgs) (h : ResultOf secrets alwaysBlock cfgs c) :
    (∀ r ∈ c.routers, ∀ n ∈ r.neighbors, n.NextHopsByFamily) ↔ NextHopsUnmapped cfgs := by
  constructor
  · intro hall cfg hcfg e he a ha hmapped
    obtain ⟨r, hr, -, n, hn, -, hcon⟩ := h.exists_contributed hacc hcfg he ha
    obtain ⟨m, hm, -⟩ := h.contributor hacc hr hn hcon
    obtain ⟨-, -, hto4, -⟩ := translation_nextHops hm
    have hne : a.toAdvertise.nextHop.ipv4 ≠ "" := by
      intro heq
      obtain ⟨x, hx, -⟩ := hmapped
      rw [heq] at hx
      cases hx
    have hsame := (h.nextHopV4_iff hacc hr hn hne).2 ⟨cfg, e, a, hcon, rfl⟩
    have haddr := (hall r hr n hn).nextHopV4 (by rw [hsame]; exact hne)
    rw [hsame] at haddr
    exact (isIPv4Address_iff (hto4 hne)).1 haddr hmapped
  · intro hnone r hr n hn
    constructor
    · intro hne
      obtain ⟨cfg, e, a, hcon, hsame⟩ := (h.nextHopV4_iff hacc hr hn hne).1 rfl
      obtain ⟨m, hm, -⟩ := h.contributor hacc hr hn hcon
      obtain ⟨-, -, hto4, -⟩ := translation_nextHops hm
      rw [← hsame] at hne ⊢
      exact (isIPv4Address_iff (hto4 hne)).2 (hnone cfg hcon.cfg_mem e hcon.entry_mem a hcon.mem)
    · intro hne
      obtain ⟨cfg, e, a, hcon, hsame⟩ := (h.nextHopV6_iff hacc hr hn hne).1 rfl
      obtain ⟨m, hm, -⟩ := h.contributor hacc hr hn hcon
      obtain ⟨-, -, -, hipv6⟩ := translation_nextHops hm
      rw [← hsame] at hne ⊢
      exact hipv6 hne

/-- A property list is part of what is advertised in its family. -/
theorem ResultOf.modifiers_advertised (hacc : Acceptable secrets alwaysBlock cfgs)
    (h : ResultOf secrets alwaysBlock cfgs c) {r : RouterConfig} (hr : r ∈ c.routers) {n : NeighborConfig}
    (hn : n ∈ r.neighbors) {pl : PropertyPrefixList} (hpl : pl ∈ n.outgoing.prefixLists) :
    n.outgoing.Covers pl.toPrefixList := by
  intro p hp
  rcases mem_prefixLists.1 hpl with ⟨l, hl, rfl⟩ | ⟨l, hl, rfl⟩
  · have htells : n.tells (.localPref l.localPref l.ipFamily p) := ⟨l, hl, rfl, rfl, hp⟩
    exact h.advertises hacc hr hn (fun htr hx => htr.localPref_advertises hx) htells
  · have htells : n.tells (.community l.community l.ipFamily p) := ⟨l, hl, rfl, rfl, hp⟩
    exact h.advertises hacc hr hn (fun htr hx => htr.community_advertises hx) htells

theorem ResultOf.prefixesUnmapped (hacc : Acceptable secrets alwaysBlock cfgs) (h : ResultOf secrets alwaysBlock cfgs c)
    (hall : ∀ r ∈ c.routers, r.PrefixesByFamily) : PrefixesUnmapped cfgs := by
  constructor
  · intro cfg hcfg e he p hp hmapped
    obtain ⟨r, hr, hvrf⟩ := h.exists_router hacc hcfg he
    have hmem : p ∈ r.ipv4Prefixes := (h.mem_ipv4Prefixes hacc hr p).2 ⟨cfg, hcfg, e, he, hvrf.symm, hp, hmapped.family⟩
    exact ((isIPv4Prefix_iff p).1 ((hall r hr).ipv4Prefixes p hmem)).2 hmapped
  · intro vrf id s hnot hs hmapped
    have ⟨cfg, e, a, hcon, _⟩ := hs
    obtain ⟨r, hr, rfl, n, hn, rfl⟩ := h.exists_neighbor hacc hcon
    obtain ⟨i, hi, hkey⟩ := (h.key_of_selects hacc hr hn hnot hs).1 hmapped.family
    have hv4 := (isIPv4Prefix_iff i.pfx).1 (((hall r hr).neighbors n hn).filtersV4 i hi)
    refine hv4.2 (isMappedPrefix_congr (s := i.selector) hkey ?_ hmapped)
    exact fun hunknown => absurd (hv4.1.symm.trans hunknown) (by decide)

theorem ResultOf.prefixesByFamily (hacc : Acceptable secrets alwaysBlock cfgs) (h : ResultOf secrets alwaysBlock cfgs c)
    (hnone : PrefixesUnmapped cfgs) {r : RouterConfig} (hr : r ∈ c.routers) : r.PrefixesByFamily := by
  have hv4 : ∀ r ∈ c.routers, ∀ p ∈ r.ipv4Prefixes, IsIPv4Prefix p := by
    intro r hr p hp
    obtain ⟨cfg, hcfg, e, he, -, hp, hfam⟩ := (h.mem_ipv4Prefixes hacc hr p).1 hp
    exact (isIPv4Prefix_iff p).2 ⟨hfam, hnone.prefixes cfg hcfg e he p hp⟩
  have hv6 : ∀ r ∈ c.routers, ∀ p ∈ r.ipv6Prefixes, IsIPv6Prefix p := by
    intro r hr p hp
    obtain ⟨cfg, hcfg, e, he, -, hp, hfam⟩ := (h.mem_ipv6Prefixes hacc hr p).1 hp
    exact (isIPv6Prefix_iff p).2 hfam
  refine ⟨hv4 r hr, hv6 r hr, fun n hn => ?_⟩
  have h4 : ∀ p ∈ n.outgoing.prefixesV4, IsIPv4Prefix p := by
    intro p hp
    obtain ⟨s, hs, -, hp⟩ := h.prefixesV4_declared hacc hr hn hp
    exact hv4 s hs p hp
  have h6 : ∀ p ∈ n.outgoing.prefixesV6, IsIPv6Prefix p := by
    intro p hp
    obtain ⟨s, hs, -, hp⟩ := h.prefixesV6_declared hacc hr hn hp
    exact hv6 s hs p hp
  refine ⟨h4, h6, fun pl hpl p hp => ?_, fun i hi => ?_, fun i hi => ?_⟩
  · exact (h.modifiers_advertised hacc hr hn hpl p hp).imp (And.imp_right (h4 p)) (And.imp_right (h6 p))
  · obtain ⟨hs, hfam⟩ := (h.filter_selects hr hn i).1 hi
    refine (isIPv4Prefix_iff i.pfx).2 ⟨hfam, hnone.selectors r.vrf n.id i.selector (fun hall => ?_) hs⟩
    -- a neighbor that receives everything has no filters
    have hnil := (((h.normal r hr).neighbors n hn).receiveAll ((h.all_iff hacc hr hn).2 hall)).1
    rw [hnil] at hi
    exact List.not_mem_nil hi
  · obtain ⟨hs, hfam⟩ := (h.filter_selects hr hn i).2 hi
    exact (isIPv6Prefix_iff i.pfx).2 ((hs.known hacc).resolve_left hfam)

theorem ResultOf.prefixesByFamily_iff (hacc : Acceptable secrets alwaysBlock cfgs)
    (h : ResultOf secrets alwaysBlock cfgs c) : (∀ r ∈ c.routers, r.PrefixesByFamily) ↔ PrefixesUnmapped cfgs :=
  ⟨h.prefixesUnmapped hacc, fun hnone _ hr => h.prefixesByFamily hacc hnone hr⟩

theorem ResultOf.linesByFamily_iff (hacc : Acceptable secrets alwaysBlock cfgs)
    (h : ResultOf secrets alwaysBlock cfgs c) :
    c.LinesByFamily ↔
      (∀ r ∈ c.routers, r.PrefixesByFamily) ∧ ∀ r ∈ c.routers, ∀ n ∈ r.neighbors, n.NextHopsByFamily := by
  have hneighbor : ∀ r ∈ c.routers, ∀ n ∈ r.neighbors,
      ((∀ l ∈ neighborFilters n, l.ByFamily) ↔ n.PrefixesByFamily ∧ n.NextHopsByFamily) := by
    intro r hr n hn
    apply neighborFilters_byFamily (h.incoming_byFamily hr hn)
    rw [h.alwaysBlock_eq hacc hr hn]
    exact alwaysBlock_under alwaysBlock
  have hfilters : (∀ x ∈ renderedFilters c, x.2.ByFamily) ↔
      ∀ r ∈ c.routers, ∀ n ∈ r.neighbors, ∀ l ∈ neighborFilters n, l.ByFamily := by
    have hsnd : (∀ x ∈ renderedFilters c, x.2.ByFamily) ↔ ∀ l ∈ (renderedFilters c).map Prod.snd, l.ByFamily := by
      rw [List.forall_mem_map]
    rw [hsnd, renderedFilters, Policy.number_snd, List.forall_mem_flatMap]
    unfold Config.neighbors
    rw [List.forall_mem_flatMap]
  constructor
  · rintro ⟨hlines, hnetworks⟩
    have hboth : ∀ r ∈ c.routers, ∀ n ∈ r.neighbors, n.PrefixesByFamily ∧ n.NextHopsByFamily :=
      fun r hr n hn => (hneighbor r hr n hn).1 (hfilters.1 hlines r hr n hn)
    refine ⟨fun r hr => ?_, fun r hr n hn => (hboth r hr n hn).2⟩
    obtain ⟨h4, h6⟩ := (networks_byFamily r).1 (hnetworks r hr)
    exact ⟨h4, h6, fun n hn => (hboth r hr n hn).1⟩
  · rintro ⟨hprefixes, hnext⟩
    refine ⟨hfilters.2 fun r hr n hn => ?_, fun r hr => ?_⟩
    · exact (hneighbor r hr n hn).2 ⟨(hprefixes r hr).neighbors n hn, hnext r hr n hn⟩
    · exact (networks_byFamily r).2 ⟨(hprefixes r hr).ipv4Prefixes, (hprefixes r hr).ipv6Prefixes⟩

/-- **The lists of a result are of one family in text exactly when no IPv4 prefix was declared as IPv6, and the rendered
lines exactly when no IPv4 next hop was either.** -/
theorem apiToFRR_families_iff (h : apiToFRR ⟨cfgs, secrets⟩ alwaysBlock = .ok c) :
    ((∀ r ∈ c.routers, r.PrefixesByFamily) ↔ PrefixesUnmapped cfgs) ∧
      (c.LinesByFamily ↔ PrefixesUnmapped cfgs ∧ NextHopsUnmapped cfgs) := by
  have hacc := apiToFRR_acceptable h
  have hres := apiToFRR_result h
  refine ⟨hres.prefixesByFamily_iff hacc, (hres.linesByFamily_iff hacc).trans ?_⟩
  exact and_congr (hres.prefixesByFamily_iff hacc) (hres.nextHops_iff hacc)

end

/-- A router that advertises a prefix to a next hop, and accepts one. -/
def advertising (network selector nextHop : String) : FRRConfiguration :=
  { name := "advertising"
    routers := [{ asn := 64512, prefixes := [network], neighbors := [{
      asn := 64513, address := "10.0.0.1", toReceive := { allowed := { prefixes := [⟨selector, 0, 0⟩] } },
      toAdvertise := { allowed := { mode := .all }, nextHop := { ipv4 := nextHop } } }] }] }

theorem apiToFRR_families_iff_advertising :
    ∃ c, apiToFRR ⟨[advertising "192.0.2.0/24" "198.51.100.0/24" "10.0.0.2"], .empty⟩ [] = .ok c ∧
      (∀ r ∈ c.routers, r.PrefixesByFamily) ∧ c.LinesByFamily := by
  obtain ⟨c, hc⟩ := (isOk_iff (apiToFRR ⟨[advertising "192.0.2.0/24" "198.51.100.0/24" "10.0.0.2"], .empty⟩ [])).1
    (by decide +kernel)
  have hprefix : ∀ p, p = "192.0.2.0/24" ∨ p = "198.51.100.0/24" → ¬ IsMappedPrefix p := by
    rintro p (rfl | rfl) ⟨c, hc, hbits, -⟩ <;> cases hc <;> exact absurd hbits (by decide)
  have hprefixes : PrefixesUnmapped [advertising "192.0.2.0/24" "198.51.100.0/24" "10.0.0.2"] := by
    constructor
    · intro cfg hcfg e he p hp
      obtain rfl := List.mem_singleton.1 hcfg
      obtain rfl := List.mem_singleton.1 he
      exact hprefix p (Or.inl (List.mem_singleton.1 hp))
    · rintro vrf id s - ⟨cfg, e, a, hcon, -, hs⟩
      obtain rfl := List.mem_singleton.1 hcon.cfg_mem
      obtain rfl := List.mem_singleton.1 hcon.entry_mem
      obtain rfl := List.mem_singleton.1 hcon.mem
      obtain rfl := List.mem_singleton.1 hs
      exact hprefix _ (Or.inr rfl)
  have hnext : NextHopsUnmapped [advertising "192.0.2.0/24" "198.51.100.0/24" "10.0.0.2"] := by
    rintro cfg hcfg e he a ha ⟨addr, haddr, hbits, -⟩
    obtain rfl := List.mem_singleton.1 hcfg
    obtain rfl := List.mem_singleton.1 he
    obtain rfl := List.mem_singleton.1 ha
    cases haddr
    exact absurd hbits (by decide)
  obtain ⟨hlists, hlines⟩ := apiToFRR_families_iff hc
  exact ⟨c, hc, hlists.2 hprefixes, hlines.2 ⟨hprefixes, hnext⟩⟩

/-- An IPv4 prefix declared as IPv6 is advertised as `network ::ffff:10.0.0.0/104` among the IPv4 networks, and
permitted by a line of an `ip prefix-list`. -/
theorem family_of_mapped :
    ∃ c, apiToFRR ⟨[advertising "::ffff:10.0.0.0/104" "192.0.2.0/24" "10.0.0.2"], .empty⟩ [] = .ok c ∧
      c.routers.map (fun r => (r.ipv4Prefixes, r.neighbors.map (fun n => n.outgoing.prefixesV4))) =
        [(["::ffff:10.0.0.0/104"], [["::ffff:10.0.0.0/104"]])] ∧
      (¬ ∀ r ∈ c.routers, r.PrefixesByFamily) ∧ ¬ c.LinesByFamily := by
  obtain ⟨c, hc, hlists⟩ := (toOption_map_eq_some
    (apiToFRR ⟨[advertising "::ffff:10.0.0.0/104" "192.0.2.0/24" "10.0.0.2"], .empty⟩ [])
    (fun c => c.routers.map (fun r => (r.ipv4Prefixes, r.neighbors.map (fun n => n.outgoing.prefixesV4))))
    [(["::ffff:10.0.0.0/104"], [["::ffff:10.0.0.0/104"]])]).1 (by decide +kernel)
  obtain ⟨r, hr, heq⟩ := List.mem_map.1 (hlists ▸ List.mem_singleton_self _)
  have hmem : "::ffff:10.0.0.0/104" ∈ r.ipv4Prefixes := by
    rw [(Prod.mk.inj heq).1]
    exact List.mem_singleton_self _
  have hnot : ¬ IsIPv4Prefix "::ffff:10.0.0.0/104" := by
    rintro ⟨c, hc, hbits, -⟩
    cases hc
    exact absurd hbits (by decide)
  refine ⟨c, hc, hlists, fun hall => hnot ((hall r hr).ipv4Prefixes _ hmem), fun hlines => ?_⟩
  exact hnot (((networks_byFamily r).1 (hlines.networks r hr)).1 _ hmem)

end FrrK8s
