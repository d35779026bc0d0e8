import FrrK8s.Rendered
import FrrK8s.Union
/-!
# Outbound — what the rendered outgoing route map does with a route

The lists of properties are chained by `on-match next`, the lists of what may be advertised decide.  So a route is
permitted exactly when the neighbor advertises its prefix, and it leaves with the communities, the local preference and
the next hop the configuration has for it (`outbound_policy`).
-/
namespace FrrK8s

/-! ## What a neighbor brings along -/

/-- A neighbor as the translation leaves it, as far as its outgoing lists go: each has prefixes of its own family, and a
prefix has one local preference. -/
structure NeighborConfig.OutReady (n : NeighborConfig) : Prop extends n.Named where
  familyV4 : ∀ p ∈ n.outgoing.prefixesV4, forCIDRString p = .ipv4
  familyV6 : ∀ p ∈ n.outgoing.prefixesV6, forCIDRString p = .ipv6
  localPrefFamily : ∀ l ∈ n.outgoing.localPrefPrefixesModifiers, ∀ p ∈ l.prefixes,
    l.ipFamily = frrIPFamily (forCIDRString p)
  communityFamily : ∀ l ∈ n.outgoing.communityPrefixesModifiers, ∀ p ∈ l.prefixes,
    l.ipFamily = frrIPFamily (forCIDRString p)
  localPrefOnce : ∀ l ∈ n.outgoing.localPrefPrefixesModifiers, ∀ l' ∈ n.outgoing.localPrefPrefixesModifiers,
    ∀ p ∈ l.prefixes, p ∈ l'.prefixes → l.localPref = l'.localPref

section

variable {secrets : SortedMap String Secret} {alwaysBlock : List Net.IPNet} {cfgs : List FRRConfiguration} {c : Config}

theorem frrIPFamily_keyword (f : Family) : frrIPFamily f = "ip" ∨ frrIPFamily f = "ipv6" := by
  cases f <;> simp [frrIPFamily]

theorem ResultOf.outReady (hacc : Acceptable secrets alwaysBlock cfgs) (h : ResultOf secrets alwaysBlock cfgs c)
    {r : RouterConfig} (hr : r ∈ c.routers) {n : NeighborConfig} (hn : n ∈ r.neighbors) : n.OutReady := by
  have hnormal := (h.normal r hr).neighbors n hn
  have hlp : ∀ l ∈ n.outgoing.localPrefPrefixesModifiers, ∀ p ∈ l.prefixes,
      l.ipFamily = frrIPFamily (forCIDRString p) := by
    intro l hl p hp
    obtain ⟨f, -, hf, hfam, -⟩ := (h.localPref_iff hacc hr hn l.localPref l.ipFamily p).1 ⟨l, hl, rfl, rfl, hp⟩
    rw [hf, hfam]
  have hcm : ∀ l ∈ n.outgoing.communityPrefixesModifiers, ∀ p ∈ l.prefixes,
      l.ipFamily = frrIPFamily (forCIDRString p) := by
    intro l hl p hp
    obtain ⟨f, -, hf, hfam, -⟩ := (h.community_iff hacc hr hn l.community l.ipFamily p).1 ⟨l, hl, rfl, rfl, hp⟩
    rw [hf, hfam]
  refine ⟨⟨hnormal.localPrefKeys, hnormal.communityKeys, fun l hl => ?_, fun l hl => ?_⟩, fun p hp => ?_,
    fun p hp => ?_, hlp, hcm, fun l hl l' hl' p hp hp' => ?_⟩
  · obtain ⟨hname, hne⟩ := hnormal.localPrefNamed l hl
    obtain ⟨p, hp⟩ := List.exists_mem_of_ne_nil _ hne
    exact ⟨hname, hlp l hl p hp ▸ frrIPFamily_keyword _⟩
  · obtain ⟨hname, hne⟩ := hnormal.communityNamed l hl
    obtain ⟨p, hp⟩ := List.exists_mem_of_ne_nil _ hne
    exact ⟨hname, hcm l hl p hp ▸ frrIPFamily_keyword _⟩
  · obtain ⟨cfg, e, a, -, m, -, htr, -, hp⟩ := (h.neighbor_tells hacc hr hn (.prefixV4 p)).1 hp
    exact ((htr.prefixV4 p).1 hp).2.2
  · obtain ⟨cfg, e, a, -, m, -, htr, -, hp⟩ := (h.neighbor_tells hacc hr hn (.prefixV6 p)).1 hp
    exact ((htr.prefixV6 p).1 hp).2.2
  · exact hnormal.localPrefOnce _ _ _ _ p ⟨l, hl, rfl, rfl, hp⟩ ⟨l', hl', rfl, rfl, hp'⟩

end

/-! ## The lists -/

section

variable {c : Config} {n : NeighborConfig}

/-- Every neighbor has an ID of its own. -/
def Config.IdsApart (c : Config) : Prop := (c.neighbors.map NeighborConfig.id).Nodup

theorem Config.IdsApart.eq (h : c.IdsApart) {m : NeighborConfig} (hn : n ∈ c.neighbors) (hm : m ∈ c.neighbors)
    (hid : n.id = m.id) : n = m := List.inj_on_of_nodup_map h hn hm hid

theorem property_rules (hids : c.IdsApart) (hready : ∀ m ∈ c.neighbors, m.OutReady) (hn : n ∈ c.neighbors)
    {pl : PropertyPrefixList} (hpl : pl ∈ n.outgoing.prefixLists) (rule : Policy.Rule Matcher) :
    rule ∈ Policy.inOrder (ruleOf pl.ipFamily pl.name) (renderedFilters c) ↔
      rule.permit = true ∧ ∃ p ∈ pl.prefixes, rule.test = .exactly p := by
  rw [mem_rules]
  refine ⟨fun ⟨m, hm, hline⟩ => ?_, fun ⟨hp, hm⟩ => ⟨n, hn, mem_neighborFilters.2 (Or.inl ⟨pl, hpl, ?_⟩)⟩⟩
  · obtain ⟨h4, h6, hin, hden⟩ := @name_kinds n m (hready n hn).toNamed pl hpl
    rcases mem_neighborFilters.1 hline with ⟨pl', hpl', hline⟩ | hline | hline | hline | hline
    · obtain ⟨hf, hname, hp, hm'⟩ := mem_propertyLines.1 hline
      obtain ⟨hid, hsame⟩ := property_unique (hready n hn).toNamed (hready m hm).toNamed hpl hpl' hname.symm
      rw [hsame (hids.eq hn hm hid)]
      exact ⟨hp, hm'⟩
    · exact (h4 (mem_toAdvertiseLines.1 hline).2.1).elim
    · exact (h6 (mem_toAdvertiseLines.1 hline).2.1).elim
    · exact (hin (mem_allowedIncomingLines.1 hline).1).elim
    · exact (hden (mem_deniedIncomingLines.1 hline).1).elim
  · exact mem_propertyLines.2 ⟨rfl, rfl, hp, hm⟩

theorem toAdvertiseV4_rules (hids : c.IdsApart) (hready : ∀ m ∈ c.neighbors, m.OutReady) (hn : n ∈ c.neighbors)
    (rule : Policy.Rule Matcher) :
    rule ∈ Policy.inOrder (ruleOf "ip" n.toAdvertisePrefixListV4) (renderedFilters c) ↔
      Line.prefixList "ip" n.toAdvertisePrefixListV4 rule.permit rule.test ∈
        toAdvertiseLines "ip" n.toAdvertisePrefixListV4 n.outgoing.prefixesV4 := by
  rw [mem_rules]
  refine ⟨fun ⟨m, hm, hline⟩ => ?_, fun hline => ⟨n, hn, mem_neighborFilters.2 (Or.inr (Or.inl hline))⟩⟩
  rcases mem_neighborFilters.1 hline with ⟨pl, hpl, hline⟩ | hline | hline | hline | hline
  · exact ((name_kinds (hready m hm).toNamed hpl).1 (mem_propertyLines.1 hline).2.1).elim
  · have hid : n.id = m.id := String.append_left_inj _ |>.1 (mem_toAdvertiseLines.1 hline).2.1
    rwa [← hids.eq hn hm hid] at hline
  · exact absurd (mem_toAdvertiseLines.1 hline).1 (by decide)
  · exact ((toAdvertise_ne_incoming n m).1 (mem_allowedIncomingLines.1 hline).1).elim
  · exact ((toAdvertise_ne_incoming n m).2.1 (mem_deniedIncomingLines.1 hline).1).elim

theorem toAdvertiseV6_rules (hids : c.IdsApart) (hready : ∀ m ∈ c.neighbors, m.OutReady) (hn : n ∈ c.neighbors)
    (rule : Policy.Rule Matcher) :
    rule ∈ Policy.inOrder (ruleOf "ipv6" n.toAdvertisePrefixListV6) (renderedFilters c) ↔
      Line.prefixList "ipv6" n.toAdvertisePrefixListV6 rule.permit rule.test ∈
        toAdvertiseLines "ipv6" n.toAdvertisePrefixListV6 n.outgoing.prefixesV6 := by
  rw [mem_rules]
  refine ⟨fun ⟨m, hm, hline⟩ => ?_, fun hline => ⟨n, hn, mem_neighborFilters.2 (Or.inr (Or.inr (Or.inl hline)))⟩⟩
  rcases mem_neighborFilters.1 hline with ⟨pl, hpl, hline⟩ | hline | hline | hline | hline
  · exact ((name_kinds (hready m hm).toNamed hpl).2.1 (mem_propertyLines.1 hline).2.1).elim
  · exact absurd (mem_toAdvertiseLines.1 hline).1 (by decide)
  · have hid : n.id = m.id := String.append_left_inj _ |>.1 (mem_toAdvertiseLines.1 hline).2.1
    rwa [← hids.eq hn hm hid] at hline
  · exact ((toAdvertise_ne_incoming n m).2.2.1 (mem_allowedIncomingLines.1 hline).1).elim
  · exact ((toAdvertise_ne_incoming n m).2.2.2 (mem_deniedIncomingLines.1 hline).1).elim

/-- The list of what is advertised permits what it names, and nothing when it is empty. -/
theorem permits_toAdvertise {family name : String} {prefixes : List String} {rules : List (Policy.Rule Matcher)}
    (h : ∀ rule, rule ∈ rules ↔
      Line.prefixList family name rule.permit rule.test ∈ toAdvertiseLines family name prefixes)
    (route : Net.IPNet) : Policy.permits (fun m => m.matchesRoute route) rules = true ↔
      ∃ q ∈ prefixes, Net.parseNet q = some route := by
  have hrule : ∀ rule ∈ rules, rule.permit = true → ∃ p ∈ prefixes, rule.test = .exactly p := by
    intro rule hrule hpermit
    rcases (mem_toAdvertiseLines.1 ((h rule).1 hrule)).2.2 with ⟨-, hfalse, -⟩ | ⟨-, hp⟩
    · exact (Bool.false_ne_true (hfalse.symm.trans hpermit)).elim
    · exact hp
  refine ⟨fun hpermits => ?_, fun ⟨q, hq, hroute⟩ => ?_⟩
  · obtain ⟨rule, hmem, hpermit, hmatch⟩ := Policy.exists_of_permits _ hpermits
    obtain ⟨q, hq, htest⟩ := hrule rule hmem hpermit
    rw [htest] at hmatch
    exact ⟨q, hq, of_decide_eq_true hmatch⟩
  · have hall : ∀ rule ∈ rules, rule.permit = true := by
      intro rule hmem
      rcases (mem_toAdvertiseLines.1 ((h rule).1 hmem)).2.2 with ⟨hnil, -⟩ | ⟨hp, -⟩
      · exact (List.ne_nil_of_mem hq hnil).elim
      · exact hp
    rw [Policy.permits_iff _ hall]
    exact ⟨⟨true, .exactly q⟩, (h _).2 (mem_toAdvertiseLines.2 ⟨rfl, rfl, Or.inr ⟨rfl, q, hq, rfl⟩⟩),
      decide_eq_true hroute⟩

theorem property_holds (hids : c.IdsApart) (hready : ∀ m ∈ c.neighbors, m.OutReady) (hn : n ∈ c.neighbors)
    {pl : PropertyPrefixList} (hpl : pl ∈ n.outgoing.prefixLists) (route : Net.IPNet) :
    matchHolds (renderedFilters c) route (pl.ipFamily, pl.name) = true ↔
      pl.ipFamily = routeFamily route ∧ ∃ q ∈ pl.prefixes, Net.parseNet q = some route := by
  unfold matchHolds
  rw [Bool.and_eq_true, decide_eq_true_eq, Policy.permits_iff _
    (fun rule h => ((property_rules hids hready hn hpl rule).1 h).1)]
  refine and_congr_right fun _ => ⟨fun ⟨rule, hmem, hmatch⟩ => ?_, fun ⟨q, hq, hroute⟩ => ?_⟩
  · obtain ⟨-, q, hq, htest⟩ := (property_rules hids hready hn hpl rule).1 hmem
    rw [htest] at hmatch
    exact ⟨q, hq, of_decide_eq_true hmatch⟩
  · exact ⟨⟨true, .exactly q⟩, (property_rules hids hready hn hpl _).2 ⟨rfl, q, hq, rfl⟩, decide_eq_true hroute⟩

theorem toAdvertise_holds (hids : c.IdsApart) (hready : ∀ m ∈ c.neighbors, m.OutReady) (hn : n ∈ c.neighbors)
    (route : Net.IPNet) :
    (matchHolds (renderedFilters c) route ("ip", n.toAdvertisePrefixListV4) = true ↔
      route.bits = 32 ∧ ∃ q ∈ n.outgoing.prefixesV4, Net.parseNet q = some route) ∧
    (matchHolds (renderedFilters c) route ("ipv6", n.toAdvertisePrefixListV6) = true ↔
      route.bits ≠ 32 ∧ ∃ q ∈ n.outgoing.prefixesV6, Net.parseNet q = some route) := by
  unfold matchHolds routeFamily
  simp only [Bool.and_eq_true, decide_eq_true_eq, permits_toAdvertise (toAdvertiseV4_rules hids hready hn),
    permits_toAdvertise (toAdvertiseV6_rules hids hready hn)]
  by_cases hb : route.bits = 32 <;> simp [hb]

end

/-! ## The clauses -/

/-- The community a clause adds. -/
def SetClause.community? : SetClause → Option BGPCommunity
  | .community c => some c
  | .largeCommunity c => some c
  | _ => none

def SetClause.localPref? : SetClause → Option Nat
  | .localPreference value => some value
  | _ => none

def SetClause.nextHop? : SetClause → Option String
  | .ipNextHop addr => some addr
  | _ => none

def SetClause.nextHopGlobal? : SetClause → Option String
  | .ipv6NextHopGlobal addr => some addr
  | _ => none

theorem foldl_communities : ∀ (sets : List SetClause) (a : Applied),
    (sets.foldl SetClause.apply a).communities = a.communities ++ sets.filterMap SetClause.community?
  | [], a => by simp
  | s :: sets, a => by
    rw [List.foldl_cons, foldl_communities sets]
    cases s <;> simp [SetClause.apply, SetClause.community?, List.filterMap_cons]

theorem mem_applied_communities (sets : List SetClause) (k : BGPCommunity) :
    k ∈ (applied sets).communities ↔ ∃ s ∈ sets, s.community? = some k := by
  unfold applied
  rw [foldl_communities, List.nil_append, List.mem_filterMap]

theorem applied_localPref {sets : List SetClause}
    (hone : ∀ s ∈ sets, ∀ t ∈ sets, ∀ v w, s.localPref? = some v → t.localPref? = some w → v = w) (v : Nat) :
    (applied sets).localPref = some v ↔ ∃ s ∈ sets, s.localPref? = some v :=
  Policy.foldl_write_iff (fun a s => by cases s <;> rfl) rfl hone v

theorem applied_nextHop {sets : List SetClause}
    (hone : ∀ s ∈ sets, ∀ t ∈ sets, ∀ v w, s.nextHop? = some v → t.nextHop? = some w → v = w) (v : String) :
    (applied sets).nextHop = some v ↔ ∃ s ∈ sets, s.nextHop? = some v :=
  Policy.foldl_write_iff (fun a s => by cases s <;> rfl) rfl hone v

theorem applied_nextHopGlobal {sets : List SetClause}
    (hone : ∀ s ∈ sets, ∀ t ∈ sets, ∀ v w, s.nextHopGlobal? = some v → t.nextHopGlobal? = some w → v = w) (v : String) :
    (applied sets).nextHopGlobal = some v ↔ ∃ s ∈ sets, s.nextHopGlobal? = some v :=
  Policy.foldl_write_iff (fun a s => by cases s <;> rfl) rfl hone v

/-! ## The route map -/

/-- The clauses of the properties whose lists hold. -/
def propertyClauses (lines : List (Nat × Line)) (n : NeighborConfig) (route : Net.IPNet) : List SetClause :=
  (n.outgoing.prefixLists.filter (fun pl => matchHolds lines route (pl.ipFamily, pl.name))).map
    PropertyPrefixList.setStatement

def nextHopClausesV4 (n : NeighborConfig) : List SetClause :=
  if n.outgoing.nextHopV4 ≠ "" then [.ipNextHop n.outgoing.nextHopV4] else []

def nextHopClausesV6 (n : NeighborConfig) : List SetClause :=
  if n.outgoing.nextHopV6 ≠ "" then [.ipv6NextHopGlobal n.outgoing.nextHopV6] else []

/-- **What the outgoing route map executes**: the clauses of the route's properties, then the next hop of the list that
permits it. -/
theorem run_outEntries (lines : List (Nat × Line)) (n : NeighborConfig) (route : Net.IPNet) :
    Policy.run (matchHolds lines route) (outEntries n) =
      if matchHolds lines route ("ip", n.toAdvertisePrefixListV4) then
        some (propertyClauses lines n route ++ nextHopClausesV4 n)
      else if matchHolds lines route ("ipv6", n.toAdvertisePrefixListV6) then
        some (propertyClauses lines n route ++ nextHopClausesV6 n)
      else none := by
  have hchain : ((n.outgoing.prefixLists.map (fun pl =>
      (⟨true, (pl.ipFamily, pl.name), [pl.setStatement], true⟩ : Policy.Entry (String × String) SetClause))).filter
        (fun e => matchHolds lines route e.test)).flatMap Policy.Entry.sets = propertyClauses lines n route := by
    unfold propertyClauses
    rw [List.filter_map, List.flatMap_map, List.map_eq_flatMap]
    rfl
  unfold outEntries
  rw [Policy.run_chain _ _ (fun e he => ?_), hchain]
  · simp only [Policy.run, nextHopClausesV4, nextHopClausesV6]
    split
    · rfl
    · split <;> rfl
  · obtain ⟨pl, -, rfl⟩ := List.mem_map.1 he
    exact ⟨rfl, rfl⟩

/-- The texts of prefixes in a neighbor's outgoing lists. -/
def NeighborConfig.writtenOut (n : NeighborConfig) : List String :=
  n.outgoing.prefixesV4 ++ n.outgoing.prefixesV6 ++
    n.outgoing.localPrefPrefixesModifiers.flatMap (fun l => l.prefixes.toList) ++
    n.outgoing.communityPrefixesModifiers.flatMap (fun l => l.prefixes.toList)

theorem mem_writtenOut {n : NeighborConfig} {q : String} : q ∈ n.writtenOut ↔
    q ∈ n.outgoing.prefixesV4 ∨ q ∈ n.outgoing.prefixesV6 ∨
      (∃ l ∈ n.outgoing.localPrefPrefixesModifiers, q ∈ l.prefixes) ∨
        ∃ l ∈ n.outgoing.communityPrefixesModifiers, q ∈ l.prefixes := by
  simp only [NeighborConfig.writtenOut, List.mem_append, List.mem_flatMap, SortedSet.mem_toList, or_assoc]

/-- What a neighbor advertises in the family of a route. -/
def NeighborConfig.advertises (n : NeighborConfig) (route : Net.IPNet) : List String :=
  if route.bits = 32 then n.outgoing.prefixesV4 else n.outgoing.prefixesV6

/-- **What happens to a route to the network written `p`.** -/
structure OutgoingPolicy (n : NeighborConfig) (p : String) (route : Net.IPNet) (outcome : Option (List SetClause)) :
    Prop where
  permits : outcome.isSome = true ↔ p ∈ n.advertises route
  communities : ∀ sets, outcome = some sets → ∀ k, k ∈ (applied sets).communities ↔
    ∃ l ∈ n.outgoing.communityPrefixesModifiers, l.community = k ∧ p ∈ l.prefixes
  localPref : ∀ sets, outcome = some sets → ∀ v, (applied sets).localPref = some v ↔
    ∃ l ∈ n.outgoing.localPrefPrefixesModifiers, l.localPref = v ∧ p ∈ l.prefixes
  nextHop : ∀ sets, outcome = some sets → ∀ v, (applied sets).nextHop = some v ↔
    route.bits = 32 ∧ n.outgoing.nextHopV4 ≠ "" ∧ n.outgoing.nextHopV4 = v
  nextHopGlobal : ∀ sets, outcome = some sets → ∀ v, (applied sets).nextHopGlobal = some v ↔
    route.bits ≠ 32 ∧ n.outgoing.nextHopV6 ≠ "" ∧ n.outgoing.nextHopV6 = v

section

variable {c : Config} {n : NeighborConfig} {p : String} {route : Net.IPNet}

/-- The properties that apply to a route that is advertised are those with its prefix. -/
theorem mem_propertyClauses (hids : c.IdsApart) (hready : ∀ m ∈ c.neighbors, m.OutReady) (hn : n ∈ c.neighbors)
    (hp : Net.parseNet p = some route) (hcanon : ∀ q ∈ n.writtenOut, Net.parseNet q = some route → q = p)
    (hadv : p ∈ n.advertises route) (s : SetClause) : s ∈ propertyClauses (renderedFilters c) n route ↔
      (∃ l ∈ n.outgoing.localPrefPrefixesModifiers, p ∈ l.prefixes ∧ l.setStatement = s) ∨
        ∃ l ∈ n.outgoing.communityPrefixesModifiers, p ∈ l.prefixes ∧ l.setStatement = s := by
  have hout := hready n hn
  have hfam : frrIPFamily (forCIDRString p) = routeFamily route := by
    unfold NeighborConfig.advertises at hadv
    unfold routeFamily
    split at hadv
    · rename_i hb
      rw [hout.familyV4 p hadv, if_pos hb]; rfl
    · rename_i hb
      rw [hout.familyV6 p hadv, if_neg hb]; rfl
  have hholds : ∀ pl ∈ n.outgoing.prefixLists,
      (∀ q ∈ pl.prefixes, pl.ipFamily = frrIPFamily (forCIDRString q) ∧ q ∈ n.writtenOut) →
        (matchHolds (renderedFilters c) route (pl.ipFamily, pl.name) = true ↔ p ∈ pl.prefixes) := by
    intro pl hpl hpl'
    rw [property_holds hids hready hn hpl]
    refine ⟨fun ⟨_, q, hq, hroute⟩ => hcanon q (hpl' q hq).2 hroute ▸ hq, fun hmem => ?_⟩
    exact ⟨(hpl' p hmem).1.trans hfam, p, hmem, hp⟩
  have hlocal : ∀ l ∈ n.outgoing.localPrefPrefixesModifiers, ∀ q ∈ l.prefixes,
      l.ipFamily = frrIPFamily (forCIDRString q) ∧ q ∈ n.writtenOut :=
    fun l hl q hq => ⟨hout.localPrefFamily l hl q hq, mem_writtenOut.2 (Or.inr (Or.inr (Or.inl ⟨l, hl, hq⟩)))⟩
  have hcomm : ∀ l ∈ n.outgoing.communityPrefixesModifiers, ∀ q ∈ l.prefixes,
      l.ipFamily = frrIPFamily (forCIDRString q) ∧ q ∈ n.writtenOut :=
    fun l hl q hq => ⟨hout.communityFamily l hl q hq, mem_writtenOut.2 (Or.inr (Or.inr (Or.inr ⟨l, hl, hq⟩)))⟩
  simp only [propertyClauses, List.mem_map, List.mem_filter]
  refine ⟨fun ⟨pl, ⟨hpl, hh⟩, hs⟩ => ?_, fun h => ?_⟩
  · rcases mem_prefixLists.1 hpl with ⟨l, hl, rfl⟩ | ⟨l, hl, rfl⟩
    · exact Or.inl ⟨l, hl, (hholds _ hpl (hlocal l hl)).1 hh, hs⟩
    · exact Or.inr ⟨l, hl, (hholds _ hpl (hcomm l hl)).1 hh, hs⟩
  · rcases h with ⟨l, hl, hmem, hs⟩ | ⟨l, hl, hmem, hs⟩
    · have hpl := mem_prefixLists.2 (Or.inl ⟨l, hl, rfl⟩)
      exact ⟨_, ⟨hpl, (hholds _ hpl (hlocal l hl)).2 hmem⟩, hs⟩
    · have hpl := mem_prefixLists.2 (Or.inr ⟨l, hl, rfl⟩)
      exact ⟨_, ⟨hpl, (hholds _ hpl (hcomm l hl)).2 hmem⟩, hs⟩

theorem advertises_iff (hp : Net.parseNet p = some route)
    (hcanon : ∀ q ∈ n.writtenOut, Net.parseNet q = some route → q = p) :
    ((∃ q ∈ n.outgoing.prefixesV4, Net.parseNet q = some route) ↔ p ∈ n.outgoing.prefixesV4) ∧
      ((∃ q ∈ n.outgoing.prefixesV6, Net.parseNet q = some route) ↔ p ∈ n.outgoing.prefixesV6) := by
  refine ⟨⟨fun ⟨q, hq, hr⟩ => ?_, fun h => ⟨p, h, hp⟩⟩, fun ⟨q, hq, hr⟩ => ?_, fun h => ⟨p, h, hp⟩⟩
  · rwa [← hcanon q (mem_writtenOut.2 (Or.inl hq)) hr]
  · rwa [← hcanon q (mem_writtenOut.2 (Or.inr (Or.inl hq))) hr]

/-- Exactly one of the two deciding entries is about a route's family. -/
theorem evalRouteMap_out (hids : c.IdsApart) (hready : ∀ m ∈ c.neighbors, m.OutReady) (hn : n ∈ c.neighbors)
    (hp : Net.parseNet p = some route) (hcanon : ∀ q ∈ n.writtenOut, Net.parseNet q = some route → q = p) :
    evalRouteMap (renderedFilters c) (routeMapName n.id .outward) route =
      if p ∈ n.advertises route then some (propertyClauses (renderedFilters c) n route ++
        if route.bits = 32 then nextHopClausesV4 n else nextHopClausesV6 n)
      else none := by
  obtain ⟨pre, post, hsplit⟩ := List.append_of_mem hn
  have hother : ∀ m ∈ pre ++ post, m.id ≠ n.id := by
    have hnodup := hids
    unfold Config.IdsApart at hnodup
    rw [hsplit, List.map_append, List.map_cons, List.nodup_middle, ← List.map_append] at hnodup
    exact fun m hm hid => (List.nodup_cons.1 hnodup).1 (hid ▸ List.mem_map_of_mem hm)
  obtain ⟨h4, h6⟩ := toAdvertise_holds hids hready hn route
  rw [(advertises_iff hp hcanon).1] at h4
  rw [(advertises_iff hp hcanon).2] at h6
  unfold evalRouteMap NeighborConfig.advertises
  rw [routeMap_entries hsplit hother, run_outEntries]
  by_cases hb : route.bits = 32
  · have h6' : ¬ matchHolds (renderedFilters c) route ("ipv6", n.toAdvertisePrefixListV6) = true :=
      fun h => (h6.1 h).1 hb
    simp [hb, h4, h6']
  · have h4' : ¬ matchHolds (renderedFilters c) route ("ip", n.toAdvertisePrefixListV4) = true := fun h => hb (h4.1 h).1
    simp [hb, h4', h6]

theorem CommunityPrefixList.community?_setStatement (l : CommunityPrefixList) :
    l.setStatement.community? = some l.community ∧ l.setStatement.localPref? = none ∧ l.setStatement.nextHop? = none ∧
      l.setStatement.nextHopGlobal? = none := by
  unfold CommunityPrefixList.setStatement
  split <;> exact ⟨rfl, rfl, rfl, rfl⟩

theorem mem_nextHopClauses (n : NeighborConfig) (route : Net.IPNet) (s : SetClause) :
    s ∈ (if route.bits = 32 then nextHopClausesV4 n else nextHopClausesV6 n) ↔
      (route.bits = 32 ∧ n.outgoing.nextHopV4 ≠ "" ∧ s = .ipNextHop n.outgoing.nextHopV4) ∨
        route.bits ≠ 32 ∧ n.outgoing.nextHopV6 ≠ "" ∧ s = .ipv6NextHopGlobal n.outgoing.nextHopV6 := by
  unfold nextHopClausesV4 nextHopClausesV6
  by_cases hb : route.bits = 32
  · by_cases h4 : n.outgoing.nextHopV4 = "" <;> simp [hb, h4]
  · by_cases h6 : n.outgoing.nextHopV6 = "" <;> simp [hb, h6]

/-- The clauses executed for a route that is advertised, and what each of them sets. -/
theorem mem_outClauses (hids : c.IdsApart) (hready : ∀ m ∈ c.neighbors, m.OutReady) (hn : n ∈ c.neighbors)
    (hp : Net.parseNet p = some route) (hcanon : ∀ q ∈ n.writtenOut, Net.parseNet q = some route → q = p)
    {sets : List SetClause}
    (h : evalRouteMap (renderedFilters c) (routeMapName n.id .outward) route = some sets) (s : SetClause) : s ∈ sets ↔
      (∃ l ∈ n.outgoing.localPrefPrefixesModifiers, p ∈ l.prefixes ∧ l.setStatement = s) ∨
      (∃ l ∈ n.outgoing.communityPrefixesModifiers, p ∈ l.prefixes ∧ l.setStatement = s) ∨
      (route.bits = 32 ∧ n.outgoing.nextHopV4 ≠ "" ∧ s = .ipNextHop n.outgoing.nextHopV4) ∨
      route.bits ≠ 32 ∧ n.outgoing.nextHopV6 ≠ "" ∧ s = .ipv6NextHopGlobal n.outgoing.nextHopV6 := by
  rw [evalRouteMap_out hids hready hn hp hcanon] at h
  split at h
  · rename_i hadv
    obtain rfl := Option.some.inj h
    rw [List.mem_append, mem_propertyClauses hids hready hn hp hcanon hadv, mem_nextHopClauses, or_assoc]
  · cases h

/-- What a clause executed for a route sets is what the configuration has for the prefix. -/
theorem read_outClauses (hids : c.IdsApart) (hready : ∀ m ∈ c.neighbors, m.OutReady) (hn : n ∈ c.neighbors)
    (hp : Net.parseNet p = some route) (hcanon : ∀ q ∈ n.writtenOut, Net.parseNet q = some route → q = p)
    {sets : List SetClause} (h : evalRouteMap (renderedFilters c) (routeMapName n.id .outward) route = some sets)
    {s : SetClause} (hs : s ∈ sets) :
    (∀ k, s.community? = some k → ∃ l ∈ n.outgoing.communityPrefixesModifiers, l.community = k ∧ p ∈ l.prefixes) ∧
    (∀ v, s.localPref? = some v → ∃ l ∈ n.outgoing.localPrefPrefixesModifiers, l.localPref = v ∧ p ∈ l.prefixes) ∧
    (∀ v, s.nextHop? = some v → route.bits = 32 ∧ n.outgoing.nextHopV4 ≠ "" ∧ n.outgoing.nextHopV4 = v) ∧
    ∀ v, s.nextHopGlobal? = some v → route.bits ≠ 32 ∧ n.outgoing.nextHopV6 ≠ "" ∧ n.outgoing.nextHopV6 = v := by
  rcases (mem_outClauses hids hready hn hp hcanon h s).1 hs with
    ⟨l, hl, hpl, rfl⟩ | ⟨l, hl, hpl, rfl⟩ | ⟨hb, hne, rfl⟩ | ⟨hb, hne, rfl⟩
  · exact ⟨nofun, fun v hv => ⟨l, hl, Option.some.inj hv, hpl⟩, nofun, nofun⟩
  · obtain ⟨hk, hlp, h4, h6⟩ := l.community?_setStatement
    rw [hk, hlp, h4, h6]
    exact ⟨fun k hv => ⟨l, hl, Option.some.inj hv, hpl⟩, nofun, nofun, nofun⟩
  · exact ⟨nofun, nofun, fun v hv => ⟨hb, hne, Option.some.inj hv⟩, nofun⟩
  · exact ⟨nofun, nofun, nofun, fun v hv => ⟨hb, hne, Option.some.inj hv⟩⟩

/-- What is set in the end is what the configuration has, when it has one value and every clause sets that. -/
theorem applied_iff {β : Type} {sets : List SetClause} {read? : SetClause → Option β} {value : Option β} {P : β → Prop}
    (hvalue : (∀ s ∈ sets, ∀ t ∈ sets, ∀ v w, read? s = some v → read? t = some w → v = w) →
      ∀ v, value = some v ↔ ∃ s ∈ sets, read? s = some v)
    (hread : ∀ s ∈ sets, ∀ v, read? s = some v → P v) (hone : ∀ v w, P v → P w → v = w)
    (hset : ∀ v, P v → ∃ s ∈ sets, read? s = some v) (v : β) : value = some v ↔ P v := by
  rw [hvalue (fun s hs t ht v w hv hw => hone v w (hread s hs v hv) (hread t ht w hw))]
  exact ⟨fun ⟨s, hs, hv⟩ => hread s hs v hv, hset v⟩

theorem outgoingPolicy (hids : c.IdsApart) (hready : ∀ m ∈ c.neighbors, m.OutReady) (hn : n ∈ c.neighbors)
    (hp : Net.parseNet p = some route) (hcanon : ∀ q ∈ n.writtenOut, Net.parseNet q = some route → q = p) :
    OutgoingPolicy n p route (evalRouteMap (renderedFilters c) (routeMapName n.id .outward) route) := by
  have hmem := @mem_outClauses c n p route hids hready hn hp hcanon
  have hread := @read_outClauses c n p route hids hready hn hp hcanon
  refine ⟨?_, fun sets h k => ?_, fun sets h => ?_, fun sets h => ?_, fun sets h => ?_⟩
  · rw [evalRouteMap_out hids hready hn hp hcanon]
    split <;> simp [*]
  · rw [mem_applied_communities]
    refine ⟨fun ⟨s, hs, hk⟩ => (hread h hs).1 k hk, fun ⟨l, hl, hk, hpl⟩ => ?_⟩
    exact ⟨l.setStatement, (hmem h _).2 (Or.inr (Or.inl ⟨l, hl, hpl, rfl⟩)),
      l.community?_setStatement.1.trans (hk ▸ rfl)⟩
  · refine applied_iff applied_localPref (fun s hs => (hread h hs).2.1) (fun v w hv hw => ?_) (fun v hv => ?_)
    · obtain ⟨l, hl, rfl, hpl⟩ := hv
      obtain ⟨l', hl', rfl, hpl'⟩ := hw
      exact (hready n hn).localPrefOnce l hl l' hl' p hpl hpl'
    · obtain ⟨l, hl, hv, hpl⟩ := hv
      exact ⟨l.setStatement, (hmem h _).2 (Or.inl ⟨l, hl, hpl, rfl⟩), congrArg some hv⟩
  · refine applied_iff applied_nextHop (fun s hs => (hread h hs).2.2.1) (fun v w hv hw => hv.2.2.symm.trans hw.2.2)
      (fun v hv => ?_)
    exact ⟨.ipNextHop n.outgoing.nextHopV4, (hmem h _).2 (Or.inr (Or.inr (Or.inl ⟨hv.1, hv.2.1, rfl⟩))),
      congrArg some hv.2.2⟩
  · refine applied_iff applied_nextHopGlobal (fun s hs => (hread h hs).2.2.2)
      (fun v w hv hw => hv.2.2.symm.trans hw.2.2) (fun v hv => ?_)
    exact ⟨.ipv6NextHopGlobal n.outgoing.nextHopV6, (hmem h _).2 (Or.inr (Or.inr (Or.inr ⟨hv.1, hv.2.1, rfl⟩))),
      congrArg some hv.2.2⟩

end

/-- **The rendered outgoing route map is the neighbor's outgoing policy.**  When no two neighbors of a result have the
same ID, a route whose network is written `p`, and no other way in the neighbor's lists, is permitted exactly when the
neighbor advertises `p`, with the communities, local preference and next hop the configuration has for it. -/
theorem outbound_policy (secrets : SortedMap String Secret) (alwaysBlock : List Net.IPNet)
    (cfgs : List FRRConfiguration) (c : Config) (h : apiToFRR ⟨cfgs, secrets⟩ alwaysBlock = .ok c) (hids : c.IdsApart)
    (n : NeighborConfig) (hn : n ∈ c.neighbors) (p : String) (route : Net.IPNet) (hp : Net.parseNet p = some route)
    (hcanon : ∀ q ∈ n.writtenOut, Net.parseNet q = some route → q = p) :
    OutgoingPolicy n p route (evalRouteMap (renderedFilters c) (routeMapName n.id .outward) route) := by
  have hacc := apiToFRR_acceptable h
  refine outgoingPolicy hids (fun m hm => ?_) hn hp hcanon
  obtain ⟨r, hr, hm⟩ := List.mem_flatMap.1 hm
  exact (apiToFRR_result h).outReady hacc hr hm

/-- The result for the two parts of a configuration. -/
def partsResult : Config := (apiToFRR ⟨[firstPart, secondPart], .empty⟩ []).toOption.getD {}

theorem outbound_policy_parts : apiToFRR ⟨[firstPart, secondPart], .empty⟩ [] = .ok partsResult ∧
    ∀ n ∈ partsResult.neighbors, ∃ route, Net.parseNet "192.0.2.0/24" = some route ∧
      OutgoingPolicy n "192.0.2.0/24" route
        (evalRouteMap (renderedFilters partsResult) (routeMapName n.id .outward) route) := by
  have hok : apiToFRR ⟨[firstPart, secondPart], .empty⟩ [] = .ok partsResult :=
    eq_ok_of_isOk (by decide +kernel) {}
  have hids : partsResult.IdsApart := by unfold Config.IdsApart; decide +kernel
  have hcanon : ∀ n ∈ partsResult.neighbors, ∀ q ∈ n.writtenOut,
      Net.parseNet q = Net.parseNet "192.0.2.0/24" → q = "192.0.2.0/24" := by decide +kernel
  obtain ⟨route, hroute⟩ := Option.isSome_iff_exists.1 (by decide : (Net.parseNet "192.0.2.0/24").isSome = true)
  refine ⟨hok, fun n hn => ⟨route, hroute, ?_⟩⟩
  exact outbound_policy .empty [] _ partsResult hok hids n hn "192.0.2.0/24" route hroute
    (fun q hq hr => hcanon n hn q hq (hr.trans hroute.symm))

end FrrK8s
