import FrrK8s.Incoming
import FrrK8s.NetText
import FrrK8s.Outbound
/-!
# Inbound — what a neighbor's incoming route map permits

The route map first refuses what the list of blocked prefixes permits, then permits what the neighbor's own list does
(`isSome_inEntries`).  A blocked network blocks every route in it, since it is read back from its text with bounds up to
the length of its family (`blocks_iff`); the own list permits by filters, or everything, and its line that refuses all
stands only in a family without either (`allowed_permits`).
-/
namespace FrrK8s

/-! ## Blocked prefixes -/

theorem unmapped_bits (b : Net.IPNet) : b.unmapped.bits = if forCIDR b = .ipv6 then 128 else 32 := by
  unfold Net.IPNet.unmapped forCIDR
  cases hv : b.to4 with
  | some v => rfl
  | none => exact b.bits_eq.resolve_left (fun h => by simp [Net.IPNet.to4, h] at hv)

theorem contains_bits {b route : Net.IPNet} (h : b.contains route = true) : b.bits = route.bits := by
  simp only [Net.IPNet.contains, Bool.and_eq_true, decide_eq_true_eq] at h
  exact h.1.1

/-- **A blocked network matches the routes in it.** -/
theorem blocks_iff (alwaysBlock : List Net.IPNet) (route : Net.IPNet) :
    (∃ a ∈ alwaysBlockToFRR alwaysBlock, routeFamily route = frrIPFamily a.ipFamily ∧ a.matchesRoute route = true) ↔
      ∃ b ∈ alwaysBlock, b.unmapped.contains route = true := by
  have hmatches : ∀ b : Net.IPNet, (routeFamily route = frrIPFamily (forCIDR b) ∧ IncomingFilter.matchesRoute
      { ipFamily := forCIDR b, pfx := b.string, le := if forCIDR b = .ipv6 then 128 else 32 } route = true) ↔
        b.unmapped.contains route = true := by
    intro b
    have hbits := unmapped_bits b
    simp only [IncomingFilter.matchesRoute, Net.parseNet_string, Bool.and_eq_true]
    refine ⟨fun h => h.2.1, fun h => ?_⟩
    have hroute : route.bits = if forCIDR b = .ipv6 then 128 else 32 := (contains_bits h).symm.trans hbits
    have hle := route.ones_le
    by_cases hf : forCIDR b = .ipv6
    · rw [if_pos hf] at hroute
      simp [h, hf, routeFamily, hroute, frrIPFamily, hroute ▸ hle]
    · have hf' : forCIDR b = .ipv4 := by
        unfold forCIDR at hf ⊢
        split at hf
        · exact absurd rfl hf
        · rw [if_neg ‹_›]
      rw [if_neg hf] at hroute
      simp [h, hf', routeFamily, hroute, frrIPFamily, hroute ▸ hle]
  simp only [alwaysBlockToFRR, List.mem_map, exists_exists_and_eq_and]
  exact exists_congr fun b => and_congr_right fun _ => hmatches b

/-! ## The lists of one neighbor -/

/-- The name of the list a line belongs to. -/
def Line.listName : Line → Option String
  | .prefixList _ name _ _ => some name
  | .routeMap .. => none

/-- The names of the lists a neighbor is rendered with. -/
def NeighborConfig.listNames (n : NeighborConfig) : List String := (neighborFilters n).filterMap Line.listName

/-- The names of its route maps. -/
def NeighborConfig.routeMapNames (n : NeighborConfig) : List String :=
  [routeMapName n.id .inward, routeMapName n.id .outward]

/-- No list and no route map of the one neighbor has a name that one of the other has. -/
def NeighborConfig.NamesApart (n m : NeighborConfig) : Prop :=
  (∀ x ∈ n.listNames, x ∉ m.listNames) ∧ ∀ x ∈ n.routeMapNames, x ∉ m.routeMapNames

theorem mem_listNames {n : NeighborConfig} {name : String} :
    name ∈ n.listNames ↔ ∃ family permit m, Line.prefixList family name permit m ∈ neighborFilters n := by
  unfold NeighborConfig.listNames
  rw [List.mem_filterMap]
  refine ⟨fun ⟨line, hline, hname⟩ => ?_, fun ⟨family, permit, m, h⟩ => ⟨_, h, rfl⟩⟩
  cases line with
  | prefixList family x permit m =>
    obtain rfl := Option.some.inj hname
    exact ⟨family, permit, m, hline⟩
  | routeMap => cases hname

section

variable {c : Config} {pre post : List NeighborConfig} {n : NeighborConfig}

theorem NeighborConfig.NamesApart.id_ne {m : NeighborConfig} (h : n.NamesApart m) : m.id ≠ n.id := by
  intro hid
  refine h.2 (routeMapName n.id .inward) (by simp [routeMapNames]) ?_
  simp [routeMapNames, hid]

/-- A list that has a line of a neighbor has lines of it only. -/
theorem rules_own (hc : c.neighbors = pre ++ n :: post) (hnames : ∀ m ∈ pre ++ post, n.NamesApart m) {name : String}
    (hown : name ∈ n.listNames) (family : String) (rule : Policy.Rule Matcher) :
    rule ∈ Policy.inOrder (ruleOf family name) (renderedFilters c) ↔
      Line.prefixList family name rule.permit rule.test ∈ neighborFilters n := by
  rw [mem_rules, hc]
  refine ⟨fun ⟨m, hm, hline⟩ => ?_, fun hline => ⟨n, by simp, hline⟩⟩
  by_cases hother : m ∈ pre ++ post
  · exact absurd (mem_listNames.2 ⟨_, _, _, hline⟩) ((hnames m hother).1 name hown)
  · obtain rfl : m = n := by
      simp only [List.mem_append, List.mem_cons] at hm hother
      tauto
    exact hline

theorem allowed_ne_denied (n : NeighborConfig) : allowedIncomingList n ≠ deniedIncomingList n := by
  rw [(incoming_endings n).1, (incoming_endings n).2]
  intro h
  have hlen := congrArg String.length (String.append_left_inj _ |>.1 h)
  simp at hlen

theorem allowed_line (hnamed : n.Named) {family : String} {permit : Bool} {m : Matcher} :
    Line.prefixList family (allowedIncomingList n) permit m ∈ neighborFilters n ↔
      Line.prefixList family (allowedIncomingList n) permit m ∈ allowedIncomingLines n := by
  rw [mem_neighborFilters]
  refine ⟨fun h => ?_, fun h => .inr (.inr (.inr (.inl h)))⟩
  obtain ⟨pl, hpl, h⟩ | h | h | h | h := h
  · exact ((name_kinds hnamed hpl).2.2.1 (mem_propertyLines.1 h).2.1).elim
  · exact ((toAdvertise_ne_incoming n n).1 (mem_toAdvertiseLines.1 h).2.1.symm).elim
  · exact ((toAdvertise_ne_incoming n n).2.2.1 (mem_toAdvertiseLines.1 h).2.1.symm).elim
  · exact h
  · exact (allowed_ne_denied n (mem_deniedIncomingLines.1 h).1).elim

theorem denied_line (hnamed : n.Named) {family : String} {permit : Bool} {m : Matcher} :
    Line.prefixList family (deniedIncomingList n) permit m ∈ neighborFilters n ↔
      Line.prefixList family (deniedIncomingList n) permit m ∈ deniedIncomingLines n := by
  rw [mem_neighborFilters]
  refine ⟨fun h => ?_, fun h => .inr (.inr (.inr (.inr h)))⟩
  obtain ⟨pl, hpl, h⟩ | h | h | h | h := h
  · exact ((name_kinds hnamed hpl).2.2.2 (mem_propertyLines.1 h).2.1).elim
  · exact ((toAdvertise_ne_incoming n n).2.1 (mem_toAdvertiseLines.1 h).2.1.symm).elim
  · exact ((toAdvertise_ne_incoming n n).2.2.2 (mem_toAdvertiseLines.1 h).2.1.symm).elim
  · exact (allowed_ne_denied n (mem_allowedIncomingLines.1 h).1.symm).elim
  · exact h

/-! ## What the lists permit -/

/-- The filters of the route's family. -/
def NeighborConfig.receives (n : NeighborConfig) (route : Net.IPNet) : List IncomingFilter :=
  if route.bits = 32 then n.incoming.prefixesV4 else n.incoming.prefixesV6

/-- Each filter stands with those of its family. -/
structure AllowedIn.ByFamily (a : AllowedIn) : Prop where
  familyV4 : ∀ f ∈ a.prefixesV4, f.ipFamily = .ipv4
  familyV6 : ∀ f ∈ a.prefixesV6, f.ipFamily = .ipv6

theorem mem_receives (hfam : n.incoming.ByFamily) (route : Net.IPNet) (f : IncomingFilter) :
    f ∈ n.receives route ↔ f ∈ n.incoming.allPrefixes ∧ routeFamily route = frrIPFamily f.ipFamily := by
  have h4 := hfam.familyV4 f
  have h6 := hfam.familyV6 f
  unfold NeighborConfig.receives routeFamily AllowedIn.allPrefixes
  rw [List.mem_append]
  by_cases hb : route.bits = 32
  · rw [if_pos hb, if_pos hb]
    refine ⟨fun hf => ⟨.inl hf, by rw [h4 hf]; rfl⟩, fun ⟨hf, hk⟩ => hf.resolve_right (fun hf => ?_)⟩
    rw [h6 hf] at hk
    exact absurd hk (by decide)
  · rw [if_neg hb, if_neg hb]
    refine ⟨fun hf => ⟨.inr hf, by rw [h6 hf]; rfl⟩, fun ⟨hf, hk⟩ => hf.resolve_left (fun hf => ?_)⟩
    rw [h4 hf] at hk
    exact absurd hk (by decide)

/-- The line that refuses all of a family stands only where the neighbor accepts nothing of it. -/
theorem receives_empty {route : Net.IPNet} (h : (routeFamily route = "ip" ∧ n.incoming.prefixesV4 = []) ∨
    routeFamily route = "ipv6" ∧ n.incoming.prefixesV6 = []) : n.receives route = [] := by
  unfold NeighborConfig.receives
  unfold routeFamily at h
  by_cases hb : route.bits = 32
  · simpa [hb] using h
  · simpa [hb] using h

/-- **The own list permits by the filters of the family, or everything.** -/
theorem allowed_permits (hfam : n.incoming.ByFamily) {route : Net.IPNet} {rules : List (Policy.Rule Matcher)}
    (hrules : ∀ rule, rule ∈ rules ↔
      Line.prefixList (routeFamily route) (allowedIncomingList n) rule.permit rule.test ∈ allowedIncomingLines n) :
    Policy.permits (fun m => m.matchesRoute route) rules = true ↔
      n.incoming.all = true ∨ ∃ f ∈ n.receives route, f.matchesRoute route = true := by
  simp only [mem_allowedIncomingLines, true_and] at hrules
  refine ⟨fun h => ?_, fun h => ?_⟩
  · obtain ⟨rule, hmem, hpermit, hmatch⟩ := Policy.exists_of_permits _ h
    obtain ⟨-, i, hi, hk, htest⟩ | ⟨hall, -⟩ | ⟨-, hno, -⟩ := (hrules rule).1 hmem
    · rw [htest] at hmatch
      exact .inr ⟨i, (mem_receives hfam route i).2 ⟨hi, hk⟩, hmatch⟩
    · exact .inl hall
    · exact absurd (hpermit.symm.trans hno) (by decide)
  · -- a line that refuses all would leave nothing to accept
    have hpermit : ∀ rule ∈ rules, rule.permit = true := by
      intro rule hmem
      obtain ⟨hp, -⟩ | ⟨-, hp, -⟩ | ⟨hall, -, -, hnone⟩ := (hrules rule).1 hmem
      · exact hp
      · exact hp
      · obtain h | ⟨f, hf, -⟩ := h
        · exact absurd (h.symm.trans hall) (by decide)
        · rw [receives_empty hnone] at hf
          exact absurd hf List.not_mem_nil
    rw [Policy.permits_iff _ hpermit]
    obtain hall | ⟨f, hf, hmatch⟩ := h
    · refine ⟨⟨true, .any⟩, (hrules _).2 (.inr (.inl ⟨hall, rfl, rfl, ?_⟩)), rfl⟩
      unfold routeFamily
      split
      · exact .inl rfl
      · exact .inr rfl
    · obtain ⟨hmem, hk⟩ := (mem_receives hfam route f).1 hf
      exact ⟨⟨true, .within f⟩, (hrules _).2 (.inl ⟨rfl, f, hmem, hk, rfl⟩), hmatch⟩

/-- **The list of blocked prefixes permits what one of them matches.** -/
theorem denied_permits {route : Net.IPNet} {rules : List (Policy.Rule Matcher)}
    (hrules : ∀ rule, rule ∈ rules ↔
      Line.prefixList (routeFamily route) (deniedIncomingList n) rule.permit rule.test ∈ deniedIncomingLines n) :
    Policy.permits (fun m => m.matchesRoute route) rules = true ↔
      ∃ a ∈ n.alwaysBlock, routeFamily route = frrIPFamily a.ipFamily ∧ a.matchesRoute route = true := by
  simp only [mem_deniedIncomingLines, true_and] at hrules
  rw [Policy.permits_iff _ (fun rule hmem => ((hrules rule).1 hmem).1)]
  refine ⟨fun ⟨rule, hmem, hmatch⟩ => ?_, fun ⟨a, ha, hk, hmatch⟩ => ?_⟩
  · obtain ⟨-, a, ha, hk, htest⟩ := (hrules rule).1 hmem
    rw [htest] at hmatch
    exact ⟨a, ha, hk, hmatch⟩
  · exact ⟨⟨true, .within a⟩, (hrules _).2 ⟨rfl, a, ha, hk, rfl⟩, hmatch⟩

/-! ## The route map -/

/-- A list tested in both families is tested in the route's. -/
theorem matchHolds_either (lines : List (Nat × Line)) (route : Net.IPNet) (name : String) :
    (matchHolds lines route ("ip", name) = true ∨ matchHolds lines route ("ipv6", name) = true) ↔
      Policy.permits (fun m => m.matchesRoute route)
      (Policy.inOrder (ruleOf (routeFamily route) name) lines) = true := by
  unfold matchHolds routeFamily
  by_cases hb : route.bits = 32
  · simp [hb]
  · simp [hb]

theorem isSome_inEntries (lines : List (Nat × Line)) (route : Net.IPNet) (n : NeighborConfig) :
    (Policy.run (matchHolds lines route) (inEntries n)).isSome = true ↔
      (n.alwaysBlock = [] ∨ ¬ Policy.permits (fun m => m.matchesRoute route)
          (Policy.inOrder (ruleOf (routeFamily route) (deniedIncomingList n)) lines) = true) ∧
        Policy.permits (fun m => m.matchesRoute route)
          (Policy.inOrder (ruleOf (routeFamily route) (allowedIncomingList n)) lines) = true := by
  rw [← matchHolds_either, ← matchHolds_either]
  unfold inEntries
  by_cases hb : n.alwaysBlock = []
  · simp only [hb, if_true, List.nil_append, true_or, true_and, Policy.run]
    cases matchHolds lines route ("ip", allowedIncomingList n) <;>
      cases matchHolds lines route ("ipv6", allowedIncomingList n) <;> simp
  · simp only [hb, if_false, List.cons_append, List.nil_append, false_or, Policy.run]
    cases matchHolds lines route ("ip", deniedIncomingList n) <;>
      cases matchHolds lines route ("ipv6", deniedIncomingList n) <;>
      cases matchHolds lines route ("ip", allowedIncomingList n) <;>
      cases matchHolds lines route ("ipv6", allowedIncomingList n) <;> simp

theorem allowed_mem_listNames (hnamed : n.Named) : allowedIncomingList n ∈ n.listNames := by
  rw [mem_listNames]
  simp only [allowed_line hnamed, mem_allowedIncomingLines, true_and]
  cases hall : n.incoming.all with
  | true => exact ⟨"ip", true, .any, .inr (.inl ⟨rfl, rfl, rfl, .inl rfl⟩)⟩
  | false =>
    by_cases hfilters : n.incoming.allPrefixes = []
    · have hempty := List.append_eq_nil_iff.1 hfilters
      exact ⟨"ip", false, .any, .inr (.inr ⟨rfl, rfl, rfl, .inl ⟨rfl, hempty.1⟩⟩)⟩
    · obtain ⟨i, hi⟩ := List.exists_mem_of_ne_nil _ hfilters
      exact ⟨_, true, .within i, .inl ⟨rfl, i, hi, rfl, rfl⟩⟩

theorem denied_mem_listNames (hnamed : n.Named) (hblock : n.alwaysBlock ≠ []) : deniedIncomingList n ∈ n.listNames := by
  obtain ⟨a, ha⟩ := List.exists_mem_of_ne_nil _ hblock
  rw [mem_listNames]
  simp only [denied_line hnamed, mem_deniedIncomingLines, true_and]
  exact ⟨_, true, .within a, rfl, a, ha, rfl, rfl⟩

theorem evalRouteMap_in (hc : c.neighbors = pre ++ n :: post) (hnames : ∀ m ∈ pre ++ post, n.NamesApart m)
    (hnamed : n.Named) (hfam : n.incoming.ByFamily) (route : Net.IPNet) :
    (evalRouteMap (renderedFilters c) (routeMapName n.id .inward) route).isSome = true ↔
      (¬ ∃ a ∈ n.alwaysBlock, routeFamily route = frrIPFamily a.ipFamily ∧ a.matchesRoute route = true) ∧
        (n.incoming.all = true ∨ ∃ f ∈ n.receives route, f.matchesRoute route = true) := by
  unfold evalRouteMap
  rw [routeMap_entries hc (fun m hm => (hnames m hm).id_ne), isSome_inEntries]
  refine and_congr ?_ (allowed_permits hfam (fun rule =>
    (rules_own hc hnames (allowed_mem_listNames hnamed) _ rule).trans (allowed_line hnamed)))
  by_cases hb : n.alwaysBlock = []
  · simp [hb]
  · rw [denied_permits (fun rule =>
      (rules_own hc hnames (denied_mem_listNames hnamed hb) _ rule).trans (denied_line hnamed))]
    simp only [hb, false_or]

end

section

variable {secrets : SortedMap String Secret} {alwaysBlock : List Net.IPNet} {cfgs : List FRRConfiguration} {c : Config}

/-- What is always blocked survives every merge. -/
theorem ResultOf.alwaysBlock_eq (hacc : Acceptable secrets alwaysBlock cfgs) (h : ResultOf secrets alwaysBlock cfgs c)
    {r : RouterConfig} (hr : r ∈ c.routers) {n : NeighborConfig} (hn : n ∈ r.neighbors) :
    n.alwaysBlock = alwaysBlockToFRR alwaysBlock := by
  obtain ⟨a, ha⟩ := h.identityFrom hacc hr hn
  exact ha.block

theorem ResultOf.incoming_byFamily (h : ResultOf secrets alwaysBlock cfgs c) {r : RouterConfig} (hr : r ∈ c.routers)
    {n : NeighborConfig} (hn : n ∈ r.neighbors) : n.incoming.ByFamily := by
  refine ⟨fun f hf => ?_, fun f hf => ?_⟩
  · obtain ⟨cfg, e, a, -, m, hm, hk⟩ := brought_neighbor (h.keeps r hr (n.id, .filterV4 f) ⟨n, hn, rfl, hf⟩)
    obtain ⟨-, s, -, hsf, hfam⟩ := ((translation_receives hm).filtersV4 f).1 hk
    exact (filterForSelector_ok hsf).2.1.trans hfam
  · obtain ⟨cfg, e, a, -, m, hm, hk⟩ := brought_neighbor (h.keeps r hr (n.id, .filterV6 f) ⟨n, hn, rfl, hf⟩)
    obtain ⟨-, s, -, hsf, hfam⟩ := ((translation_receives hm).filtersV6 f).1 hk
    exact (filterForSelector_ok hsf).2.1.trans ((filterForSelector_ok hsf).2.2.resolve_left hfam)

end

/-- **The rendered incoming route map is the neighbor's incoming policy, after what is always blocked.**  When no other
neighbor of a result has a list or route map of the same name, a route is permitted exactly when no blocked network
contains it and the neighbor receives everything or has a filter of the route's family that matches it. -/
theorem inbound_policy (secrets : SortedMap String Secret) (alwaysBlock : List Net.IPNet) (cfgs : List FRRConfiguration)
    (c : Config) (h : apiToFRR ⟨cfgs, secrets⟩ alwaysBlock = .ok c) (pre post : List NeighborConfig)
    (n : NeighborConfig) (hc : c.neighbors = pre ++ n :: post) (hnames : ∀ m ∈ pre ++ post, n.NamesApart m)
    (route : Net.IPNet) :
    (evalRouteMap (renderedFilters c) (routeMapName n.id .inward) route).isSome = true ↔
      (¬ ∃ b ∈ alwaysBlock, b.unmapped.contains route = true) ∧
        (n.incoming.all = true ∨ ∃ f ∈ n.receives route, f.matchesRoute route = true) := by
  have hacc := apiToFRR_acceptable h
  have hres := apiToFRR_result h
  obtain ⟨r, hr, hn⟩ : ∃ r ∈ c.routers, n ∈ r.neighbors := List.mem_flatMap.1 (hc ▸ by simp : n ∈ c.neighbors)
  rw [evalRouteMap_in hc hnames (hres.outReady hacc hr hn).toNamed (hres.incoming_byFamily hr hn),
    hres.alwaysBlock_eq hacc hr hn, blocks_iff]

/-- A neighbor that filters what it receives, and one that receives everything. -/
def guarded : FRRConfiguration :=
  { name := "guarded"
    routers := [{ asn := 64512, neighbors := [
      { asn := 64513, address := "10.0.0.1", toReceive := { allowed := { prefixes := [⟨"10.0.0.0/8", 24, 0⟩] } } },
      { asn := 64513, address := "fd00::1", toReceive := { allowed := { mode := .all } } }] }] }

/-- The network `10.1.0.0/16`. -/
def guardedBlock : Net.IPNet := Net.IPNet.mask 32 16 0x0a010000 Net.v4_bits (by decide)

def guardedResult : Config := (apiToFRR ⟨[guarded], .empty⟩ [guardedBlock]).toOption.getD {}

theorem inbound_policy_guarded : apiToFRR ⟨[guarded], .empty⟩ [guardedBlock] = .ok guardedResult ∧
    ∃ n m, guardedResult.neighbors = [n, m] ∧ n.NamesApart m ∧
      ∀ route, (evalRouteMap (renderedFilters guardedResult) (routeMapName n.id .inward) route).isSome = true ↔
        (¬ ∃ b ∈ [guardedBlock], b.unmapped.contains route = true) ∧
          (n.incoming.all = true ∨ ∃ f ∈ n.receives route, f.matchesRoute route = true) := by
  have hok : apiToFRR ⟨[guarded], .empty⟩ [guardedBlock] = .ok guardedResult :=
    eq_ok_of_isOk (by decide +kernel) {}
  have hapart : guardedResult.neighbors.Pairwise (fun n m => n.NamesApart m) := by
    unfold NeighborConfig.NamesApart
    decide +kernel
  obtain ⟨n, m, hnm⟩ := List.length_eq_two.1 (by decide +kernel : guardedResult.neighbors.length = 2)
  rw [hnm, List.pairwise_pair] at hapart
  exact ⟨hok, n, m, hnm, hapart, inbound_policy .empty [guardedBlock] [guarded] guardedResult hok [] [m] n hnm
    (fun x hx => List.mem_singleton.1 hx ▸ hapart)⟩

end FrrK8s
