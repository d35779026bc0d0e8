import FrrK8s.Render
/-!
# Rendered — which lines a prefix list and a route map consist of

The rules of a list are lines of the neighbors (`mem_rules`), and a list of one property belongs to one neighbor
(`property_unique`).  The entries of a route map are the neighbor's own, as they are written (`routeMap_entries`).
-/
namespace FrrK8s

theorem ruleOf_eq_some {family name : String} {line : Line} {rule : Policy.Rule Matcher} :
    ruleOf family name line = some rule ↔ line = .prefixList family name rule.permit rule.test := by
  cases line with
  | prefixList f x permit m =>
    simp only [ruleOf, Line.prefixList.injEq]
    refine ⟨fun h => ?_, fun ⟨hf, hx, hp, hm⟩ => ?_⟩
    · split at h
      · rename_i hfx
        obtain rfl := Option.some.inj h
        exact ⟨hfx.1, hfx.2, rfl, rfl⟩
      · cases h
    · rw [if_pos ⟨hf, hx⟩, hp, hm]
  | routeMap => simp [ruleOf]

/-- **A rule of a rendered list is a line of a neighbor.** -/
theorem mem_rules {c : Config} {family name : String} {rule : Policy.Rule Matcher} :
    rule ∈ Policy.inOrder (ruleOf family name) (renderedFilters c) ↔
      ∃ n ∈ c.neighbors, Line.prefixList family name rule.permit rule.test ∈ neighborFilters n := by
  unfold renderedFilters
  rw [Policy.mem_inOrder_number]
  simp only [ruleOf_eq_some, exists_eq_right, List.mem_flatMap]

/-! ## The lines of a neighbor's lists -/

theorem mem_prefixLists {a : AllowedOut} {pl : PropertyPrefixList} : pl ∈ a.prefixLists ↔
    (∃ l ∈ a.localPrefPrefixesModifiers, (⟨l.toPrefixList, l.setStatement⟩ : PropertyPrefixList) = pl) ∨
      ∃ l ∈ a.communityPrefixesModifiers, (⟨l.toPrefixList, l.setStatement⟩ : PropertyPrefixList) = pl := by
  simp only [AllowedOut.prefixLists, List.mem_insertionSort, List.mem_append, List.mem_map]

theorem mem_propertyLines {id family name : String} {permit : Bool} {m : Matcher} {pl : PropertyPrefixList} :
    Line.prefixList family name permit m ∈ propertyLines id pl ↔
      pl.ipFamily = family ∧ pl.name = name ∧ permit = true ∧ ∃ p ∈ pl.prefixes, m = .exactly p := by
  simp only [propertyLines, List.mem_append, List.mem_map, List.mem_singleton, reduceCtorEq, or_false,
    Line.prefixList.injEq, SortedSet.mem_toList]
  constructor
  · rintro ⟨p, hp, hf, hx, ht, hm⟩
    exact ⟨hf, hx, ht.symm, p, hp, hm.symm⟩
  · rintro ⟨hf, hx, ht, p, hp, hm⟩
    exact ⟨p, hp, hf, hx, ht.symm, hm.symm⟩

theorem mem_toAdvertiseLines {family name f x : String} {prefixes : List String} {permit : Bool} {m : Matcher} :
    Line.prefixList f x permit m ∈ toAdvertiseLines family name prefixes ↔ f = family ∧ x = name ∧
      ((prefixes = [] ∧ permit = false ∧ m = .any) ∨ permit = true ∧ ∃ p ∈ prefixes, m = .exactly p) := by
  unfold toAdvertiseLines
  by_cases hp : prefixes = []
  · simp [hp]
  · simp only [hp, if_false, List.nil_append, List.mem_map, Line.prefixList.injEq, false_and, false_or]
    refine ⟨fun ⟨p, hp, hf, hx, ht, hm⟩ => ⟨hf.symm, hx.symm, ht.symm, p, hp, hm.symm⟩,
      fun ⟨hf, hx, ht, p, hp, hm⟩ => ?_⟩
    exact ⟨p, hp, hf.symm, hx.symm, ht.symm, hm.symm⟩

theorem mem_allowedIncomingLines {n : NeighborConfig} {f x : String} {permit : Bool} {m : Matcher} :
    Line.prefixList f x permit m ∈ allowedIncomingLines n ↔ x = allowedIncomingList n ∧
      ((permit = true ∧ ∃ i ∈ n.incoming.allPrefixes, f = frrIPFamily i.ipFamily ∧ m = .within i) ∨
        (n.incoming.all = true ∧ permit = true ∧ m = .any ∧ (f = "ip" ∨ f = "ipv6")) ∨
        n.incoming.all = false ∧ permit = false ∧ m = .any ∧
          ((f = "ip" ∧ n.incoming.prefixesV4 = []) ∨ f = "ipv6" ∧ n.incoming.prefixesV6 = [])) := by
  have hfilters : Line.prefixList f x permit m ∈ n.incoming.allPrefixes.map
      (fun i => Line.prefixList (frrIPFamily i.ipFamily) (allowedIncomingList n) true (.within i)) ↔
        x = allowedIncomingList n ∧ permit = true ∧ ∃ i ∈ n.incoming.allPrefixes, f = frrIPFamily i.ipFamily ∧
        m = .within i := by
    simp only [List.mem_map, Line.prefixList.injEq]
    refine ⟨fun ⟨i, hi, hf, hx, ht, hm⟩ => ⟨hx.symm, ht.symm, i, hi, hf.symm, hm.symm⟩,
      fun ⟨hx, ht, i, hi, hf, hm⟩ => ?_⟩
    exact ⟨i, hi, hf.symm, hx.symm, ht.symm, hm.symm⟩
  unfold allowedIncomingLines
  rw [List.mem_append, hfilters]
  cases hall : n.incoming.all with
  | true =>
    simp only [if_true, List.mem_cons, Line.prefixList.injEq, List.not_mem_nil, or_false, true_and, Bool.true_eq_false,
      false_and]
    grind
  | false =>
    by_cases h4 : n.incoming.prefixesV4 = [] <;> by_cases h6 : n.incoming.prefixesV6 = [] <;>
      simp only [Bool.false_eq_true, if_false, if_true, h4, h6, List.append_nil, List.nil_append, List.mem_append,
        List.mem_singleton, List.not_mem_nil, Line.prefixList.injEq, false_and, and_false, and_true, true_and, or_false,
        false_or] <;> grind

theorem mem_deniedIncomingLines {n : NeighborConfig} {f x : String} {permit : Bool} {m : Matcher} :
    Line.prefixList f x permit m ∈ deniedIncomingLines n ↔ x = deniedIncomingList n ∧ permit = true ∧
      ∃ a ∈ n.alwaysBlock, f = frrIPFamily a.ipFamily ∧ m = .within a := by
  unfold deniedIncomingLines
  split
  · rename_i hnil
    simp [hnil]
  · simp only [List.mem_append, List.mem_map, Line.prefixList.injEq, List.mem_cons, List.not_mem_nil,
      reduceCtorEq, or_false]
    refine ⟨fun ⟨a, ha, hf, hx, ht, hm⟩ => ⟨hx.symm, ht.symm, a, ha, hf.symm, hm.symm⟩,
      fun ⟨hx, ht, a, ha, hf, hm⟩ => ?_⟩
    exact ⟨a, ha, hf.symm, hx.symm, ht.symm, hm.symm⟩

theorem mem_neighborFilters {n : NeighborConfig} {family name : String} {permit : Bool} {m : Matcher} :
    Line.prefixList family name permit m ∈ neighborFilters n ↔
      (∃ pl ∈ n.outgoing.prefixLists, Line.prefixList family name permit m ∈ propertyLines n.id pl) ∨
      Line.prefixList family name permit m ∈ toAdvertiseLines "ip" n.toAdvertisePrefixListV4 n.outgoing.prefixesV4 ∨
      Line.prefixList family name permit m ∈ toAdvertiseLines "ipv6" n.toAdvertisePrefixListV6 n.outgoing.prefixesV6 ∨
      Line.prefixList family name permit m ∈ allowedIncomingLines n ∨
      Line.prefixList family name permit m ∈ deniedIncomingLines n := by
  simp only [neighborFilters, outgoingLines, incomingLines, List.mem_append, List.mem_flatMap, List.mem_cons,
    List.not_mem_nil, reduceCtorEq, or_false, or_assoc]

/-! ## Names -/

/-- The property lists of a neighbor are named after it, each property and family once. -/
structure NeighborConfig.Named (n : NeighborConfig) : Prop where
  localPrefKeys : (n.outgoing.localPrefPrefixesModifiers.map LocalPrefPrefixList.key).Nodup
  communityKeys : (n.outgoing.communityPrefixesModifiers.map CommunityPrefixList.key).Nodup
  localPrefs : ∀ l ∈ n.outgoing.localPrefPrefixesModifiers,
    l.name = localPrefPrefixListName n.id l.localPref l.ipFamily ∧ (l.ipFamily = "ip" ∨ l.ipFamily = "ipv6")
  communities : ∀ l ∈ n.outgoing.communityPrefixesModifiers,
    l.name = communityPrefixListName n.id l.community l.ipFamily ∧ (l.ipFamily = "ip" ∨ l.ipFamily = "ipv6")

theorem dash_not_mem_keyword {f : String} (hf : f = "ip" ∨ f = "ipv6") : '-' ∉ f.toList := by
  rcases hf with rfl | rfl <;> decide

theorem localPrefName_ne_communityName (a b : String) (lp : Nat) (c : BGPCommunity) (f g : String) :
    localPrefPrefixListName a lp f ≠ communityPrefixListName b c g := by
  rw [communityPrefixListName_eq]
  exact append_ne_of_endings (by decide) (by decide) _ _

/-- **A property list belongs to one neighbor**, and within it to one property and family. -/
theorem property_unique {n m : NeighborConfig} (hn : n.Named) (hm : m.Named) {pl pl' : PropertyPrefixList}
    (hpl : pl ∈ n.outgoing.prefixLists) (hpl' : pl' ∈ m.outgoing.prefixLists) (h : pl.name = pl'.name) :
    n.id = m.id ∧ (n = m → pl = pl') := by
  rcases mem_prefixLists.1 hpl with ⟨l, hl, rfl⟩ | ⟨l, hl, rfl⟩ <;>
    rcases mem_prefixLists.1 hpl' with ⟨l', hl', rfl⟩ | ⟨l', hl', rfl⟩
  · obtain ⟨hname, hfam⟩ := hn.localPrefs l hl
    obtain ⟨hname', hfam'⟩ := hm.localPrefs l' hl'
    obtain ⟨hid, hlp, hf⟩ := localPrefPrefixListName_inj (dash_not_mem_keyword hfam) (dash_not_mem_keyword hfam')
      (hname.symm.trans (h.trans hname'))
    refine ⟨hid, ?_⟩
    rintro rfl
    rw [List.inj_on_of_nodup_map hn.localPrefKeys hl hl' ((LocalPrefPrefixList.key_eq_iff l _ _).2 ⟨hlp, hf⟩)]
  · exact (localPrefName_ne_communityName _ _ _ _ _ _
      ((hn.localPrefs l hl).1.symm.trans (h.trans (hm.communities l' hl').1))).elim
  · exact (localPrefName_ne_communityName _ _ _ _ _ _
      ((hm.localPrefs l' hl').1.symm.trans (h.symm.trans (hn.communities l hl).1))).elim
  · obtain ⟨hname, hfam⟩ := hn.communities l hl
    obtain ⟨hname', hfam'⟩ := hm.communities l' hl'
    obtain ⟨hid, hc, hf⟩ := communityPrefixListName_inj (dash_not_mem_keyword hfam) (dash_not_mem_keyword hfam')
      (hname.symm.trans (h.trans hname'))
    refine ⟨hid, ?_⟩
    rintro rfl
    rw [List.inj_on_of_nodup_map hn.communityKeys hl hl' ((CommunityPrefixList.key_eq_iff l _ _).2 ⟨hc, hf⟩)]

theorem property_ending {n : NeighborConfig} (hn : n.Named) {pl : PropertyPrefixList}
    (hpl : pl ∈ n.outgoing.prefixLists) : ∃ a, pl.name = a ++ "-prefixes" := by
  have hsplit : ∀ (a b : String), a ++ (b ++ "-prefixes") = a ++ b ++ "-prefixes" := fun a b => String.append_assoc.symm
  rcases mem_prefixLists.1 hpl with ⟨l, hl, rfl⟩ | ⟨l, hl, rfl⟩
  · exact ⟨_, (hn.localPrefs l hl).1.trans (hsplit _ "-localpref")⟩
  · exact ⟨_, ((hn.communities l hl).1.trans (communityPrefixListName_eq _ _ _)).trans (hsplit _ "-community")⟩

theorem incoming_endings (n : NeighborConfig) : allowedIncomingList n = n.id ++ ("-inpl-" ++ n.ipFamily.string) ∧
    deniedIncomingList n = n.id ++ "-denied" ++ ("-inpl-" ++ n.ipFamily.string) := by
  refine ⟨String.append_assoc, ?_⟩
  have hsplit : n.id ++ "-denied-inpl-" = n.id ++ "-denied" ++ "-inpl-" := by rw [String.append_assoc]; rfl
  unfold deniedIncomingList
  simp only [toString_string]
  rw [hsplit, String.append_assoc]

/-- The lists of properties, of what is advertised and of what is received have different names. -/
theorem name_kinds {n m : NeighborConfig} (hn : n.Named) {pl : PropertyPrefixList} (hpl : pl ∈ n.outgoing.prefixLists) :
    pl.name ≠ m.toAdvertisePrefixListV4 ∧ pl.name ≠ m.toAdvertisePrefixListV6 ∧ pl.name ≠ allowedIncomingList m ∧
      pl.name ≠ deniedIncomingList m := by
  obtain ⟨a, ha⟩ := property_ending hn hpl
  have hin : ∀ b, pl.name ≠ b ++ ("-inpl-" ++ m.ipFamily.string) := by
    intro b
    rw [ha]
    cases m.ipFamily <;> exact append_ne_of_endings (by decide) (by decide) _ _
  rw [(incoming_endings m).1, (incoming_endings m).2]
  refine ⟨?_, ?_, hin _, hin _⟩
  · rw [ha]; exact append_ne_of_endings (by decide) (by decide) _ _
  · rw [ha]; exact append_ne_of_endings (by decide) (by decide) _ _

theorem toAdvertise_ne_incoming (n m : NeighborConfig) :
    n.toAdvertisePrefixListV4 ≠ allowedIncomingList m ∧ n.toAdvertisePrefixListV4 ≠ deniedIncomingList m ∧
      n.toAdvertisePrefixListV6 ≠ allowedIncomingList m ∧ n.toAdvertisePrefixListV6 ≠ deniedIncomingList m := by
  rw [(incoming_endings m).1, (incoming_endings m).2]
  cases m.ipFamily <;>
    exact ⟨append_ne_of_endings (by decide) (by decide) _ _, append_ne_of_endings (by decide) (by decide) _ _,
      append_ne_of_endings (by decide) (by decide) _ _, append_ne_of_endings (by decide) (by decide) _ _⟩

/-! ## The entries of a route map -/

theorem routeMapName_inj {a b : String} {d e : Direction} (h : routeMapName a d = routeMapName b e) :
    a = b ∧ d = e := by
  obtain ⟨hab, hde⟩ := append_word_inj (by cases d <;> decide) (by cases e <;> decide) h
  refine ⟨hab, ?_⟩
  cases d <;> cases e <;> first | rfl | exact absurd hde (by decide)

theorem entryOf_counter {id : String} {dir : Direction} {line : Line} {e : Policy.Entry (String × String) SetClause}
    (h : entryOf (routeMapName id dir) line = some e) : line.counter = id := by
  cases line with
  | prefixList => cases h
  | routeMap id' dir' =>
    simp only [entryOf] at h
    split at h
    · rename_i hname
      exact (routeMapName_inj hname).1
    · cases h

/-- The entries of a neighbor's outgoing route map. -/
def outEntries (n : NeighborConfig) : List (Policy.Entry (String × String) SetClause) :=
  n.outgoing.prefixLists.map (fun pl => ⟨true, (pl.ipFamily, pl.name), [pl.setStatement], true⟩) ++
    [⟨true, ("ip", n.toAdvertisePrefixListV4),
        if n.outgoing.nextHopV4 ≠ "" then [.ipNextHop n.outgoing.nextHopV4] else [], false⟩,
      ⟨true, ("ipv6", n.toAdvertisePrefixListV6),
        if n.outgoing.nextHopV6 ≠ "" then [.ipv6NextHopGlobal n.outgoing.nextHopV6] else [], false⟩]

/-- The entries of a neighbor's incoming route map. -/
def inEntries (n : NeighborConfig) : List (Policy.Entry (String × String) SetClause) :=
  (if n.alwaysBlock = [] then [] else
    [⟨false, ("ip", deniedIncomingList n), [], false⟩, ⟨false, ("ipv6", deniedIncomingList n), [], false⟩]) ++
    [⟨true, ("ip", allowedIncomingList n), [], false⟩, ⟨true, ("ipv6", allowedIncomingList n), [], false⟩]

theorem entries_of_rules {α : Type} (name : String) (f : α → Line) (hf : ∀ a, entryOf name (f a) = none) :
    ∀ l : List α, (l.map f).filterMap (entryOf name) = []
  | [] => rfl
  | a :: l => by rw [List.map_cons, List.filterMap_cons, hf a]; exact entries_of_rules name f hf l

theorem entries_toAdvertiseLines (name family list : String) (prefixes : List String) :
    (toAdvertiseLines family list prefixes).filterMap (entryOf name) = [] := by
  unfold toAdvertiseLines
  rw [List.filterMap_append, entries_of_rules name _ (fun _ => rfl), List.append_nil]
  split <;> rfl

theorem entries_allowedIncomingLines (name : String) (n : NeighborConfig) :
    (allowedIncomingLines n).filterMap (entryOf name) = [] := by
  unfold allowedIncomingLines
  rw [List.filterMap_append, entries_of_rules name _ (fun _ => rfl), List.nil_append]
  split
  · rfl
  · split <;> split <;> rfl

theorem entries_propertyLines (name id : String) : ∀ l : List PropertyPrefixList,
    (l.flatMap (propertyLines id)).filterMap (entryOf name) =
      if routeMapName id .outward = name then
        l.map (fun pl => ⟨true, (pl.ipFamily, pl.name), [pl.setStatement], true⟩) else []
  | [] => by split <;> rfl
  | pl :: l => by
    rw [List.flatMap_cons, List.filterMap_append, entries_propertyLines name id l, propertyLines, List.filterMap_append,
      entries_of_rules name _ (fun _ => rfl)]
    by_cases h : routeMapName id .outward = name <;> simp [entryOf, h]

theorem entries_outgoingLines (name : String) (n : NeighborConfig) : (outgoingLines n).filterMap (entryOf name) =
    if routeMapName n.id .outward = name then outEntries n else [] := by
  simp only [outgoingLines, List.filterMap_append, entries_propertyLines, entries_toAdvertiseLines, List.append_nil]
  by_cases h : routeMapName n.id .outward = name <;> simp [entryOf, outEntries, h]

theorem entries_incomingLines (name : String) (n : NeighborConfig) : (incomingLines n).filterMap (entryOf name) =
    if routeMapName n.id .inward = name then inEntries n else [] := by
  simp only [incomingLines, List.filterMap_append, entries_allowedIncomingLines, List.nil_append]
  unfold deniedIncomingLines inEntries
  by_cases hb : n.alwaysBlock = []
  · by_cases h : routeMapName n.id .inward = name <;> simp [entryOf, h, hb]
  · rw [if_neg hb, if_neg hb, List.filterMap_append, entries_of_rules name _ (fun _ => rfl)]
    by_cases h : routeMapName n.id .inward = name <;> simp [entryOf, h]

/-- The entries of a neighbor are those of its own route maps. -/
theorem entries_neighborFilters (m : NeighborConfig) (id : String) (dir : Direction) :
    (neighborFilters m).filterMap (entryOf (routeMapName id dir)) =
      if m.id = id then (match dir with | .outward => outEntries m | .inward => inEntries m) else [] := by
  have hname : ∀ d, routeMapName m.id d = routeMapName id dir ↔ m.id = id ∧ d = dir :=
    fun d => ⟨routeMapName_inj, fun ⟨h, h'⟩ => by rw [h, h']⟩
  rw [neighborFilters, List.filterMap_append, entries_outgoingLines, entries_incomingLines]
  simp only [hname]
  by_cases hid : m.id = id <;> cases dir <;> simp [hid]

/-- **The entries of a neighbor's route map are the neighbor's, as they are written**, when no other neighbor has its
ID. -/
theorem routeMap_entries {c : Config} {pre post : List NeighborConfig} {n : NeighborConfig}
    (hc : c.neighbors = pre ++ n :: post) (hother : ∀ m ∈ pre ++ post, m.id ≠ n.id) (dir : Direction) :
    Policy.inOrder (entryOf (routeMapName n.id dir)) (renderedFilters c) =
      match dir with | .outward => outEntries n | .inward => inEntries n := by
  have hnone : ∀ l : List NeighborConfig, (∀ m ∈ l, m.id ≠ n.id) →
      (l.flatMap neighborFilters).filterMap (entryOf (routeMapName n.id dir)) = [] := by
    intro l hl
    refine List.filterMap_eq_nil_iff.2 (fun line hline => ?_)
    obtain ⟨m, hm, hline⟩ := List.mem_flatMap.1 hline
    have hm' := entries_neighborFilters m n.id dir
    rw [if_neg (hl m hm)] at hm'
    exact List.filterMap_eq_nil_iff.1 hm' line hline
  unfold renderedFilters
  rw [Policy.inOrder_number Line.counter _ n.id (fun _ _ h => entryOf_counter h), hc, List.flatMap_append,
    List.flatMap_cons, List.filterMap_append, List.filterMap_append, hnone pre, hnone post, List.nil_append,
    List.append_nil, entries_neighborFilters, if_pos rfl]
  · exact fun m hm => hother m (List.mem_append_right _ hm)
  · exact fun m hm => hother m (List.mem_append_left _ hm)

end FrrK8s
