import FrrK8s.Inbound
import FrrK8s.Session
/-!
# Unique — the names of lists and route maps

Every list and route map of a neighbor is named after the neighbor's ID, with an ending for what it is for.  The endings
keep the lists apart but for one pair: the ID of a neighbor may end in `-denied`.  IDs join the peer and the VRF with a
dash, and both may have dashes, so that neighbors of different VRFs may have one ID.  Where declared neighbors do
neither, every name is unique, and only there (`apiToFRR_names_iff`).
-/
namespace FrrK8s

/-! ## What the lists of a neighbor are for -/

/-- What a prefix list of a neighbor is for; `property` is a community or a local preference in one family. -/
inductive FilterRole
  | property (set : SetClause) (family : String)
  | toAdvertiseV4
  | toAdvertiseV6
  | incomingAllow
  | incomingDeny
deriving DecidableEq, Repr

/-- The lists of a neighbor and what they are for. -/
def NeighborConfig.lists (n : NeighborConfig) : List (FilterRole × String) :=
  n.outgoing.prefixLists.map (fun pl => (.property pl.setStatement pl.ipFamily, pl.name)) ++
    [(.toAdvertiseV4, n.toAdvertisePrefixListV4), (.toAdvertiseV6, n.toAdvertisePrefixListV6),
      (.incomingAllow, allowedIncomingList n)] ++
    if n.alwaysBlock = [] then [] else [(.incomingDeny, deniedIncomingList n)]

/-- The list that a line writes or tests. -/
def Line.list : Line → String
  | .prefixList _ name _ _ => name
  | .routeMap _ _ _ _ list _ _ => list

section

variable (n : NeighborConfig) (name : String)

theorem mem_list_propertyLines (pl : PropertyPrefixList) :
    name ∈ (propertyLines n.id pl).map Line.list ↔ pl.name = name := by
  simp only [propertyLines, List.map_append, List.map_map, List.mem_append, List.mem_map,
    Function.comp_apply, Line.list, List.map_cons, List.map_nil, List.mem_singleton]
  constructor
  · rintro (⟨_, -, h⟩ | h)
    · exact h
    · exact h.symm
  · intro h
    exact Or.inr h.symm

theorem list_of_mem_toAdvertiseLines {family x : String} {prefixes : List String}
    (h : name ∈ (toAdvertiseLines family x prefixes).map Line.list) : x = name := by
  obtain ⟨line, hline, rfl⟩ := List.mem_map.1 h
  cases line with
  | prefixList f y permit m => exact (mem_toAdvertiseLines.1 hline).2.1.symm
  | routeMap => simp [toAdvertiseLines] at hline

theorem list_of_mem_allowedIncomingLines (h : name ∈ (allowedIncomingLines n).map Line.list) :
    allowedIncomingList n = name := by
  obtain ⟨line, hline, rfl⟩ := List.mem_map.1 h
  cases line with
  | prefixList f y permit m => exact (mem_allowedIncomingLines.1 hline).1.symm
  | routeMap =>
    unfold allowedIncomingLines at hline
    grind

theorem mem_list_deniedIncomingLines : name ∈ (deniedIncomingLines n).map Line.list ↔
    n.alwaysBlock ≠ [] ∧ deniedIncomingList n = name := by
  unfold deniedIncomingLines
  split
  · simp [*]
  · rename_i hblock
    simp only [List.map_append, List.map_map, List.mem_append, List.mem_map, Function.comp_apply, Line.list,
      List.map_cons, List.map_nil, List.mem_cons, List.not_mem_nil, or_false]
    exact ⟨fun h => ⟨hblock, h.elim (fun ⟨_, _, h⟩ => h) (fun h => h.elim Eq.symm Eq.symm)⟩,
      fun h => Or.inr (Or.inl h.2.symm)⟩

theorem mem_lists : (∃ role, (role, name) ∈ n.lists) ↔ (∃ pl ∈ n.outgoing.prefixLists, pl.name = name) ∨
    n.toAdvertisePrefixListV4 = name ∨ n.toAdvertisePrefixListV6 = name ∨ allowedIncomingList n = name ∨
      (n.alwaysBlock ≠ [] ∧ deniedIncomingList n = name) := by
  unfold NeighborConfig.lists
  by_cases hblock : n.alwaysBlock = []
  · simp [hblock, exists_or, eq_comm]
  · simp [hblock, exists_or, eq_comm]

/-- **The lists of a neighbor are those its lines name.** -/
theorem mem_lists_iff : (∃ role, (role, name) ∈ n.lists) ↔ name ∈ (neighborFilters n).map Line.list := by
  have h4 := @list_of_mem_toAdvertiseLines name "ip" n.toAdvertisePrefixListV4 n.outgoing.prefixesV4
  have h6 := @list_of_mem_toAdvertiseLines name "ipv6" n.toAdvertisePrefixListV6 n.outgoing.prefixesV6
  have hin := list_of_mem_allowedIncomingLines n name
  rw [mem_lists]
  simp only [neighborFilters, outgoingLines, incomingLines, List.map_append, List.mem_append, List.map_flatMap,
    List.mem_flatMap, mem_list_propertyLines, mem_list_deniedIncomingLines, List.map_cons, List.map_nil, List.mem_cons,
    Line.list, List.not_mem_nil, or_false, @eq_comm _ name]
  constructor
  · rintro (hproperty | hv4 | hv6 | hallow | hdeny)
    · exact .inl (.inl (.inl (.inl hproperty)))
    · exact .inl (.inr (.inl hv4))
    · exact .inl (.inr (.inr hv6))
    · exact .inr (.inr (.inl hallow))
    · exact .inr (.inl (.inr hdeny))
  · rintro ((((hproperty | hline) | hline) | hv4 | hv6) | (hline | hdeny) | hallow | hallow)
    · exact .inl hproperty
    · exact .inr (.inl (h4 hline))
    · exact .inr (.inr (.inl (h6 hline)))
    · exact .inr (.inl hv4)
    · exact .inr (.inr (.inl hv6))
    · exact .inr (.inr (.inr (.inl (hin hline))))
    · exact .inr (.inr (.inr (.inr hdeny)))
    · exact .inr (.inr (.inr (.inl hallow)))
    · exact .inr (.inr (.inr (.inl hallow)))

end

/-! ## Names and endings -/

theorem Family.string_inj {f g : Family} (h : f.string = g.string) : f = g := by
  cases f <;> cases g <;> first | rfl | exact absurd h (by decide)

theorem incoming_inj {a b : String} {f g : Family} (h : a ++ ("-inpl-" ++ f.string) = b ++ ("-inpl-" ++ g.string)) :
    a = b ∧ f = g := by
  have hsplit : ∀ (x y : String), x ++ ("-inpl-" ++ y) = x ++ "-inpl" ++ "-" ++ y := by
    intro x y
    have hword : "-inpl-" ++ y = "-inpl" ++ ("-" ++ y) := by
      rw [← String.append_assoc]
      rfl
    rw [hword, ← String.append_assoc, ← String.append_assoc]
  rw [hsplit, hsplit] at h
  obtain ⟨hab, hfg⟩ := append_word_inj (by cases f <;> decide) (by cases g <;> decide) h
  exact ⟨String.append_left_inj _ |>.1 hab, Family.string_inj hfg⟩

/-- The ID of `n` is that of `m` with `-denied` after it, and `m` has a list of what is blocked. -/
def DeniedName (n m : NeighborConfig) : Prop := n.id = m.id ++ "-denied" ∧ n.ipFamily = m.ipFamily ∧ m.alwaysBlock ≠ []

theorem mem_lists_cases {n : NeighborConfig} {x : FilterRole × String} (h : x ∈ n.lists) :
    (∃ pl ∈ n.outgoing.prefixLists, x = (.property pl.setStatement pl.ipFamily, pl.name)) ∨
      x = (.toAdvertiseV4, n.toAdvertisePrefixListV4) ∨ x = (.toAdvertiseV6, n.toAdvertisePrefixListV6) ∨
      x = (.incomingAllow, allowedIncomingList n) ∨
      (n.alwaysBlock ≠ [] ∧ x = (.incomingDeny, deniedIncomingList n)) := by
  unfold NeighborConfig.lists at h
  by_cases hblock : n.alwaysBlock = []
  · simpa [hblock, eq_comm] using h
  · simpa [hblock, eq_comm] using h

/-- **Lists of one name belong to one ID and are for one thing**, or one of them is a list of what is blocked. -/
theorem lists_apart {n m : NeighborConfig} (hn : n.Named) (hm : m.Named) {x y : FilterRole × String} (hx : x ∈ n.lists)
    (hy : y ∈ m.lists) (h : x.2 = y.2) : (n.id = m.id ∧ (n = m → x.1 = y.1)) ∨ DeniedName n m ∨ DeniedName m n := by
  have hadv := toAdvertise_ne_incoming
  have h46 : ∀ a b : NeighborConfig, a.toAdvertisePrefixListV4 ≠ b.toAdvertisePrefixListV6 :=
    fun a b => append_ne_of_endings (by decide) (by decide) _ _
  obtain ⟨pl, hpl, rfl⟩ | rfl | rfl | rfl | ⟨hblock, rfl⟩ := mem_lists_cases hx <;>
    obtain ⟨pl', hpl', rfl⟩ | rfl | rfl | rfl | ⟨hblock', rfl⟩ := mem_lists_cases hy
  · obtain ⟨hid, hsame⟩ := property_unique hn hm hpl hpl' h
    exact Or.inl ⟨hid, fun heq => by rw [hsame heq]⟩
  · exact ((name_kinds hn hpl).1 h).elim
  · exact ((name_kinds hn hpl).2.1 h).elim
  · exact ((name_kinds hn hpl).2.2.1 h).elim
  · exact ((name_kinds hn hpl).2.2.2 h).elim
  · exact ((name_kinds hm hpl').1 h.symm).elim
  · exact Or.inl ⟨String.append_left_inj _ |>.1 h, fun _ => rfl⟩
  · exact (h46 n m h).elim
  · exact ((hadv n m).1 h).elim
  · exact ((hadv n m).2.1 h).elim
  · exact ((name_kinds hm hpl').2.1 h.symm).elim
  · exact (h46 m n h.symm).elim
  · exact Or.inl ⟨String.append_left_inj _ |>.1 h, fun _ => rfl⟩
  · exact ((hadv n m).2.2.1 h).elim
  · exact ((hadv n m).2.2.2 h).elim
  · exact ((name_kinds hm hpl').2.2.1 h.symm).elim
  · exact ((hadv m n).1 h.symm).elim
  · exact ((hadv m n).2.2.1 h.symm).elim
  · rw [(incoming_endings n).1, (incoming_endings m).1] at h
    exact Or.inl ⟨(incoming_inj h).1, fun _ => rfl⟩
  · rw [(incoming_endings n).1, (incoming_endings m).2] at h
    exact Or.inr (Or.inl ⟨(incoming_inj h).1, (incoming_inj h).2, hblock'⟩)
  · exact ((name_kinds hm hpl').2.2.2 h.symm).elim
  · exact ((hadv m n).2.1 h.symm).elim
  · exact ((hadv m n).2.2.2 h.symm).elim
  · rw [(incoming_endings n).2, (incoming_endings m).1] at h
    exact Or.inr (Or.inr ⟨(incoming_inj h).1.symm, (incoming_inj h).2.symm, hblock⟩)
  · rw [(incoming_endings n).2, (incoming_endings m).2] at h
    exact Or.inl ⟨String.append_left_inj _ |>.1 (incoming_inj h).1, fun _ => rfl⟩

/-! ## The neighbors of a result -/

/-- **Lists of one name, and route maps of one name, belong to one neighbor and are for one thing.** -/
structure NamesUnique (c : Config) : Prop where
  lists : ∀ n ∈ c.neighbors, ∀ m ∈ c.neighbors, ∀ x ∈ n.lists, ∀ y ∈ m.lists, x.2 = y.2 → n = m ∧ x.1 = y.1
  routeMaps : ∀ n ∈ c.neighbors, ∀ m ∈ c.neighbors, ∀ d d', routeMapName n.id d = routeMapName m.id d' → n = m ∧ d = d'

/-- Declared neighbors of different VRFs have different IDs and, where something is blocked, no ID is another's with
`-denied` after it, for neighbors of one family. -/
structure IDsApart (alwaysBlock : List Net.IPNet) (cfgs : List FRRConfiguration) : Prop where
  vrfs : ∀ x ∈ declaredNeighbors cfgs, ∀ y ∈ declaredNeighbors cfgs, neighborID x.1 x.2 = neighborID y.1 y.2 → x.1 = y.1
  denied : alwaysBlock ≠ [] → ∀ x ∈ declaredNeighbors cfgs, ∀ y ∈ declaredNeighbors cfgs,
    neighborID x.1 x.2 = neighborID y.1 y.2 ++ "-denied" →
      addressFamilyForNeighbor x.2 ≠ addressFamilyForNeighbor y.2

section

variable {secrets : SortedMap String Secret} {alwaysBlock : List Net.IPNet} {cfgs : List FRRConfiguration} {c : Config}

/-- A neighbor of a result and a declared one that it is made of. -/
structure MadeOf (cfgs : List FRRConfiguration) (r : RouterConfig) (n : NeighborConfig) (a : Neighbor) : Prop where
  declared : (r.vrf, a) ∈ declaredNeighbors cfgs
  id_eq : n.id = neighborID r.vrf a
  family : addressFamilyForNeighbor a = .ok n.ipFamily

theorem ResultOf.madeOf (hacc : Acceptable secrets alwaysBlock cfgs) (h : ResultOf secrets alwaysBlock cfgs c)
    {r : RouterConfig} (hr : r ∈ c.routers) {n : NeighborConfig} (hn : n ∈ r.neighbors) {a : Neighbor}
    (hdeclared : (r.vrf, a) ∈ declaredNeighbors cfgs) (hid : n.id = neighborID r.vrf a) : MadeOf cfgs r n a := by
  obtain ⟨cfg, hcfg, e, he, hvrf, ha⟩ := mem_declaredNeighbors.1 hdeclared
  exact ⟨hdeclared, hid, (h.comparedOf hacc hr hn ⟨hcfg, he, hvrf, ha, hid.symm⟩).ipFamily⟩

theorem ResultOf.exists_madeOf (hacc : Acceptable secrets alwaysBlock cfgs) (h : ResultOf secrets alwaysBlock cfgs c)
    {r : RouterConfig} (hr : r ∈ c.routers) {n : NeighborConfig} (hn : n ∈ r.neighbors) : ∃ a, MadeOf cfgs r n a := by
  obtain ⟨a, ha⟩ := h.identityFrom hacc hr hn
  exact ⟨a, h.madeOf hacc hr hn ha.declared ha.id_eq⟩

theorem ResultOf.exists_of_declared (hacc : Acceptable secrets alwaysBlock cfgs)
    (h : ResultOf secrets alwaysBlock cfgs c) {x : String × Neighbor} (hx : x ∈ declaredNeighbors cfgs) :
    ∃ r ∈ c.routers, r.vrf = x.1 ∧ ∃ n ∈ r.neighbors, MadeOf cfgs r n x.2 := by
  obtain ⟨cfg, hcfg, e, he, hvrf, ha⟩ := mem_declaredNeighbors.1 hx
  obtain ⟨r, hr, hvrf', n, hn, hid⟩ := h.exists_neighbor hacc ⟨hcfg, he, hvrf, ha, rfl⟩
  refine ⟨r, hr, hvrf', n, hn, h.madeOf hacc hr hn ?_ ?_⟩
  · rw [hvrf']
    exact hx
  · rw [hvrf']
    exact hid

theorem ResultOf.eq_of_id (h : ResultOf secrets alwaysBlock cfgs c) {r s : RouterConfig} (hr : r ∈ c.routers)
    (hs : s ∈ c.routers) (hvrf : r.vrf = s.vrf) {n m : NeighborConfig} (hn : n ∈ r.neighbors) (hm : m ∈ s.neighbors)
    (hid : n.id = m.id) : n = m := by
  obtain rfl := h.router_inj hr hs hvrf
  exact h.neighbor_inj hr hn hm hid

theorem ResultOf.neighbors_nodup (hacc : Acceptable secrets alwaysBlock cfgs)
    (h : ResultOf secrets alwaysBlock cfgs c) : c.neighbors.Nodup := by
  refine List.nodup_flatMap.2 ⟨fun r hr => (nodup_map_of_pairwise_lt (h.normal r hr).sorted).of_map _, ?_⟩
  refine h.sorted.imp_of_mem (fun {r s} hr hs hlt n hn hn' => ?_)
  have hvrf : r.vrf = s.vrf := (h.vrfName_eq hacc hr hn).symm.trans (h.vrfName_eq hacc hs hn')
  exact absurd hlt (by rw [hvrf]; exact lt_irrefl _)

theorem ResultOf.blocks_iff_ne (hacc : Acceptable secrets alwaysBlock cfgs) (h : ResultOf secrets alwaysBlock cfgs c)
    {r : RouterConfig} (hr : r ∈ c.routers) {n : NeighborConfig} (hn : n ∈ r.neighbors) :
    n.alwaysBlock ≠ [] ↔ alwaysBlock ≠ [] := by
  rw [h.alwaysBlock_eq hacc hr hn, alwaysBlockToFRR]
  simp

theorem ResultOf.idsApart (hacc : Acceptable secrets alwaysBlock cfgs) (h : ResultOf secrets alwaysBlock cfgs c)
    (hunique : NamesUnique c) : IDsApart alwaysBlock cfgs := by
  have hmem : ∀ {r n}, r ∈ c.routers → n ∈ r.neighbors → n ∈ c.neighbors := fun hr hn => List.mem_flatMap.2 ⟨_, hr, hn⟩
  refine ⟨fun x hx y hy hid => ?_, fun hne x hx y hy hid hfamily => ?_⟩
  · obtain ⟨r, hr, hvrf, n, hn, hmade⟩ := h.exists_of_declared hacc hx
    obtain ⟨s, hs, hvrf', m, hm, hmade'⟩ := h.exists_of_declared hacc hy
    have hids : n.id = m.id := by rw [hmade.id_eq, hmade'.id_eq, hvrf, hvrf', hid]
    obtain ⟨rfl, -⟩ := hunique.routeMaps n (hmem hr hn) m (hmem hs hm) .inward .inward (by rw [hids])
    rw [← hvrf, ← hvrf', ← h.vrfName_eq hacc hr hn, h.vrfName_eq hacc hs hm]
  · obtain ⟨r, hr, hvrf, n, hn, hmade⟩ := h.exists_of_declared hacc hx
    obtain ⟨s, hs, hvrf', m, hm, hmade'⟩ := h.exists_of_declared hacc hy
    have hids : n.id = m.id ++ "-denied" := by rw [hmade.id_eq, hmade'.id_eq, hvrf, hvrf', hid]
    have hfam : n.ipFamily = m.ipFamily := Except.ok.inj (hmade.family.symm.trans (hfamily.trans hmade'.family))
    have hname : allowedIncomingList n = deniedIncomingList m := by
      rw [(incoming_endings n).1, (incoming_endings m).2, hids, hfam]
    have hallow : (FilterRole.incomingAllow, allowedIncomingList n) ∈ n.lists := by simp [NeighborConfig.lists]
    have hdeny : (FilterRole.incomingDeny, deniedIncomingList m) ∈ m.lists := by
      simp [NeighborConfig.lists, (h.blocks_iff_ne hacc hs hm).2 hne]
    cases (hunique.lists n (hmem hr hn) m (hmem hs hm) _ hallow _ hdeny hname).2

theorem ResultOf.namesUnique (hacc : Acceptable secrets alwaysBlock cfgs) (h : ResultOf secrets alwaysBlock cfgs c)
    (hapart : IDsApart alwaysBlock cfgs) : NamesUnique c := by
  have hsame : ∀ {r n s m}, r ∈ c.routers → n ∈ r.neighbors → s ∈ c.routers → m ∈ s.neighbors →
      n.id = m.id → n = m := by
    intro r n s m hr hn hs hm hid
    obtain ⟨a, ha⟩ := h.exists_madeOf hacc hr hn
    obtain ⟨b, hb⟩ := h.exists_madeOf hacc hs hm
    refine h.eq_of_id hr hs (hapart.vrfs _ ha.declared _ hb.declared ?_) hn hm hid
    rw [← ha.id_eq, ← hb.id_eq, hid]
  have hdenied : ∀ {r n s m}, r ∈ c.routers → n ∈ r.neighbors → s ∈ c.routers → m ∈ s.neighbors → ¬ DeniedName n m := by
    rintro r n s m hr hn hs hm ⟨hid, hfam, hne⟩
    obtain ⟨a, ha⟩ := h.exists_madeOf hacc hr hn
    obtain ⟨b, hb⟩ := h.exists_madeOf hacc hs hm
    refine hapart.denied ((h.blocks_iff_ne hacc hs hm).1 hne) _ ha.declared _ hb.declared ?_ ?_
    · rw [← ha.id_eq, ← hb.id_eq, hid]
    · rw [ha.family, hb.family, hfam]
  refine ⟨fun n hn m hm x hx y hy hxy => ?_, fun n hn m hm d d' hd => ?_⟩
  · obtain ⟨r, hr, hn⟩ := List.mem_flatMap.1 hn
    obtain ⟨s, hs, hm⟩ := List.mem_flatMap.1 hm
    obtain ⟨hid, hrole⟩ | hden | hden := lists_apart (h.outReady hacc hr hn).toNamed
      (h.outReady hacc hs hm).toNamed hx hy hxy
    · have heq := hsame hr hn hs hm hid
      exact ⟨heq, hrole heq⟩
    · exact (hdenied hr hn hs hm hden).elim
    · exact (hdenied hs hm hr hn hden).elim
  · obtain ⟨r, hr, hn⟩ := List.mem_flatMap.1 hn
    obtain ⟨s, hs, hm⟩ := List.mem_flatMap.1 hm
    obtain ⟨hid, hdir⟩ := routeMapName_inj hd
    exact ⟨hsame hr hn hs hm hid, hdir⟩

end

/-- **The names of a result are unique exactly when the IDs of the declared neighbors are apart.** -/
theorem apiToFRR_names_iff (secrets : SortedMap String Secret) (alwaysBlock : List Net.IPNet)
    (cfgs : List FRRConfiguration) (c : Config) (h : apiToFRR ⟨cfgs, secrets⟩ alwaysBlock = .ok c) :
    c.neighbors.Nodup ∧ (NamesUnique c ↔ IDsApart alwaysBlock cfgs) := by
  have hacc := apiToFRR_acceptable h
  have hres := apiToFRR_result h
  exact ⟨hres.neighbors_nodup hacc, hres.idsApart hacc, hres.namesUnique hacc⟩

/-- Unnumbered sessions over these interfaces, each in its VRF. -/
def unnumbered (peers : List (String × String)) : FRRConfiguration :=
  { name := "unnumbered"
    routers := peers.map (fun p => { asn := 64512, vrf := p.2, neighbors := [{ asn := 64513, interface := p.1 }] }) }

theorem apiToFRR_names_iff_unnumbered :
    ∃ c, apiToFRR ⟨[unnumbered [("eth0", ""), ("eth0", "red")]], .empty⟩ [] = .ok c ∧
    c.neighbors.Nodup ∧ NamesUnique c := by
  obtain ⟨c, hc⟩ := (isOk_iff (apiToFRR ⟨[unnumbered [("eth0", ""), ("eth0", "red")]], .empty⟩ [])).1
    (by decide +kernel)
  obtain ⟨hnodup, hiff⟩ := apiToFRR_names_iff .empty [] _ c hc
  exact ⟨c, hc, hnodup, hiff.2 ⟨by decide +kernel, fun hne => absurd rfl hne⟩⟩

/-- The interface `eth0-red` and, in the VRF `red`, the interface `eth0`: both have the ID `eth0-red`. -/
theorem names_clash : (apiToFRR ⟨[unnumbered [("eth0-red", ""), ("eth0", "red")]], .empty⟩ []).toOption.map
    (fun c => c.neighbors.map (fun n => (n.iface, n.vrfName, routeMapName n.id .inward, n.toAdvertisePrefixListV4))) =
      some [("eth0-red", "", "eth0-red-in", "eth0-red-allowed-ipv4"),
          ("eth0", "red", "eth0-red-in", "eth0-red-allowed-ipv4")] := by
  decide +kernel

end FrrK8s
