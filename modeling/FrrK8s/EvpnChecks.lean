import FrrK8s.MergeRouter
/-!
# EvpnChecks — the checks on the merged routers' EVPN sections

`validateEVPN` runs once all routers are merged.  Here it is a condition on the facts the routers know (`EvpnValid`).
-/
namespace FrrK8s

/-! ## The checks as a condition on facts -/

/-- The EVPN section of the VRF asks for a neighbor with the EVPN address family. -/
def needsEvpnNeighbor (T : String × RouterFact → Prop) (vrf : String) : Prop :=
  T (vrf, .evpn (.advertiseVNIsSet vniAdvertisementAll)) ∨ T (vrf, .evpn (.advertiseSVI true)) ∨
    ∃ x, T (vrf, .evpn (.l2 x))

/-- A VNI number used in a VRF, with the word for its type. -/
def usesVNI (T : String × RouterFact → Prop) (u : String × String) (n : Nat) : Prop :=
  (u.2 = "l2vni" ∧ ∃ f, T (u.1, .evpn (.l2 (n, f)))) ∨ (u.2 = "l3vni" ∧ T (u.1, .evpn (.l3vni n)))

structure EvpnValid (T : String × RouterFact → Prop) : Prop where
  neighbor : ∀ vrf, needsEvpnNeighbor T vrf → ∃ id, T (vrf, .neighbor id (.addressFamily addressFamilyEVPN))
  l3 : ∀ vrf n id f, T (vrf, .evpn (.l3vni n)) → ¬ T (vrf, .neighbor id f)
  unique : ∀ u v n, usesVNI T u n → usesVNI T v n → u = v

/-! ## One router -/

theorem exists_neighborsTell {ns : List NeighborConfig} : ns ≠ [] ↔ ∃ id f, neighborsTell ns id f := by
  constructor
  · intro h
    obtain ⟨n, hn⟩ := List.exists_mem_of_ne_nil ns h
    exact ⟨n.id, .attr .asn (.text n.asn), n, hn, rfl, rfl⟩
  · rintro ⟨_, _, n, hn, _⟩
    exact List.ne_nil_of_mem hn

theorem l2_ne_nil_iff {l : List L2VNI} : l ≠ [] ↔ ∃ x, l2Tells l x :=
  ⟨exists_l2Tells, fun ⟨_, _, hv, _⟩ => List.ne_nil_of_mem hv⟩

theorem evpnNeedsNeighbor_iff (e : EVPNConfig) : evpnNeedsNeighbor e = true ↔
    e.tells (.advertiseVNIsSet vniAdvertisementAll) ∨ e.tells (.advertiseSVI true) ∨ ∃ x, e.tells (.l2 x) := by
  unfold evpnNeedsNeighbor
  simp only [Bool.or_eq_true, decide_eq_true_eq, l2_ne_nil_iff, or_assoc, EVPNConfig.tells]

theorem hasEVPNNeighbor_iff (r : RouterConfig) :
    hasEVPNNeighbor r = true ↔ ∃ id, r.tells (.neighbor id (.addressFamily addressFamilyEVPN)) := by
  unfold hasEVPNNeighbor
  simp only [List.any_eq_true, List.contains_iff_mem, RouterConfig.tells, neighborsTell, NeighborConfig.tells]
  constructor
  · rintro ⟨n, hn, h⟩
    exact ⟨n.id, n, hn, rfl, h⟩
  · rintro ⟨_, n, hn, -, h⟩
    exact ⟨n, hn, h⟩

theorem validateEVPNConfig_eq_ok (r : RouterConfig) : validateEVPNConfig r = .ok () ↔
    ((r.tells (.evpn (.advertiseVNIsSet vniAdvertisementAll)) ∨ r.tells (.evpn (.advertiseSVI true)) ∨
      ∃ x, r.tells (.evpn (.l2 x))) → ∃ id, r.tells (.neighbor id (.addressFamily addressFamilyEVPN))) ∧
    ∀ n id f, r.tells (.evpn (.l3vni n)) → ¬ r.tells (.neighbor id f) := by
  unfold validateEVPNConfig
  cases he : r.evpn with
  | none => simp [RouterConfig.tells, he, not_evpnTells_none]
  | some e =>
    simp only [bind_eq_ok, reject_eq_ok]
    rw [← hasEVPNNeighbor_iff, evpnNeedsNeighbor_iff]
    simp only [RouterConfig.tells, he, evpnTells_some]
    have hl3 : ¬ (e.l3vni ≠ none ∧ r.neighbors ≠ []) ↔
        ∀ n id f, e.tells (.l3vni n) → ¬ neighborsTell r.neighbors id f := by
      rw [exists_neighborsTell]
      constructor
      · rintro h n id f ⟨l3, hl, -⟩ hn
        exact h ⟨by rw [hl]; exact Option.some_ne_none l3, id, f, hn⟩
      · rintro h ⟨hl, id, f, hn⟩
        obtain ⟨l3, hl⟩ := Option.ne_none_iff_exists'.1 hl
        exact h l3.vni id f ⟨l3, hl, rfl⟩ hn
    rw [← hl3]
    constructor
    · rintro ⟨_, h1, h2⟩
      exact ⟨fun hneed => not_not.1 (fun hno => h1 ⟨hneed, hno⟩), h2⟩
    · rintro ⟨h1, h2⟩
      exact ⟨(), fun h => h.2 (h1 h.1), h2⟩

/-! ## The numbers of all routers -/

theorem addVNI_eq_ok (seen seen' : SortedMap Nat (String × String)) (x : String × (Nat × String)) :
    addVNI seen x = .ok seen' ↔ seen.find? x.2.1 = none ∧ seen' = seen.insert x.2.1 (x.1, x.2.2) := by
  unfold addVNI
  cases seen.find? x.2.1 with
  | some v => simp
  | none => simp [eq_comm]

theorem addVNI_foldlM_isOk : ∀ (l : List (String × (Nat × String))) (seen : SortedMap Nat (String × String)),
    (l.foldlM addVNI seen).isOk = true ↔
      (∀ x ∈ l, seen.find? x.2.1 = none) ∧ (l.map (fun x => x.2.1)).Nodup
  | [], seen => by simp
  | x :: l, seen => by
    rw [List.foldlM_cons, List.map_cons, List.nodup_cons, List.forall_mem_cons, isOk_bind]
    simp only [addVNI_eq_ok, and_assoc, exists_and_left, exists_eq_left]
    refine and_congr_right (fun _ => ?_)
    rw [addVNI_foldlM_isOk l]
    simp only [SortedMap.find?_insert]
    constructor
    · rintro ⟨hl, hnd⟩
      refine ⟨fun y hy => ?_, fun hmem => ?_, hnd⟩
      · have := hl y hy
        split at this
        · cases this
        · exact this
      · obtain ⟨y, hy, hyx⟩ := List.mem_map.1 hmem
        have := hl y hy
        rw [if_pos hyx] at this
        cases this
    · rintro ⟨hl, hnot, hnd⟩
      refine ⟨fun y hy => ?_, hnd⟩
      rw [if_neg (fun h => hnot (List.mem_map.2 ⟨y, hy, h⟩))]
      exact hl y hy

theorem vnisOf_nodup {r : RouterConfig} (h : r.Normal) : (vnisOf r).Nodup := by
  unfold vnisOf
  cases he : r.evpn with
  | none => exact List.nodup_nil
  | some e =>
    have hn := (h.evpn e he).l2.nodup
    simp only
    refine List.nodup_append.2 ⟨?_, ?_, ?_⟩
    · have hpair : ((e.l2vnis.elems.map (fun l2 => (l2.vni, "l2vni"))).map Prod.fst).Nodup := by
        rw [List.map_map]; exact hn
      exact hpair.of_map
    · cases e.l3vni <;> simp
    · intro a ha b hb hab
      subst hab
      obtain ⟨_, -, rfl⟩ := List.mem_map.1 ha
      obtain ⟨_, -, hb⟩ := List.mem_map.1 hb
      exact absurd (Prod.mk.inj hb).2 (by decide)

theorem vnisOfVRFs_nodup [RangeOrder] {m : SortedMap String RouterConfig}
    (hm : mapInv RouterConfig.vrf RouterConfig.Normal m) : (vnisOfVRFs m).Nodup := by
  have hkeys : m.ranged.Pairwise (fun e e' => e.1 ≠ e'.1) :=
    (m.ranged_perm.pairwise_iff (fun h => h.symm)).2 (m.sorted.imp (fun h => h.ne))
  refine List.nodup_flatMap.2 ⟨fun e he => ?_, hkeys.imp (fun {e e'} hne x hx hx' => ?_)⟩
  · have hr := (hm e.1 e.2 ((m.mem_ranged e).1 he)).2
    exact (vnisOf_nodup hr).map (fun v w h => (Prod.mk.inj h).2)
  · obtain ⟨_, -, rfl⟩ := List.mem_map.1 hx
    obtain ⟨_, -, hx'⟩ := List.mem_map.1 hx'
    exact hne (Prod.mk.inj hx').1.symm

theorem mem_vnisOf (r : RouterConfig) (n : Nat) (k : String) : (n, k) ∈ vnisOf r ↔
    (k = "l2vni" ∧ ∃ f, r.tells (.evpn (.l2 (n, f)))) ∨ (k = "l3vni" ∧ r.tells (.evpn (.l3vni n))) := by
  unfold vnisOf
  cases he : r.evpn with
  | none => simp [RouterConfig.tells, he, not_evpnTells_none]
  | some e =>
    simp only [RouterConfig.tells, he, evpnTells_some, List.mem_append, List.mem_map, Prod.mk.injEq,
      Option.mem_toList]
    refine or_congr ?_ ?_
    · constructor
      · rintro ⟨l2, hl2, rfl, rfl⟩
        obtain ⟨x, v, hv, hx⟩ := exists_l2Tells (List.cons_ne_nil l2 [])
        obtain rfl := List.mem_singleton.1 hv
        exact ⟨rfl, x.2, v, hl2, rfl, hx.2⟩
      · rintro ⟨rfl, f, l2, hl2, hn, -⟩
        exact ⟨l2, hl2, hn, rfl⟩
    · constructor
      · rintro ⟨l3, hl3, hn, rfl⟩
        exact ⟨rfl, l3, hl3, hn⟩
      · rintro ⟨rfl, l3, hl3, hn⟩
        exact ⟨l3, hl3, hn, rfl⟩

theorem mem_vnisOfVRFs [RangeOrder] (m : SortedMap String RouterConfig) (vrf : String) (n : Nat) (k : String) :
    (vrf, (n, k)) ∈ vnisOfVRFs m ↔ usesVNI (mapKnows RouterConfig.tells m) (vrf, k) n := by
  have hmem : (vrf, (n, k)) ∈ vnisOfVRFs m ↔ ∃ r, m.find? vrf = some r ∧ (n, k) ∈ vnisOf r := by
    unfold vnisOfVRFs
    simp only [List.mem_flatMap, List.mem_map, Prod.mk.injEq, SortedMap.mem_ranged]
    constructor
    · rintro ⟨e, he, v, hv, rfl, rfl⟩; exact ⟨e.2, he, hv⟩
    · rintro ⟨r, hr, hv⟩; exact ⟨(vrf, r), hr, (n, k), hv, rfl, rfl⟩
  simp only [hmem, mem_vnisOf, usesVNI, mapKnows]
  constructor
  · rintro ⟨r, hr, ⟨hk, f, hf⟩ | ⟨hk, h⟩⟩
    · exact Or.inl ⟨hk, f, r, hr, hf⟩
    · exact Or.inr ⟨hk, r, hr, h⟩
  · rintro (⟨hk, f, r, hr, hf⟩ | ⟨hk, r, hr, h⟩)
    · exact ⟨r, hr, Or.inl ⟨hk, f, hf⟩⟩
    · exact ⟨r, hr, Or.inr ⟨hk, h⟩⟩

theorem validateUniqueVNIs_eq_ok_iff [RangeOrder] (m : SortedMap String RouterConfig) :
    validateUniqueVNIs m = .ok () ↔ ((vnisOfVRFs m).map (fun x => x.2.1)).Nodup := by
  have hfold := addVNI_foldlM_isOk (vnisOfVRFs m) .empty
  rw [isOk_iff] at hfold
  simp only [SortedMap.find?_empty, implies_true, true_and] at hfold
  rw [← hfold]
  unfold validateUniqueVNIs
  simp only [bind_eq_ok, pure_eq_ok, and_true]

theorem validateUniqueVNIs_eq_ok [RangeOrder] {m : SortedMap String RouterConfig}
    (hm : mapInv RouterConfig.vrf RouterConfig.Normal m) : validateUniqueVNIs m = .ok () ↔
      ∀ u v n, usesVNI (mapKnows RouterConfig.tells m) u n → usesVNI (mapKnows RouterConfig.tells m) v n → u = v := by
  rw [validateUniqueVNIs_eq_ok_iff, List.nodup_map_iff_inj_on (vnisOfVRFs_nodup hm)]
  constructor
  · intro h u v n hu hv
    have := h _ ((mem_vnisOfVRFs m u.1 n u.2).2 hu) _ ((mem_vnisOfVRFs m v.1 n v.2).2 hv) rfl
    obtain ⟨h1, h2⟩ := Prod.mk.inj this
    exact Prod.ext h1 (Prod.mk.inj h2).2
  · rintro h ⟨vrf, n, k⟩ hx ⟨vrf', n', k'⟩ hy hxy
    simp only at hxy
    subst hxy
    have := h (vrf, k) (vrf', k') n ((mem_vnisOfVRFs ..).1 hx) ((mem_vnisOfVRFs ..).1 hy)
    obtain ⟨rfl, rfl⟩ := Prod.mk.inj this
    rfl

theorem validateEVPN_eq_ok_iff [RangeOrder] (m : SortedMap String RouterConfig) : validateEVPN m = .ok () ↔
    (∀ k r, m.find? k = some r → validateEVPNConfig r = .ok ()) ∧ ((vnisOfVRFs m).map (fun x => x.2.1)).Nodup := by
  unfold validateEVPN
  simp only [bind_eq_ok, forM_eq_ok, wrap_eq_ok, SortedMap.mem_ranged, validateUniqueVNIs_eq_ok_iff]
  constructor
  · rintro ⟨_, h, hu⟩
    exact ⟨fun k r hr => h (k, r) hr, hu⟩
  · rintro ⟨h, hu⟩
    exact ⟨(), fun e he => h e.1 e.2 he, hu⟩

/-- **`validateEVPN` accepts merged routers exactly when the facts they know are valid.** -/
theorem validateEVPN_eq_ok [RangeOrder] {m : SortedMap String RouterConfig}
    (hm : mapInv RouterConfig.vrf RouterConfig.Normal m) :
    validateEVPN m = .ok () ↔ EvpnValid (mapKnows RouterConfig.tells m) := by
  rw [validateEVPN_eq_ok_iff, ← validateUniqueVNIs_eq_ok_iff, validateUniqueVNIs_eq_ok hm]
  simp only [validateEVPNConfig_eq_ok]
  -- a fact of a VRF is one of the router stored under it
  have hone : ∀ k r, m.find? k = some r → ∀ f, mapKnows RouterConfig.tells m (k, f) ↔ r.tells f := by
    intro k r hr f
    simp only [mapKnows, hr, Option.some.injEq, exists_eq_left']
  constructor
  · rintro ⟨h, hu⟩
    refine ⟨fun vrf hneed => ?_, fun vrf n id f hl3 hn => ?_, hu⟩
    · obtain ⟨r, hr⟩ : ∃ r, m.find? vrf = some r := by
        rcases hneed with ⟨r, hr, _⟩ | ⟨r, hr, _⟩ | ⟨_, r, hr, _⟩ <;> exact ⟨r, hr⟩
      simp only [needsEvpnNeighbor, hone vrf r hr] at hneed ⊢
      exact (h vrf r hr).1 hneed
    · obtain ⟨r, hr, hl3⟩ := hl3
      exact (h vrf r hr).2 n id f hl3 ((hone vrf r hr _).1 hn)
  · rintro ⟨hn, hl3, hu⟩
    refine ⟨fun k r hr => ⟨fun hneed => ?_, fun n id f h3 h => ?_⟩, hu⟩
    · have := hn k
      simp only [needsEvpnNeighbor, hone k r hr] at this
      exact this hneed
    · exact hl3 k n id f ((hone k r hr _).2 h3) ((hone k r hr _).2 h)

end FrrK8s
