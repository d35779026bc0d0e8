import FrrK8s.MergeNeighbors
import FrrK8s.MergeEvpn
/-!
# MergeRouter — what merging routers accepts and keeps

A router tells its own settings, its prefixes and imports, the facts of its neighbors under their IDs and those of its
EVPN section.  Merging a router with itself brings it into normal form (`mergeRouterConfigWithItself_spec`); merging
routers in normal form by VRF accumulates their facts (`routers_accumulate`).
-/
namespace FrrK8s

inductive RouterFact where
  | myASN (n : Nat)
  | routerID (v : String)
  | ipv4Prefix (p : String)
  | ipv6Prefix (p : String)
  | importVRF (v : String)
  | neighbor (id : String) (f : NeighborFact)
  | evpn (f : EvpnFact)

def RouterFact.clash : RouterFact → RouterFact → Prop
  | .myASN v, .myASN w => v ≠ w
  | .routerID v, .routerID w => v ≠ w
  | .neighbor i f, .neighbor j g => i = j ∧ f.clash g
  | .evpn f, .evpn g => f.clash g
  | _, _ => False

def RouterConfig.tells (r : RouterConfig) : RouterFact → Prop
  | .myASN n => r.myASN = n
  | .routerID v => r.routerID ≠ "" ∧ r.routerID = v
  | .ipv4Prefix p => p ∈ r.ipv4Prefixes
  | .ipv6Prefix p => p ∈ r.ipv6Prefixes
  | .importVRF v => v ∈ r.importVRFs
  | .neighbor id f => neighborsTell r.neighbors id f
  | .evpn f => evpnTells r.evpn f

/-- What a router keeps of its neighbors besides their facts. -/
def RouterConfig.keeps (r : RouterConfig) (x : String × NeighborOrigin) : Prop := neighborsKeep r.neighbors x.1 x.2

/-- A router as a merge leaves it. -/
structure RouterConfig.Normal (r : RouterConfig) : Prop where
  ipv4Prefixes : r.ipv4Prefixes.Pairwise (· < ·)
  ipv6Prefixes : r.ipv6Prefixes.Pairwise (· < ·)
  importVRFs : r.importVRFs.Pairwise (· < ·)
  sorted : r.neighbors.Pairwise (fun a b => a.id < b.id)
  neighbors : ∀ n ∈ r.neighbors, n.Normal
  evpn : EvpnNormal r.evpn

theorem RouterFact.clash_symm (x y : RouterFact) (h : x.clash y) : y.clash x := by
  cases x <;> cases y <;>
    first
    | exact h
    | exact Ne.symm h
    | exact EvpnFact.clash_symm _ _ h
    | exact ⟨h.1.symm, NeighborFact.clash_symm _ _ h.2⟩

/-! ## Agreement of routers, part by part -/

theorem routers_agree_iff (r s : RouterConfig) :
    Agree RouterFact.clash r.tells s.tells ↔ r.myASN = s.myASN ∧
      (r.routerID = "" ∨ s.routerID = "" ∨ r.routerID = s.routerID) ∧ NeighborsAgree r.neighbors s.neighbors ∧
      Agree EvpnFact.clash (evpnTells r.evpn) (evpnTells s.evpn) := by
  constructor
  · intro h
    refine ⟨?_, ?_, fun id x y hx hy hc => ?_, fun x y hx hy hc => ?_⟩
    · exact not_not.1 (h (.myASN _) (.myASN _) rfl rfl)
    · by_cases hr : r.routerID = ""
      · exact Or.inl hr
      · by_cases hs : s.routerID = ""
        · exact Or.inr (Or.inl hs)
        · exact Or.inr (Or.inr (not_not.1 (h (.routerID _) (.routerID _) ⟨hr, rfl⟩ ⟨hs, rfl⟩)))
    · exact h (.neighbor id x) (.neighbor id y) hx hy ⟨rfl, hc⟩
    · exact h (.evpn x) (.evpn y) hx hy hc
  · rintro ⟨hasn, hid, hns, hevpn⟩ x y hx hy hc
    cases x <;> cases y <;> simp only [RouterFact.clash] at hc
    · exact hc (hx.symm.trans (hasn.trans hy))
    · rcases hid with h | h | h
      · exact hx.1 h
      · exact hy.1 h
      · exact hc (hx.2.symm.trans (h.trans hy.2))
    · obtain ⟨rfl, hc⟩ := hc
      exact hns _ _ _ hx hy hc
    · exact hevpn _ _ hx hy hc

theorem neighborsTell_append (a b : List NeighborConfig) (id : String) (x : NeighborFact) :
    neighborsTell (a ++ b) id x ↔ neighborsTell a id x ∨ neighborsTell b id x := by
  simp only [neighborsTell, List.mem_append, or_and_right, exists_or]

theorem neighborsKeep_append (a b : List NeighborConfig) (id : String) (x : NeighborOrigin) :
    neighborsKeep (a ++ b) id x ↔ neighborsKeep a id x ∨ neighborsKeep b id x := by
  simp only [neighborsKeep, List.mem_append, or_and_right, exists_or]

/-- Neighbors of a router in normal form do not clash with each other. -/
theorem RouterConfig.Normal.neighborsAgree {r : RouterConfig} (h : r.Normal) : NeighborsAgree r.neighbors r.neighbors :=
  (pairwise_iff_neighborsAgree (fun n hn => (h.neighbors n hn).toWF)).1
    (pairwise_agree_of_nodup (nodup_map_of_pairwise_lt h.sorted) _ _)

theorem neighborsAgree_append {a b : List NeighborConfig} (ha : NeighborsAgree a a) (hb : NeighborsAgree b b) :
    NeighborsAgree (a ++ b) (a ++ b) ↔ NeighborsAgree a b := by
  constructor
  · intro h id x y hx hy
    exact h id x y ((neighborsTell_append ..).2 (Or.inl hx)) ((neighborsTell_append ..).2 (Or.inr hy))
  · intro h id x y hx hy
    have h' : Agree NeighborFact.clash (neighborsTell b id) (neighborsTell a id) :=
      (h id).symm NeighborFact.clash_symm
    rcases (neighborsTell_append ..).1 hx with hx | hx <;> rcases (neighborsTell_append ..).1 hy with hy | hy
    · exact ha id x y hx hy
    · exact h id x y hx hy
    · exact h' x y hx hy
    · exact hb id x y hx hy

/-! ## The merge -/

theorem mergeRouterConfigsWith_eq_ok (r s c : RouterConfig) (ns : Result (List NeighborConfig)) :
    mergeRouterConfigsWith r s ns = .ok c ↔ r.vrf = s.vrf ∧ r.myASN = s.myASN ∧
      (r.routerID = "" ∨ s.routerID = "" ∨ r.routerID = s.routerID) ∧ ∃ neighbors, ns = .ok neighbors ∧
        ∃ evpn, mergeEVPNConfigs r.evpn s.evpn = .ok evpn ∧ c = { r with
          routerID := if r.routerID = "" then s.routerID else r.routerID
          ipv4Prefixes := setList (r.ipv4Prefixes ++ s.ipv4Prefixes)
          ipv6Prefixes := setList (r.ipv6Prefixes ++ s.ipv6Prefixes)
          importVRFs := setList (r.importVRFs ++ s.importVRFs)
          neighbors := neighbors
          evpn := evpn } := by
  unfold mergeRouterConfigsWith routersAreCompatible
  simp only [bind_eq_ok, reject_eq_ok, wrap_eq_ok, pure_eq_ok, not_not]
  constructor
  · rintro ⟨_, ⟨_, hvrf, _, hasn, hid⟩, neighbors, hns, evpn, hevpn, rfl⟩
    refine ⟨hvrf, hasn, ?_, neighbors, hns, evpn, hevpn, rfl⟩
    by_cases hr : r.routerID = "" <;> by_cases hs : s.routerID = "" <;> simp_all
  · rintro ⟨hvrf, hasn, hid, neighbors, hns, evpn, hevpn, rfl⟩
    refine ⟨(), ⟨(), hvrf, (), hasn, ?_⟩, neighbors, hns, evpn, hevpn, rfl⟩
    rintro ⟨hr, hs, hne⟩
    exact hid.elim hr (fun h => h.elim hs hne)

theorem mergeRouterConfigsWith_isOk (r s : RouterConfig) (ns : Result (List NeighborConfig)) :
    (mergeRouterConfigsWith r s ns).isOk = true ↔ r.vrf = s.vrf ∧ r.myASN = s.myASN ∧
      (r.routerID = "" ∨ s.routerID = "" ∨ r.routerID = s.routerID) ∧ ns.isOk = true ∧
        (mergeEVPNConfigs r.evpn s.evpn).isOk = true := by
  simp only [isOk_iff, mergeRouterConfigsWith_eq_ok]
  exact ⟨fun ⟨_, h1, h2, h3, ns, h4, e, h5, _⟩ => ⟨h1, h2, h3, ⟨ns, h4⟩, e, h5⟩,
    fun ⟨h1, h2, h3, ⟨ns, h4⟩, e, h5⟩ => ⟨_, h1, h2, h3, ns, h4, e, h5, rfl⟩⟩

/-- The outcome of a merge, from what is known of the merged neighbors and EVPN sections. -/
theorem mergeRouterConfigsWith_tells {r s c : RouterConfig} {ns : Result (List NeighborConfig)}
    {all : List NeighborConfig} (hns : ∀ l, ns = .ok l → MergeOf all l)
    (htells : ∀ id x, neighborsTell all id x ↔ neighborsTell r.neighbors id x ∨ neighborsTell s.neighbors id x)
    (hkeeps : ∀ id x, neighborsKeep all id x → neighborsKeep r.neighbors id x ∨ neighborsKeep s.neighbors id x)
    (hevpn : ∀ e, mergeEVPNConfigs r.evpn s.evpn = .ok e →
      EvpnNormal e ∧ ∀ x, evpnTells e x ↔ evpnTells r.evpn x ∨ evpnTells s.evpn x)
    (h : mergeRouterConfigsWith r s ns = .ok c) :
    c.Normal ∧ c.vrf = r.vrf ∧ (∀ x, c.tells x ↔ r.tells x ∨ s.tells x) ∧ ∀ x, c.keeps x → r.keeps x ∨ s.keeps x := by
  obtain ⟨-, hasn, hid, l, hl, e, he, rfl⟩ := (mergeRouterConfigsWith_eq_ok r s c ns).1 h
  have hm := hns l hl
  obtain ⟨hen, het⟩ := hevpn e he
  refine ⟨⟨sorted_setList _, sorted_setList _, sorted_setList _, hm.sorted, hm.normal, hen⟩, rfl, fun x => ?_,
    fun x hx => hkeeps _ _ (hm.keeps _ _ hx)⟩
  cases x with
  | myASN n => simp only [RouterConfig.tells]; rw [← hasn, or_self]
  | routerID v =>
    simp only [RouterConfig.tells]
    by_cases hr : r.routerID = ""
    · simp [hr]
    · rw [if_neg hr]
      refine ⟨Or.inl, fun h => h.elim (fun h => h) (fun ⟨hs, hv⟩ => ⟨hr, ?_⟩)⟩
      exact ((hid.resolve_left hr).resolve_left hs).trans hv
  | ipv4Prefix p => simp only [RouterConfig.tells, mem_setList, List.mem_append]
  | ipv6Prefix p => simp only [RouterConfig.tells, mem_setList, List.mem_append]
  | importVRF v => simp only [RouterConfig.tells, mem_setList, List.mem_append]
  | neighbor id f => exact (hm.tells id f).trans (htells id f)
  | evpn f => exact het f

/-- **A router merges with itself exactly when its own facts agree; that brings it into normal form.** -/
theorem mergeRouterConfigWithItself_spec {r : RouterConfig} (hwf : ∀ n ∈ r.neighbors, n.WF) :
    ((mergeRouterConfigWithItself r).isOk = true ↔ Agree RouterFact.clash r.tells r.tells) ∧
    ∀ c, mergeRouterConfigWithItself r = .ok c →
      c.Normal ∧ c.vrf = r.vrf ∧ (∀ x, c.tells x ↔ r.tells x) ∧ ∀ x, c.keeps x → r.keeps x := by
  have hns := mergeNeighborsLists_self hwf
  have hevpn := mergeEVPNConfigs_self r.evpn
  unfold mergeRouterConfigWithItself
  constructor
  · rw [mergeRouterConfigsWith_isOk, routers_agree_iff, hns.1, hevpn.1]
    simp
  · intro c hc
    have := mergeRouterConfigsWith_tells hns.2 (fun id x => (or_self_iff).symm) (fun id x h => Or.inl h)
      (fun e he => by simpa only [or_self] using hevpn.2 e he) hc
    simpa only [or_self] using this

/-- **Routers in normal form merge exactly when their facts agree, into one with the facts of both.** -/
theorem mergeRouterConfigs_spec {r s : RouterConfig} (hr : r.Normal) (hs : s.Normal) (hvrf : r.vrf = s.vrf) :
    ((mergeRouterConfigs r s).isOk = true ↔ Agree RouterFact.clash r.tells s.tells) ∧
    ∀ c, mergeRouterConfigs r s = .ok c →
      c.Normal ∧ c.vrf = r.vrf ∧ (∀ x, c.tells x ↔ r.tells x ∨ s.tells x) ∧ ∀ x, c.keeps x → r.keeps x ∨ s.keeps x := by
  have hall : ∀ n ∈ r.neighbors ++ s.neighbors, n.Normal := by
    intro n hn
    rcases List.mem_append.1 hn with hn | hn
    · exact hr.neighbors n hn
    · exact hs.neighbors n hn
  have hns := mergeNeighborsLists_two hall
  have hevpn := mergeEVPNConfigs_two hr.evpn hs.evpn
  unfold mergeRouterConfigs
  constructor
  · rw [mergeRouterConfigsWith_isOk, routers_agree_iff, hns.1, hevpn.1,
      neighborsAgree_append hr.neighborsAgree hs.neighborsAgree]
    simp [hvrf]
  · intro c hc
    exact mergeRouterConfigsWith_tells hns.2 (neighborsTell_append _ _) (fun id x => (neighborsKeep_append ..).1)
      hevpn.2 hc

/-- **Merging routers by VRF accumulates their facts.** -/
theorem routers_accumulate :
    Accumulates (mapInv RouterConfig.vrf RouterConfig.Normal) RouterConfig.Normal (mapKnows RouterConfig.tells)
      (keyTells RouterConfig.vrf RouterConfig.tells) (keyClash RouterFact.clash)
      (upsert RouterConfig.vrf mergeRouterConfigs) := by
  refine upsert_accumulates (fun _ h => h) (fun r s hr hs hvrf => (mergeRouterConfigs_spec hr hs hvrf).1)
    (fun r s c hr hs hvrf h => ?_)
  obtain ⟨hn, hv, ht, -⟩ := (mergeRouterConfigs_spec hr hs hvrf).2 c h
  exact ⟨hn, hv, ht⟩

/-- Nothing appears in a router's neighbors that no merged router had. -/
theorem routers_origin {l : List RouterConfig} (hn : ∀ r ∈ l, r.Normal) {m : SortedMap String RouterConfig}
    (h : l.foldlM (upsert RouterConfig.vrf mergeRouterConfigs) .empty = .ok m)
    (x : String × (String × NeighborOrigin)) (hx : mapKnows RouterConfig.keeps m x) :
    ∃ r ∈ l, keyTells RouterConfig.vrf RouterConfig.keeps r x := by
  have horigin := upsert_origin (fun r s c hr hs hvrf h => ((mergeRouterConfigs_spec hr hs hvrf).2 c h).2.2.2)
  exact (routers_accumulate.foldlM_origin horigin l .empty m (mapInv_empty _ _) hn h x hx).resolve_left
    (not_mapKnows_empty _ _)

end FrrK8s
