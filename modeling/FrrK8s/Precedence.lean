import FrrK8s.Incoming
/-!
# Precedence — what the order of the declarations decides

The facts of a merged neighbor do not depend on the order of what was merged (`Contributors`); its identity and the
filters it receives by do.  A merge keeps the identity of the first neighbor and, under each text of prefix and bounds,
the filter of the last one (`mergeIntoNeighbor_precedence`).  The loop over pointers keeps the first pointer of an ID
and merges the others into it, those of a router merged with itself twice (`mergeNeighborsLoop_precedence`), and so does
every merge up to the result (`apiToFRR_precedence`): the order is that of the declarations.
-/
namespace FrrK8s

/-- The filters of a family. -/
def AllowedIn.filtersOf (a : AllowedIn) : Family → List IncomingFilter
  | .ipv4 => a.prefixesV4
  | .ipv6 => a.prefixesV6
  | _ => []

/-- What the order of merged neighbors decides: whose identity is kept and which filter under each key. -/
@[ext] structure Precedence where
  first : Option Identity
  all : Bool
  last : Family → String → Option IncomingFilter

/-- The first identity and the last filters, where no neighbor receives everything. -/
def precedence (l : List NeighborConfig) : Precedence where
  first := l.head?.map NeighborConfig.identity
  all := l.any (·.incoming.all)
  last := fun f k =>
    bif l.any (·.incoming.all) then none else lastWith IncomingFilter.key k (l.flatMap (·.incoming.filtersOf f))

def Precedence.append (p q : Precedence) : Precedence where
  first := p.first.or q.first
  all := p.all || q.all
  last := fun f k => bif p.all || q.all then none else (q.last f k).or (p.last f k)

theorem precedence_append (l l' : List NeighborConfig) :
    precedence (l ++ l') = (precedence l).append (precedence l') := by
  apply Precedence.ext
  · simp only [precedence, Precedence.append, List.head?_append, Option.map_or]
  · simp only [precedence, Precedence.append, List.any_append]
  · funext f k
    simp only [precedence, Precedence.append, List.any_append, List.flatMap_append, lastWith_append]
    cases l.any (·.incoming.all) <;> cases l'.any (·.incoming.all) <;> rfl

theorem Precedence.append_append_self (p q : Precedence) : (p.append q).append q = p.append q := by
  apply Precedence.ext
  · simp only [Precedence.append, Option.or_assoc, Option.or_self]
  · simp only [Precedence.append, Bool.or_assoc, Bool.or_self]
  · funext f k
    simp only [Precedence.append, Bool.or_assoc, Bool.or_self]
    cases p.all || q.all with
    | true => rfl
    | false => rw [cond_false, cond_false, ← Option.or_assoc, Option.or_self]

/-- Merging once more what was merged last changes nothing. -/
theorem precedence_repeat (l s : List NeighborConfig) : precedence (l ++ s ++ s) = precedence (l ++ s) := by
  rw [precedence_append, precedence_append, Precedence.append_append_self]

/-! ## One merge -/

theorem lastWith_mergeIncomingFilters (curr toMerge : List IncomingFilter) (k : String) :
    lastWith IncomingFilter.key k (mergeIncomingFilters curr toMerge) =
      lastWith IncomingFilter.key k (curr ++ toMerge) := by
  unfold mergeIncomingFilters
  rw [lastWith_values (mapInv_insertAll (fun _ _ => trivial : ∀ f ∈ curr ++ toMerge, True)), SortedMap.find?_insertAll,
    SortedMap.find?_empty, Option.or_none]

theorem lastWith_mergeAllowedIn {r toMerge : AllowedIn} (hr : r.all = false) (ht : toMerge.all = false) (f : Family)
    (k : String) : lastWith IncomingFilter.key k ((mergeAllowedIn r toMerge).filtersOf f) =
      lastWith IncomingFilter.key k (r.filtersOf f ++ toMerge.filtersOf f) := by
  obtain ⟨h4, h6⟩ := mergeAllowedIn_filters hr ht
  cases f with
  | ipv4 => rw [AllowedIn.filtersOf, h4, lastWith_mergeIncomingFilters]; rfl
  | ipv6 => rw [AllowedIn.filtersOf, h6, lastWith_mergeIncomingFilters]; rfl
  | dual => rfl
  | unknown => rfl

/-- **A merge keeps the first identity and the last filters.** -/
theorem mergeIntoNeighbor_precedence {dest src c : NeighborConfig} (h : mergeIntoNeighbor dest src = .ok c) :
    precedence [c] = precedence [dest, src] := by
  obtain ⟨-, out, -, rfl⟩ := (mergeIntoNeighbor_eq_ok _ _ _).1 h
  apply Precedence.ext
  · rfl
  · simp [precedence, cleanNeighborDefaults]
  · funext f k
    simp only [precedence, cleanNeighborDefaults, List.any_cons, List.any_nil, Bool.or_false, mergeAllowedIn_all,
      List.flatMap_cons, List.flatMap_nil, List.append_nil]
    cases hd : dest.incoming.all with
    | true => rfl
    | false =>
      cases hs : src.incoming.all with
      | true => rfl
      | false =>
        exact lastWith_mergeAllowedIn hd hs f k

/-! ## The loop -/

/-- **The loop keeps the first pointer of each ID.** -/
theorem mergeNeighborsLoop_find : ∀ (ps : List Nat) (store : Store) (merged : SortedMap String Nat) (s : Store)
    (m : SortedMap String Nat), mergeNeighborsLoop ps store merged = .ok (s, m) →
    ∀ k, m.find? k = (merged.find? k).or (ps.find? (fun p => (store p).id = k))
  | [], store, merged, s, m, h, k => by
    cases h
    simp
  | p :: ps, store, merged, s, m, h, k => by
    unfold mergeNeighborsLoop at h
    rw [List.find?_cons]
    cases hf : merged.find? (store p).id with
    | none =>
      rw [hf] at h
      rw [mergeNeighborsLoop_find ps store _ s m h k, SortedMap.find?_insert]
      by_cases hk : (store p).id = k
      · rw [← hk, hf, if_pos rfl]
        simp
      · rw [if_neg (Ne.symm hk)]
        simp [hk]
    | some d =>
      rw [hf] at h
      simp only [bind_eq_ok] at h
      obtain ⟨n, hn, h⟩ := h
      have ih := mergeNeighborsLoop_find ps _ merged s m h k
      simp only [update_id (mergeIntoNeighbor_id hn)] at ih
      rw [ih]
      by_cases hk : (store p).id = k
      · rw [← hk, hf]
        rfl
      · simp [hk]

/-- The neighbors of an ID that the pointers reach, besides the one kept. -/
def others (ps : List Nat) (store : Store) (d : Nat) (k : String) : List NeighborConfig :=
  (ps.filter (fun p => p ≠ d ∧ (store p).id = k)).map store

theorem others_cons_of_not {p d : Nat} {store : Store} {k : String} (h : ¬ (p ≠ d ∧ (store p).id = k)) (ps : List Nat) :
    others (p :: ps) store d k = others ps store d k := by
  unfold others
  rw [List.filter_cons_of_neg (by simpa using h)]

theorem others_cons {p d : Nat} {store : Store} {k : String} (h : p ≠ d ∧ (store p).id = k) (ps : List Nat) :
    others (p :: ps) store d k = store p :: others ps store d k := by
  unfold others
  rw [List.filter_cons_of_pos (by simpa using h), List.map_cons]

theorem others_append (ps qs : List Nat) (store : Store) (d : Nat) (k : String) :
    others (ps ++ qs) store d k = others ps store d k ++ others qs store d k := by
  unfold others
  rw [List.filter_append, List.map_append]

/-- Changing the kept neighbor of an ID changes none of the others of any ID. -/
theorem others_update {store : Store} {d₀ : Nat} {n : NeighborConfig} (hid : n.id = (store d₀).id) {d : Nat}
    {k : String} (hd : (store d₀).id = k → d = d₀) (ps : List Nat) :
    others ps (fun q => if q = d₀ then n else store q) d k = others ps store d k := by
  unfold others
  simp only [update_id hid]
  apply List.map_congr_left
  intro q hq
  have hq' : q ≠ d ∧ (store q).id = k := by simpa using (List.mem_filter.1 hq).2
  have hne : q ≠ d₀ := by
    rintro rfl
    exact hq'.1 (hd hq'.2).symm
  exact if_neg hne

/-- Merging a neighbor into the kept one of its ID does what its place among the others does. -/
theorem others_merge {p d : Nat} {store : Store} {n : NeighborConfig}
    (hn : mergeIntoNeighbor (store d) (store p) = .ok n) (ps : List Nat) :
    precedence (n :: others ps store d (store p).id) =
      precedence (store d :: others (p :: ps) store d (store p).id) := by
  have hmerged : precedence (n :: others ps store d (store p).id) =
      precedence ([store d, store p] ++ others ps store d (store p).id) := by
    rw [← List.singleton_append, precedence_append, mergeIntoNeighbor_precedence hn, ← precedence_append]
  rw [hmerged]
  by_cases hp : p = d
  · -- the kept neighbor met again
    rw [others_cons_of_not (fun h => h.1 hp), hp, precedence_append]
    rw [show [store d, store d] = [] ++ [store d] ++ [store d] from rfl, precedence_repeat, ← precedence_append]
    rfl
  · rw [others_cons ⟨hp, rfl⟩]
    rfl

/-- **What the loop leaves behind a kept pointer is the merge of its neighbor and the others of the ID**, in the order
of the pointers. -/
theorem mergeNeighborsLoop_precedence : ∀ (ps : List Nat) (store : Store) (merged : SortedMap String Nat) (s : Store)
    (m : SortedMap String Nat), (∀ k d, merged.find? k = some d → (store d).id = k) →
    mergeNeighborsLoop ps store merged = .ok (s, m) →
    ∀ k d, m.find? k = some d → precedence [s d] = precedence (store d :: others ps store d k)
  | [], store, merged, s, m, _, h, k, d, _ => by
    cases h
    rfl
  | p :: ps, store, merged, s, m, hm, h, k, d, hd => by
    have hframe := mergeNeighborsLoop_frame _ _ _ _ _ h
    unfold mergeNeighborsLoop at h
    cases hf : merged.find? (store p).id with
    | none =>
      rw [hf] at h
      have hm' : ∀ k d, (merged.insert (store p).id p).find? k = some d → (store d).id = k := by
        intro k d hd
        rw [SortedMap.find?_insert] at hd
        split at hd
        · rename_i hk
          cases hd
          exact hk.symm
        · exact hm k d hd
      have hkept : m.find? (store p).id = some p :=
        (mergeNeighborsLoop_frame _ _ _ _ _ h).kept _ _ (by rw [SortedMap.find?_insert, if_pos rfl])
      rw [mergeNeighborsLoop_precedence ps store _ s m hm' h k d hd, others_cons_of_not]
      rintro ⟨hne, hk⟩
      rw [← hk, hkept] at hd
      exact hne (Option.some.inj hd)
    | some d₀ =>
      rw [hf] at h
      simp only [bind_eq_ok] at h
      obtain ⟨n, hn, h⟩ := h
      have hd₀ : (store d₀).id = (store p).id := hm _ _ hf
      have hid := update_id (mergeIntoNeighbor_id hn)
      have heq : (store d₀).id = k → d = d₀ := by
        intro hk
        have := hframe.kept _ _ hf
        rw [← hd₀, hk, hd] at this
        exact Option.some.inj this
      have ih := mergeNeighborsLoop_precedence ps _ merged s m (fun k d hkd => (hid d).trans (hm k d hkd)) h k d hd
      rw [others_update (mergeIntoNeighbor_id hn) heq] at ih
      rw [ih]
      by_cases hk : (store p).id = k
      · obtain rfl := heq (hd₀.trans hk)
        rw [if_pos rfl, ← hk]
        exact others_merge hn ps
      · have hne : d ≠ d₀ := by
          rintro rfl
          rcases hframe.origin k d hd with hkd | ⟨-, hkd⟩
          · exact hk (hd₀.symm.trans (hm k d hkd))
          · exact hk (hd₀.symm.trans hkd)
        rw [others_cons_of_not (fun h => hk h.2), if_neg hne]

/-! ## Lists of neighbors -/

/-- The neighbors of an ID. -/
def ofID (ns : List NeighborConfig) (id : String) : List NeighborConfig := ns.filter (fun n => n.id = id)

/-- **`r` keeps the precedence of `ns`**: for each ID, what the order of the neighbors of `ns` decides. -/
def PrecedenceOf (ns r : List NeighborConfig) : Prop := ∀ id, precedence (ofID r id) = precedence (ofID ns id)

theorem PrecedenceOf.refl (ns : List NeighborConfig) : PrecedenceOf ns ns := fun _ => rfl

theorem PrecedenceOf.trans {ns ns' r : List NeighborConfig} (h : PrecedenceOf ns ns') (h' : PrecedenceOf ns' r) :
    PrecedenceOf ns r := fun id => (h' id).trans (h id)

theorem PrecedenceOf.append {ns r ns' r' : List NeighborConfig} (h : PrecedenceOf ns r) (h' : PrecedenceOf ns' r') :
    PrecedenceOf (ns ++ ns') (r ++ r') := by
  intro id
  unfold ofID
  rw [List.filter_append, List.filter_append, precedence_append, precedence_append]
  exact congrArg₂ Precedence.append (h id) (h' id)

theorem filter_eq_cons_of_find? {P : Nat → Bool} {d : Nat} : ∀ {l : List Nat}, l.Nodup → l.find? P = some d →
    l.filter P = d :: l.filter (fun p => p ≠ d ∧ P p)
  | [], _, h => by simp at h
  | a :: l, hl, h => by
    rw [List.nodup_cons] at hl
    rw [List.find?_cons] at h
    cases ha : P a with
    | true =>
      rw [ha] at h
      obtain rfl := Option.some.inj h
      have hrest : l.filter P = l.filter (fun p => p ≠ a ∧ P p) := by
        apply List.filter_congr
        intro p hp
        have hne : p ≠ a := fun h => hl.1 (h ▸ hp)
        simp [hne]
      rw [List.filter_cons_of_pos ha, List.filter_cons_of_neg (by simp), hrest]
    | false =>
      rw [ha] at h
      rw [List.filter_cons_of_neg (by simp [ha]), List.filter_cons_of_neg (by simp [ha]),
        filter_eq_cons_of_find? hl.2 h]

/-- The neighbors of an ID, by their pointers. -/
theorem ofID_eq (ns : List NeighborConfig) (k : String) :
    ofID ns k = ((List.range ns.length).filter (fun p => (storeOf ns p).id = k)).map (storeOf ns) := by
  conv_lhs => rw [← storeOf_map_range ns]
  unfold ofID
  rw [List.filter_map]
  rfl

/-- **The merge of lists of neighbors keeps their precedence**, whether each pointer comes once or, in a router merged
with itself, twice. -/
theorem mergeNeighborsLists_precedence {ns r : List NeighborConfig} {first toMerge again : List Nat}
    (hps : first ++ toMerge = List.range ns.length ++ again) (hagain : again = [] ∨ again = List.range ns.length)
    (h : mergeNeighborsLists (storeOf ns) first toMerge = .ok r) : PrecedenceOf ns r := by
  obtain ⟨s, m, hloop, rfl⟩ := (mergeNeighborsLists_eq ..).1 h
  rw [hps] at hloop
  have hframe := mergeNeighborsLoop_frame _ _ _ _ _ hloop
  have hinv : mapInv NeighborConfig.id (fun _ => True) (m.mapVal s) := by
    intro k n hn
    rw [SortedMap.find?_mapVal, Option.map_eq_some_iff] at hn
    obtain ⟨d, hd, rfl⟩ := hn
    rcases hframe.origin k d hd with hd | ⟨-, hd⟩
    · cases hd
    · exact ⟨(hframe.id d).trans hd, trivial⟩
  intro k
  have hvalues : ofID (m.values.map s) k = ((m.find? k).map s).toList := by
    rw [← SortedMap.values_mapVal, ← SortedMap.find?_mapVal, ← lastWith_values hinv]
    exact filter_of_nodup k (nodup_map_of_pairwise_lt (mapInv_values hinv).1)
  have hfind : m.find? k = (List.range ns.length).find? (fun p => (storeOf ns p).id = k) := by
    rw [mergeNeighborsLoop_find _ _ _ _ _ hloop k, SortedMap.find?_empty, Option.none_or, List.find?_append]
    rcases hagain with rfl | rfl
    · exact Option.or_none
    · exact Option.or_self
  rw [hvalues]
  cases hd : m.find? k with
  | none =>
    have hnone : (List.range ns.length).filter (fun p => (storeOf ns p).id = k) = [] := by
      rw [List.filter_eq_nil_iff]
      exact List.find?_eq_none.1 (hfind.symm.trans hd)
    rw [ofID_eq, hnone]
    rfl
  | some d =>
    have hcons := filter_eq_cons_of_find? List.nodup_range (hfind.symm.trans hd)
    have hofID : ofID ns k = storeOf ns d :: others (List.range ns.length) (storeOf ns) d k := by
      rw [ofID_eq, hcons, List.map_cons]
      unfold others
      simp
    have hprec := mergeNeighborsLoop_precedence _ _ _ _ _ (fun k d h => by cases h) hloop k d hd
    rw [others_append] at hprec
    refine hprec.trans ?_
    rw [hofID]
    rcases hagain with rfl | rfl
    · rw [show others [] (storeOf ns) d k = [] from rfl, List.append_nil]
    · exact precedence_repeat [storeOf ns d] _

theorem mergeRouterConfigWithItself_precedence {r c : RouterConfig} (h : mergeRouterConfigWithItself r = .ok c) :
    PrecedenceOf r.neighbors c.neighbors := by
  obtain ⟨-, -, -, ns, hns, -, -, rfl⟩ := (mergeRouterConfigsWith_eq_ok ..).1 h
  exact mergeNeighborsLists_precedence rfl (Or.inr rfl) hns

theorem mergeRouterConfigs_precedence {r toMerge c : RouterConfig} (h : mergeRouterConfigs r toMerge = .ok c) :
    PrecedenceOf (r.neighbors ++ toMerge.neighbors) c.neighbors := by
  obtain ⟨-, -, -, ns, hns, -, -, rfl⟩ := (mergeRouterConfigsWith_eq_ok ..).1 h
  exact mergeNeighborsLists_precedence (by rw [range_append_range', List.append_nil]) (Or.inl rfl) hns

/-! ## Routers and entries -/

/-- The neighbors of the routers of a VRF. -/
def neighborsIn (vrf : String) (vs : List RouterConfig) : List NeighborConfig :=
  vs.flatMap (fun v => if v.vrf = vrf then v.neighbors else [])

/-- The neighbors of the router stored for a VRF. -/
def neighborsAt (m : SortedMap String RouterConfig) (vrf : String) : List NeighborConfig :=
  ((m.find? vrf).map RouterConfig.neighbors).getD []

theorem upsertRouter_precedence {m m' : SortedMap String RouterConfig} {v : RouterConfig}
    (h : upsert RouterConfig.vrf mergeRouterConfigs m v = .ok m') (vrf : String) :
    PrecedenceOf (neighborsAt m vrf ++ if v.vrf = vrf then v.neighbors else []) (neighborsAt m' vrf) := by
  obtain ⟨c, rfl, hc⟩ := (upsert_eq_ok ..).1 h
  unfold neighborsAt
  rw [SortedMap.find?_insert]
  by_cases hv : v.vrf = vrf
  · subst hv
    rw [if_pos rfl, if_pos rfl]
    rcases hc with ⟨hnone, rfl⟩ | ⟨b, hb, hc⟩
    · rw [hnone]
      exact PrecedenceOf.refl _
    · rw [hb]
      exact mergeRouterConfigs_precedence hc
  · rw [if_neg hv, if_neg (Ne.symm hv), List.append_nil]
    exact PrecedenceOf.refl _

theorem foldRouters_precedence (vrf : String) : ∀ (vs : List RouterConfig) (m m' : SortedMap String RouterConfig),
    vs.foldlM (upsert RouterConfig.vrf mergeRouterConfigs) m = .ok m' →
      PrecedenceOf (neighborsAt m vrf ++ neighborsIn vrf vs) (neighborsAt m' vrf)
  | [], m, m', h => by
    cases h
    rw [neighborsIn, List.flatMap_nil, List.append_nil]
    exact PrecedenceOf.refl _
  | v :: vs, m, m', h => by
    rw [List.foldlM_cons, bind_eq_ok] at h
    obtain ⟨t, ht, h⟩ := h
    rw [neighborsIn, List.flatMap_cons, ← List.append_assoc]
    exact ((upsertRouter_precedence ht vrf).append (PrecedenceOf.refl _)).trans (foldRouters_precedence vrf vs t m' h)

/-- The neighbors declared in entries of a VRF, in order. -/
def declaredIn (cfgs : List FRRConfiguration) (vrf : String) : List Neighbor :=
  cfgs.flatMap (fun cfg => cfg.routers.flatMap (fun e => if e.vrf = vrf then e.neighbors else []))

/-- The neighbors that contribute to the neighbor `id` of `vrf`, in order. -/
def contributors (cfgs : List FRRConfiguration) (vrf id : String) : List Neighbor :=
  (declaredIn cfgs vrf).filter (fun a => neighborID vrf a = id)

theorem mem_contributors {cfgs : List FRRConfiguration} {vrf id : String} {a : Neighbor} :
    a ∈ contributors cfgs vrf id ↔ ∃ cfg e, Contributes cfgs vrf id cfg e a := by
  simp only [contributors, declaredIn, List.mem_filter, List.mem_flatMap, decide_eq_true_eq]
  constructor
  · rintro ⟨⟨cfg, hcfg, e, he, ha⟩, hid⟩
    by_cases hv : e.vrf = vrf
    · rw [if_pos hv] at ha
      exact ⟨cfg, e, hcfg, he, hv, ha, hid⟩
    · rw [if_neg hv] at ha
      exact (List.not_mem_nil ha).elim
  · rintro ⟨cfg, e, hcon⟩
    exact ⟨⟨cfg, hcon.cfg_mem, e, hcon.entry_mem, by rw [if_pos hcon.vrf_eq]; exact hcon.mem⟩, hcon.id_eq⟩

section

variable {secrets : SortedMap String Secret} {alwaysBlock : List Net.IPNet} {cfgs : List FRRConfiguration}
  {vrf : String}

/-- `m` is what `a` is translated to in an entry of the VRF. -/
def TranslatedIn (secrets : SortedMap String Secret) (alwaysBlock : List Net.IPNet) (vrf : String) (a : Neighbor)
    (m : NeighborConfig) : Prop :=
  ∃ cfg e, e.vrf = vrf ∧ translation secrets alwaysBlock cfg e a = .ok m

/-- `r` keeps the precedence of the declared neighbors, once they are translated. -/
def KeepsDeclared (secrets : SortedMap String Secret) (alwaysBlock : List Net.IPNet) (vrf : String) (as : List Neighbor)
    (r : List NeighborConfig) : Prop :=
  ∃ ns, List.Forall₂ (TranslatedIn secrets alwaysBlock vrf) as ns ∧ PrecedenceOf ns r

/-- Piece by piece: what holds of the pieces of two lists holds of the lists. -/
theorem KeepsDeclared.flatMap {α β : Type} {R : α → β → Prop} {f : α → List Neighbor} {g : β → List NeighborConfig}
    (hpiece : ∀ x y, R x y → KeepsDeclared secrets alwaysBlock vrf (f x) (g y)) {l : List α} {l' : List β}
    (h : List.Forall₂ R l l') : KeepsDeclared secrets alwaysBlock vrf (l.flatMap f) (l'.flatMap g) := by
  induction h with
  | nil => exact ⟨[], .nil, PrecedenceOf.refl _⟩
  | cons hxy _ ih =>
    obtain ⟨ns, hns, hprec⟩ := hpiece _ _ hxy
    obtain ⟨ns', hns', hprec'⟩ := ih
    rw [List.flatMap_cons, List.flatMap_cons]
    exact ⟨ns ++ ns', List.rel_append hns hns', hprec.append hprec'⟩

theorem entryFor_translations {cfg : FRRConfiguration} {e : Router} {c : RouterConfig}
    (h : entryFor secrets alwaysBlock cfg e = .ok c) :
    List.Forall₂ (fun a m => translation secrets alwaysBlock cfg e a = .ok m) e.neighbors c.neighbors := by
  obtain ⟨-, -, imported, himp, -, hc⟩ := (routerFor_eq_ok ..).1 h
  obtain ⟨ns, hns, rfl⟩ := (routerToFRRConfig_eq_ok ..).1 hc
  refine ((mapM_eq_ok _ _ _).1 hns).imp fun a m ham => ?_
  unfold translation
  rw [entryPrefixes_eq himp]
  exact ((routerNeighborToFRR_eq_ok ..).1 ham).2

theorem validEntryFor_precedence {cfg : FRRConfiguration} {e : Router} {v : RouterConfig}
    (h : validEntryFor secrets alwaysBlock cfg e = .ok v) (vrf : String) :
    KeepsDeclared secrets alwaysBlock vrf (if e.vrf = vrf then e.neighbors else [])
      (if v.vrf = vrf then v.neighbors else []) := by
  obtain ⟨c, hc, -, hvrf, -⟩ := validEntryFor_spec h
  unfold validEntryFor at h
  rw [hc] at h
  rw [hvrf, (entryFor_wf hc).1]
  by_cases he : e.vrf = vrf
  · rw [if_pos he, if_pos he]
    exact ⟨c.neighbors, (entryFor_translations hc).imp fun a m ham => ⟨cfg, e, he, ham⟩,
      mergeRouterConfigWithItself_precedence h⟩
  · rw [if_neg he, if_neg he]
    exact ⟨[], .nil, PrecedenceOf.refl _⟩

theorem validEntries_precedence {vs : List (List RouterConfig)} (h : validEntries secrets alwaysBlock cfgs = .ok vs)
    (vrf : String) : KeepsDeclared secrets alwaysBlock vrf (declaredIn cfgs vrf) (neighborsIn vrf vs.flatten) := by
  unfold neighborsIn
  rw [← List.flatMap_id, List.flatMap_assoc]
  have hentry : ∀ cfg e v, validEntryFor secrets alwaysBlock cfg e = .ok v → KeepsDeclared secrets alwaysBlock vrf
      (if e.vrf = vrf then e.neighbors else []) (if v.vrf = vrf then v.neighbors else []) :=
    fun cfg e v hv => validEntryFor_precedence hv vrf
  have hcfg : ∀ (cfg : FRRConfiguration) (l : List RouterConfig),
      cfg.routers.mapM (validEntryFor secrets alwaysBlock cfg) = .ok l → KeepsDeclared secrets alwaysBlock vrf
      (cfg.routers.flatMap (fun e => if e.vrf = vrf then e.neighbors else []))
      (l.flatMap (fun v => if v.vrf = vrf then v.neighbors else [])) :=
    fun cfg l hl => KeepsDeclared.flatMap (hentry cfg) ((mapM_eq_ok _ _ _).1 hl)
  exact KeepsDeclared.flatMap hcfg ((mapM_eq_ok _ _ _).1 h)

/-- **A neighbor of a result has the precedence of its contributors**, in the order of their declaration. -/
theorem apiToFRR_precedence {c : Config} (h : apiToFRR ⟨cfgs, secrets⟩ alwaysBlock = .ok c) {r : RouterConfig}
    (hr : r ∈ c.routers) {n : NeighborConfig} (hn : n ∈ r.neighbors) :
    ∃ ms, List.Forall₂ (TranslatedIn secrets alwaysBlock r.vrf) (contributors cfgs r.vrf n.id) ms ∧
      precedence [n] = precedence ms := by
  obtain ⟨-, vs, hvs, m, hm, p, -, -, rfl⟩ := (apiToFRR_eq_ok c).1 h
  obtain ⟨hinv, -⟩ := routers_result hvs hm
  obtain ⟨ns, hns, hprec⟩ := validEntries_precedence hvs r.vrf
  obtain ⟨vrf, hfind⟩ := (SortedMap.mem_values m r).1 hr
  obtain ⟨rfl, hnormal⟩ := hinv vrf r hfind
  have hfold := foldRouters_precedence r.vrf _ _ _ hm
  unfold neighborsAt at hfold
  rw [hfind] at hfold
  refine ⟨ofID ns n.id, ?_, ?_⟩
  · refine List.rel_filter (fun a m ham => ?_) hns
    obtain ⟨cfg, e, hvrf, ham⟩ := ham
    simp only [decide_eq_true_eq, translation_id ham, hvrf]
  · have hone : ofID r.neighbors n.id = [n] :=
      filter_key_eq_singleton (nodup_map_of_pairwise_lt hnormal.sorted) hn
    rw [← hone]
    exact (hprec.trans hfold) n.id

/-- `a` is the first neighbor declared with its ID. -/
def IsFirst (cfgs : List FRRConfiguration) (vrf : String) (a : Neighbor) : Prop :=
  (contributors cfgs vrf (neighborID vrf a)).head? = some a

theorem IsFirst.contributes {a : Neighbor} (h : IsFirst cfgs vrf a) :
    ∃ cfg e, Contributes cfgs vrf (neighborID vrf a) cfg e a :=
  mem_contributors.1 (List.mem_of_head? h)

theorem translation_identity {cfg : FRRConfiguration} {e : Router} {a : Neighbor} {m : NeighborConfig}
    (h : translation secrets alwaysBlock cfg e a = .ok m) : m.identity =
      ⟨neighborName a, a.address, a.interface, e.vrf, a.enableGracefulRestart, alwaysBlockToFRR alwaysBlock⟩ := by
  obtain ⟨-, f, -, timers, -, password, -, out, -, incoming, -, rfl⟩ := (neighborToFRR_eq_ok ..).1 h
  rfl

/-- **A neighbor of a result has the identity of the first neighbor declared with its ID.** -/
theorem apiToFRR_first {c : Config} (h : apiToFRR ⟨cfgs, secrets⟩ alwaysBlock = .ok c) {r : RouterConfig}
    (hr : r ∈ c.routers) {n : NeighborConfig} (hn : n ∈ r.neighbors) :
    ∃ a, IsFirst cfgs r.vrf a ∧ neighborID r.vrf a = n.id ∧ n.identity =
      ⟨neighborName a, a.address, a.interface, r.vrf, a.enableGracefulRestart, alwaysBlockToFRR alwaysBlock⟩ := by
  obtain ⟨ms, hms, hprec⟩ := apiToFRR_precedence h hr hn
  have hfirst : some n.identity = ms.head?.map NeighborConfig.identity := congrArg Precedence.first hprec
  cases hcon : contributors cfgs r.vrf n.id with
  | nil =>
    rw [hcon] at hms
    cases hms
    cases hfirst
  | cons a as =>
    rw [hcon] at hms
    cases hms with
    | cons ham _ =>
      obtain ⟨cfg, e, hvrf, ham⟩ := ham
      have hid : neighborID r.vrf a = n.id := by
        have hmem : a ∈ contributors cfgs r.vrf n.id := by rw [hcon]; exact List.mem_cons_self
        obtain ⟨_, _, ha⟩ := mem_contributors.1 hmem
        exact ha.id_eq
      refine ⟨a, ?_, hid, ?_⟩
      · unfold IsFirst
        rw [hid, hcon]
        rfl
      · rw [← hvrf, ← translation_identity ham]
        exact Option.some.inj hfirst

/-- The first neighbor declared with an ID gives a neighbor of the result its identity. -/
theorem IsFirst.exists_neighbor {c : Config} (h : apiToFRR ⟨cfgs, secrets⟩ alwaysBlock = .ok c) {a : Neighbor}
    (hfirst : IsFirst cfgs vrf a) : ∃ r ∈ c.routers, r.vrf = vrf ∧ ∃ n ∈ r.neighbors, n.id = neighborID vrf a ∧
      n.addr = a.address ∧ n.iface = a.interface := by
  have hacc := apiToFRR_acceptable h
  obtain ⟨cfg, e, hcon⟩ := hfirst.contributes
  obtain ⟨r, hr, rfl, n, hn, hid⟩ := (apiToFRR_result h).exists_neighbor hacc hcon
  obtain ⟨b, hb, hbid, hident⟩ := apiToFRR_first h hr hn
  have hab : b = a := by
    unfold IsFirst at hb hfirst
    rw [hbid, hid, hfirst] at hb
    exact (Option.some.inj hb).symm
  subst hab
  exact ⟨r, hr, rfl, n, hn, hid, congrArg Identity.addr hident, congrArg Identity.iface hident⟩

end

end FrrK8s
