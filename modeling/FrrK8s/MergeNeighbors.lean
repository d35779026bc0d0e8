import FrrK8s.MergeNeighbor
/-!
# MergeNeighbors — lists of neighbors, through their pointers

`mergeNeighborsLists` walks two slices of pointers.  When the pointers differ the loop is the fold of `upsert` over the
neighbors themselves (`mergeNeighborsLoop_fresh`).  When a router is merged with itself every pointer comes twice: the
first time as before, the second time the loop merges into each kept neighbor what it already has, which cannot fail and
changes no fact (`secondPass`).  Both ways the result is the neighbors' facts, one neighbor for each ID (`MergeOf`).
-/
namespace FrrK8s

/-- A fact told by a neighbor of that ID. -/
def neighborsTell (ns : List NeighborConfig) (id : String) (x : NeighborFact) : Prop := ∃ n ∈ ns, n.id = id ∧ n.tells x

/-- Something a neighbor of that ID has. -/
def neighborsKeep (ns : List NeighborConfig) (id : String) (x : NeighborOrigin) : Prop :=
  ∃ n ∈ ns, n.id = id ∧ n.keeps x

/-- **`r` is the merge of the neighbors `ns`**: one neighbor for each ID, in order and in normal form, with the facts of
all neighbors of the ID and nothing that none of them had. -/
structure MergeOf (ns r : List NeighborConfig) : Prop where
  sorted : r.Pairwise (fun a b => a.id < b.id)
  normal : ∀ n ∈ r, n.Normal
  tells : ∀ id x, neighborsTell r id x ↔ neighborsTell ns id x
  keeps : ∀ id x, neighborsKeep r id x → neighborsKeep ns id x

/-- Neighbors of one ID agree. -/
def NeighborsAgree (ns ns' : List NeighborConfig) : Prop :=
  ∀ id, Agree NeighborFact.clash (neighborsTell ns id) (neighborsTell ns' id)

/-! ## The loop on values -/

/-- Merging neighbors by ID accumulates their facts; the invariant is well-formedness or any stronger one a merge
establishes. -/
theorem neighbors_accumulate {inv : NeighborConfig → Prop} (hwf : ∀ n, inv n → n.WF) (hnormal : ∀ n, n.Normal → inv n) :
    Accumulates (mapInv NeighborConfig.id inv) inv (mapKnows NeighborConfig.tells)
      (keyTells NeighborConfig.id NeighborConfig.tells) (keyClash NeighborFact.clash)
      (upsert NeighborConfig.id mergeIntoNeighbor) :=
  upsert_accumulates (fun _ h => h) (fun a _ ha _ hid => mergeIntoNeighbor_isOk (hwf a ha) hid)
    (fun a b _ ha hb hid h => ⟨hnormal _ (mergeIntoNeighbor_normal (hwf a ha) (hwf b hb) hid h), mergeIntoNeighbor_id h,
      mergeIntoNeighbor_tells (hwf a ha) h⟩)

theorem neighbors_origin {l : List NeighborConfig} (hwf : ∀ n ∈ l, n.WF) {m : SortedMap String NeighborConfig}
    (h : l.foldlM (upsert NeighborConfig.id mergeIntoNeighbor) .empty = .ok m) (id : String) (x : NeighborOrigin)
    (hx : mapKnows NeighborConfig.keeps m (id, x)) : neighborsKeep l id x := by
  have hacc := neighbors_accumulate (fun _ h => h) (fun _ h => h.toWF)
  exact (hacc.foldlM_origin (upsert_origin (fun _ _ _ _ _ _ h => mergeIntoNeighbor_keeps h)) l .empty m
    (mapInv_empty _ _) hwf h (id, x) hx).resolve_left (not_mapKnows_empty _ _)

theorem pairwise_iff_neighborsAgree {ns : List NeighborConfig} (hwf : ∀ n ∈ ns, n.WF) :
    ns.Pairwise (fun a b => Agree (keyClash NeighborFact.clash) (keyTells NeighborConfig.id NeighborConfig.tells a)
      (keyTells NeighborConfig.id NeighborConfig.tells b)) ↔ NeighborsAgree ns ns := by
  rw [pairwise_agree_iff (fun x y h => ⟨h.1.symm, NeighborFact.clash_symm _ _ h.2⟩)
    (fun n hn x y hx hy hc => (hwf n hn).agree_self _ _ hx.2 hy.2 hc.2)]
  constructor
  · intro h id x y hx hy hc
    exact h (id, x) (id, y) hx hy ⟨rfl, hc⟩
  · rintro h ⟨id, x⟩ ⟨_, y⟩ hx hy ⟨rfl, hc⟩
    exact h id x y hx hy hc

theorem foldNeighbors_isOk {ns : List NeighborConfig} (hwf : ∀ n ∈ ns, n.WF) :
    (ns.foldlM (upsert NeighborConfig.id mergeIntoNeighbor) .empty).isOk = true ↔ NeighborsAgree ns ns := by
  rw [(neighbors_accumulate (fun _ h => h) (fun _ h => h.toWF)).foldlM_isOk ns .empty (mapInv_empty _ _) hwf,
    ← pairwise_iff_neighborsAgree hwf]
  exact and_iff_right (fun _ _ x _ hx => (not_mapKnows_empty _ x hx).elim)

/-! ## Different pointers -/

/-- What holds of a neighbor through its pointer still does after an update that keeps it. -/
theorem update_forall {P : Nat → NeighborConfig → Prop} {s : Store} {d : Nat} {n : NeighborConfig} (hn : P d n)
    (hs : ∀ q, P q (s q)) (q : Nat) : P q (if q = d then n else s q) := by
  split
  · rename_i hq
    rw [hq]
    exact hn
  · exact hs q

theorem update_id {store : Store} {d : Nat} {n : NeighborConfig} (hid : n.id = (store d).id) (q : Nat) :
    (if q = d then n else store q).id = (store q).id :=
  update_forall (P := fun q x => x.id = (store q).id) hid (fun _ => rfl) q

/-- An update through the pointer kept for an ID, where no pointer is kept for two. -/
theorem mapVal_update {store : Store} {merged : SortedMap String Nat}
    (hm : ∀ k d, merged.find? k = some d → (store d).id = k) {id : String} {d : Nat} (hd : merged.find? id = some d)
    (n : NeighborConfig) :
    merged.mapVal (fun q => if q = d then n else store q) = (merged.mapVal store).insert id n := by
  apply SortedMap.ext_find?
  intro k
  rw [SortedMap.find?_mapVal, SortedMap.find?_insert, SortedMap.find?_mapVal]
  by_cases hk : k = id
  · rw [hk, hd, if_pos rfl, Option.map_some, if_pos rfl]
  · rw [if_neg hk]
    cases hfk : merged.find? k with
    | none => rfl
    | some d' =>
      have hne : d' ≠ d := by
        intro h
        rw [h] at hfk
        exact hk ((hm k d hfk).symm.trans (hm id d hd))
      rw [Option.map_some, Option.map_some, if_neg hne]

/-- **Over pointers not seen before, the loop is the fold over what they point to.** -/
theorem mergeNeighborsLoop_fresh : ∀ (ps : List Nat) (store : Store) (merged : SortedMap String Nat),
    (∀ k d, merged.find? k = some d → (store d).id = k ∧ d ∉ ps) → ps.Nodup →
      (mergeNeighborsLoop ps store merged).map (fun r => r.2.mapVal r.1) =
        (ps.map store).foldlM (upsert NeighborConfig.id mergeIntoNeighbor) (merged.mapVal store)
  | [], _, _, _, _ => rfl
  | p :: ps, store, merged, hm, hnd => by
    rw [List.nodup_cons] at hnd
    rw [List.map_cons, List.foldlM_cons, mergeNeighborsLoop]
    unfold upsert
    rw [SortedMap.find?_mapVal]
    cases hf : merged.find? (store p).id with
    | none =>
      have hm' : ∀ k d, (merged.insert (store p).id p).find? k = some d → (store d).id = k ∧ d ∉ ps := by
        intro k d hd
        rw [SortedMap.find?_insert] at hd
        split at hd
        · rename_i hk
          cases hd; exact ⟨hk.symm, hnd.1⟩
        · exact ⟨(hm k d hd).1, fun h => (hm k d hd).2 (List.mem_cons_of_mem _ h)⟩
      simp only [Option.map_none]
      rw [mergeNeighborsLoop_fresh ps store _ hm' hnd.2, SortedMap.mapVal_insert]
      rfl
    | some d =>
      obtain ⟨hid, hd⟩ := hm _ d hf
      simp only [Option.map_some]
      cases hmerge : mergeIntoNeighbor (store d) (store p) with
      | error e => rfl
      | ok n =>
        have hnid : n.id = (store d).id := mergeIntoNeighbor_id hmerge
        -- the pointers left do not reach the neighbor just changed
        have hmap : ps.map (fun q => if q = d then n else store q) = ps.map store :=
          List.map_congr_left (fun q hq => if_neg (fun h : q = d => hd (h ▸ List.mem_cons_of_mem _ hq)))
        have hm' : ∀ k d', merged.find? k = some d' →
            ((fun q => if q = d then n else store q) d').id = k ∧ d' ∉ ps := by
          intro k d' hd'
          exact ⟨(update_id hnid d').trans (hm k d' hd').1, fun h => (hm k d' hd').2 (List.mem_cons_of_mem _ h)⟩
        have ih := mergeNeighborsLoop_fresh ps (fun q => if q = d then n else store q) merged hm' hnd.2
        rw [hmap, mapVal_update (fun k d' h => (hm k d' h).1) hf] at ih
        exact ih

/-- The list `mergeNeighborsLists` returns, from the outcome of its loop. -/
theorem mergeNeighborsLists_eq (store : Store) (first toMerge : List Nat) (r : List NeighborConfig) :
    mergeNeighborsLists store first toMerge = .ok r ↔
      ∃ s m, mergeNeighborsLoop (first ++ toMerge) store .empty = .ok (s, m) ∧ r = m.values.map s := by
  unfold mergeNeighborsLists
  by_cases h : (first ++ toMerge).length = 0
  · rw [List.length_eq_zero_iff] at h
    simp only [h, List.length_nil, if_true, mergeNeighborsLoop]
    constructor
    · intro hr; exact ⟨store, .empty, rfl, (by simpa using hr : [] = r).symm⟩
    · rintro ⟨s, m, hsm, rfl⟩; cases hsm; rfl
  · simp only [h, if_false, bind_eq_ok, pure_eq_ok, Prod.exists]
    exact exists_congr fun s => exists_congr fun m => and_congr Iff.rfl eq_comm

/-- A sorted, normal map of neighbors merged from `ns` is their merge. -/
theorem MergeOf.of_map {ns : List NeighborConfig} {m : SortedMap String NeighborConfig}
    (hm : mapInv NeighborConfig.id NeighborConfig.Normal m)
    (htells : ∀ id x, mapKnows NeighborConfig.tells m (id, x) ↔ neighborsTell ns id x)
    (hkeeps : ∀ id x, mapKnows NeighborConfig.keeps m (id, x) → neighborsKeep ns id x) : MergeOf ns m.values where
  sorted := (mapInv_values hm).1
  normal := (mapInv_values hm).2
  tells := fun id x => by rw [← htells, mapKnows_iff_values hm]; rfl
  keeps := fun id x hx => hkeeps id x ((mapKnows_iff_values hm _ id x).2 hx)

theorem storeOf_map_range (ns : List NeighborConfig) : (List.range ns.length).map (storeOf ns) = ns := by
  refine List.ext_getElem (by simp) (fun i h1 h2 => ?_)
  simp [storeOf, h2]

/-- The pointers of two lists, one after the other. -/
theorem range_append_range' (a b : List NeighborConfig) :
    List.range a.length ++ List.range' a.length b.length = List.range (a ++ b).length := by
  rw [List.length_append, List.range_eq_range', List.range_eq_range', ← List.range'_append_1, Nat.zero_add]

/-- The merge of two lists behind different pointers, as a fold. -/
theorem mergeNeighborsLists_append (a b r : List NeighborConfig) :
    mergeNeighborsLists (storeOf (a ++ b)) (List.range a.length) (List.range' a.length b.length) = .ok r ↔
      ∃ m, (a ++ b).foldlM (upsert NeighborConfig.id mergeIntoNeighbor) .empty = .ok m ∧ r = m.values := by
  have hloop := mergeNeighborsLoop_fresh (List.range (a ++ b).length) (storeOf (a ++ b)) .empty
    (fun k d h => by cases h) List.nodup_range
  rw [storeOf_map_range] at hloop
  have hempty : SortedMap.mapVal (storeOf (a ++ b)) (.empty : SortedMap String Nat) = .empty := rfl
  rw [mergeNeighborsLists_eq, range_append_range', ← hempty, ← hloop]
  cases mergeNeighborsLoop (List.range (a ++ b).length) (storeOf (a ++ b)) .empty with
  | error e => simp [Except.map]
  | ok sm =>
    obtain ⟨s, m⟩ := sm
    simp [Except.map]

/-- **Two lists of normal neighbors merge exactly when those of one ID agree, and the result is their merge.** -/
theorem mergeNeighborsLists_two {a b : List NeighborConfig} (hn : ∀ n ∈ a ++ b, n.Normal) :
    ((mergeNeighborsLists (storeOf (a ++ b)) (List.range a.length) (List.range' a.length b.length)).isOk = true ↔
      NeighborsAgree (a ++ b) (a ++ b)) ∧
    ∀ r, mergeNeighborsLists (storeOf (a ++ b)) (List.range a.length) (List.range' a.length b.length) = .ok r →
      MergeOf (a ++ b) r := by
  constructor
  · rw [← foldNeighbors_isOk (fun n h => (hn n h).toWF), isOk_iff, isOk_iff]
    simp only [mergeNeighborsLists_append]
    exact ⟨fun ⟨_, m, h, _⟩ => ⟨m, h⟩, fun ⟨m, h⟩ => ⟨_, m, h, rfl⟩⟩
  · intro r hr
    obtain ⟨m, hm, rfl⟩ := (mergeNeighborsLists_append a b r).1 hr
    obtain ⟨hinv, hknows⟩ := (neighbors_accumulate (fun _ h => h.toWF) (fun _ h => h)).foldlM_knows (a ++ b) .empty m
      (mapInv_empty _ _) hn hm
    refine MergeOf.of_map hinv (fun id x => ?_) (neighbors_origin (fun n h => (hn n h).toWF) hm)
    rw [hknows, or_iff_right (not_mapKnows_empty _ _)]
    rfl

/-! ## The same pointers twice -/

/-- What the loop leaves in place: the IDs, the neighbors no pointer is kept for, the pointers kept before. -/
structure LoopFrame (ps : List Nat) (store : Store) (merged : SortedMap String Nat) (s : Store)
    (m : SortedMap String Nat) : Prop where
  id : ∀ q, (s q).id = (store q).id
  same : ∀ q, s q = store q ∨ ∃ k, m.find? k = some q
  kept : ∀ k d, merged.find? k = some d → m.find? k = some d
  found : ∀ p ∈ ps, ∃ d, m.find? (store p).id = some d
  origin : ∀ k d, m.find? k = some d → merged.find? k = some d ∨ (d ∈ ps ∧ (store d).id = k)

theorem mergeNeighborsLoop_frame : ∀ (ps : List Nat) (store : Store) (merged : SortedMap String Nat) (s : Store)
    (m : SortedMap String Nat), mergeNeighborsLoop ps store merged = .ok (s, m) → LoopFrame ps store merged s m
  | [], store, merged, s, m, h => by
    cases h
    exact ⟨fun _ => rfl, fun _ => Or.inl rfl, fun _ _ h => h, fun p hp => (List.not_mem_nil hp).elim,
      fun _ _ h => Or.inl h⟩
  | p :: ps, store, merged, s, m, h => by
    unfold mergeNeighborsLoop at h
    cases hf : merged.find? (store p).id with
    | none =>
      rw [hf] at h
      have ih := mergeNeighborsLoop_frame ps store _ s m h
      have hp : m.find? (store p).id = some p := ih.kept _ _ (by rw [SortedMap.find?_insert, if_pos rfl])
      refine ⟨ih.id, ih.same, fun k d hd => ih.kept k d ?_, ?_, fun k d hd => ?_⟩
      · rw [SortedMap.find?_insert, if_neg (fun hk => ?_)]
        · exact hd
        · rw [hk, hf] at hd; cases hd
      · intro q hq
        rcases List.mem_cons.1 hq with rfl | hq
        · exact ⟨q, hp⟩
        · exact ih.found q hq
      · rcases ih.origin k d hd with hd | ⟨hd, hk⟩
        · rw [SortedMap.find?_insert] at hd
          split at hd
          · rename_i hk
            cases hd; exact Or.inr ⟨List.mem_cons_self .., hk.symm⟩
          · exact Or.inl hd
        · exact Or.inr ⟨List.mem_cons_of_mem _ hd, hk⟩
    | some d =>
      rw [hf] at h
      simp only [bind_eq_ok] at h
      obtain ⟨n, hn, h⟩ := h
      have ih := mergeNeighborsLoop_frame ps _ merged s m h
      have hid := update_id (mergeIntoNeighbor_id hn)
      refine ⟨fun q => (ih.id q).trans (hid q), fun q => ?_, ih.kept, ?_, fun k e he => ?_⟩
      · by_cases hq : q = d
        · exact Or.inr ⟨(store p).id, ih.kept _ _ (hq ▸ hf)⟩
        · exact (ih.same q).imp (fun h => h.trans (if_neg hq)) (fun h => h)
      · intro q hq
        rcases List.mem_cons.1 hq with rfl | hq
        · exact ⟨d, ih.kept _ _ hf⟩
        · rw [← hid q]; exact ih.found q hq
      · rcases ih.origin k e he with he | ⟨he, hk⟩
        · exact Or.inl he
        · exact Or.inr ⟨List.mem_cons_of_mem _ he, (hid e).symm.trans hk⟩

/-- Between the two passes: every pointer of the list has one kept for its ID, which has all the facts of the ID. -/
structure SeenOnce (ns : List NeighborConfig) (s : Store) (m : SortedMap String Nat) : Prop where
  kept : ∀ k d, m.find? k = some d → d < ns.length ∧ (s d).id = k ∧ ∀ x, (s d).tells x ↔ neighborsTell ns k x
  found : ∀ p < ns.length, ∃ d, m.find? (s p).id = some d
  wf : ∀ p < ns.length, (s p).WF
  tells : ∀ p < ns.length, ∀ x, (s p).tells x → neighborsTell ns (s p).id x
  keeps : ∀ p < ns.length, ∀ x, (s p).keeps x → neighborsKeep ns (s p).id x

/-- Merging a neighbor of the list into the one kept for its ID changes no fact. -/
theorem SeenOnce.update {ns : List NeighborConfig} {s : Store} {m : SortedMap String Nat} (h : SeenOnce ns s m)
    {p d : Nat} (hp : p < ns.length) (hd : m.find? (s p).id = some d) {n : NeighborConfig}
    (hn : mergeIntoNeighbor (s d) (s p) = .ok n) :
    n.Normal ∧ n.id = (s d).id ∧ SeenOnce ns (fun q => if q = d then n else s q) m := by
  obtain ⟨hlt, hid, hall⟩ := h.kept _ _ hd
  have hnid : n.id = (s d).id := mergeIntoNeighbor_id hn
  have hnormal := mergeIntoNeighbor_normal (h.wf d hlt) (h.wf p hp) hid hn
  have htells : ∀ x, n.tells x ↔ neighborsTell ns (s d).id x := by
    intro x
    rw [mergeIntoNeighbor_tells (h.wf d hlt) hn, hid]
    constructor
    · rintro (hx | hx)
      · exact (hall x).1 hx
      · exact h.tells p hp x hx
    · intro hx; exact Or.inl ((hall x).2 hx)
  refine ⟨hnormal, hnid, ?_, ?_, ?_, ?_, ?_⟩
  · intro k
    refine update_forall (P := fun q x => m.find? k = some q → q < ns.length ∧ x.id = k ∧ ∀ y, x.tells y ↔
      neighborsTell ns k y) (fun hk => ?_) (h.kept k)
    have heid := (h.kept k d hk).2.1
    exact ⟨hlt, hnid.trans heid, fun x => by rw [htells, heid]⟩
  · refine update_forall (P := fun q x => q < ns.length → ∃ d, m.find? x.id = some d) (fun hq => ?_) h.found
    rw [hnid]
    exact h.found d hq
  · exact update_forall (P := fun q x => q < ns.length → x.WF) (fun _ => hnormal.toWF) h.wf
  · refine update_forall (P := fun q x => q < ns.length → ∀ y, x.tells y → neighborsTell ns x.id y)
      (fun _ y hy => ?_) h.tells
    rw [hnid]
    exact (htells y).1 hy
  · refine update_forall (P := fun q x => q < ns.length → ∀ y, x.keeps y → neighborsKeep ns x.id y)
      (fun hq y hy => ?_) h.keeps
    rw [hnid]
    rcases mergeIntoNeighbor_keeps hn y hy with hy | hy
    · exact h.keeps d hq y hy
    · rw [hid]
      exact h.keeps p hp y hy

/-- **The second pass succeeds, adds nothing, and leaves the neighbors it merged into in normal form.** -/
theorem secondPass {ns : List NeighborConfig} (hagree : NeighborsAgree ns ns) :
    ∀ (ps : List Nat) (s : Store) (m : SortedMap String Nat), (∀ p ∈ ps, p < ns.length) → SeenOnce ns s m →
      ∃ s', mergeNeighborsLoop ps s m = .ok (s', m) ∧ SeenOnce ns s' m ∧
        ∀ q, (s q).Normal ∨ (∃ p ∈ ps, m.find? (s p).id = some q) → (s' q).Normal
  | [], s, m, _, h => ⟨s, rfl, h, fun q hq => hq.elim (fun h => h) (fun ⟨p, hp, _⟩ => (List.not_mem_nil hp).elim)⟩
  | p :: ps, s, m, hps, h => by
    have hp := hps p (List.mem_cons_self ..)
    obtain ⟨d, hd⟩ := h.found p hp
    obtain ⟨hlt, hid, hall⟩ := h.kept _ _ hd
    have hok : (mergeIntoNeighbor (s d) (s p)).isOk = true :=
      (mergeIntoNeighbor_isOk (h.wf d hlt) hid).2 (fun x y hx hy =>
        hagree (s p).id x y ((hall x).1 hx) (h.tells p hp y hy))
    obtain ⟨n, hn⟩ := (isOk_iff _).1 hok
    obtain ⟨hnormal, hnid, h'⟩ := h.update hp hd hn
    obtain ⟨s', hs', hseen, hnorm⟩ :=
      secondPass hagree ps _ m (fun q hq => hps q (List.mem_cons_of_mem _ hq)) h'
    refine ⟨s', ?_, hseen, fun q hq => hnorm q ?_⟩
    · simp only [mergeNeighborsLoop, hd, hn]
      exact hs'
    · by_cases hqd : q = d
      · subst hqd; simp only [if_true]; exact Or.inl hnormal
      · simp only [if_neg hqd]
        refine hq.imp (fun h => h) (fun ⟨p', hp', hf⟩ => ?_)
        rcases List.mem_cons.1 hp' with rfl | hp'
        · rw [hd] at hf; exact (hqd (Option.some.inj hf).symm).elim
        · refine ⟨p', hp', ?_⟩
          by_cases hpd : p' = d
          · subst hpd; simp only [if_true]; rw [hnid]; exact hf
          · simp only [if_neg hpd]; exact hf

theorem mergeNeighborsLoop_append : ∀ (ps qs : List Nat) (s : Store) (m : SortedMap String Nat),
    mergeNeighborsLoop (ps ++ qs) s m = (mergeNeighborsLoop ps s m).bind (fun r => mergeNeighborsLoop qs r.1 r.2)
  | [], qs, s, m => rfl
  | p :: ps, qs, s, m => by
    simp only [List.cons_append, mergeNeighborsLoop]
    cases m.find? (s p).id with
    | none => exact mergeNeighborsLoop_append ps qs s _
    | some d =>
      cases hn : mergeIntoNeighbor (s d) (s p) with
      | error e => simp only [hn]; rfl
      | ok n => simp only [hn]; exact mergeNeighborsLoop_append ps qs _ m

/-- What the first pass over a list's own pointers gives. -/
theorem firstPass {ns : List NeighborConfig} (hwf : ∀ n ∈ ns, n.WF) {s : Store} {m : SortedMap String Nat}
    (h : mergeNeighborsLoop (List.range ns.length) (storeOf ns) .empty = .ok (s, m)) : SeenOnce ns s m := by
  have hfold := mergeNeighborsLoop_fresh (List.range ns.length) (storeOf ns) .empty (fun k d h => by cases h)
    List.nodup_range
  rw [storeOf_map_range, h] at hfold
  have hframe := mergeNeighborsLoop_frame _ _ _ _ _ h
  have hmem : ∀ p < ns.length, storeOf ns p ∈ ns := fun p hp => by simp [storeOf, hp]
  obtain ⟨hinv, hknows⟩ := (neighbors_accumulate (fun _ h => h) (fun _ h => h.toWF)).foldlM_knows ns .empty _
    (mapInv_empty _ _) hwf hfold.symm
  have hkept : ∀ k d, m.find? k = some d → (m.mapVal s).find? k = some (s d) := fun k d hd => by
    rw [SortedMap.find?_mapVal, hd]; rfl
  have hid : ∀ k d, m.find? k = some d → (s d).id = k := fun k d hd => (hinv k _ (hkept k d hd)).1
  have htells : ∀ k d, m.find? k = some d → ∀ x, (s d).tells x ↔ neighborsTell ns k x := by
    intro k d hd x
    have := hknows (k, x)
    simp only [mapKnows, hkept k d hd, Option.some.injEq, exists_eq_left', SortedMap.find?_empty, reduceCtorEq,
      false_and, exists_false, false_or] at this
    exact this
  refine ⟨fun k d hd => ⟨?_, hid k d hd, htells k d hd⟩, ?_, ?_, ?_, ?_⟩
  · rcases hframe.origin k d hd with h | ⟨h, -⟩
    · cases h
    · exact List.mem_range.1 h
  · intro p hp
    rw [hframe.id]
    exact hframe.found p (List.mem_range.2 hp)
  · intro p hp
    rcases hframe.same p with h | ⟨k, hk⟩
    · rw [h]; exact hwf _ (hmem p hp)
    · exact (hinv k _ (hkept k p hk)).2
  · intro p hp x hx
    rcases hframe.same p with h | ⟨k, hk⟩
    · rw [h] at hx ⊢; exact ⟨_, hmem p hp, rfl, hx⟩
    · rw [hid k p hk]; exact (htells k p hk x).1 hx
  · intro p hp x hx
    rcases hframe.same p with h | ⟨k, hk⟩
    · rw [h] at hx ⊢; exact ⟨_, hmem p hp, rfl, hx⟩
    · rw [hid k p hk]
      exact neighbors_origin hwf hfold.symm k x ⟨_, hkept k p hk, hx⟩

/-- The kept neighbors, once they are in normal form, are the merge of all. -/
theorem SeenOnce.mergeOf {ns : List NeighborConfig} {s : Store} {m : SortedMap String Nat} (h : SeenOnce ns s m)
    (hnormal : ∀ k d, m.find? k = some d → (s d).Normal) (hfound : ∀ n ∈ ns, ∃ d, m.find? n.id = some d) :
    MergeOf ns (m.values.map s) := by
  have hkept : ∀ k n, (m.mapVal s).find? k = some n → ∃ d, m.find? k = some d ∧ s d = n := by
    intro k n hn
    rwa [SortedMap.find?_mapVal, Option.map_eq_some_iff] at hn
  rw [← SortedMap.values_mapVal]
  refine MergeOf.of_map ?_ ?_ ?_
  · intro k n hn
    obtain ⟨d, hd, rfl⟩ := hkept k n hn
    exact ⟨(h.kept k d hd).2.1, hnormal k d hd⟩
  · intro k x
    constructor
    · rintro ⟨n, hn, hx⟩
      obtain ⟨d, hd, rfl⟩ := hkept k n hn
      exact ((h.kept k d hd).2.2 x).1 hx
    · rintro ⟨n, hn, rfl, hx⟩
      obtain ⟨d, hd⟩ := hfound n hn
      exact ⟨s d, by rw [SortedMap.find?_mapVal, hd]; rfl, ((h.kept _ d hd).2.2 x).2 ⟨_, hn, rfl, hx⟩⟩
  · rintro k x ⟨n, hn, hx⟩
    obtain ⟨d, hd, rfl⟩ := hkept k n hn
    obtain ⟨hlt, hid, -⟩ := h.kept k d hd
    have hkeeps := h.keeps d hlt x hx
    rwa [hid] at hkeeps

/-- **A router's own neighbors merge exactly when those of one ID agree, and the result is their merge.** -/
theorem mergeNeighborsLists_self {ns : List NeighborConfig} (hwf : ∀ n ∈ ns, n.WF) :
    ((mergeNeighborsLists (storeOf ns) (List.range ns.length) (List.range ns.length)).isOk = true ↔
      NeighborsAgree ns ns) ∧
    ∀ r, mergeNeighborsLists (storeOf ns) (List.range ns.length) (List.range ns.length) = .ok r → MergeOf ns r := by
  have hfold := mergeNeighborsLoop_fresh (List.range ns.length) (storeOf ns) .empty (fun k d h => by cases h)
    List.nodup_range
  have hok := foldNeighbors_isOk hwf
  rw [storeOf_map_range] at hfold
  rw [← show SortedMap.mapVal (storeOf ns) (.empty : SortedMap String Nat) = .empty from rfl, ← hfold] at hok
  -- the outcome is that of the first pass, followed by a second one
  cases hloop : mergeNeighborsLoop (List.range ns.length) (storeOf ns) .empty with
  | error e =>
    have hno : ∀ r, mergeNeighborsLists (storeOf ns) (List.range ns.length) (List.range ns.length) ≠ .ok r := by
      intro r hr
      obtain ⟨s, m, hsm, -⟩ := (mergeNeighborsLists_eq ..).1 hr
      rw [mergeNeighborsLoop_append, hloop] at hsm
      cases hsm
    rw [hloop] at hok
    refine ⟨?_, fun r hr => (hno r hr).elim⟩
    rw [← hok, isOk_iff]
    simp [Except.map, hno]
  | ok sm =>
    obtain ⟨s, m⟩ := sm
    rw [hloop] at hok
    have hagree : NeighborsAgree ns ns := hok.1 rfl
    have hseen := firstPass hwf hloop
    obtain ⟨s', hs', hseen', hnorm⟩ :=
      secondPass hagree (List.range ns.length) s m (fun p hp => List.mem_range.1 hp) hseen
    have hboth : mergeNeighborsLoop (List.range ns.length ++ List.range ns.length) (storeOf ns)
        .empty = .ok (s', m) := by
      rw [mergeNeighborsLoop_append, hloop]; exact hs'
    refine ⟨⟨fun _ => hagree, fun _ => (isOk_iff _).2 ⟨_, (mergeNeighborsLists_eq ..).2 ⟨s', m, hboth, rfl⟩⟩⟩, ?_⟩
    intro r hr
    obtain ⟨t, m', hsm, rfl⟩ := (mergeNeighborsLists_eq ..).1 hr
    rw [hboth] at hsm
    cases hsm
    refine hseen'.mergeOf (fun k d hd => ?_) (fun n hn => ?_)
    · obtain ⟨hlt, hid, -⟩ := hseen.kept k d hd
      exact hnorm d (Or.inr ⟨d, List.mem_range.2 hlt, by rw [hid]; exact hd⟩)
    · obtain ⟨p, hp, rfl⟩ := List.mem_iff_getElem.1 hn
      have hsp : storeOf ns p = ns[p] := by simp [storeOf, hp]
      rw [← hsp]
      exact (mergeNeighborsLoop_frame _ _ _ _ _ hboth).found p (by simp [hp])

end FrrK8s
