import Mathlib.Data.List.Sort
/-!
# Policy — numbered entries, first match and route maps

Entries of a policy get their sequence numbers from counters, as they are written, and are tried in the order of the
numbers: entries that share a counter are tried as they are written (`inOrder_number`).  A list of rules is decided by
the first rule whose test holds; a route map runs on past an entry marked to go on, and refuses at its end.
-/
namespace FrrK8s
namespace Policy

/-! ## Numbers -/

section Numbers

variable {α β κ : Type} [DecidableEq κ] (counter : α → κ)

/-- Each item gets the next number of its counter. -/
def number : (κ → Nat) → List α → List (Nat × α)
  | _, [] => []
  | counts, a :: l =>
    (counts (counter a) + 1, a) :: number (fun k => if k = counter a then counts k + 1 else counts k) l

theorem number_snd : ∀ (l : List α) (counts : κ → Nat), (number counter counts l).map Prod.snd = l
  | [], _ => rfl
  | a :: l, counts => by rw [number, List.map_cons, number_snd l]

theorem number_gt : ∀ (l : List α) (counts : κ → Nat), ∀ x ∈ number counter counts l, counts (counter x.2) < x.1
  | [], _, x, hx => by cases hx
  | a :: l, counts, x, hx => by
    rcases List.mem_cons.1 hx with rfl | hx
    · exact Nat.lt_succ_self _
    · have h := number_gt l _ x hx
      split at h
      · omega
      · exact h

/-- **Items of one counter get increasing numbers.** -/
theorem number_increasing : ∀ (l : List α) (counts : κ → Nat),
    (number counter counts l).Pairwise (fun x y => counter x.2 = counter y.2 → x.1 < y.1)
  | [], _ => List.Pairwise.nil
  | a :: l, counts => by
    refine List.Pairwise.cons (fun y hy hc => ?_) (number_increasing l _)
    have h := number_gt counter l _ y hy
    simp only at hc h
    rw [if_pos hc.symm, ← hc] at h
    exact h

/-- The items that `sel` picks, in the order of their numbers. -/
def inOrder (sel : α → Option β) (l : List (Nat × α)) : List β :=
  ((l.filterMap (fun x => (sel x.2).map (fun b => (x.1, b)))).insertionSort (fun x y => x.1 ≤ y.1)).map Prod.snd

theorem filterMap_numbered (sel : α → Option β) : ∀ l : List (Nat × α),
    (l.filterMap (fun x => (sel x.2).map (fun b => (x.1, b)))).map Prod.snd = (l.map Prod.snd).filterMap sel
  | [] => rfl
  | x :: l => by
    rw [List.map_cons, List.filterMap_cons, List.filterMap_cons]
    cases sel x.2 with
    | none => exact filterMap_numbered sel l
    | some b => exact congrArg (b :: ·) (filterMap_numbered sel l)

/-- **Items that share a counter are tried as they are written.** -/
theorem inOrder_number (sel : α → Option β) (k : κ) (hsel : ∀ a b, sel a = some b → counter a = k) (l : List α)
    (counts : κ → Nat) : inOrder sel (number counter counts l) = l.filterMap sel := by
  have hsorted : ((number counter counts l).filterMap (fun x => (sel x.2).map (fun b => (x.1, b)))).Pairwise
      (fun x y => x.1 ≤ y.1) := by
    refine List.Pairwise.filterMap _ (fun x y hxy x' hx' y' hy' => ?_) (number_increasing counter l counts)
    obtain ⟨b, hb, rfl⟩ := Option.map_eq_some_iff.1 hx'
    obtain ⟨b', hb', rfl⟩ := Option.map_eq_some_iff.1 hy'
    exact (hxy ((hsel _ b hb).trans (hsel _ b' hb').symm)).le
  unfold inOrder
  rw [hsorted.insertionSort_eq, filterMap_numbered, number_snd]

/-- What is picked of numbered items is what is picked of the items, in whatever order. -/
theorem mem_inOrder_number (sel : α → Option β) (l : List α) (counts : κ → Nat) (b : β) :
    b ∈ inOrder sel (number counter counts l) ↔ ∃ a ∈ l, sel a = some b := by
  unfold inOrder
  rw [((List.perm_insertionSort _ _).map Prod.snd).mem_iff, filterMap_numbered, number_snd, List.mem_filterMap]

end Numbers

/-! ## First match -/

structure Rule (γ : Type) where
  permit : Bool
  test : γ
deriving DecidableEq, Repr

section Rules

variable {γ : Type} (holds : γ → Bool)

/-- The first rule whose test holds decides; where none does, the answer is no. -/
def permits : List (Rule γ) → Bool
  | [] => false
  | r :: l => if holds r.test then r.permit else permits l

theorem exists_of_permits : ∀ {l : List (Rule γ)}, permits holds l = true →
    ∃ r ∈ l, r.permit = true ∧ holds r.test = true
  | r :: l, h => by
    unfold permits at h
    by_cases hr : holds r.test = true
    · rw [if_pos hr] at h
      exact ⟨r, List.mem_cons_self .., h, hr⟩
    · rw [if_neg hr] at h
      obtain ⟨s, hs, h⟩ := exists_of_permits h
      exact ⟨s, List.mem_cons_of_mem _ hs, h⟩

/-- Without a rule that refuses, the order of the rules does not matter. -/
theorem permits_iff : ∀ {l : List (Rule γ)}, (∀ r ∈ l, r.permit = true) →
    (permits holds l = true ↔ ∃ r ∈ l, holds r.test = true)
  | [], _ => by simp [permits]
  | r :: l, hl => by
    unfold permits
    by_cases hr : holds r.test = true
    · rw [if_pos hr]
      exact ⟨fun _ => ⟨r, List.mem_cons_self .., hr⟩, fun _ => hl r (List.mem_cons_self ..)⟩
    · rw [if_neg hr, permits_iff (fun s hs => hl s (List.mem_cons_of_mem _ hs))]
      simp [hr]

end Rules

/-! ## Route maps -/

structure Entry (γ σ : Type) where
  permit : Bool
  test : γ
  sets : List σ
  onMatchNext : Bool
deriving DecidableEq, Repr

section Entries

variable {γ σ : Type} (holds : γ → Bool)

/-- What a route map executes before it permits, or `none` where it refuses.  An entry that refuses ends it, one that
permits executes its clauses and ends it, unless it is marked to go on. -/
def run : List (Entry γ σ) → Option (List σ)
  | [] => none
  | e :: l =>
    if holds e.test then
      if e.permit then
        if e.onMatchNext then (run l).map (e.sets ++ ·) else some e.sets
      else none
    else run l

/-- A chain of entries that go on executes the clauses of those whose test holds, and leaves the decision to what
follows. -/
theorem run_chain (tail : List (Entry γ σ)) : ∀ {chain : List (Entry γ σ)},
    (∀ e ∈ chain, e.permit = true ∧ e.onMatchNext = true) → run holds (chain ++ tail) =
      (run holds tail).map (((chain.filter (fun e => holds e.test)).flatMap Entry.sets) ++ ·)
  | [], _ => by simp
  | e :: chain, h => by
    obtain ⟨hp, hn⟩ := h e (List.mem_cons_self ..)
    have ih := run_chain tail (fun e he => h e (List.mem_cons_of_mem _ he))
    rw [List.cons_append, run, ih]
    by_cases he : holds e.test = true
    · rw [if_pos he, if_pos hp, if_pos hn, List.filter_cons, if_pos he, List.flatMap_cons, Option.map_map]
      congr 1
      funext s
      exact (List.append_assoc ..).symm
    · rw [if_neg he, List.filter_cons, if_neg he]

end Entries

/-! ## Clauses that write -/

section Writes

variable {α β σ : Type} {step : α → σ → α} {field : α → Option β} {writes : σ → Option β}

theorem exists_of_foldl_write (hstep : ∀ a s, field (step a s) = (writes s).or (field a)) (v : β) :
    ∀ (l : List σ) (a : α), field (l.foldl step a) = some v → (∃ s ∈ l, writes s = some v) ∨ field a = some v
  | [], _, h => Or.inr h
  | s :: l, a, h => by
    rcases exists_of_foldl_write hstep v l (step a s) h with ⟨t, ht, hv⟩ | hv
    · exact Or.inl ⟨t, List.mem_cons_of_mem _ ht, hv⟩
    · rw [hstep] at hv
      cases hs : writes s with
      | none => rw [hs] at hv; exact Or.inr hv
      | some w => rw [hs] at hv; exact Or.inl ⟨s, List.mem_cons_self .., hs.trans hv⟩

theorem foldl_write_isSome (hstep : ∀ a s, field (step a s) = (writes s).or (field a)) : ∀ (l : List σ) (a : α),
    (∃ s ∈ l, (writes s).isSome = true) ∨ (field a).isSome = true → (field (l.foldl step a)).isSome = true
  | [], _, h => by simpa using h
  | s :: l, a, h => by
    refine foldl_write_isSome hstep l (step a s) ?_
    rw [hstep]
    rcases h with ⟨t, ht, hw⟩ | ha
    · rcases List.mem_cons.1 ht with rfl | ht
      · exact Or.inr (by simp [hw])
      · exact Or.inl ⟨t, ht, hw⟩
    · exact Or.inr (by cases writes s <;> simp [ha])

/-- **A field that all clauses write alike** has, at the end, what one of them writes. -/
theorem foldl_write_iff (hstep : ∀ a s, field (step a s) = (writes s).or (field a)) {l : List σ} {a : α}
    (ha : field a = none) (hone : ∀ s ∈ l, ∀ t ∈ l, ∀ v w, writes s = some v → writes t = some w → v = w) (v : β) :
    field (l.foldl step a) = some v ↔ ∃ s ∈ l, writes s = some v := by
  refine ⟨fun h => (exists_of_foldl_write hstep v l a h).resolve_right (by simp [ha]), fun ⟨s, hs, hv⟩ => ?_⟩
  obtain ⟨w, hw⟩ := Option.isSome_iff_exists.1 (foldl_write_isSome hstep l a (Or.inl ⟨s, hs, by simp [hv]⟩))
  obtain ⟨t, ht, htw⟩ := (exists_of_foldl_write hstep w l a hw).resolve_right (by simp [ha])
  rw [hw, hone s hs t ht v w hv htw]

end Writes

end Policy
end FrrK8s
