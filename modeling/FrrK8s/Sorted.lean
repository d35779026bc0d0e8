import Mathlib.Data.List.Sort
import Mathlib.Data.String.Basic
/-!
# Sorted — finite sets and maps as strictly sorted lists

A finite set over a linear order is its strictly increasing list, a finite map its association list with strictly
increasing keys.  Both carry the order as a field, so a value has one representation: two sets with the same members
are equal (`SortedSet.ext_mem`), and so are two maps with the same lookups (`SortedMap.ext_find?`).
-/
namespace FrrK8s

theorem nodup_map_of_pairwise_lt {α κ : Type} [LinearOrder κ] {key : α → κ} {l : List α}
    (h : l.Pairwise (fun a b => key a < key b)) : (l.map key).Nodup :=
  List.pairwise_map.2 (h.imp (fun hlt => ne_of_lt hlt))

/-- A part with one member for each key is the whole exactly when the key tells the members of the whole apart. -/
theorem represented_iff {α κ : Type} {key : α → κ} {P Q : α → Prop} (hfrom : ∀ a, P a → Q a)
    (hkeys : ∀ a, Q a → ∃ b, P b ∧ key b = key a) (hone : ∀ a b, P a → P b → key a = key b → a = b) :
    (∀ a, Q a → P a) ↔ ∀ a b, Q a → Q b → key a = key b → a = b := by
  refine ⟨fun h a b ha hb hk => hone a b (h a ha) (h b hb) hk, fun h a ha => ?_⟩
  obtain ⟨b, hb, hk⟩ := hkeys a ha
  rwa [h a b ha (hfrom b hb) hk.symm]

/-- **Two lists with strictly increasing keys and the same members are equal.** -/
theorem eq_of_sorted_key_of_mem_iff {α κ : Type} [LinearOrder κ] {key : α → κ} {l₁ l₂ : List α}
    (h₁ : l₁.Pairwise (fun a b => key a < key b)) (h₂ : l₂.Pairwise (fun a b => key a < key b))
    (h : ∀ x, x ∈ l₁ ↔ x ∈ l₂) : l₁ = l₂ := by
  have hperm : l₁.Perm l₂ := (List.perm_ext_iff_of_nodup (nodup_map_of_pairwise_lt h₁).of_map
    (nodup_map_of_pairwise_lt h₂).of_map).2 h
  exact hperm.eq_of_pairwise (fun a b _ _ hab hba => absurd hab (not_lt.2 hba.le)) h₁ h₂

theorem eq_of_sorted_of_mem_iff {α : Type} [LinearOrder α] {l₁ l₂ : List α} (h₁ : l₁.Pairwise (· < ·))
    (h₂ : l₂.Pairwise (· < ·)) (h : ∀ x, x ∈ l₁ ↔ x ∈ l₂) : l₁ = l₂ :=
  @eq_of_sorted_key_of_mem_iff α α _ (fun x => x) l₁ l₂ h₁ h₂ h

/-! ## The last element of a key -/

section

variable {α κ : Type} [DecidableEq κ]

/-- The last element of the list with the key. -/
def lastWith (key : α → κ) (k : κ) : List α → Option α
  | [] => none
  | a :: l => (lastWith key k l).or (if key a = k then some a else none)

theorem lastWith_cons (key : α → κ) (k : κ) (a : α) (l : List α) :
    lastWith key k (a :: l) = (lastWith key k l).or (if key a = k then some a else none) := rfl

theorem lastWith_append (key : α → κ) (k : κ) : ∀ (l₁ l₂ : List α),
    lastWith key k (l₁ ++ l₂) = (lastWith key k l₂).or (lastWith key k l₁)
  | [], l₂ => (Option.or_none).symm
  | a :: l₁, l₂ => by rw [List.cons_append, lastWith_cons, lastWith_append key k l₁ l₂, lastWith_cons, Option.or_assoc]

theorem mem_of_lastWith {key : α → κ} {k : κ} {a : α} : ∀ {l : List α}, lastWith key k l = some a → a ∈ l ∧ key a = k
  | [], h => nomatch h
  | b :: l, h => by
    rw [lastWith_cons, Option.or_eq_some_iff] at h
    rcases h with h | ⟨-, h⟩
    · obtain ⟨hmem, hk⟩ := mem_of_lastWith h
      exact ⟨List.mem_cons_of_mem _ hmem, hk⟩
    · obtain ⟨hk, h⟩ := Option.ite_none_right_eq_some.1 h
      cases h
      exact ⟨List.mem_cons_self, hk⟩

theorem lastWith_isSome (key : α → κ) (k : κ) (l : List α) : (lastWith key k l).isSome = true ↔ ∃ a ∈ l, key a = k := by
  induction l with
  | nil => simp [lastWith]
  | cons b l ih =>
    rw [lastWith_cons, Option.isSome_or, Bool.or_eq_true, ih, List.exists_mem_cons_iff]
    by_cases hk : key b = k
    · simp [hk]
    · simp [hk]

/-- Where keys are pairwise different, the last element of a key is the only one. -/
theorem lastWith_of_nodup {key : α → κ} {l : List α} (hl : (l.map key).Nodup) (k : κ) (a : α) :
    lastWith key k l = some a ↔ a ∈ l ∧ key a = k := by
  refine ⟨mem_of_lastWith, fun h => ?_⟩
  obtain ⟨b, hb⟩ := Option.isSome_iff_exists.1 ((lastWith_isSome key k l).2 ⟨a, h⟩)
  obtain ⟨hmem, hk⟩ := mem_of_lastWith hb
  rw [hb, List.inj_on_of_nodup_map hl hmem h.1 (hk.trans h.2.symm)]

theorem filter_of_nodup {key : α → κ} (k : κ) : ∀ {l : List α}, (l.map key).Nodup →
    l.filter (fun a => key a = k) = (lastWith key k l).toList
  | [], _ => rfl
  | a :: l, hl => by
    rw [List.map_cons, List.nodup_cons] at hl
    rw [lastWith_cons, List.filter_cons, filter_of_nodup k hl.2]
    by_cases hk : key a = k
    · have hnone : lastWith key k l = none := by
        cases hb : lastWith key k l with
        | none => rfl
        | some b =>
          exact (hl.1 (hk.trans (mem_of_lastWith hb).2.symm ▸ List.mem_map_of_mem (mem_of_lastWith hb).1)).elim
      simp [hk, hnone]
    · simp [hk]

theorem filter_key_eq_singleton {key : α → κ} {l : List α} (hl : (l.map key).Nodup) {a : α} (ha : a ∈ l) :
    l.filter (fun b => key b = key a) = [a] := by
  rw [filter_of_nodup (key a) hl, (lastWith_of_nodup hl (key a) a).2 ⟨ha, rfl⟩, Option.toList_some]

end

/-! ## Sets -/

/-- A finite set: its members in increasing order, each once. -/
structure SortedSet (α : Type) [LinearOrder α] where
  toList : List α
  sorted : toList.Pairwise (· < ·)
deriving DecidableEq

namespace SortedSet

variable {α : Type} [LinearOrder α]

def empty : SortedSet α := ⟨[], List.Pairwise.nil⟩

instance : Membership α (SortedSet α) := ⟨fun s x => x ∈ s.toList⟩

instance (x : α) (s : SortedSet α) : Decidable (x ∈ s) := inferInstanceAs (Decidable (x ∈ s.toList))

/-- Insertion into an increasing list; a member already there is left. -/
def insertList (x : α) : List α → List α
  | [] => [x]
  | y :: l => if x < y then x :: y :: l else if x = y then y :: l else y :: insertList x l

theorem mem_insertList (x y : α) : ∀ (l : List α), y ∈ insertList x l ↔ y = x ∨ y ∈ l
  | [] => by simp [insertList]
  | z :: l => by
    unfold insertList
    split
    · simp
    · split
      · rename_i h; subst h; simp
      · simp only [List.mem_cons, mem_insertList x y l]
        exact or_left_comm

theorem sorted_insertList (x : α) : ∀ (l : List α), l.Pairwise (· < ·) → (insertList x l).Pairwise (· < ·)
  | [], _ => by simp [insertList]
  | y :: l, h => by
    unfold insertList
    split
    · rename_i hlt
      refine List.Pairwise.cons (fun z hz => ?_) h
      rcases List.mem_cons.1 hz with rfl | hz
      · exact hlt
      · exact hlt.trans (List.rel_of_pairwise_cons h hz)
    · split
      · exact h
      · rename_i hlt hne
        refine List.Pairwise.cons (fun z hz => ?_) (sorted_insertList x l h.of_cons)
        rcases (mem_insertList x z l).1 hz with rfl | hz
        · exact lt_of_le_of_ne (not_lt.1 hlt) (Ne.symm hne)
        · exact List.rel_of_pairwise_cons h hz

def insert (s : SortedSet α) (x : α) : SortedSet α := ⟨insertList x s.toList, sorted_insertList x _ s.sorted⟩

def insertAll (s : SortedSet α) (l : List α) : SortedSet α := l.foldl insert s

/-- The set of a list's elements. -/
def ofList (l : List α) : SortedSet α := insertAll empty l

def union (s t : SortedSet α) : SortedSet α := insertAll s t.toList

@[simp] theorem mem_toList (s : SortedSet α) (x : α) : x ∈ s.toList ↔ x ∈ s := Iff.rfl

@[simp] theorem not_mem_empty (x : α) : ¬ x ∈ (empty : SortedSet α) := by
  intro h; cases h

@[simp] theorem mem_insert (s : SortedSet α) (x y : α) : y ∈ s.insert x ↔ y = x ∨ y ∈ s :=
  mem_insertList x y s.toList

@[simp] theorem mem_insertAll (y : α) : ∀ (l : List α) (s : SortedSet α), y ∈ s.insertAll l ↔ y ∈ s ∨ y ∈ l
  | [], s => by simp [insertAll]
  | x :: l, s => by
    have ih := mem_insertAll y l (s.insert x)
    unfold insertAll at ih ⊢
    rw [List.foldl_cons, ih, mem_insert, List.mem_cons, or_assoc, or_left_comm]

@[simp] theorem mem_ofList (l : List α) (y : α) : y ∈ ofList l ↔ y ∈ l := by simp [ofList]

@[simp] theorem mem_union (s t : SortedSet α) (y : α) : y ∈ s.union t ↔ y ∈ s ∨ y ∈ t := by simp [union]

/-- **Sets with the same members are equal.** -/
theorem ext_mem {s t : SortedSet α} (h : ∀ x, x ∈ s ↔ x ∈ t) : s = t := by
  have : s.toList = t.toList := eq_of_sorted_of_mem_iff s.sorted t.sorted h
  cases s; cases t; simp_all

end SortedSet

/-! ## Maps -/

/-- A finite map: its entries in increasing key order. -/
structure SortedMap (κ α : Type) [LinearOrder κ] where
  entries : List (κ × α)
  sorted : entries.Pairwise (fun a b => a.1 < b.1)
deriving DecidableEq

namespace SortedMap

variable {κ α β : Type} [LinearOrder κ]

def empty : SortedMap κ α := ⟨[], List.Pairwise.nil⟩

def findList (k : κ) : List (κ × α) → Option α
  | [] => none
  | e :: l => if e.1 = k then some e.2 else findList k l

def find? (m : SortedMap κ α) (k : κ) : Option α := findList k m.entries

/-- Insertion into an association list in increasing key order; an entry of the same key is replaced. -/
def insertList (k : κ) (a : α) : List (κ × α) → List (κ × α)
  | [] => [(k, a)]
  | e :: l => if k < e.1 then (k, a) :: e :: l else if k = e.1 then (k, a) :: l else e :: insertList k a l

theorem mem_insertList (k : κ) (a : α) (e : κ × α) : ∀ (l : List (κ × α)), e ∈ insertList k a l → e = (k, a) ∨ e ∈ l
  | [] => by simp [insertList]
  | x :: l => by
    unfold insertList
    split
    · simp
    · split
      · intro h
        rcases List.mem_cons.1 h with h | h
        · exact Or.inl h
        · exact Or.inr (List.mem_cons_of_mem _ h)
      · intro h
        rcases List.mem_cons.1 h with rfl | h
        · exact Or.inr (List.mem_cons_self ..)
        · exact (mem_insertList k a e l h).imp id (List.mem_cons_of_mem _)

theorem sorted_insertList (k : κ) (a : α) : ∀ (l : List (κ × α)), l.Pairwise (fun a b => a.1 < b.1) →
    (insertList k a l).Pairwise (fun a b => a.1 < b.1)
  | [], _ => by simp [insertList]
  | e :: l, h => by
    unfold insertList
    split
    · rename_i hlt
      refine List.Pairwise.cons (fun z hz => ?_) h
      rcases List.mem_cons.1 hz with rfl | hz
      · exact hlt
      · exact lt_trans hlt (List.rel_of_pairwise_cons h hz)
    · split
      · rename_i heq
        exact List.Pairwise.cons (fun z hz => by rw [heq]; exact List.rel_of_pairwise_cons h hz) h.of_cons
      · rename_i hlt hne
        refine List.Pairwise.cons (fun z hz => ?_) (sorted_insertList k a l h.of_cons)
        rcases mem_insertList k a z l hz with rfl | hz
        · exact lt_of_le_of_ne (not_lt.1 hlt) (Ne.symm hne)
        · exact List.rel_of_pairwise_cons h hz

def insert (m : SortedMap κ α) (k : κ) (a : α) : SortedMap κ α :=
  ⟨insertList k a m.entries, sorted_insertList k a _ m.sorted⟩

/-- The values in increasing key order. -/
def values (m : SortedMap κ α) : List α := m.entries.map Prod.snd

@[simp] theorem find?_empty (k : κ) : (empty : SortedMap κ α).find? k = none := rfl

theorem findList_insertList (k j : κ) (a : α) : ∀ (l : List (κ × α)),
    findList j (insertList k a l) = if j = k then some a else findList j l
  | [] => by
    simp only [insertList, findList]
    by_cases h : k = j
    · simp [h]
    · simp [h, Ne.symm h]
  | e :: l => by
    unfold insertList
    by_cases hjk : j = k
    · subst hjk
      split
      · simp [findList]
      · split
        · simp [findList]
        · rename_i hne
          have := findList_insertList j j a l
          simp only [if_true] at this
          simp [findList, Ne.symm hne, this]
    · split
      · simp [findList, Ne.symm hjk]
      · split
        · rename_i heq
          simp [findList, Ne.symm hjk, ← heq]
        · simp only [findList, findList_insertList k j a l, if_neg hjk]

@[simp] theorem find?_insert (m : SortedMap κ α) (k j : κ) (a : α) :
    (m.insert k a).find? j = if j = k then some a else m.find? j :=
  findList_insertList k j a m.entries

theorem findList_eq_some (k : κ) (a : α) : ∀ (l : List (κ × α)), l.Pairwise (fun a b => a.1 < b.1) →
    (findList k l = some a ↔ (k, a) ∈ l)
  | [], _ => by simp [findList]
  | e :: l, h => by
    unfold findList
    by_cases hk : e.1 = k
    · rw [if_pos hk, List.mem_cons, Option.some.injEq]
      constructor
      · rintro rfl; exact Or.inl (by rw [← hk])
      · rintro (he | hm)
        · rw [← he]
        · exact absurd (List.rel_of_pairwise_cons h hm) (by simp [hk])
    · rw [if_neg hk, findList_eq_some k a l h.of_cons, List.mem_cons]
      constructor
      · exact Or.inr
      · rintro (he | hm)
        · exact absurd (by rw [← he]) hk
        · exact hm

theorem find?_eq_some (m : SortedMap κ α) (k : κ) (a : α) : m.find? k = some a ↔ (k, a) ∈ m.entries :=
  findList_eq_some k a m.entries m.sorted

theorem mem_values (m : SortedMap κ α) (a : α) : a ∈ m.values ↔ ∃ k, m.find? k = some a := by
  unfold values
  rw [List.mem_map]
  constructor
  · rintro ⟨e, he, rfl⟩; exact ⟨e.1, (find?_eq_some m e.1 e.2).2 he⟩
  · rintro ⟨k, hk⟩; exact ⟨(k, a), (find?_eq_some m k a).1 hk, rfl⟩

/-- **Maps with the same lookups are equal.** -/
theorem ext_find? {m₁ m₂ : SortedMap κ α} (h : ∀ k, m₁.find? k = m₂.find? k) : m₁ = m₂ := by
  have hmem : ∀ e, e ∈ m₁.entries ↔ e ∈ m₂.entries := fun e => by
    rw [← find?_eq_some m₁ e.1 e.2, ← find?_eq_some m₂ e.1 e.2, h]
  have hnd : ∀ m : SortedMap κ α, m.entries.Nodup := fun m => m.sorted.imp (fun hlt heq => by
    rw [heq] at hlt; exact lt_irrefl _ hlt)
  have hperm : m₁.entries.Perm m₂.entries := (List.perm_ext_iff_of_nodup (hnd m₁) (hnd m₂)).2 hmem
  have : m₁.entries = m₂.entries :=
    hperm.eq_of_pairwise (fun a b _ _ hab hba => absurd hab (not_lt.2 hba.le)) m₁.sorted m₂.sorted
  cases m₁; cases m₂; simp_all

/-- Values stored under a key of their own come out in increasing key order. -/
theorem sorted_values (m : SortedMap κ α) (key : α → κ) (h : ∀ k a, m.find? k = some a → key a = k) :
    m.values.Pairwise (fun a b => key a < key b) := by
  unfold values
  rw [List.pairwise_map]
  refine List.Pairwise.imp_of_mem (fun {e e'} he he' hlt => ?_) m.sorted
  rw [h e.1 e.2 ((find?_eq_some m _ _).2 he), h e'.1 e'.2 ((find?_eq_some m _ _).2 he')]
  exact hlt

def erase (m : SortedMap κ α) (k : κ) : SortedMap κ α :=
  ⟨m.entries.filter (fun e => e.1 ≠ k), m.sorted.filter _⟩

@[simp] theorem find?_erase (m : SortedMap κ α) (k j : κ) :
    (m.erase k).find? j = if j = k then none else m.find? j := by
  refine Option.ext fun a => ?_
  rw [find?_eq_some, erase, List.mem_filter, ← find?_eq_some]
  by_cases hjk : j = k
  · simp [hjk]
  · simp [hjk]

/-- The map with every value replaced by its image. -/
def mapVal (f : α → β) (m : SortedMap κ α) : SortedMap κ β :=
  ⟨m.entries.map (fun e => (e.1, f e.2)), List.pairwise_map.2 m.sorted⟩

theorem findList_map (f : α → β) (k : κ) : ∀ (l : List (κ × α)),
    findList k (l.map (fun e => (e.1, f e.2))) = (findList k l).map f
  | [] => rfl
  | e :: l => by
    simp only [List.map_cons, findList, findList_map f k l]
    split <;> rfl

@[simp] theorem find?_mapVal (f : α → β) (m : SortedMap κ α) (k : κ) : (m.mapVal f).find? k = (m.find? k).map f :=
  findList_map f k m.entries

@[simp] theorem values_mapVal (f : α → β) (m : SortedMap κ α) : (m.mapVal f).values = m.values.map f := by
  simp [values, mapVal, Function.comp_def]

theorem mapVal_insert (f : α → β) (m : SortedMap κ α) (k : κ) (a : α) :
    (m.insert k a).mapVal f = (m.mapVal f).insert k (f a) := by
  apply ext_find?
  intro j
  rw [find?_mapVal, find?_insert, find?_insert, find?_mapVal]
  split <;> rfl

/-- Stores a list's elements under their keys; the last one of a key stays. -/
def insertAll (key : α → κ) (m : SortedMap κ α) (l : List α) : SortedMap κ α :=
  l.foldl (fun m a => m.insert (key a) a) m

theorem insertAll_cons (key : α → κ) (m : SortedMap κ α) (a : α) (l : List α) :
    insertAll key m (a :: l) = insertAll key (m.insert (key a) a) l := rfl

/-- **What is found after storing a list is its last element of the key**, or what was there before. -/
theorem find?_insertAll (key : α → κ) (k : κ) : ∀ (l : List α) (m : SortedMap κ α),
    (insertAll key m l).find? k = (lastWith key k l).or (m.find? k)
  | [], _ => rfl
  | a :: l, m => by
    rw [insertAll_cons, find?_insertAll key k l, find?_insert, lastWith_cons, Option.or_assoc]
    by_cases hk : key a = k
    · rw [if_pos hk, if_pos hk.symm, Option.some_or]
    · rw [if_neg hk, if_neg (Ne.symm hk), Option.none_or]

/-- What is found in a stored list is of the list, under its key. -/
theorem mem_of_find?_insertAll {key : α → κ} {k : κ} {a : α} {l : List α}
    (h : (insertAll key empty l).find? k = some a) : a ∈ l ∧ key a = k := by
  rw [find?_insertAll, Option.or_eq_some_iff] at h
  rcases h with h | ⟨-, h⟩
  · exact mem_of_lastWith h
  · cases h

/-- Every key of a stored list is found. -/
theorem find?_insertAll_isSome (key : α → κ) (k : κ) (l : List α) (m : SortedMap κ α)
    (h : (∃ a ∈ l, key a = k) ∨ (m.find? k).isSome) : ((insertAll key m l).find? k).isSome := by
  rw [find?_insertAll, Option.isSome_or, Bool.or_eq_true, lastWith_isSome]
  exact h

/-- Elements of pairwise different keys are all found. -/
theorem find?_insertAll_of_nodup (key : α → κ) {l : List α} (hl : (l.map key).Nodup) {a : α} (ha : a ∈ l) :
    (insertAll key empty l).find? (key a) = some a := by
  rw [find?_insertAll, (lastWith_of_nodup hl (key a) a).2 ⟨ha, rfl⟩, Option.some_or]

/-- The order of insertion does not matter where no key comes twice. -/
theorem insertAll_perm (key : α → κ) (m : SortedMap κ α) {l l' : List α} (hperm : l.Perm l') (hl : (l.map key).Nodup) :
    insertAll key m l = insertAll key m l' := by
  refine ext_find? (fun k => ?_)
  have hlast : lastWith key k l = lastWith key k l' := by
    refine Option.ext (fun a => ?_)
    rw [lastWith_of_nodup hl, lastWith_of_nodup ((hperm.map key).nodup_iff.1 hl), hperm.mem_iff]
  rw [find?_insertAll, find?_insertAll, hlast]

end SortedMap

/-! ## Ranging over a map -/

/-- The order in which a loop goes through a map or a set, where the language leaves it open. -/
class RangeOrder where
  range : {α : Type} → List α → List α
  perm : ∀ {α : Type} (l : List α), (range l).Perm l

/-- The order of the keys, which is meant where no other one is in scope. -/
instance inOrder : RangeOrder := ⟨fun l => l, fun l => List.Perm.refl l⟩

abbrev reversed : RangeOrder := ⟨List.reverse, List.reverse_perm⟩

namespace SortedMap

variable {κ α β : Type} [LinearOrder κ] [RangeOrder]

/-- The entries in the order in which a loop over the map meets them: the order is one of the keys. -/
def ranged (m : SortedMap κ α) : List (κ × α) :=
  (RangeOrder.range (m.entries.map Prod.fst)).filterMap (fun k => (m.find? k).map (fun a => (k, a)))

theorem ranged_perm (m : SortedMap κ α) : m.ranged.Perm m.entries := by
  have hentries : (m.entries.map Prod.fst).filterMap (fun k => (m.find? k).map (fun a => (k, a))) = m.entries := by
    rw [List.filterMap_map]
    refine (List.filterMap_congr (fun e he => ?_)).trans List.filterMap_some
    exact congrArg (Option.map _) ((m.find?_eq_some e.1 e.2).2 he)
  have hperm := (RangeOrder.perm (m.entries.map Prod.fst)).filterMap (fun k => (m.find? k).map (fun a => (k, a)))
  rwa [hentries] at hperm

theorem mem_ranged (m : SortedMap κ α) (e : κ × α) : e ∈ m.ranged ↔ m.find? e.1 = some e.2 := by
  rw [m.ranged_perm.mem_iff, find?_eq_some]

theorem ranged_mapVal (f : α → β) (m : SortedMap κ α) :
    (m.mapVal f).ranged = m.ranged.map (fun e => (e.1, f e.2)) := by
  have hkeys : (m.mapVal f).entries.map Prod.fst = m.entries.map Prod.fst := List.map_map
  unfold ranged
  rw [hkeys, List.map_filterMap]
  refine List.filterMap_congr (fun k _ => ?_)
  rw [find?_mapVal, Option.map_map, Option.map_map]
  rfl

end SortedMap

end FrrK8s
