import FrrK8s.Accumulate
/-!
# Renaming — fallible programs under a renaming of what they carry

A program is *equivariant* when renaming its input and running it gives the renamed result of the run, with the same
error when it fails.  The loops of fallible programs are equivariant when their bodies are (`mapM_map`, `foldlM_map`,
`upsert_map`).  Programs that compare texts are so for injective renamings only, so a map that is injective on the
finitely many texts of an input is extended to one that is injective everywhere and moves every other text
(`Renaming.extend`).
-/
namespace FrrK8s

section Except

variable {ε α α' β β' γ σ σ' : Type}

theorem bind_map (x : Except ε α) (f : α → β) (k : β → Except ε γ) : (x.map f >>= k) = (x >>= fun a => k (f a)) := by
  cases x <;> rfl

theorem map_bind (x : Except ε α) (k : α → Except ε β) (f : β → γ) :
    (x >>= k).map f = (x >>= fun a => (k a).map f) := by
  cases x <;> rfl

theorem map_pure (f : α → β) (a : α) : (pure a : Except ε α).map f = pure (f a) := rfl

/-- A loop that collects the results of its body. -/
theorem mapM_map {f : α → Except ε β} {f' : α' → Except ε β'} {q : α → α'} {r : β → β'} :
    ∀ (l : List α), (∀ a ∈ l, f' (q a) = (f a).map r) → (l.map q).mapM f' = (l.mapM f).map (List.map r)
  | [], _ => rfl
  | a :: l, h => by
    rw [List.map_cons, List.mapM_cons, List.mapM_cons, h a (List.mem_cons_self ..),
      mapM_map l (fun b hb => h b (List.mem_cons_of_mem _ hb)), bind_map, map_bind]
    refine bind_congr (fun b => ?_)
    rw [bind_map, map_bind]
    exact bind_congr (fun _ => rfl)

/-- A loop that carries a state. -/
theorem foldlM_map {step : σ → α → Except ε σ} {step' : σ' → α' → Except ε σ'} {q : α → α'} {r : σ → σ'}
    (hstep : ∀ s a, step' (r s) (q a) = (step s a).map r) : ∀ (l : List α) (s : σ),
    (l.map q).foldlM step' (r s) = (l.foldlM step s).map r
  | [], _ => rfl
  | a :: l, s => by
    rw [List.map_cons, List.foldlM_cons, List.foldlM_cons, hstep, bind_map, map_bind]
    exact bind_congr (fun t => foldlM_map hstep l t)

end Except

section Upsert

variable {κ α α' ε : Type} [LinearOrder κ]

theorem upsert_map {key : α → κ} {key' : α' → κ} {merge : α → α → Except ε α} {merge' : α' → α' → Except ε α'}
    {f : α → α'} (hkey : ∀ a, key' (f a) = key a) (hmerge : ∀ a b, merge' (f a) (f b) = (merge a b).map f)
    (m : SortedMap κ α) (a : α) :
    upsert key' merge' (m.mapVal f) (f a) = (upsert key merge m a).map (SortedMap.mapVal f) := by
  unfold upsert
  rw [hkey, SortedMap.find?_mapVal]
  cases m.find? (key a) with
  | none => exact congrArg Except.ok (SortedMap.mapVal_insert f m (key a) a).symm
  | some b =>
    show (merge' (f b) (f a) >>= _) = Except.map _ (merge b a >>= _)
    rw [hmerge, bind_map, map_bind]
    exact bind_congr (fun c => congrArg Except.ok (SortedMap.mapVal_insert f m (key a) c).symm)

end Upsert

/-! ## Renamings -/

/-- A renaming of texts that can be undone and keeps the empty text. -/
structure Renaming where
  toFun : String → String
  injective : Function.Injective toFun
  empty : toFun "" = ""

instance : CoeFun Renaming (fun _ => String → String) := ⟨Renaming.toFun⟩

namespace Renaming

@[simp] theorem apply_eq_empty (g : Renaming) (p : String) : g p = "" ↔ p = "" := by
  constructor
  · intro h
    exact g.injective (h.trans g.empty.symm)
  · rintro rfl
    exact g.empty

@[simp] theorem apply_eq_apply (g : Renaming) (p q : String) : g p = g q ↔ p = q := g.injective.eq_iff

/-- A text that is longer than the image of any value. -/
def pad (f : String → String) (values : List String) : String := "x" ++ String.join (values.map f)

/-- `f` on the values, and every other text moved out of their images. -/
def extended (f : String → String) (values : List String) (p : String) : String :=
  if p = "" then "" else if p ∈ values then f p else pad f values ++ p

theorem length_lt_pad (f : String → String) {p : String} : ∀ {values : List String}, p ∈ values →
    (f p).length < (pad f values).length
  | [], h => (List.not_mem_nil h).elim
  | v :: values, h => by
    have hone : "x".length = 1 := rfl
    rw [pad, List.map_cons, String.join_cons, String.length_append, String.length_append]
    rcases List.mem_cons.1 h with rfl | hp
    · omega
    · have ih := length_lt_pad f hp
      rw [pad, String.length_append] at ih
      omega

/-- A map that is injective on the values extends to a renaming, which moves every other text but the empty one. -/
theorem extend (f : String → String) (values : List String) (hinj : ∀ p ∈ values, ∀ q ∈ values, f p = f q → p = q)
    (hempty : ∀ p ∈ values, p ≠ "" ∧ f p ≠ "") :
    ∃ g : Renaming, (∀ p ∈ values, g p = f p) ∧ ∀ p, p ∉ values → p ≠ "" → g p ≠ p := by
  have hvalue : ∀ p ∈ values, extended f values p = f p := by
    intro p hp
    rw [extended, if_neg (hempty p hp).1, if_pos hp]
  have hother : ∀ p, p ∉ values → p ≠ "" → extended f values p = pad f values ++ p := by
    intro p hp hp0
    rw [extended, if_neg hp0, if_neg hp]
  have hlonger : ∀ p, p ∉ values → p ≠ "" → ∀ q ∈ values, extended f values p ≠ f q := by
    intro p hp hp0 q hq h
    have hlen := congrArg String.length h
    rw [hother p hp hp0, String.length_append] at hlen
    have hlt := length_lt_pad f hq
    omega
  have hnonempty : ∀ p, extended f values p = "" → p = "" := by
    intro p h
    by_contra hp0
    by_cases hp : p ∈ values
    · exact (hempty p hp).2 ((hvalue p hp).symm.trans h)
    · rw [hother p hp hp0, String.append_eq_empty_iff] at h
      exact hp0 h.2
  have hinjective : Function.Injective (extended f values) := by
    intro p q h
    by_cases hp0 : p = ""
    · subst hp0
      exact (hnonempty q (h.symm.trans rfl)).symm
    by_cases hq0 : q = ""
    · subst hq0
      exact hnonempty p (h.trans rfl)
    by_cases hp : p ∈ values <;> by_cases hq : q ∈ values
    · rw [hvalue p hp, hvalue q hq] at h
      exact hinj p hp q hq h
    · exact absurd (h.symm.trans (hvalue p hp)) (hlonger q hq hq0 p hp)
    · exact absurd (h.trans (hvalue q hq)) (hlonger p hp hp0 q hq)
    · rw [hother p hp hp0, hother q hq hq0] at h
      exact String.append_right_inj _ |>.1 h
  refine ⟨⟨extended f values, hinjective, rfl⟩, hvalue, fun p hp hp0 h => ?_⟩
  -- the other texts get longer
  have hlen : (extended f values p).length = p.length := congrArg String.length h
  have hone : "x".length = 1 := rfl
  rw [hother p hp hp0, String.length_append, pad, String.length_append, hone] at hlen
  omega

end Renaming

end FrrK8s
