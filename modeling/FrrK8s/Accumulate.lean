import Mathlib.Data.List.Pairwise
import FrrK8s.Sorted
/-!
# Accumulate — folds that collect facts and refuse on a clash

A fallible fold whose state *knows* facts and whose items *tell* facts.  One step adds what the item tells to what the
state knows, and refuses exactly when something known clashes with something told (`Accumulates`).  From the step follow
the run lemmas: a fold succeeds exactly when no two tellings clash, whatever the order (`Accumulates.foldlM_isOk`), and
what it knows in the end is the union of what was told (`Accumulates.foldlM_knows`).  A keyed map whose values are
merged on a repeated key accumulates its values' facts under their keys (`upsert_accumulates`).
-/
namespace FrrK8s

theorem exists_of_forall₂ {α β : Type} {R : α → β → Prop} {l : List α} {l' : List β} (h : List.Forall₂ R l l') :
    (∀ a ∈ l, ∃ b ∈ l', R a b) ∧ ∀ b ∈ l', ∃ a ∈ l, R a b := by
  induction h with
  | nil => simp
  | cons hab _ ih =>
    refine ⟨List.forall_mem_cons.2 ⟨⟨_, List.mem_cons_self .., hab⟩, fun a ha => ?_⟩,
      List.forall_mem_cons.2 ⟨⟨_, List.mem_cons_self .., hab⟩, fun b hb => ?_⟩⟩
    · obtain ⟨b, hb, h⟩ := ih.1 a ha
      exact ⟨b, List.mem_cons_of_mem _ hb, h⟩
    · obtain ⟨a, ha, h⟩ := ih.2 b hb
      exact ⟨a, List.mem_cons_of_mem _ ha, h⟩

theorem flatMap_eq_of_forall₂ {α β γ : Type} {R : α → β → Prop} {f : α → List γ} {g : β → List γ}
    (hfg : ∀ a b, R a b → f a = g b) {l : List α} {l' : List β} (h : List.Forall₂ R l l') :
    l.flatMap f = l'.flatMap g := by
  induction h with
  | nil => rfl
  | cons hab _ ih => rw [List.flatMap_cons, List.flatMap_cons, hfg _ _ hab, ih]

/-! ## Successful runs of `Except` -/

section Except

variable {ε α β σ : Type}

@[simp] theorem bind_eq_ok (x : Except ε α) (f : α → Except ε β) (b : β) :
    (x >>= f) = .ok b ↔ ∃ a, x = .ok a ∧ f a = .ok b := by
  cases x <;> simp [bind, Except.bind]

@[simp] theorem pure_eq_ok (a b : α) : (pure a : Except ε α) = .ok b ↔ a = b := by
  simp [pure, Except.pure]

theorem map_eq_ok (f : α → β) (x : Except ε α) (b : β) : x.map f = .ok b ↔ ∃ a, x = .ok a ∧ f a = b := by
  cases x <;> simp [Except.map]

@[simp] theorem isOk_ok (a : α) : (Except.ok a : Except ε α).isOk = true := rfl

@[simp] theorem isOk_error (e : ε) : (Except.error e : Except ε α).isOk = false := rfl

@[simp] theorem isOk_pure (a : α) : (pure a : Except ε α).isOk = true := rfl

theorem isOk_iff (x : Except ε α) : x.isOk = true ↔ ∃ a, x = .ok a := by
  cases x <;> simp

theorem eq_ok_of_isOk {x : Except ε α} (h : x.isOk = true) (a : α) : x = .ok (x.toOption.getD a) := by
  obtain ⟨b, rfl⟩ := (isOk_iff x).1 h
  rfl

theorem toOption_map_eq_some (x : Except ε α) (f : α → β) (b : β) :
    x.toOption.map f = some b ↔ ∃ a, x = .ok a ∧ f a = b := by
  cases x <;> simp [Except.toOption]

theorem toOption_eq_some (x : Except ε α) (a : α) : x.toOption = some a ↔ x = .ok a := by
  cases x <;> simp [Except.toOption]

theorem toOption_bind (x : Except ε α) (f : α → Except ε β) :
    (x >>= f).toOption = x.toOption.bind (fun a => (f a).toOption) := by
  cases x <;> rfl

theorem foldlM_toOption {step step' : σ → α → Except ε σ}
    (hstep : ∀ s a, (step s a).toOption = (step' s a).toOption) : ∀ (l : List α) (s : σ),
    (l.foldlM step s).toOption = (l.foldlM step' s).toOption
  | [], _ => rfl
  | a :: l, s => by simp only [List.foldlM_cons, toOption_bind, hstep, foldlM_toOption hstep l]

@[simp] theorem isOk_bind (x : Except ε α) (f : α → Except ε β) :
    (x >>= f).isOk = true ↔ ∃ a, x = .ok a ∧ (f a).isOk = true := by
  cases x <;> simp [bind, Except.bind]

/-- A `for` loop without a state succeeds exactly when its body does on every element. -/
theorem forM_eq_ok (f : α → Except ε Unit) {u : Unit} : ∀ (l : List α), l.forM f = .ok u ↔ ∀ a ∈ l, f a = .ok ()
  | [] => by simp [List.forM, pure, Except.pure]
  | a :: l => by
    show (f a >>= fun _ => l.forM f) = .ok u ↔ _
    rw [bind_eq_ok]
    simp only [forM_eq_ok f l, List.mem_cons, forall_eq_or_imp]
    exact ⟨fun ⟨_, h⟩ => h, fun h => ⟨(), h⟩⟩

/-- The results of a successful `mapM` are those of its elements, one by one. -/
theorem mapM_eq_ok (f : α → Except ε β) : ∀ (l : List α) (r : List β),
    l.mapM f = .ok r ↔ List.Forall₂ (fun a b => f a = .ok b) l r
  | [], r => by simp [pure, Except.pure, eq_comm]
  | a :: l, r => by
    simp only [List.mapM_cons, bind_eq_ok, pure_eq_ok, mapM_eq_ok f l]
    constructor
    · rintro ⟨b, hb, r', hr, rfl⟩; exact .cons hb hr
    · intro h
      cases h with
      | cons hb hr => exact ⟨_, hb, _, hr, rfl⟩

theorem mapM_isOk (f : α → Except ε β) : ∀ (l : List α), (l.mapM f).isOk = true ↔ ∀ a ∈ l, (f a).isOk = true
  | [] => by simp
  | a :: l => by
    have ih := mapM_isOk f l
    rw [isOk_iff] at ih
    simp only [List.mapM_cons, isOk_bind, isOk_pure, and_true, List.mem_cons, forall_eq_or_imp, ih, isOk_iff (f a),
      exists_and_right]

/-- What a successful `mapM` collects, element by element. -/
theorem mem_of_mapM_eq_ok {f : α → Except ε β} {l : List α} {r : List β} (h : l.mapM f = .ok r) (b : β) :
    b ∈ r ↔ ∃ a ∈ l, f a = .ok b := by
  have h2 := (mapM_eq_ok f l r).1 h
  clear h
  induction h2 with
  | nil => simp
  | cons hb _ ih =>
    simp only [List.mem_cons, ih, exists_eq_or_imp, hb, Except.ok.injEq]
    exact ⟨Or.imp Eq.symm id, Or.imp Eq.symm id⟩

theorem ok_of_mapM_eq_ok {f : α → Except ε β} {l : List α} {r : List β} (h : l.mapM f = .ok r) {a : α} (ha : a ∈ l) :
    ∃ b, f a = .ok b := (isOk_iff _).1 ((mapM_isOk f l).1 (by rw [h]; rfl) a ha)

/-- A fold that first computes an item, then steps with it, computes all items and then folds them. -/
theorem foldlM_mapM (f : α → Except ε β) (step : σ → β → Except ε σ) : ∀ (l : List α) (s s' : σ),
    l.foldlM (fun s a => do step s (← f a)) s = .ok s' ↔ ∃ bs, l.mapM f = .ok bs ∧ bs.foldlM step s = .ok s'
  | [], s, s' => by simp
  | a :: l, s, s' => by
    simp only [List.foldlM_cons, List.mapM_cons, bind_eq_ok, pure_eq_ok, foldlM_mapM f step l]
    constructor
    · rintro ⟨t, ⟨b, hb, ht⟩, bs, hbs, hs⟩
      exact ⟨b :: bs, ⟨b, hb, bs, hbs, rfl⟩, by simpa using ⟨t, ht, hs⟩⟩
    · rintro ⟨_, ⟨b, hb, bs, hbs, rfl⟩, hs⟩
      obtain ⟨t, ht, hs⟩ := (bind_eq_ok _ _ _).1 (by simpa using hs)
      exact ⟨t, ⟨b, hb, ht⟩, bs, hbs, hs⟩

/-- What every step needs of its item holds of all items of a run. -/
theorem foldlM_forall {step : σ → α → Except ε σ} {Q : α → Prop} (hstep : ∀ s a s', step s a = .ok s' → Q a) :
    ∀ (l : List α) (s s' : σ), l.foldlM step s = .ok s' → ∀ a ∈ l, Q a
  | [], _, _, _ => fun _ h => (List.not_mem_nil h).elim
  | a :: l, s, s', h => by
    rw [List.foldlM_cons, bind_eq_ok] at h
    obtain ⟨t, ht, h⟩ := h
    exact List.forall_mem_cons.2 ⟨hstep s a t ht, foldlM_forall hstep l t s' h⟩

/-- What a run has in the end is what it had at first and what every item brings. -/
theorem foldlM_collect {F : Type} {step : σ → α → Except ε σ} (kept : σ → F → Prop) {brought : α → F → Prop}
    (hstep : ∀ s a s', step s a = .ok s' → ∀ x, kept s' x ↔ kept s x ∨ brought a x) : ∀ (l : List α) (s s' : σ),
    l.foldlM step s = .ok s' → ∀ x, kept s' x ↔ kept s x ∨ ∃ a ∈ l, brought a x
  | [], s, s', h, x => by
    obtain rfl : s = s' := by simpa using h
    simp
  | a :: l, s, s', h, x => by
    rw [List.foldlM_cons, bind_eq_ok] at h
    obtain ⟨t, ht, h⟩ := h
    rw [foldlM_collect kept hstep l t s' h x, hstep s a t ht x, or_assoc]
    simp only [List.mem_cons, exists_eq_or_imp]

end Except

/-! ## Facts known and told -/

section Accumulates

variable {σ α F ε : Type}

/-- Nothing of `p` clashes with anything of `q`. -/
def Agree (clash : F → F → Prop) (p q : F → Prop) : Prop := ∀ x y, p x → q y → ¬ clash x y

theorem Agree.symm {clash : F → F → Prop} (hsymm : ∀ x y, clash x y → clash y x) {p q : F → Prop}
    (h : Agree clash p q) : Agree clash q p := fun x y hx hy hc => h y x hy hx (hsymm x y hc)

theorem agree_or_left (clash : F → F → Prop) (p p' q : F → Prop) :
    Agree clash (fun x => p x ∨ p' x) q ↔ Agree clash p q ∧ Agree clash p' q :=
  ⟨fun h => ⟨fun x y hx => h x y (Or.inl hx), fun x y hx => h x y (Or.inr hx)⟩,
    fun h x y hx => hx.elim (fun hx => h.1 x y hx) (fun hx => h.2 x y hx)⟩

theorem agree_congr {clash : F → F → Prop} {p p' q q' : F → Prop} (hp : ∀ x, p x ↔ p' x) (hq : ∀ x, q x ↔ q' x) :
    Agree clash p q ↔ Agree clash p' q' := by
  rw [show p = p' from funext fun x => propext (hp x), show q = q' from funext fun x => propext (hq x)]

theorem agree_exists_right {clash : F → F → Prop} {p : F → Prop} {tells : α → F → Prop} {l : List α} :
    Agree clash p (fun x => ∃ a ∈ l, tells a x) ↔ ∀ a ∈ l, Agree clash p (tells a) :=
  ⟨fun h a ha x y hx hy => h x y hx ⟨a, ha, hy⟩, fun h x y hx ⟨a, ha, hy⟩ => h a ha x y hx hy⟩

/-- When nothing clashes within one item, a list agrees two by two exactly when all it tells agrees. -/
theorem pairwise_agree_iff {clash : F → F → Prop} (hsymm : ∀ x y, clash x y → clash y x) {tells : α → F → Prop}
    {l : List α} (hself : ∀ a ∈ l, Agree clash (tells a) (tells a)) :
    l.Pairwise (fun a b => Agree clash (tells a) (tells b)) ↔
      Agree clash (fun x => ∃ a ∈ l, tells a x) (fun x => ∃ a ∈ l, tells a x) := by
  have : Std.Symm (fun a b => Agree clash (tells a) (tells b)) := ⟨fun _ _ h => h.symm hsymm⟩
  constructor
  · rintro h x y ⟨a, ha, hx⟩ ⟨b, hb, hy⟩
    exact h.forall_of_forall hself ha hb x y hx hy
  · intro h
    refine List.pairwise_iff_forall_sublist.2 (fun {a b} hab x y hx hy => ?_)
    exact h x y ⟨a, hab.subset (List.mem_cons_self ..), hx⟩
      ⟨b, hab.subset (List.mem_cons_of_mem _ (List.mem_cons_self ..)), hy⟩

/-- **A step that adds what an item tells to what a state knows, and refuses exactly on a clash.** -/
structure Accumulates (inv : σ → Prop) (wf : α → Prop) (knows : σ → F → Prop) (tells : α → F → Prop)
    (clash : F → F → Prop) (step : σ → α → Except ε σ) : Prop where
  accepts : ∀ s a, inv s → wf a → ((step s a).isOk = true ↔ Agree clash (knows s) (tells a))
  keeps : ∀ s a s', inv s → wf a → step s a = .ok s' → inv s' ∧ ∀ x, knows s' x ↔ knows s x ∨ tells a x

variable {inv : σ → Prop} {wf : α → Prop} {knows : σ → F → Prop} {tells : α → F → Prop} {clash : F → F → Prop}
  {step : σ → α → Except ε σ}

/-- **What a run knows in the end is what it knew before and all that was told.** -/
theorem Accumulates.foldlM_knows (h : Accumulates inv wf knows tells clash step) : ∀ (l : List α) (s s' : σ),
    inv s → (∀ a ∈ l, wf a) → l.foldlM step s = .ok s' →
      inv s' ∧ ∀ x, knows s' x ↔ knows s x ∨ ∃ a ∈ l, tells a x
  | [], s, s', hs, _, hrun => by
    obtain rfl : s = s' := by simpa using hrun
    exact ⟨hs, fun x => by simp⟩
  | a :: l, s, s', hs, hwf, hrun => by
    rw [List.foldlM_cons, bind_eq_ok] at hrun
    obtain ⟨t, ht, hrun⟩ := hrun
    obtain ⟨hit, hst⟩ := h.keeps s a t hs (hwf a (List.mem_cons_self ..)) ht
    obtain ⟨hi, hsay⟩ := h.foldlM_knows l t s' hit (fun b hb => hwf b (List.mem_cons_of_mem _ hb)) hrun
    refine ⟨hi, fun x => ?_⟩
    rw [hsay, hst, or_assoc]
    simp only [List.mem_cons, exists_eq_or_imp]

/-- **A run succeeds exactly when what it knows at first and all that it is told agree, two by two.** -/
theorem Accumulates.foldlM_isOk (h : Accumulates inv wf knows tells clash step) : ∀ (l : List α) (s : σ),
    inv s → (∀ a ∈ l, wf a) → ((l.foldlM step s).isOk = true ↔
      (∀ a ∈ l, Agree clash (knows s) (tells a)) ∧ l.Pairwise (fun a b => Agree clash (tells a) (tells b)))
  | [], s, _, _ => by simp
  | a :: l, s, hs, hwf => by
    have hwa := hwf a (List.mem_cons_self ..)
    have hwl : ∀ b ∈ l, wf b := fun b hb => hwf b (List.mem_cons_of_mem _ hb)
    -- After the first step the state knows what it knew and what `a` told, so the rest has to agree with both.
    have hrest : ∀ t, step s a = .ok t → ((l.foldlM step t).isOk = true ↔
        (∀ b ∈ l, Agree clash (knows s) (tells b)) ∧ (∀ b ∈ l, Agree clash (tells a) (tells b)) ∧
          l.Pairwise (fun a b => Agree clash (tells a) (tells b))) := by
      intro t ht
      obtain ⟨hit, hst⟩ := h.keeps s a t hs hwa ht
      rw [h.foldlM_isOk l t hit hwl, ← and_assoc, ← forall₂_and]
      refine and_congr (forall₂_congr fun b _ => ?_) Iff.rfl
      rw [agree_congr hst (fun _ => Iff.rfl), agree_or_left]
    rw [List.foldlM_cons, isOk_bind, List.pairwise_cons, List.forall_mem_cons]
    constructor
    · rintro ⟨t, ht, hok⟩
      obtain ⟨h1, h2, h3⟩ := (hrest t ht).1 hok
      exact ⟨⟨(h.accepts s a hs hwa).1 (by rw [ht]; rfl), h1⟩, h2, h3⟩
    · rintro ⟨⟨h0, h1⟩, h2, h3⟩
      obtain ⟨t, ht⟩ := (isOk_iff _).1 ((h.accepts s a hs hwa).2 h0)
      exact ⟨t, ht, (hrest t ht).2 ⟨h1, h2, h3⟩⟩

/-- From a state that knows nothing, over items each at peace with itself, a run succeeds when all it is told agrees. -/
theorem Accumulates.foldlM_isOk_iff (h : Accumulates inv wf knows tells clash step)
    (hsymm : ∀ x y, clash x y → clash y x) {l : List α} {s : σ} (hs : inv s) (hnone : ∀ x, ¬ knows s x)
    (hwf : ∀ a ∈ l, wf a) (hself : ∀ a ∈ l, Agree clash (tells a) (tells a)) :
    (l.foldlM step s).isOk = true ↔
      Agree clash (fun x => ∃ a ∈ l, tells a x) (fun x => ∃ a ∈ l, tells a x) := by
  rw [h.foldlM_isOk l s hs hwf, pairwise_agree_iff hsymm hself]
  exact and_iff_right (fun _ _ x _ hx => (hnone x hx).elim)

/-- What a run keeps comes from the state it started in or from an item. -/
theorem Accumulates.foldlM_origin {G : Type} (h : Accumulates inv wf knows tells clash step) {kept : σ → G → Prop}
    {brought : α → G → Prop}
    (hstep : ∀ s a s', inv s → wf a → step s a = .ok s' → ∀ x, kept s' x → kept s x ∨ brought a x) :
    ∀ (l : List α) (s s' : σ), inv s → (∀ a ∈ l, wf a) → l.foldlM step s = .ok s' →
      ∀ x, kept s' x → kept s x ∨ ∃ a ∈ l, brought a x
  | [], s, s', _, _, hrun, x, hx => by
    obtain rfl : s = s' := by simpa using hrun
    exact Or.inl hx
  | a :: l, s, s', hs, hwf, hrun, x, hx => by
    have hwa := hwf a (List.mem_cons_self ..)
    rw [List.foldlM_cons, bind_eq_ok] at hrun
    obtain ⟨t, ht, hrun⟩ := hrun
    rcases h.foldlM_origin hstep l t s' (h.keeps s a t hs hwa ht).1 (fun b hb => hwf b (List.mem_cons_of_mem _ hb)) hrun
      x hx with hx | ⟨b, hb, hx⟩
    · exact (hstep s a t hs hwa ht x hx).imp id (fun hx => ⟨a, List.mem_cons_self .., hx⟩)
    · exact Or.inr ⟨b, List.mem_cons_of_mem _ hb, hx⟩

end Accumulates

/-! ## Maps whose values are merged on a repeated key -/

section Upsert

variable {κ α F ε : Type} [LinearOrder κ]

/-- Stores `a` under its key, merged into what is stored there. -/
def upsert (key : α → κ) (merge : α → α → Except ε α) (m : SortedMap κ α) (a : α) : Except ε (SortedMap κ α) :=
  match m.find? (key a) with
  | none => .ok (m.insert (key a) a)
  | some b => do
    let c ← merge b a
    return m.insert (key a) c

/-- A fact under its key, known by the value stored there. -/
def mapKnows (tells : α → F → Prop) (m : SortedMap κ α) (x : κ × F) : Prop := ∃ a, m.find? x.1 = some a ∧ tells a x.2

/-- A fact under its key, told by a value of that key. -/
def keyTells (key : α → κ) (tells : α → F → Prop) (a : α) (x : κ × F) : Prop := key a = x.1 ∧ tells a x.2

/-- Facts clash under one key only. -/
def keyClash (clash : F → F → Prop) (x y : κ × F) : Prop := x.1 = y.1 ∧ clash x.2 y.2

omit [LinearOrder κ] in
theorem keyClash_symm {clash : F → F → Prop} (h : ∀ x y, clash x y → clash y x) (x y : κ × F)
    (hc : keyClash clash x y) : keyClash clash y x := ⟨hc.1.symm, h _ _ hc.2⟩

/-- Every stored value is well-formed and stored under its own key. -/
def mapInv (key : α → κ) (inv : α → Prop) (m : SortedMap κ α) : Prop := ∀ k a, m.find? k = some a → key a = k ∧ inv a

theorem mapInv_empty (key : α → κ) (inv : α → Prop) : mapInv key inv SortedMap.empty := by
  intro k a h; cases h

theorem not_mapKnows_empty (tells : α → F → Prop) (x : κ × F) : ¬ mapKnows tells (SortedMap.empty : SortedMap κ α) x :=
  fun ⟨_, h, _⟩ => nomatch h

theorem mapInv_insert {key : α → κ} {inv : α → Prop} {m : SortedMap κ α} (hm : mapInv key inv m) {a : α} (ha : inv a) :
    mapInv key inv (m.insert (key a) a) := by
  intro k b hb
  rw [SortedMap.find?_insert] at hb
  split at hb
  · rename_i hk
    cases hb; exact ⟨hk.symm, ha⟩
  · exact hm k b hb

/-- What a map with values under their own keys knows, read off its list of values. -/
theorem mapKnows_iff_values {key : α → κ} {inv : α → Prop} {m : SortedMap κ α} (hm : mapInv key inv m)
    (tells : α → F → Prop) (k : κ) (x : F) : mapKnows tells m (k, x) ↔ ∃ a ∈ m.values, key a = k ∧ tells a x := by
  constructor
  · rintro ⟨a, ha, hx⟩
    exact ⟨a, (SortedMap.mem_values m a).2 ⟨k, ha⟩, (hm k a ha).1, hx⟩
  · rintro ⟨a, ha, rfl, hx⟩
    obtain ⟨k, hk⟩ := (SortedMap.mem_values m a).1 ha
    exact ⟨a, by rw [(hm k a hk).1]; exact hk, hx⟩

theorem mapInv_values {key : α → κ} {inv : α → Prop} {m : SortedMap κ α} (hm : mapInv key inv m) :
    m.values.Pairwise (fun a b => key a < key b) ∧ ∀ a ∈ m.values, inv a := by
  refine ⟨SortedMap.sorted_values m key (fun k a h => (hm k a h).1), fun a ha => ?_⟩
  obtain ⟨k, hk⟩ := (SortedMap.mem_values m a).1 ha
  exact (hm k a hk).2

theorem lastWith_values {key : α → κ} {inv : α → Prop} {m : SortedMap κ α} (hm : mapInv key inv m) (k : κ) :
    lastWith key k m.values = m.find? k := by
  have hnodup : (m.values.map key).Nodup := nodup_map_of_pairwise_lt (mapInv_values hm).1
  apply Option.ext
  intro a
  rw [lastWith_of_nodup hnodup, SortedMap.mem_values]
  constructor
  · rintro ⟨⟨j, hj⟩, rfl⟩
    rw [(hm j a hj).1]
    exact hj
  · intro ha
    exact ⟨⟨k, ha⟩, (hm k a ha).1⟩

theorem mapInv_insertAll {key : α → κ} {inv : α → Prop} {l : List α} (hl : ∀ a ∈ l, inv a) :
    mapInv key inv (SortedMap.insertAll key .empty l) := by
  intro k a h
  obtain ⟨ha, hk⟩ := SortedMap.mem_of_find?_insertAll h
  exact ⟨hk, hl a ha⟩

theorem mapKnows_insertAll {key : α → κ} {l : List α} (hl : (l.map key).Nodup) (tells : α → F → Prop) (x : κ × F) :
    mapKnows tells (SortedMap.insertAll key .empty l) x ↔ ∃ a ∈ l, keyTells key tells a x := by
  constructor
  · rintro ⟨a, ha, hx⟩
    obtain ⟨ha, hk⟩ := SortedMap.mem_of_find?_insertAll ha
    exact ⟨a, ha, hk, hx⟩
  · rintro ⟨a, ha, hk, hx⟩
    exact ⟨a, by rw [← hk]; exact SortedMap.find?_insertAll_of_nodup key hl ha, hx⟩

omit [LinearOrder κ] in
/-- Values of different keys agree. -/
theorem pairwise_agree_of_nodup {key : α → κ} {l : List α} (hl : (l.map key).Nodup) (tells : α → F → Prop)
    (clash : F → F → Prop) :
    l.Pairwise (fun a b => Agree (keyClash clash) (keyTells key tells a) (keyTells key tells b)) :=
  (List.pairwise_map.1 hl).imp (fun hne _ _ hx hy hc => hne (hx.1.trans (hc.1.trans hy.1.symm)))

/-- What one insertion leaves: the new value under its key, everything else as it was. -/
theorem upsert_toOption {key : α → κ} {merge merge' : α → α → Except ε α}
    (hmerge : ∀ a b, (merge a b).toOption = (merge' a b).toOption) (m : SortedMap κ α) (a : α) :
    (upsert key merge m a).toOption = (upsert key merge' m a).toOption := by
  unfold upsert
  cases m.find? (key a) with
  | none => rfl
  | some b => simp only [toOption_bind, hmerge]

theorem upsert_eq_ok (key : α → κ) (merge : α → α → Except ε α) (m m' : SortedMap κ α) (a : α) :
    upsert key merge m a = .ok m' ↔ ∃ c, m' = m.insert (key a) c ∧
      ((m.find? (key a) = none ∧ c = a) ∨ ∃ b, m.find? (key a) = some b ∧ merge b a = .ok c) := by
  unfold upsert
  cases hf : m.find? (key a) with
  | none =>
    constructor
    · intro h; cases h; exact ⟨a, rfl, Or.inl ⟨rfl, rfl⟩⟩
    · rintro ⟨c, rfl, ⟨_, rfl⟩ | ⟨b, hb, _⟩⟩
      · rfl
      · cases hb
  | some b =>
    simp only [bind_eq_ok, pure_eq_ok, reduceCtorEq, false_and, Option.some.injEq, false_or]
    constructor
    · rintro ⟨c, hc, rfl⟩; exact ⟨c, rfl, b, rfl, hc⟩
    · rintro ⟨c, rfl, _, rfl, hc⟩; exact ⟨c, hc, rfl⟩

/-- **Storing values under their keys, merged on a repeated key, accumulates their facts under the keys.** -/
theorem upsert_accumulates {key : α → κ} {merge : α → α → Except ε α} {inv wf : α → Prop} {tells : α → F → Prop}
    {clash : F → F → Prop} (hinit : ∀ a, wf a → inv a)
    (haccepts : ∀ a b, inv a → wf b → key a = key b → ((merge a b).isOk = true ↔ Agree clash (tells a) (tells b)))
    (hkeeps : ∀ a b c, inv a → wf b → key a = key b → merge a b = .ok c →
      inv c ∧ key c = key a ∧ ∀ x, tells c x ↔ tells a x ∨ tells b x) :
    Accumulates (mapInv key inv) wf (mapKnows tells) (keyTells key tells) (keyClash clash) (upsert key merge) where
  accepts := by
    intro m a hm ha
    -- only what is stored under `a`'s key can clash with what `a` tells
    cases hf : m.find? (key a) with
    | none =>
      simp only [upsert, hf, isOk_ok, true_iff]
      rintro ⟨k, x⟩ ⟨k', y⟩ ⟨b, hb, _⟩ ⟨hk, _⟩ ⟨rfl, _⟩
      simp only at hb hk
      rw [← hk, hf] at hb; cases hb
    | some b =>
      obtain ⟨hkb, hib⟩ := hm _ _ hf
      simp only [upsert, hf, isOk_bind, isOk_pure, and_true, ← isOk_iff]
      rw [haccepts b a hib ha hkb]
      constructor
      · rintro h ⟨k, x⟩ ⟨k', y⟩ ⟨b', hb', hx⟩ ⟨hk, hy⟩ ⟨hkk, hc⟩
        simp only at hb' hk hkk hx hy hc
        rw [hkk, ← hk, hf] at hb'
        cases hb'
        exact h x y hx hy hc
      · intro h x y hx hy hc
        exact h (key a, x) (key a, y) ⟨b, hf, hx⟩ ⟨rfl, hy⟩ ⟨rfl, hc⟩
  keeps := by
    intro m a m' hm ha h
    obtain ⟨c, rfl, hc⟩ := (upsert_eq_ok key merge m m' a).1 h
    have hc' : inv c ∧ key c = key a ∧ ∀ x, tells c x ↔ (∃ b, m.find? (key a) = some b ∧ tells b x) ∨ tells a x := by
      rcases hc with ⟨hf, rfl⟩ | ⟨b, hf, hmerge⟩
      · exact ⟨hinit _ ha, rfl, fun x => by simp [hf]⟩
      · obtain ⟨hkb, hib⟩ := hm _ _ hf
        obtain ⟨hic, hkc, hsay⟩ := hkeeps b a c hib ha hkb hmerge
        exact ⟨hic, hkc.trans hkb, fun x => by simp [hf, hsay]⟩
    obtain ⟨hic, hkc, hsay⟩ := hc'
    refine ⟨?_, ?_⟩
    · rw [← hkc]; exact mapInv_insert hm hic
    · rintro ⟨k, x⟩
      simp only [mapKnows, keyTells, SortedMap.find?_insert]
      by_cases hk : k = key a
      · subst hk; simp [hsay]
      · simp [hk, Ne.symm hk]

/-- Where a value stored by an insertion comes from. -/
theorem upsert_origin {key : α → κ} {merge : α → α → Except ε α} {inv wf : α → Prop} {kept : α → F → Prop}
    (hmerge : ∀ a b c, inv a → wf b → key a = key b → merge a b = .ok c → ∀ x, kept c x → kept a x ∨ kept b x)
    (m : SortedMap κ α) (a : α) (m' : SortedMap κ α) (hm : mapInv key inv m) (ha : wf a)
    (h : upsert key merge m a = .ok m') (x : κ × F) (hx : mapKnows kept m' x) :
    mapKnows kept m x ∨ keyTells key kept a x := by
  obtain ⟨c, rfl, hc⟩ := (upsert_eq_ok key merge m m' a).1 h
  obtain ⟨b, hb, hx⟩ := hx
  rw [SortedMap.find?_insert] at hb
  split at hb
  · rename_i hk
    cases hb
    rcases hc with ⟨_, rfl⟩ | ⟨d, hf, hd⟩
    · exact Or.inr ⟨hk.symm, hx⟩
    · obtain ⟨hkd, hid⟩ := hm _ _ hf
      rcases hmerge d a c hid ha hkd hd x.2 hx with hx | hx
      · exact Or.inl ⟨d, by rw [hk]; exact hf, hx⟩
      · exact Or.inr ⟨hk.symm, hx⟩
  · exact Or.inl ⟨b, hb, hx⟩

/-- After storing values whose keys are all in the map, a value is the outcome of a merge or its key was not among
them. -/
theorem upsert_merged {key : α → κ} {merge : α → α → Except ε α} {P : α → Prop}
    (hmerge : ∀ a b c, merge a b = .ok c → P c) : ∀ (l : List α) (m m' : SortedMap κ α),
    (∀ a ∈ l, m.find? (key a) ≠ none) → l.foldlM (upsert key merge) m = .ok m' →
      ∀ k c, m'.find? k = some c → P c ∨ (m.find? k = some c ∧ ∀ a ∈ l, key a ≠ k)
  | [], m, m', _, h, k, c, hc => by
    obtain rfl : m = m' := by simpa using h
    exact Or.inr ⟨hc, fun a ha => (List.not_mem_nil ha).elim⟩
  | a :: l, m, m', hkeys, h, k, c, hc => by
    rw [List.foldlM_cons, bind_eq_ok] at h
    obtain ⟨t, ht, h⟩ := h
    obtain ⟨d, rfl, hd⟩ := (upsert_eq_ok key merge m t a).1 ht
    have hP : P d := by
      rcases hd with ⟨hnone, _⟩ | ⟨b, _, hb⟩
      · exact (hkeys a (List.mem_cons_self ..) hnone).elim
      · exact hmerge b a d hb
    have hkeys' : ∀ b ∈ l, (m.insert (key a) d).find? (key b) ≠ none := by
      intro b hb
      rw [SortedMap.find?_insert]
      split
      · exact Option.some_ne_none d
      · exact hkeys b (List.mem_cons_of_mem _ hb)
    rcases upsert_merged hmerge l _ m' hkeys' h k c hc with hPc | ⟨hk, hl⟩
    · exact Or.inl hPc
    · rw [SortedMap.find?_insert] at hk
      split at hk
      · cases hk; exact Or.inl hP
      · rename_i hne
        refine Or.inr ⟨hk, fun b hb => ?_⟩
        rcases List.mem_cons.1 hb with rfl | hb
        · exact fun h => hne h.symm
        · exact hl b hb

/-- A list merged into the map of itself leaves merged values only. -/
theorem upsert_merged_self {key : α → κ} {merge : α → α → Except ε α} {P : α → Prop}
    (hmerge : ∀ a b c, merge a b = .ok c → P c) {l : List α} {m : SortedMap κ α}
    (h : l.foldlM (upsert key merge) (SortedMap.insertAll key .empty l) = .ok m) {k : κ} {c : α}
    (hc : m.find? k = some c) : P c := by
  have hkeys : ∀ a ∈ l, (SortedMap.insertAll key .empty l).find? (key a) ≠ none :=
    fun a ha => Option.isSome_iff_ne_none.1 (SortedMap.find?_insertAll_isSome key _ _ _ (Or.inl ⟨a, ha, rfl⟩))
  rcases upsert_merged hmerge l _ m hkeys h k c hc with hP | ⟨hfound, hnone⟩
  · exact hP
  · obtain ⟨hmem, hk⟩ := SortedMap.mem_of_find?_insertAll hfound
    exact (hnone c hmem hk).elim

/-- Stores `a` under its key, added to what is stored there. -/
def upsertWith (key : α → κ) (addTo : α → α → α) (m : SortedMap κ α) (a : α) : SortedMap κ α :=
  match m.find? (key a) with
  | none => m.insert (key a) a
  | some b => m.insert (key a) (addTo b a)

theorem upsertWith_inv {key : α → κ} {addTo : α → α → α} {inv : α → Prop}
    (hadd : ∀ b a, inv b → inv a → key b = key a → inv (addTo b a) ∧ key (addTo b a) = key b) :
    ∀ (l : List α) (m : SortedMap κ α), mapInv key inv m → (∀ a ∈ l, inv a) →
      mapInv key inv (l.foldl (upsertWith key addTo) m)
  | [], _, hm, _ => hm
  | a :: l, m, hm, hl => by
    rw [List.foldl_cons]
    refine upsertWith_inv hadd l _ ?_ (fun b hb => hl b (List.mem_cons_of_mem _ hb))
    have ha := hl a (List.mem_cons_self ..)
    unfold upsertWith
    cases hf : m.find? (key a) with
    | none => exact mapInv_insert hm ha
    | some b =>
      obtain ⟨hkb, hib⟩ := hm _ _ hf
      obtain ⟨hi, hk⟩ := hadd b a hib ha hkb
      simp only
      rw [← hkb, ← hk]
      exact mapInv_insert hm hi

theorem upsertWith_knows (key : α → κ) (addTo : α → α → α) (tells : α → F → Prop)
    (hadd : ∀ b a x, tells (addTo b a) x ↔ tells b x ∨ tells a x) (x : κ × F) : ∀ (l : List α) (m : SortedMap κ α),
    mapKnows tells (l.foldl (upsertWith key addTo) m) x ↔ mapKnows tells m x ∨ ∃ a ∈ l, keyTells key tells a x
  | [], m => by simp
  | a :: l, m => by
    rw [List.foldl_cons, upsertWith_knows key addTo tells hadd x l]
    have hstep : mapKnows tells (upsertWith key addTo m a) x ↔ mapKnows tells m x ∨ keyTells key tells a x := by
      obtain ⟨k, y⟩ := x
      unfold upsertWith mapKnows keyTells
      cases hf : m.find? (key a) with
      | none =>
        by_cases hk : k = key a
        · subst hk; simp [hf]
        · simp [hk, Ne.symm hk]
      | some b =>
        by_cases hk : k = key a
        · subst hk; simp [hf, hadd]
        · simp [hk, Ne.symm hk]
    rw [hstep, or_assoc]
    simp only [List.mem_cons, exists_eq_or_imp]

end Upsert

/-! ## Maps of answers -/

section Collect

variable {ε κ α : Type} [LinearOrder κ]

/-- What `f` answers for each key, or the first error. -/
def SortedMap.collect (f : κ → Except ε α) (ks : List κ) : Except ε (SortedMap κ α) :=
  ks.foldlM (fun m k => do return m.insert k (← f k)) .empty

theorem find?_foldlM_insert (f : κ → Except ε α) (k : κ) (a : α) : ∀ (ks : List κ) (m m' : SortedMap κ α),
    ks.foldlM (fun m k => do return m.insert k (← f k)) m = .ok m' →
      (m'.find? k = some a ↔ (k ∈ ks ∧ f k = .ok a) ∨ (k ∉ ks ∧ m.find? k = some a))
  | [], m, m', h => by
    obtain rfl := Except.ok.inj h
    simp
  | j :: ks, m, m', h => by
    rw [List.foldlM_cons, bind_eq_ok] at h
    simp only [bind_eq_ok, pure_eq_ok] at h
    obtain ⟨_, ⟨b, hb, rfl⟩, h⟩ := h
    rw [find?_foldlM_insert f k a ks _ m' h, SortedMap.find?_insert, List.mem_cons]
    by_cases hks : k ∈ ks
    · simp [hks]
    · by_cases hj : k = j
      · subst hj
        simp [hks, hb]
      · simp [hks, hj]

/-- **A map of answers has the answer for each of the keys**, and nothing else. -/
theorem find?_collect {f : κ → Except ε α} {ks : List κ} {m : SortedMap κ α} (h : SortedMap.collect f ks = .ok m)
    (k : κ) (a : α) : m.find? k = some a ↔ k ∈ ks ∧ f k = .ok a := by
  rw [find?_foldlM_insert f k a ks .empty m h]
  simp

end Collect
end FrrK8s
