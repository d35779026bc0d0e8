import Mathlib.Data.String.Basic
import Mathlib.Data.List.Infix
/-!
# Text — texts put together from pieces

A text made of pieces with a separator can be taken apart again where the pieces do not have the separator (from the
right: `append_word_inj`), and a decimal number has digits only.  Two texts with different endings are different
(`append_ne_of_endings`).
-/
namespace FrrK8s

/-- **Two texts split at the first separator agree piecewise.** -/
theorem append_sep_inj {c : Char} : ∀ {a b x y : List Char}, c ∉ a → c ∉ b → a ++ c :: x = b ++ c :: y → a = b ∧ x = y
  | [], [], _, _, _, _, h => by simpa using h
  | [], e :: b, _, _, _, hb, h => by
    simp only [List.nil_append, List.cons_append, List.cons.injEq] at h
    exact absurd (h.1 ▸ List.mem_cons_self ..) hb
  | d :: a, [], _, _, ha, _, h => by
    simp only [List.nil_append, List.cons_append, List.cons.injEq] at h
    exact absurd (h.1 ▸ List.mem_cons_self ..) ha
  | d :: a, e :: b, x, y, ha, hb, h => by
    simp only [List.cons_append, List.cons.injEq] at h
    obtain ⟨rfl, h⟩ := h
    obtain ⟨rfl, hxy⟩ := append_sep_inj (fun hc => ha (List.mem_cons_of_mem _ hc))
      (fun hc => hb (List.mem_cons_of_mem _ hc)) h
    exact ⟨rfl, hxy⟩

/-- The same from the right: the last separator. -/
theorem append_sep_inj_right {c : Char} {a b x y : List Char} (hx : c ∉ x) (hy : c ∉ y)
    (h : a ++ c :: x = b ++ c :: y) : a = b ∧ x = y := by
  have hr := congrArg List.reverse h
  simp only [List.reverse_append, List.reverse_cons, List.append_assoc, List.singleton_append] at hr
  obtain ⟨h1, h2⟩ := append_sep_inj (by simpa using hx) (by simpa using hy) hr
  exact ⟨List.reverse_injective h2, List.reverse_injective h1⟩

/-- Texts joined by a separator they do not have are the same one by one. -/
theorem intercalate_inj {c : Char} {l l' : List (List Char)} (hl : ∀ w ∈ l, c ∉ w) (hl' : ∀ w ∈ l', c ∉ w)
    (hne : l ≠ []) (hne' : l' ≠ []) (h : [c].intercalate l = [c].intercalate l') : l = l' := by
  rw [← List.splitOn_intercalate c hl hne, h, List.splitOn_intercalate c hl' hne']

theorem mem_intercalate {c : Char} {sep : List Char} : ∀ {l : List (List Char)}, c ∈ sep.intercalate l →
    c ∈ sep ∨ ∃ w ∈ l, c ∈ w
  | [], h => by simp at h
  | [w], h => .inr ⟨w, by simp, by simpa using h⟩
  | w :: w' :: l, h => by
    rw [List.intercalate_cons_cons, List.mem_append, List.mem_append] at h
    obtain (h | h) | h := h
    · exact .inr ⟨w, by simp, h⟩
    · exact .inl h
    · exact (mem_intercalate h).imp_right (fun ⟨v, hv, hc⟩ => ⟨v, List.mem_cons_of_mem _ hv, hc⟩)

theorem map_inj_of_mem {α β : Type} {f : α → β} : ∀ {l l' : List α}, (∀ a ∈ l, ∀ b ∈ l', f a = f b → a = b) →
    l.map f = l'.map f → l = l'
  | [], [], _, _ => rfl
  | a :: l, b :: l', hf, h => by
    obtain ⟨hab, h⟩ := List.cons.inj h
    have hl := map_inj_of_mem (fun x hx y hy => hf x (List.mem_cons_of_mem _ hx) y (List.mem_cons_of_mem _ hy)) h
    rw [hf a (List.mem_cons_self ..) b (List.mem_cons_self ..) hab, hl]

@[simp] theorem toString_string (s : String) : toString s = s := rfl

@[simp] theorem toList_toString_nat (n : Nat) : (toString n).toList = Nat.toDigits 10 n := by
  rw [Nat.toString_eq_repr, Nat.toList_repr]

/-- A character that is no digit is not in a decimal number. -/
theorem not_mem_decimal (n : Nat) {c : Char} (hc : c.isDigit = false) : c ∉ Nat.toDigits 10 n := by
  intro h
  rw [Nat.isDigit_of_mem_toDigits (by decide) (by decide) h] at hc
  cases hc

theorem toDigits_inj {m n : Nat} (h : Nat.toDigits 10 m = Nat.toDigits 10 n) : m = n := by
  have := congrArg (fun ds => Nat.ofDigitChars 10 ds 0) h
  simpa using this

theorem decimal_inj {m n : Nat} (h : toString m = toString n) : m = n := by
  apply toDigits_inj
  rw [← toList_toString_nat, ← toList_toString_nat, h]

/-- A text that is not all digits is no number's. -/
theorem decimal_ne (n : Nat) {s : String} (hs : s.toList.all Char.isDigit = false) : toString n ≠ s := by
  rintro rfl
  rw [toList_toString_nat, List.all_eq_false] at hs
  obtain ⟨c, hc, hd⟩ := hs
  exact hd (Nat.isDigit_of_mem_toDigits (by decide) (by decide) hc)

/-- Reading digits on from a number does not make it smaller. -/
theorem le_ofDigitChars (ds : List Char) (n : Nat) : n ≤ Nat.ofDigitChars 10 ds n := by
  rw [Nat.ofDigitChars_eq_ofDigitChars_zero]
  exact le_trans (Nat.le_mul_of_pos_left n (Nat.pow_pos (by decide))) (Nat.le_add_right _ _)

/-- `ds` is a decimal text of `n`: at least one digit, leading zeros allowed. -/
structure IsDecimal (ds : List Char) (n : Nat) : Prop where
  ne_nil : ds ≠ []
  digits : ∀ c ∈ ds, c.isDigit = true
  value : Nat.ofDigitChars 10 ds 0 = n

theorem isDecimal_toDigits (n : Nat) : IsDecimal (Nat.toDigits 10 n) n where
  ne_nil := Nat.toDigits_ne_nil
  digits _ hc := Nat.isDigit_of_mem_toDigits (by decide) (by decide) hc
  value := Nat.ofDigitChars_toDigits (by decide) (by decide)

theorem IsDecimal.not_mem {ds : List Char} {n : Nat} (h : IsDecimal ds n) {c : Char} (hc : c.isDigit = false) :
    c ∉ ds := by
  intro hmem
  rw [h.digits c hmem] at hc
  cases hc

/-- The last word of a text, where words are separated by `-`. -/
theorem append_word_inj {a b x y : String} (hx : '-' ∉ x.toList) (hy : '-' ∉ y.toList)
    (h : a ++ "-" ++ x = b ++ "-" ++ y) : a = b ∧ x = y := by
  have hl := congrArg String.toList h
  simp only [String.toList_append, List.append_assoc] at hl
  obtain ⟨h1, h2⟩ := append_sep_inj_right hx hy hl
  exact ⟨String.toList_inj.1 h1, String.toList_inj.1 h2⟩

/-- Texts are different when neither of their endings ends with the other. -/
theorem append_ne_of_endings {x y : String} (h : ¬ x.toList <:+ y.toList) (h' : ¬ y.toList <:+ x.toList)
    (a b : String) : a ++ x ≠ b ++ y := by
  intro hab
  have hx : x.toList <:+ (a ++ x).toList := by rw [String.toList_append]; exact List.suffix_append _ _
  have hy : y.toList <:+ (a ++ x).toList := by rw [hab, String.toList_append]; exact List.suffix_append _ _
  exact (List.suffix_or_suffix_of_suffix hx hy).elim h h'

end FrrK8s
