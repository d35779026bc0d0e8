import FrrK8s.Translate
import FrrK8s.Text
/-!
# Names — the keys and names built from text

The keys of the merge's maps and the names of the rendered lists are texts put together with separators.  A decimal
number has no `-` and no `:`, so a key or a name can be taken apart again, from the left or from the right.
-/
namespace FrrK8s

/-- The characters of a community's text. -/
theorem communityString_toList (c : BGPCommunity) : (Community.string c).toList =
    match c with
    | .legacy u l => Nat.toDigits 10 u ++ ':' :: Nat.toDigits 10 l
    | .large g a b => Nat.toDigits 10 g ++ ':' :: (Nat.toDigits 10 a ++ ':' :: Nat.toDigits 10 b) := by
  cases c <;> simp [Community.string]

theorem mem_communityString {c : BGPCommunity} {x : Char} (h : x ∈ (Community.string c).toList) :
    x.isDigit = true ∨ x = ':' := by
  have hd : ∀ n, x ∈ Nat.toDigits 10 n → x.isDigit = true :=
    fun n hx => Nat.isDigit_of_mem_toDigits (by decide) (by decide) hx
  rw [communityString_toList] at h
  cases c with
  | legacy u l =>
    rcases List.mem_append.1 h with h | h
    · exact Or.inl (hd u h)
    · exact (List.mem_cons.1 h).symm.imp_left (hd l)
  | large g a b =>
    rcases List.mem_append.1 h with h | h
    · exact Or.inl (hd g h)
    · rcases List.mem_cons.1 h with h | h
      · exact Or.inr h
      · rcases List.mem_append.1 h with h | h
        · exact Or.inl (hd a h)
        · exact (List.mem_cons.1 h).symm.imp_left (hd b)

theorem dash_not_mem_community (c : BGPCommunity) : '-' ∉ (Community.string c).toList := by
  intro h
  rcases mem_communityString h with h | h <;> exact absurd h (by decide)

/-- **The text of a community determines it.** -/
theorem communityString_inj {c d : BGPCommunity} (h : Community.string c = Community.string d) : c = d := by
  have hl := congrArg String.toList h
  have hc : ∀ n, ':' ∉ Nat.toDigits 10 n := fun n => not_mem_decimal n (by decide)
  rw [communityString_toList, communityString_toList] at hl
  cases c with
  | legacy u l =>
    cases d with
    | legacy u' l' =>
      obtain ⟨h1, h2⟩ := append_sep_inj (hc u) (hc u') hl
      rw [toDigits_inj h1, toDigits_inj h2]
    | large g a b =>
      obtain ⟨-, h2⟩ := append_sep_inj (hc u) (hc g) hl
      exact absurd (h2 ▸ (by simp : ':' ∈ Nat.toDigits 10 a ++ ':' :: Nat.toDigits 10 b)) (hc l)
  | large g a b =>
    cases d with
    | legacy u l =>
      obtain ⟨-, h2⟩ := append_sep_inj (hc g) (hc u) hl
      exact absurd (h2 ▸ (by simp : ':' ∈ Nat.toDigits 10 a ++ ':' :: Nat.toDigits 10 b)) (hc l)
    | large g' a' b' =>
      obtain ⟨h1, h2⟩ := append_sep_inj (hc g) (hc g') hl
      obtain ⟨h2, h3⟩ := append_sep_inj (hc a) (hc a') h2
      rw [toDigits_inj h1, toDigits_inj h2, toDigits_inj h3]

theorem localPrefPrefixListKey_inj {lp lp' : Nat} {f f' : String}
    (h : localPrefPrefixListKey lp f = localPrefPrefixListKey lp' f') : lp = lp' ∧ f = f' := by
  have hl := congrArg String.toList h
  have hd : ∀ n, '-' ∉ Nat.toDigits 10 n := fun n => not_mem_decimal n (by decide)
  simp only [localPrefPrefixListKey, String.toList_append, toList_toString_nat] at hl
  obtain ⟨h1, h2⟩ := append_sep_inj (x := f.toList) (y := f'.toList) (hd lp) (hd lp') (by simpa using hl)
  exact ⟨toDigits_inj h1, String.toList_inj.1 h2⟩

theorem communityPrefixListKey_inj {c c' : BGPCommunity} {f f' : String}
    (h : communityPrefixListKey c f = communityPrefixListKey c' f') : c = c' ∧ f = f' := by
  have hl := congrArg String.toList h
  simp only [communityPrefixListKey, String.toList_append] at hl
  obtain ⟨h1, h2⟩ := append_sep_inj (x := f.toList) (y := f'.toList) (dash_not_mem_community c)
    (dash_not_mem_community c') (by simpa using hl)
  exact ⟨communityString_inj (String.toList_inj.1 h1), String.toList_inj.1 h2⟩

/-! ## Names of lists -/

/-- A community as it stands in the name of its list. -/
def communityWord (c : BGPCommunity) : String :=
  if Community.isLarge c then "large:" ++ Community.string c else Community.string c

theorem communityPrefixListName_eq (a : String) (c : BGPCommunity) (f : String) :
    communityPrefixListName a c f = a ++ "-" ++ communityWord c ++ "-" ++ f ++ "-community-prefixes" := by
  unfold communityPrefixListName communityWord
  split
  · have hdash : ∀ s : String, "-large:" ++ s = "-" ++ ("large:" ++ s) := fun s => by rw [← String.append_assoc]; rfl
    simp only [toString_string, String.append_assoc, hdash]
  · rfl

theorem dash_not_mem_word (c : BGPCommunity) : '-' ∉ (communityWord c).toList := by
  unfold communityWord
  split
  · rw [String.toList_append, List.mem_append, not_or]
    exact ⟨by decide, dash_not_mem_community c⟩
  · exact dash_not_mem_community c

theorem communityWord_inj {c d : BGPCommunity} (h : communityWord c = communityWord d) : c = d := by
  have hl : ∀ e : BGPCommunity, 'l' ∉ (Community.string e).toList := by
    intro e he
    rcases mem_communityString he with h | h <;> exact absurd h (by decide)
  have hlarge : ∀ e e' : BGPCommunity, "large:" ++ Community.string e ≠ Community.string e' := by
    intro e e' he
    refine hl e' (he ▸ ?_)
    rw [String.toList_append]
    exact List.mem_append_left _ (by decide)
  unfold communityWord at h
  split at h <;> split at h
  · exact communityString_inj (String.append_right_inj _ |>.1 h)
  · exact (hlarge _ _ h).elim
  · exact (hlarge _ _ h.symm).elim
  · exact communityString_inj h

/-- **The name of a list determines the neighbor, the property and the family.** -/
theorem listName_inj {a b x y f g kind : String} (hx : '-' ∉ x.toList) (hy : '-' ∉ y.toList) (hf : '-' ∉ f.toList)
    (hg : '-' ∉ g.toList) (h : a ++ "-" ++ x ++ "-" ++ f ++ kind = b ++ "-" ++ y ++ "-" ++ g ++ kind) :
    a = b ∧ x = y ∧ f = g := by
  have h := String.append_left_inj _ |>.1 h
  obtain ⟨h, hfg⟩ := append_word_inj hf hg h
  obtain ⟨hab, hxy⟩ := append_word_inj hx hy h
  exact ⟨hab, hxy, hfg⟩

theorem localPrefPrefixListName_inj {a b : String} {lp lp' : Nat} {f g : String} (hf : '-' ∉ f.toList)
    (hg : '-' ∉ g.toList) (h : localPrefPrefixListName a lp f = localPrefPrefixListName b lp' g) :
    a = b ∧ lp = lp' ∧ f = g := by
  have hd : ∀ n : Nat, '-' ∉ (toString n).toList := fun n => by
    rw [toList_toString_nat]; exact not_mem_decimal n (by decide)
  obtain ⟨hab, hlp, hfg⟩ := listName_inj (hd lp) (hd lp') hf hg h
  exact ⟨hab, decimal_inj hlp, hfg⟩

theorem communityPrefixListName_inj {a b : String} {c d : BGPCommunity} {f g : String} (hf : '-' ∉ f.toList)
    (hg : '-' ∉ g.toList) (h : communityPrefixListName a c f = communityPrefixListName b d g) :
    a = b ∧ c = d ∧ f = g := by
  rw [communityPrefixListName_eq, communityPrefixListName_eq] at h
  obtain ⟨hab, hcd, hfg⟩ := listName_inj (dash_not_mem_word c) (dash_not_mem_word d) hf hg h
  exact ⟨hab, communityWord_inj hcd, hfg⟩

end FrrK8s
