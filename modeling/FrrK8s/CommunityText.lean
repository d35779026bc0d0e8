import FrrK8s.Names
/-!
# CommunityText — the texts of communities

`community.New` reads decimal numbers of the size of their fields, two of them or three behind the marker of large
communities, and nothing else (`new_eq_ok`).  What it reads of the text of a community is the community, and the texts
of different communities are different, as are the keys and the names made of them (`new_grammar`).
-/
namespace FrrK8s

/-! ## Sections -/

namespace Community

theorem parseUintLoop_eq_ok {bitSize : Nat} {text : List Char} {m : Nat} :
    ∀ (s : List Char) (n : Nat), n < 2 ^ bitSize →
    (parseUintLoop bitSize text s n = .ok m ↔
      (∀ c ∈ s, c.isDigit = true) ∧ Nat.ofDigitChars 10 s n = m ∧ m < 2 ^ bitSize)
  | [], n, hn => by
    simp only [parseUintLoop, Except.ok.injEq, List.not_mem_nil, false_imp_iff, implies_true, true_and]
    constructor
    · rintro rfl
      exact ⟨rfl, hn⟩
    · rintro ⟨rfl, -⟩
      rfl
  | c :: s, n, _ => by
    unfold parseUintLoop
    by_cases hc : c.isDigit = true
    · rw [if_pos hc, List.forall_mem_cons, and_iff_right hc, Nat.ofDigitChars_cons, Nat.mul_comm 10 n]
      by_cases hrange : 2 ^ bitSize ≤ n * 10 + Net.digitVal c
      · -- the digits left only make the number larger
        rw [if_pos hrange]
        refine iff_of_false (by rintro ⟨⟩) ?_
        rintro ⟨-, rfl, hlt⟩
        exact absurd (hrange.trans (le_ofDigitChars s _)) (Nat.not_le.2 hlt)
      · rw [if_neg hrange]
        exact parseUintLoop_eq_ok s _ (Nat.not_le.1 hrange)
    · rw [if_neg hc]
      refine iff_of_false (by rintro ⟨⟩) ?_
      rintro ⟨hall, -⟩
      exact hc (hall c List.mem_cons_self)

/-- **`ParseUint` reads the decimal texts of the numbers in its range.** -/
theorem parseUint_eq_ok (bitSize : Nat) (s : List Char) (n : Nat) :
    parseUint bitSize s = .ok n ↔ IsDecimal s n ∧ n < 2 ^ bitSize := by
  unfold parseUint
  by_cases hs : s = []
  · rw [if_pos hs]
    exact iff_of_false (by rintro ⟨⟩) (fun h => h.1.ne_nil hs)
  · rw [if_neg hs, parseUintLoop_eq_ok s 0 (Nat.pow_pos (by decide))]
    constructor
    · rintro ⟨hdigits, hvalue, hlt⟩
      exact ⟨⟨hs, hdigits, hvalue⟩, hlt⟩
    · rintro ⟨h, hlt⟩
      exact ⟨h.digits, h.value, hlt⟩

theorem parseSection_eq_ok (bitSize : Nat) (c : String) (s : List Char) (n : Nat) :
    parseSection bitSize c s = .ok n ↔ IsDecimal s n ∧ n < 2 ^ bitSize := by
  rw [← parseUint_eq_ok]
  unfold parseSection
  cases parseUint bitSize s with
  | ok m => simp
  | error e => exact iff_of_false (by rintro ⟨⟩) (by rintro ⟨⟩)

end Community

/-! ## Texts -/

/-- **`s` is a text of the community**: its numbers in decimal, each in the range of its field, with the marker before
those of a large one. -/
inductive ReadsAs : String → BGPCommunity → Prop
  | legacy {u l : String} {m n : Nat} : IsDecimal u.toList m → IsDecimal l.toList n → m < 2 ^ 16 → n < 2 ^ 16 →
      ReadsAs (u ++ ":" ++ l) (.legacy m n)
  | large {g a b : String} {i j k : Nat} : IsDecimal g.toList i → IsDecimal a.toList j → IsDecimal b.toList k →
      i < 2 ^ 32 → j < 2 ^ 32 → k < 2 ^ 32 → ReadsAs ("large:" ++ g ++ ":" ++ a ++ ":" ++ b) (.large i j k)

theorem splitOn_pair {x y : List Char} (hx : ':' ∉ x) (hy : ':' ∉ y) : (x ++ ':' :: y).splitOn ':' = [x, y] := by
  rw [List.splitOn_append_cons_self_of_not_mem hx, List.splitOn_eq_singleton hy]

/-- A text is made of the pieces it is split into. -/
theorem eq_of_splitOn {s : String} {pieces : List (List Char)} (h : s.toList.splitOn ':' = pieces) :
    s.toList = [':'].intercalate pieces := by
  rw [← h, List.intercalate_splitOn]

theorem ReadsAs.of_new {s : String} {c : BGPCommunity} (h : Community.new s = .ok c) : ReadsAs s c := by
  unfold Community.new at h
  split at h
  · rename_i u l hsplit
    simp only [bind_eq_ok, pure_eq_ok, Community.parseSection_eq_ok] at h
    obtain ⟨m, ⟨hm, hm16⟩, n, ⟨hn, hn16⟩, rfl⟩ := h
    have hs : s = String.ofList u ++ ":" ++ String.ofList l := by
      apply String.toList_inj.1
      rw [eq_of_splitOn hsplit]
      simp
    rw [hs]
    exact .legacy (by simpa using hm) (by simpa using hn) hm16 hn16
  · rename_i f0 g a b hsplit
    split at h
    · cases h
    · rename_i hmarker
      simp only [bind_eq_ok, pure_eq_ok, Community.parseSection_eq_ok] at h
      obtain ⟨i, ⟨hi, hi32⟩, j, ⟨hj, hj32⟩, k, ⟨hk, hk32⟩, rfl⟩ := h
      have hs : s = "large:" ++ String.ofList g ++ ":" ++ String.ofList a ++ ":" ++ String.ofList b := by
        apply String.toList_inj.1
        rw [eq_of_splitOn hsplit, not_not.1 hmarker]
        simp [Community.largeBGPCommunityMarker]
      rw [hs]
      exact .large (by simpa using hi) (by simpa using hj) (by simpa using hk) hi32 hj32 hk32
  · cases h

theorem ReadsAs.new_eq {s : String} {c : BGPCommunity} (h : ReadsAs s c) : Community.new s = .ok c := by
  have hcolon : ∀ {d : List Char} {n : Nat}, IsDecimal d n → ':' ∉ d := fun hd => hd.not_mem (by decide)
  cases h with
  | @legacy u l m n hu hl hm hn =>
    have hsplit : (u ++ ":" ++ l).toList.splitOn ':' = [u.toList, l.toList] := by
      have htext : (u ++ ":" ++ l).toList = u.toList ++ ':' :: l.toList := by simp
      rw [htext, splitOn_pair (hcolon hu) (hcolon hl)]
    unfold Community.new
    rw [hsplit]
    simp only [bind_eq_ok, pure_eq_ok, Community.parseSection_eq_ok]
    exact ⟨m, ⟨hu, hm⟩, n, ⟨hl, hn⟩, rfl⟩
  | @large g a b i j k hg ha hb hi hj hk =>
    have hsplit : ("large:" ++ g ++ ":" ++ a ++ ":" ++ b).toList.splitOn ':' =
        ["large".toList, g.toList, a.toList, b.toList] := by
      have htext : ("large:" ++ g ++ ":" ++ a ++ ":" ++ b).toList =
          "large".toList ++ ':' :: (g.toList ++ ':' :: (a.toList ++ ':' :: b.toList)) := by simp
      rw [htext, List.splitOn_append_cons_self_of_not_mem (by decide),
        List.splitOn_append_cons_self_of_not_mem (hcolon hg), splitOn_pair (hcolon ha) (hcolon hb)]
    have hmarker : ¬ "large".toList ≠ Community.largeBGPCommunityMarker.toList := not_not.2 rfl
    unfold Community.new
    rw [hsplit]
    dsimp only
    rw [if_neg hmarker]
    simp only [bind_eq_ok, pure_eq_ok, Community.parseSection_eq_ok]
    exact ⟨i, ⟨hg, hi⟩, j, ⟨ha, hj⟩, k, ⟨hb, hk⟩, rfl⟩

/-- **`community.New` reads the texts of communities, and nothing else.** -/
theorem new_eq_ok (s : String) (c : BGPCommunity) : Community.new s = .ok c ↔ ReadsAs s c :=
  ⟨ReadsAs.of_new, ReadsAs.new_eq⟩

/-! ## The grammar -/

/-- A number in decimal, of at most `bound`. -/
def IsNumber (bound : Nat) (d : String) : Prop :=
  d ≠ "" ∧ (∀ c ∈ d.toList, c.isDigit = true) ∧ Nat.ofDigitChars 10 d.toList 0 ≤ bound

def IsLegacyText (s : String) : Prop := ∃ u l, s = u ++ ":" ++ l ∧ IsNumber 65535 u ∧ IsNumber 65535 l

def IsLargeText (s : String) : Prop := ∃ g a b, s = "large:" ++ g ++ ":" ++ a ++ ":" ++ b ∧
  IsNumber 4294967295 g ∧ IsNumber 4294967295 a ∧ IsNumber 4294967295 b

theorem isNumber_iff {bound : Nat} {d : String} : IsNumber bound d ↔ ∃ n ≤ bound, IsDecimal d.toList n := by
  constructor
  · rintro ⟨hne, hdigits, hle⟩
    exact ⟨_, hle, fun hnil => hne (String.toList_inj.1 hnil), hdigits, rfl⟩
  · rintro ⟨n, hle, hd⟩
    refine ⟨?_, hd.digits, hd.value ▸ hle⟩
    rintro rfl
    exact hd.ne_nil rfl

theorem exists_readsAs_iff (s : String) : (∃ c, ReadsAs s c) ↔ IsLegacyText s ∨ IsLargeText s := by
  simp only [IsLegacyText, IsLargeText, isNumber_iff]
  constructor
  · rintro ⟨c, hu⟩
    cases hu with
    | legacy hu hl hm hn => exact Or.inl ⟨_, _, rfl, ⟨_, Nat.le_of_lt_succ hm, hu⟩, ⟨_, Nat.le_of_lt_succ hn, hl⟩⟩
    | large hg ha hb hi hj hk =>
      exact Or.inr ⟨_, _, _, rfl, ⟨_, Nat.le_of_lt_succ hi, hg⟩, ⟨_, Nat.le_of_lt_succ hj, ha⟩,
        ⟨_, Nat.le_of_lt_succ hk, hb⟩⟩
  · rintro (⟨u, l, rfl, ⟨m, hm, hu⟩, n, hn, hl⟩ | ⟨g, a, b, rfl, ⟨i, hi, hg⟩, ⟨j, hj, ha⟩, k, hk, hb⟩)
    · exact ⟨_, .legacy hu hl (Nat.lt_succ_of_le hm) (Nat.lt_succ_of_le hn)⟩
    · exact ⟨_, .large hg ha hb (Nat.lt_succ_of_le hi) (Nat.lt_succ_of_le hj) (Nat.lt_succ_of_le hk)⟩

theorem isDecimal_toString (n : Nat) : IsDecimal (toString n).toList n := by
  rw [toList_toString_nat]
  exact isDecimal_toDigits n

/-- **`community.New` accepts just its grammar and reads back what `String` writes, and `String` tells communities
apart**, as do the keys and the names made of it. -/
theorem new_grammar :
    (∀ s, (Community.new s).isOk = true ↔ IsLegacyText s ∨ IsLargeText s) ∧
    (∀ u l, u < 2 ^ 16 → l < 2 ^ 16 → Community.new (Community.string (.legacy u l)) = .ok (.legacy u l)) ∧
    (∀ g a b, g < 2 ^ 32 → a < 2 ^ 32 → b < 2 ^ 32 →
      Community.new ("large:" ++ Community.string (.large g a b)) = .ok (.large g a b)) ∧
    (∀ c d, Community.string c = Community.string d → c = d) ∧
    ∀ c d, c ≠ d → ∀ neighborID family, communityPrefixListKey c family ≠ communityPrefixListKey d family ∧
      communityPrefixListName neighborID c family ≠ communityPrefixListName neighborID d family := by
  refine ⟨fun s => ?_, fun u l hu hl => ?_, fun g a b hg ha hb => ?_, fun c d => communityString_inj,
    fun c d hne neighborID family => ⟨fun hkey => ?_, fun hname => ?_⟩⟩
  · rw [isOk_iff, ← exists_readsAs_iff]
    exact exists_congr (new_eq_ok s)
  · exact (ReadsAs.legacy (isDecimal_toString u) (isDecimal_toString l) hu hl).new_eq
  · have htext : "large:" ++ Community.string (.large g a b) =
        "large:" ++ toString g ++ ":" ++ toString a ++ ":" ++ toString b := by
      simp only [Community.string, toString_string, String.append_assoc]
    rw [htext]
    exact (ReadsAs.large (isDecimal_toString g) (isDecimal_toString a) (isDecimal_toString b) hg ha hb).new_eq
  · exact hne (communityPrefixListKey_inj hkey).1
  · rw [communityPrefixListName_eq, communityPrefixListName_eq] at hname
    have hword := String.append_left_inj _ |>.1 (String.append_left_inj _ |>.1 (String.append_left_inj _ |>.1 hname))
    exact hne (communityWord_inj (String.append_right_inj _ |>.1 hword))

end FrrK8s
