import FrrK8s.Net
import FrrK8s.Text
/-!
# NetText — a network is read back from its text

`parseNet` reads what `IPNet.string` writes (`parseNet_string`): the decimal octets of an IPv4 address, the hexadecimal
groups of an IPv6 one with its longest run of zeros written `::`, and the length of the mask.  Of any text, `parseAddr`
and `parseCIDR` read a value of the length its form says (`parseAddr_cases`, `parseCIDR_split`).
-/
namespace FrrK8s
namespace Net

/-! ## Numbers -/

theorem digitVal_digitChar {d : Nat} (hd : d < 10) :
    (Nat.digitChar d).isDigit = true ∧ digitVal (Nat.digitChar d) = d :=
  (by decide : ∀ d < 10, (Nat.digitChar d).isDigit = true ∧ digitVal (Nat.digitChar d) = d) d hd

theorem hexVal_digitChar {d : Nat} (hd : d < 16) : hexVal (Nat.digitChar d) = some d :=
  (by decide : ∀ d < 16, hexVal (Nat.digitChar d) = some d) d hd

/-- An octet is read from its decimal text. -/
theorem parseIPv4Fields_octet (s : List Char) (fields : List Nat) : ∀ (n : Nat), n ≤ 255 →
    parseIPv4Fields (Nat.toDigits 10 n ++ s) fields 0 0 = parseIPv4Fields s fields n (Nat.toDigits 10 n).length := by
  intro n
  induction n using Nat.strong_induction_on generalizing s with
  | _ n ih =>
    intro hn
    by_cases hlt : n < 10
    · obtain ⟨hd, hv⟩ := digitVal_digitChar hlt
      rw [Nat.toDigits_of_lt_base hlt]
      simp only [List.singleton_append, List.length_singleton, parseIPv4Fields, hd, hv, if_true]
      simp [show ¬ 255 < n by omega]
    · -- the digits before the last one are read first, and are not a lone zero
      obtain ⟨hd, hv⟩ := digitVal_digitChar (Nat.mod_lt n (by decide : 0 < 10))
      have hdiv : ¬ n / 10 = 0 := by omega
      have hval : n / 10 * 10 + n % 10 = n := by omega
      rw [Nat.toDigits_of_base_le (by decide) (by omega), List.append_assoc, ih (n / 10) (by omega) _ (by omega)]
      simp only [List.singleton_append, parseIPv4Fields, hd, hv, hdiv, if_true, and_false, if_false, hval,
        List.length_append, List.length_singleton]
      rw [if_neg (by omega)]

/-- A hexadecimal number is read up to the first character that is no digit. -/
theorem takeHex_digits (rest : List Char) : ∀ (v off : Nat),
    takeHex (Nat.toDigits 16 v ++ rest) 0 off = takeHex rest v (off + (Nat.toDigits 16 v).length) := by
  intro v
  induction v using Nat.strong_induction_on generalizing rest with
  | _ v ih =>
    intro off
    by_cases hlt : v < 16
    · rw [Nat.toDigits_of_lt_base hlt]
      simp [takeHex, hexVal_digitChar hlt]
    · have hval : v / 16 * 16 + v % 16 = v := by omega
      rw [Nat.toDigits_of_base_le (by decide) (by omega), List.append_assoc, ih (v / 16) (by omega)]
      simp only [List.singleton_append, takeHex, hexVal_digitChar (Nat.mod_lt v (by decide : 0 < 16)), hval,
        List.length_append, List.length_singleton]
      rfl

/-- The digits are summed the way the library sums them. -/
theorem foldl_digitVal (ds : List Char) (n : Nat) :
    ds.foldl (fun m c => m * 10 + digitVal c) n = Nat.ofDigitChars 10 ds n := by
  simp only [Nat.ofDigitChars, digitVal, Nat.mul_comm]

theorem dtoi_toDigits (n : Nat) : dtoi (Nat.toDigits 10 n) = some n := by
  have h := isDecimal_toDigits n
  unfold dtoi
  rw [if_pos ⟨h.ne_nil, List.all_eq_true.2 h.digits⟩, foldl_digitVal, h.value]

/-! ## IPv4 -/

theorem parseIPv4Fields_dot (s : List Char) (hs : s ≠ []) (fields : List Nat) (hf : fields.length < 3) (n : Nat)
    (hn : n ≤ 255) :
    parseIPv4Fields (Nat.toDigits 10 n ++ '.' :: s) fields 0 0 = parseIPv4Fields s (fields ++ [n]) 0 0 := by
  have hlen : (Nat.toDigits 10 n).length ≠ 0 := Nat.length_toDigits_pos.ne'
  rw [parseIPv4Fields_octet _ _ n hn]
  simp [parseIPv4Fields, hs, hlen, show ¬ fields.length = 3 by omega]

theorem parseIPv4Fields_quad {a b c d : Nat} (ha : a ≤ 255) (hb : b ≤ 255) (hc : c ≤ 255) (hd : d ≤ 255) :
    parseIPv4Fields (Nat.toDigits 10 a ++ '.' :: (Nat.toDigits 10 b ++
    '.' :: (Nat.toDigits 10 c ++ '.' :: Nat.toDigits 10 d)))
      [] 0 0 = some [a, b, c, d] := by
  have hlast := parseIPv4Fields_octet [] [a, b, c] d hd
  rw [List.append_nil] at hlast
  rw [parseIPv4Fields_dot _ (by simp) [] (by simp) a ha, parseIPv4Fields_dot _ (by simp) _ (by simp) b hb,
    parseIPv4Fields_dot _ Nat.toDigits_ne_nil _ (by simp) c hc]
  simpa [parseIPv4Fields] using hlast

/-! ## IPv6 -/

theorem mem_toDigits_hex {c : Char} : ∀ {v : Nat}, c ∈ Nat.toDigits 16 v → ∃ d < 16, c = Nat.digitChar d := by
  intro v
  induction v using Nat.strong_induction_on with
  | _ v ih =>
    intro hc
    by_cases hlt : v < 16
    · rw [Nat.toDigits_of_lt_base hlt] at hc
      exact ⟨v, hlt, List.mem_singleton.1 hc⟩
    · rw [Nat.toDigits_of_base_le (by decide) (by omega), List.mem_append, List.mem_singleton] at hc
      exact hc.elim (ih (v / 16) (by omega)) (fun h => ⟨v % 16, Nat.mod_lt _ (by decide), h⟩)

theorem hex_not_mark {v : Nat} {c : Char} (hc : c ∈ Nat.toDigits 16 v) : c ≠ '.' ∧ c ≠ ':' ∧ c ≠ '%' ∧ c ≠ '/' := by
  obtain ⟨d, hd, rfl⟩ := mem_toDigits_hex hc
  exact (by decide : ∀ d < 16, Nat.digitChar d ≠ '.' ∧ Nat.digitChar d ≠ ':' ∧ Nat.digitChar d ≠ '%' ∧
    Nat.digitChar d ≠ '/') d hd

/-- The characters of `colonJoin`. -/
def joined : List Nat → List Char
  | [] => []
  | [g] => Nat.toDigits 16 g
  | g :: g' :: gs => Nat.toDigits 16 g ++ ':' :: joined (g' :: gs)

theorem toList_colonJoin : ∀ gs : List Nat, (colonJoin gs).toList = joined gs
  | [] => rfl
  | [g] => by simp [colonJoin, hexDigits, joined]
  | g :: g' :: gs => by
    have ih := toList_colonJoin (g' :: gs)
    simp only [colonJoin, String.toList_intercalate, List.map_cons, List.intercalate, List.intersperse] at ih ⊢
    simp [hexDigits, joined, ← ih]

theorem mem_joined {c : Char} : ∀ {gs : List Nat}, c ∈ joined gs → c = ':' ∨ ∃ g, c ∈ Nat.toDigits 16 g
  | [], h => absurd h List.not_mem_nil
  | [g], h => .inr ⟨g, h⟩
  | g :: g' :: gs, h => by
    rw [joined, List.mem_append, List.mem_cons] at h
    obtain h | h | h := h
    · exact .inr ⟨g, h⟩
    · exact .inl h
    · exact mem_joined h

/-- A group starts with a digit. -/
theorem joined_start : ∀ {gs : List Nat}, gs ≠ [] → ∃ c s, joined gs = c :: s ∧ c ≠ ':'
  | [], h => absurd rfl h
  | [g], _ => by
    obtain ⟨c, s, hs⟩ := List.exists_cons_of_ne_nil (Nat.toDigits_ne_nil (b := 16) (n := g))
    exact ⟨c, s, hs, (hex_not_mark (v := g) (by simp [hs])).2.1⟩
  | g :: g' :: gs, _ => by
    obtain ⟨c, s, hs⟩ := List.exists_cons_of_ne_nil (Nat.toDigits_ne_nil (b := 16) (n := g))
    exact ⟨c, s ++ ':' :: joined (g' :: gs), by simp [joined, hs], (hex_not_mark (v := g) (by simp [hs])).2.1⟩

theorem takeHex_group {g : Nat} (hg : g < 2 ^ 16) (rest : List Char) (hrest : rest = [] ∨ ∃ s, rest = ':' :: s) :
    ∃ off, takeHex (Nat.toDigits 16 g ++ rest) 0 0 = (g, off, rest) ∧ ¬ (off = 0 ∨ 4 < off) := by
  have hpos : 0 < (Nat.toDigits 16 g).length := Nat.length_toDigits_pos
  have hlen : (Nat.toDigits 16 g).length ≤ 4 := (Nat.length_toDigits_le_iff (by decide) (by decide)).2
    (by simpa using hg)
  refine ⟨(Nat.toDigits 16 g).length, ?_, by omega⟩
  rw [takeHex_digits, Nat.zero_add]
  obtain rfl | ⟨s, rfl⟩ := hrest
  · rfl
  · rfl

theorem parseIPv6Loop_last (fuel : Nat) {g : Nat} (hg : g < 2 ^ 16) (groups : List Nat) (e : Option Nat) :
    parseIPv6Loop (fuel + 1) (Nat.toDigits 16 g) groups e = some (groups ++ [g], e, []) := by
  obtain ⟨off, htake, hoff⟩ := takeHex_group hg [] (.inl rfl)
  rw [List.append_nil] at htake
  simp only [parseIPv6Loop, htake, if_neg hoff]

theorem parseIPv6Loop_colon (fuel : Nat) {g : Nat} (hg : g < 2 ^ 16) (groups : List Nat) (e : Option Nat)
    {c : Char} (hc : c ≠ ':') (s : List Char) :
    parseIPv6Loop (fuel + 1) (Nat.toDigits 16 g ++ ':' :: c :: s) groups e =
      parseIPv6Loop fuel (c :: s) (groups ++ [g]) e := by
  obtain ⟨off, htake, hoff⟩ := takeHex_group hg (':' :: c :: s) (.inr ⟨_, rfl⟩)
  simp [parseIPv6Loop, htake, if_neg hoff, hc]

theorem parseIPv6Loop_ellipsis (fuel : Nat) {g : Nat} (hg : g < 2 ^ 16) (groups : List Nat) (s : List Char) :
    parseIPv6Loop (fuel + 1) (Nat.toDigits 16 g ++ ':' :: ':' :: s) groups none =
      if s = [] then some (groups ++ [g], some (groups.length + 1), [])
      else parseIPv6Loop fuel s (groups ++ [g]) (some (groups.length + 1)) := by
  obtain ⟨off, htake, hoff⟩ := takeHex_group hg (':' :: ':' :: s) (.inr ⟨_, rfl⟩)
  simp [parseIPv6Loop, htake, if_neg hoff]

/-- Groups joined by colons are read one after the other. -/
theorem parseIPv6Loop_joined : ∀ (gs : List Nat) (fuel : Nat) (groups : List Nat) (e : Option Nat), gs ≠ [] →
    gs.length ≤ fuel → (∀ g ∈ gs, g < 2 ^ 16) → parseIPv6Loop fuel (joined gs) groups e = some (groups ++ gs, e, [])
  | [], _, _, _, h, _, _ => absurd rfl h
  | _ :: _, 0, _, _, _, h, _ => absurd h (by simp)
  | [g], fuel + 1, groups, e, _, _, hg => parseIPv6Loop_last fuel (hg g (by simp)) groups e
  | g :: g' :: gs, fuel + 1, groups, e, _, hlen, hg => by
    obtain ⟨c, s, hs, hc⟩ := @joined_start (g' :: gs) (by simp)
    rw [joined, hs, parseIPv6Loop_colon fuel (hg g (by simp)) groups e hc, ← hs,
      parseIPv6Loop_joined (g' :: gs) fuel _ e (by simp) (by simpa using hlen) (fun x hx => hg x (by simp [hx]))]
    simp

/-- The same with `::` after the first of them. -/
theorem parseIPv6Loop_joined_ellipsis : ∀ (gs hs : List Nat) (fuel : Nat) (groups : List Nat), gs ≠ [] →
    gs.length + hs.length ≤ fuel → (∀ g ∈ gs ++ hs, g < 2 ^ 16) →
    parseIPv6Loop fuel (joined gs ++ ':' :: ':' :: joined hs) groups none =
      some (groups ++ (gs ++ hs), some (groups.length + gs.length), [])
  | [], _, _, _, h, _, _ => absurd rfl h
  | _ :: _, _, 0, _, _, h, _ => absurd h (by simp)
  | [g], hs, fuel + 1, groups, _, hlen, hg => by
    rw [joined, parseIPv6Loop_ellipsis fuel (hg g (by simp)) groups]
    by_cases hempty : hs = []
    · simp [hempty, joined]
    · obtain ⟨c, s, hstart, _⟩ := joined_start hempty
      rw [if_neg (by simp [hstart]), parseIPv6Loop_joined hs fuel _ _ hempty (by simp at hlen; omega)
        (fun x hx => hg x (by simp [hx]))]
      simp
  | g :: g' :: gs, hs, fuel + 1, groups, _, hlen, hg => by
    obtain ⟨c, s, hstart, hc⟩ := @joined_start (g' :: gs) (by simp)
    rw [joined, List.append_assoc, List.cons_append, hstart, List.cons_append,
      parseIPv6Loop_colon fuel (hg g (by simp)) groups none hc, ← List.cons_append, ← hstart,
      parseIPv6Loop_joined_ellipsis (g' :: gs) hs fuel _ (by simp) (by simp at hlen ⊢; omega)
        (fun x hx => hg x (by simp at hx ⊢; tauto))]
    simp
    omega

theorem parseIPv6_joined (gs : List Nat) (hlen : gs.length = 8) (hg : ∀ g ∈ gs, g < 2 ^ 16) :
    parseIPv6 (joined gs) = some ⟨128, ofGroups gs⟩ := by
  have hne : gs ≠ [] := List.ne_nil_of_length_pos (by omega)
  obtain ⟨c, s, hs, hc⟩ := joined_start hne
  have hloop := parseIPv6Loop_joined gs 8 [] none hne (by omega) hg
  rw [hs] at hloop ⊢
  simp [parseIPv6, hc, hloop, expandGroups, hlen]

/-- `::` stands for the groups of zeros that are missing. -/
theorem parseIPv6_ellipsis (gs hs : List Nat) (hlen : gs.length + hs.length < 8) (hg : ∀ g ∈ gs ++ hs, g < 2 ^ 16) :
    parseIPv6 (joined gs ++ ':' :: ':' :: joined hs) =
      some ⟨128, ofGroups (gs ++ List.replicate (8 - (gs.length + hs.length)) 0 ++ hs)⟩ := by
  by_cases hgs : gs = []
  · subst hgs
    by_cases hhs : hs = []
    · subst hhs
      decide
    · obtain ⟨c, s, hstart, _⟩ := joined_start hhs
      have hloop := parseIPv6Loop_joined hs 8 [] (some 0) hhs (by simp at hlen; omega) (by simpa using hg)
      have hlt : hs.length < 8 := by simpa using hlen
      simp only [joined, List.nil_append]
      rw [hstart] at hloop ⊢
      simp [parseIPv6, hloop, expandGroups, hlt]
  · obtain ⟨c, s, hstart, hc⟩ := joined_start hgs
    have hloop := parseIPv6Loop_joined_ellipsis gs hs 8 [] hgs (by omega) hg
    rw [hstart] at hloop ⊢
    simp only [List.cons_append] at hloop ⊢
    simp [parseIPv6, hc, hloop, expandGroups, hlen]

/-- The groups of a run are zeros. -/
theorem group_of_zeroRun (ip : Nat) : ∀ (fuel i : Nat), zeroRun ip fuel i ≤ fuel ∧
    ∀ j < zeroRun ip fuel i, group ip (i + j) = 0
  | 0, _ => ⟨le_refl _, fun _ hj => absurd hj (by simp [zeroRun])⟩
  | fuel + 1, i => by
    obtain ⟨hle, hzero⟩ := group_of_zeroRun ip fuel (i + 1)
    unfold zeroRun
    split
    · rename_i hfirst
      refine ⟨by omega, fun j hj => ?_⟩
      cases j with
      | zero => exact hfirst
      | succ j => simpa [Nat.add_assoc, Nat.add_comm 1 j] using hzero j (by omega)
    · exact ⟨by omega, fun j hj => absurd hj (by omega)⟩

theorem longestRun_spec {ip i l : Nat} (h : longestRun ip = some (i, l)) :
    2 ≤ l ∧ i + l ≤ 8 ∧ ∀ j < l, group ip (i + j) = 0 := by
  let body := fun (best : Option (Nat × Nat)) (i : Nat) =>
    if 2 ≤ zeroRun ip (8 - i) i ∧ (best.map Prod.snd).getD 0 < zeroRun ip (8 - i) i then some (i, zeroRun ip (8 - i) i)
    else best
  -- every run that is taken as the best one has the three properties
  have hfold : ∀ (is : List Nat) (best : Option (Nat × Nat)), (∀ i ∈ is, i < 8) →
      (∀ r ∈ best, 2 ≤ r.2 ∧ r.1 + r.2 ≤ 8 ∧ ∀ j < r.2, group ip (r.1 + j) = 0) →
      ∀ r ∈ is.foldl body best, 2 ≤ r.2 ∧ r.1 + r.2 ≤ 8 ∧ ∀ j < r.2, group ip (r.1 + j) = 0 := by
    intro is
    induction is with
    | nil => exact fun best _ hbest => hbest
    | cons i is ih =>
      intro best his hbest
      refine ih (body best i) (fun j hj => his j (by simp [hj])) (fun r hr => ?_)
      by_cases hcond : 2 ≤ zeroRun ip (8 - i) i ∧ (best.map Prod.snd).getD 0 < zeroRun ip (8 - i) i
      · obtain ⟨hle, hzero⟩ := group_of_zeroRun ip (8 - i) i
        have hi := his i (by simp)
        simp only [body, if_pos hcond, Option.mem_def, Option.some.injEq] at hr
        subst hr
        exact ⟨hcond.1, by omega, hzero⟩
      · simp only [body, if_neg hcond] at hr
        exact hbest r hr
  exact hfold (List.range 8) none (fun i hi => List.mem_range.1 hi) (fun r hr => absurd hr (by simp)) (i, l) h

/-- The first `k` groups are the address without the bits of the others. -/
theorem ofGroups_range {ip : Nat} (hip : ip < 2 ^ 128) : ∀ k ≤ 8,
    ofGroups ((List.range k).map (group ip)) = ip / 2 ^ (16 * (8 - k))
  | 0, _ => (Nat.div_eq_of_lt hip).symm
  | k + 1, hk => by
    have ih := ofGroups_range hip k (Nat.le_of_succ_le hk)
    have hpow : 2 ^ (16 * (8 - k)) = 2 ^ (16 * (7 - k)) * 2 ^ 16 := by
      rw [← Nat.pow_add]
      congr 1
      omega
    have hnext : 8 - (k + 1) = 7 - k := by omega
    rw [ofGroups] at ih ⊢
    rw [List.range_succ, List.map_append, List.foldl_append, ih, hpow, ← Nat.div_div_eq_div_mul, hnext]
    exact Nat.div_add_mod' _ _

theorem ofGroups_group {ip : Nat} (hip : ip < 2 ^ 128) : ofGroups ((List.range 8).map (group ip)) = ip :=
  (ofGroups_range hip 8 (Nat.le_refl 8)).trans (Nat.div_one ip)

/-- The zeros a `::` stands for are those of the run. -/
theorem restore_run {ip i l : Nat} (hle : i + l ≤ 8) (hzero : ∀ j < l, group ip (i + j) = 0) :
    ((List.range 8).map (group ip)).take i ++ List.replicate l 0 ++ ((List.range 8).map (group ip)).drop (i + l) =
      (List.range 8).map (group ip) := by
  have hrun : (((List.range 8).map (group ip)).drop i).take l = List.replicate l 0 := by
    refine List.eq_replicate_iff.2 ⟨by simp; omega, fun g hg => ?_⟩
    obtain ⟨j, hj, rfl⟩ := List.mem_iff_getElem.1 hg
    simp only [List.length_take, List.length_drop, List.length_map, List.length_range] at hj
    simpa using hzero j (by omega)
  rw [← hrun, List.append_assoc, ← List.drop_drop, List.take_append_drop, List.take_append_drop]

/-! ## Addresses -/

theorem find?_mark {w : List Char} {c : Char} (hw : ∀ x ∈ w, x ≠ '.' ∧ x ≠ ':' ∧ x ≠ '%')
    (hc : c = '.' ∨ c = ':') (s : List Char) :
    (w ++ c :: s).find? (fun c => c == '.' || c == ':' || c == '%') = some c := by
  have hnone : w.find? (fun c => c == '.' || c == ':' || c == '%') = none :=
    List.find?_eq_none.2 (fun x hx => by simp [hw x hx])
  rw [List.find?_append, hnone]
  obtain rfl | rfl := hc
  · rfl
  · rfl

theorem decimal_not_mark {n : Nat} {c : Char} (hc : c ∈ Nat.toDigits 10 n) : c ≠ '.' ∧ c ≠ ':' ∧ c ≠ '%' ∧ c ≠ '/' := by
  have hne : ∀ {x : Char}, x.isDigit = false → c ≠ x := fun hx h => not_mem_decimal n hx (h ▸ hc)
  exact ⟨hne (by decide), hne (by decide), hne (by decide), hne (by decide)⟩

theorem toList_ipv4String (v : Nat) : (ipv4String v).toList =
    Nat.toDigits 10 (v / 2 ^ 24) ++ '.' :: (Nat.toDigits 10 (v / 2 ^ 16 % 2 ^ 8) ++
      '.' :: (Nat.toDigits 10 (v / 2 ^ 8 % 2 ^ 8) ++ '.' :: Nat.toDigits 10 (v % 2 ^ 8))) := by
  simp [ipv4String]

theorem parseAddr_ipv4String {v : Nat} (hv : v < 2 ^ 32) : parseAddr (ipv4String v).toList = some ⟨32, v4InV6 v⟩ := by
  have hquad : ofBytes [v / 2 ^ 24, v / 2 ^ 16 % 2 ^ 8, v / 2 ^ 8 % 2 ^ 8, v % 2 ^ 8] = v := by
    simp only [ofBytes, List.foldl_cons, List.foldl_nil]
    omega
  rw [toList_ipv4String, parseAddr, find?_mark (fun x hx => ⟨(decimal_not_mark hx).1, (decimal_not_mark hx).2.1,
    (decimal_not_mark hx).2.2.1⟩) (.inl rfl)]
  simp only [parseIPv4]
  rw [parseIPv4Fields_quad (by omega) (by omega) (by omega) (by omega), Option.map_some, hquad]

theorem slash_not_mem_ipv4String (v : Nat) : '/' ∉ (ipv4String v).toList := by
  have hdec : ∀ n : Nat, '/' ∉ Nat.toDigits 10 n := fun n h => (decimal_not_mark h).2.2.2 rfl
  rw [toList_ipv4String]
  simp [hdec]

theorem toList_ipv6String (ip : Nat) : (ipv6String ip).toList =
    match longestRun ip with
    | none => joined ((List.range 8).map (group ip))
    | some (i, l) => joined (((List.range 8).map (group ip)).take i) ++
        ':' :: ':' :: joined (((List.range 8).map (group ip)).drop (i + l)) := by
  unfold ipv6String
  cases longestRun ip with
  | none => exact toList_colonJoin _
  | some r => simp [toList_colonJoin]

/-- A text of groups with a colon in it is read as an IPv6 address. -/
theorem parseAddr_groups (gs : List Nat) (s : List Char) (hs : 2 ≤ gs.length ∨ ∃ t, s = ':' :: t) :
    parseAddr (joined gs ++ s) = parseIPv6 (joined gs ++ s) := by
  have hmark : ∃ w t, joined gs ++ s = w ++ ':' :: t ∧ ∀ x ∈ w, x ≠ '.' ∧ x ≠ ':' ∧ x ≠ '%' := by
    have hhex : ∀ g : Nat, ∀ x ∈ Nat.toDigits 16 g, x ≠ '.' ∧ x ≠ ':' ∧ x ≠ '%' := fun g x hx =>
      ⟨(hex_not_mark hx).1, (hex_not_mark hx).2.1, (hex_not_mark hx).2.2.1⟩
    match gs, hs with
    | [], .inr ⟨t, ht⟩ => exact ⟨[], t, by simp [joined, ht], fun x hx => absurd hx List.not_mem_nil⟩
    | [g], .inr ⟨t, ht⟩ => exact ⟨Nat.toDigits 16 g, t, by simp [joined, ht], hhex g⟩
    | g :: g' :: gs, _ => exact ⟨Nat.toDigits 16 g, joined (g' :: gs) ++ s, by simp [joined], hhex g⟩
    | [], .inl h => exact absurd h (by simp)
    | [_], .inl h => exact absurd h (by simp)
  obtain ⟨w, t, hw, hnot⟩ := hmark
  unfold parseAddr
  rw [hw, find?_mark hnot (.inr rfl)]
  rfl

theorem parseAddr_ipv6String {ip : Nat} (hip : ip < 2 ^ 128) : parseAddr (ipv6String ip).toList = some ⟨128, ip⟩ := by
  have hlen : ((List.range 8).map (group ip)).length = 8 := by simp
  have hlt : ∀ g ∈ (List.range 8).map (group ip), g < 2 ^ 16 := by
    intro g hg
    obtain ⟨i, _, rfl⟩ := List.mem_map.1 hg
    exact Nat.mod_lt _ (by decide)
  rw [toList_ipv6String]
  cases hrun : longestRun ip with
  | none =>
    have haddr := parseAddr_groups ((List.range 8).map (group ip)) [] (.inl (by omega))
    rw [List.append_nil] at haddr
    rw [haddr, parseIPv6_joined _ hlen hlt, ofGroups_group hip]
  | some r =>
    obtain ⟨i, l⟩ := r
    obtain ⟨hl, hle, hzero⟩ := longestRun_spec hrun
    rw [parseAddr_groups _ _ (.inr ⟨_, rfl⟩), parseIPv6_ellipsis _ _ (by simp; omega)
      (fun g hg => hlt g ((List.mem_append.1 hg).elim List.mem_of_mem_take List.mem_of_mem_drop))]
    rw [show 8 - ((((List.range 8).map (group ip)).take i).length +
      (((List.range 8).map (group ip)).drop (i + l)).length) = l by simp; omega, restore_run hle hzero,
      ofGroups_group hip]

theorem slash_not_mem_ipv6String (ip : Nat) : '/' ∉ (ipv6String ip).toList := by
  have hjoined : ∀ gs : List Nat, '/' ∉ joined gs := fun gs h => by
    obtain h | ⟨g, hg⟩ := mem_joined h
    · exact absurd h (by decide)
    · exact (hex_not_mark hg).2.2.2 rfl
  rw [toList_ipv6String]
  split
  · exact hjoined _
  · simp [hjoined]

/-! ## Networks -/

theorem parseCIDR_text {addr : List Char} {a : Addr} {n : Nat} {s : String} (hslash : '/' ∉ addr)
    (ha : parseAddr addr = some a) (hn : n ≤ a.bitLen) (hs : s.toList = addr ++ '/' :: Nat.toDigits 10 n) :
    parseCIDR s = some ⟨a, n⟩ := by
  have hspan : (addr ++ '/' :: Nat.toDigits 10 n).span (· ≠ '/') = (addr, '/' :: Nat.toDigits 10 n) := by
    have hall : ∀ c ∈ addr, decide (c ≠ '/') = true := fun c hc => decide_eq_true (fun h => hslash (h ▸ hc))
    rw [List.span_eq_takeWhile_dropWhile, List.takeWhile_append_of_pos hall, List.dropWhile_append_of_pos hall]
    simp
  unfold parseCIDR
  rw [hs, hspan]
  simp [ha, dtoi_toDigits, show ¬ a.bitLen < n by omega]

theorem v4_bits : 32 = 32 ∨ 32 = 128 := .inl rfl

theorem IPNet.v4_ones_le (n : IPNet) : n.ones - (n.bits - 32) ≤ 32 := by
  have := n.ones_le
  omega

/-- The network as its text has it: one that `To4` takes for IPv4 has 4 bytes. -/
def IPNet.unmapped (n : IPNet) : IPNet :=
  match n.to4 with
  | some v => IPNet.mask 32 (n.ones - (n.bits - 32)) v v4_bits n.v4_ones_le
  | none => n

theorem IPNet.to4_lt {n : IPNet} {v : Nat} (h : n.to4 = some v) : v < 2 ^ 32 := by
  unfold IPNet.to4 at h
  split at h
  · rename_i hbits
    cases h
    exact hbits ▸ n.ip_lt
  · unfold Net.to4 at h
    split at h
    · cases h
      exact Nat.mod_lt _ (by decide)
    · cases h

/-- A network has no bits past its mask. -/
theorem IPNet.mask_eq (n : IPNet) {bits : Nat} (h : n.bits = bits) (hbits : bits = 32 ∨ bits = 128)
    (hones : n.ones ≤ bits) : IPNet.mask bits n.ones n.ip hbits hones = n := by
  subst h
  have hip : n.ip / 2 ^ (n.bits - n.ones) * 2 ^ (n.bits - n.ones) = n.ip :=
    Nat.div_mul_cancel (Nat.dvd_of_mod_eq_zero n.masked)
  unfold IPNet.mask
  simp only [Nat.mod_eq_of_lt n.ip_lt, hip]

theorem parseNet_of_cidr {s : String} {bits ones ip : Nat} (hbits : bits = 32 ∨ bits = 128) (hones : ones ≤ bits)
    (h : parseCIDR s = some ⟨⟨bits, ip⟩, ones⟩) : parseNet s = some (IPNet.mask bits ones ip hbits hones) := by
  unfold parseNet
  simp [h, hbits, hones]

theorem parseCIDR_string_of_to4 {n : IPNet} {v : Nat} (hv : n.to4 = some v) :
    parseCIDR n.string = some ⟨⟨32, v4InV6 v⟩, n.ones - (n.bits - 32)⟩ :=
  parseCIDR_text (slash_not_mem_ipv4String v) (parseAddr_ipv4String (IPNet.to4_lt hv)) n.v4_ones_le
    (by simp [IPNet.string, hv])

theorem IPNet.bits_of_to4 {n : IPNet} (hv : n.to4 = none) : n.bits = 128 :=
  n.bits_eq.resolve_left (fun h => by simp [IPNet.to4, h] at hv)

theorem parseCIDR_string_of_to4_none {n : IPNet} (hv : n.to4 = none) :
    parseCIDR n.string = some ⟨⟨128, n.ip⟩, n.ones⟩ :=
  have hbits := IPNet.bits_of_to4 hv
  parseCIDR_text (slash_not_mem_ipv6String n.ip) (parseAddr_ipv6String (hbits ▸ n.ip_lt)) (hbits ▸ n.ones_le)
    (by simp [IPNet.string, hv])

/-- **A network is read back from its text.** -/
theorem parseNet_string (n : IPNet) : parseNet n.string = some n.unmapped := by
  have hones := n.ones_le
  cases hv : n.to4 with
  | some v =>
    have hmod : v4InV6 v % 2 ^ 32 = v % 2 ^ 32 := by
      unfold v4InV6
      omega
    rw [parseNet_of_cidr (.inl rfl) n.v4_ones_le (parseCIDR_string_of_to4 hv)]
    simp only [IPNet.unmapped, hv, IPNet.mask, hmod]
  | none =>
    have hbits := IPNet.bits_of_to4 hv
    rw [parseNet_of_cidr (.inr rfl) (hbits ▸ hones) (parseCIDR_string_of_to4_none hv), n.mask_eq hbits]
    simp only [IPNet.unmapped, hv]

/-! ## What is read -/

/-- What is read as IPv4 has four octets. -/
theorem parseIPv4Fields_octets : ∀ (s : List Char) (fields : List Nat) (val digLen : Nat) (r : List Nat),
    parseIPv4Fields s fields val digLen = some r → fields.length ≤ 3 → (∀ b ∈ fields, b ≤ 255) → val ≤ 255 →
      r.length = 4 ∧ ∀ b ∈ r, b ≤ 255
  | [], fields, val, digLen, r, h, hlen, hfields, hval => by
    rw [parseIPv4Fields] at h
    split at h
    · cases h
    · cases h
      refine ⟨by rw [List.length_append, List.length_singleton]; omega, fun b hb => ?_⟩
      rcases List.mem_append.1 hb with hb | hb
      · exact hfields b hb
      · rw [List.mem_singleton.1 hb]
        exact hval
  | c :: s, fields, val, digLen, r, h, hlen, hfields, hval => by
    rw [parseIPv4Fields] at h
    split at h
    · split at h
      · cases h
      · split at h
        · cases h
        · exact parseIPv4Fields_octets s fields _ _ r h hlen hfields (by omega)
    · split at h
      · split at h
        · cases h
        · split at h
          · cases h
          · refine parseIPv4Fields_octets s (fields ++ [val]) 0 0 r h ?_ ?_ (by omega)
            · rw [List.length_append, List.length_singleton]
              omega
            · intro b hb
              rcases List.mem_append.1 hb with hb | hb
              · exact hfields b hb
              · rw [List.mem_singleton.1 hb]
                exact hval
      · cases h

theorem parseIPv4_to4 {s : List Char} {a : Addr} (h : parseIPv4 s = some a) :
    a.bitLen = 32 ∧ ∃ v, to4 a.as16 = some v := by
  unfold parseIPv4 at h
  obtain ⟨fields, hfields, rfl⟩ := Option.map_eq_some_iff.1 h
  obtain ⟨hlen, hbytes⟩ := parseIPv4Fields_octets s [] 0 0 fields hfields (by simp) (by simp) (by omega)
  have hlt : ofBytes fields < 2 ^ 32 := by
    match fields, hlen with
    | [a, b, c, d], _ =>
      have ha := hbytes a (by simp)
      have hb := hbytes b (by simp)
      have hc := hbytes c (by simp)
      have hd := hbytes d (by simp)
      simp only [ofBytes, List.foldl_cons, List.foldl_nil]
      omega
  refine ⟨rfl, ofBytes fields, ?_⟩
  unfold to4 v4InV6
  simp only
  rw [if_pos (by omega)]
  congr 1
  omega

theorem parseIPv6_bitLen {s : List Char} {a : Addr} (h : parseIPv6 s = some a) : a.bitLen = 128 := by
  have hread : ∀ start : Option Nat × List Char, (do
      if start = (some 0, []) then return (⟨128, 0⟩ : Addr)
      let read ← parseIPv6Loop 8 start.2 [] start.1
      if read.2.2 ≠ [] then none
      let gs ← expandGroups read.1 read.2.1
      return ⟨128, ofGroups gs⟩ : Option Addr) = some a → a.bitLen = 128 := by
    intro start h
    split at h
    · cases h
      rfl
    · obtain ⟨read, -, h⟩ := Option.bind_eq_some_iff.1 h
      split at h
      · cases h
      · obtain ⟨gs, -, h⟩ := Option.bind_eq_some_iff.1 h
        cases h
        rfl
  exact hread _ h

/-- **A text that is read is IPv4, or IPv6 as it is written.** -/
theorem parseAddr_cases {s : List Char} {a : Addr} (h : parseAddr s = some a) :
    (a.bitLen = 32 ∧ ∃ v, to4 a.as16 = some v) ∨ a.bitLen = 128 := by
  unfold parseAddr at h
  split at h
  · exact Or.inl (parseIPv4_to4 h)
  · exact Or.inr (parseIPv6_bitLen h)
  · cases h

/-- The address of a prefix is what stands before the slash. -/
theorem parseCIDR_split {s : String} {c : CIDR} (h : parseCIDR s = some c) :
    ∃ addr mask, s.toList = addr ++ '/' :: mask ∧ '/' ∉ addr ∧ parseAddr addr = some c.addr ∧
    c.ones ≤ c.addr.bitLen := by
  have hsplit := List.takeWhile_append_dropWhile (p := fun x => decide (x ≠ '/')) (l := s.toList)
  have hslash : '/' ∉ s.toList.takeWhile (fun x => decide (x ≠ '/')) := by
    intro hmem
    exact absurd (List.all_eq_true.1 List.all_takeWhile _ hmem) (by simp)
  unfold parseCIDR at h
  rw [List.span_eq_takeWhile_dropWhile] at h
  cases hd : s.toList.dropWhile (fun x => decide (x ≠ '/')) with
  | nil =>
    rw [hd] at h
    cases h
  | cons x mask =>
    have hx : x = '/' := by
      have := List.head?_dropWhile_not (fun x => decide (x ≠ '/')) s.toList
      rw [hd] at this
      simpa using this
    rw [hd] at h hsplit
    subst hx
    obtain ⟨a, ha, h⟩ := Option.bind_eq_some_iff.1 h
    obtain ⟨n, -, h⟩ := Option.bind_eq_some_iff.1 h
    split at h
    · cases h
    · rename_i hle
      cases h
      exact ⟨_, mask, hsplit.symm, hslash, ha, Nat.le_of_not_lt hle⟩

end Net
end FrrK8s
