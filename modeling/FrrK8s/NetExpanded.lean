import FrrK8s.NetText
import FrrK8s.Text
/-!
# NetExpanded — addresses without abbreviations (`netip.ParseAddr`, `Addr.StringExpanded`)

What `ParseAddr` reads is an address of at most 128 bits (`parseIPv6_lt`), and `StringExpanded` writes each of them with
its own 39 characters (`stringExpanded_inj`).
-/
namespace FrrK8s
namespace Net

/-! ## Addresses are within 128 bits -/

theorem hexVal_lt {c : Char} {v : Nat} (h : hexVal c = some v) : v < 16 := by
  unfold hexVal at h
  split at h
  · rename_i hdigit
    obtain rfl := Option.some.inj h
    have hle : c.toNat ≤ '9'.toNat := by
      simp only [Char.isDigit, Bool.and_eq_true, decide_eq_true_eq] at hdigit
      exact hdigit.2
    have hval : '9'.toNat = 57 ∧ '0'.toNat = 48 := by decide
    unfold digitVal
    omega
  split at h
  · rename_i hletter
    obtain rfl := Option.some.inj h
    have hle : c.toNat ≤ 'f'.toNat := hletter.2
    have hval : 'f'.toNat = 102 ∧ 'a'.toNat = 97 := by decide
    omega
  split at h
  · rename_i hletter
    obtain rfl := Option.some.inj h
    have hle : c.toNat ≤ 'F'.toNat := hletter.2
    have hval : 'F'.toNat = 70 ∧ 'A'.toNat = 65 := by decide
    omega
  · cases h

theorem takeHex_lt :
    ∀ (s : List Char) {acc off : Nat}, acc < 16 ^ off → (takeHex s acc off).1 < 16 ^ (takeHex s acc off).2.1
  | [], _, _, h => h
  | c :: s, acc, off, h => by
    rw [takeHex]
    split
    · rename_i v hv
      refine takeHex_lt s ?_
      have hlt := hexVal_lt hv
      rw [Nat.pow_succ]
      omega
    · exact h

/-- At most eight groups are read, of 16 bits each. -/
theorem parseIPv6Loop_groups : ∀ (fuel : Nat) {s : List Char} {groups : List Nat} {ellipsis : Option Nat}
    {r : List Nat × Option Nat × List Char}, groups.length + fuel ≤ 8 → (∀ g ∈ groups, g < 2 ^ 16) →
      parseIPv6Loop fuel s groups ellipsis = some r → r.1.length ≤ 8 ∧ ∀ g ∈ r.1, g < 2 ^ 16
  | 0, s, groups, ellipsis, r, hlength, hgroups, h => by
    obtain rfl := Option.some.inj h
    exact ⟨hlength, hgroups⟩
  | fuel + 1, s, groups, ellipsis, r, hlength, hgroups, h => by
    have hlt := takeHex_lt s (show 0 < 16 ^ 0 by decide)
    rw [parseIPv6Loop] at h
    generalize takeHex s 0 0 = taken at h hlt
    obtain ⟨acc, off, rest⟩ := taken
    simp only at h hlt
    split at h
    · cases h
    rename_i hoff
    have hacc : acc < 2 ^ 16 :=
      calc acc < 16 ^ off := hlt
        _ ≤ 16 ^ 4 := Nat.pow_le_pow_right (by decide) (by omega)
        _ = 2 ^ 16 := by decide
    have hnext : (groups ++ [acc]).length + fuel ≤ 8 := by
      rw [List.length_append, List.length_singleton]
      omega
    have hread : ∀ g ∈ groups ++ [acc], g < 2 ^ 16 :=
      List.forall_mem_append.2 ⟨hgroups, List.forall_mem_singleton.2 hacc⟩
    have hlast : (groups ++ [acc]).length ≤ 8 ∧ ∀ g ∈ groups ++ [acc], g < 2 ^ 16 := ⟨by omega, hread⟩
    split at h
    · split at h
      · cases h
      rename_i hroom
      split at h
      · rename_i a b c d hfields
        obtain rfl := Option.some.inj h
        obtain ⟨-, hoctets⟩ := parseIPv4Fields_octets _ _ _ _ _ hfields (by simp) (by simp) (by decide)
        simp only [List.forall_mem_cons] at hoctets
        refine ⟨by rw [List.length_append, List.length_cons, List.length_singleton]; omega, ?_⟩
        refine List.forall_mem_append.2 ⟨hgroups, List.forall_mem_cons.2
          ⟨by omega, List.forall_mem_singleton.2 (by omega)⟩⟩
      · cases h
    · obtain rfl := Option.some.inj h
      exact hlast
    · cases h
    · split at h
      · cases h
      split at h
      · obtain rfl := Option.some.inj h
        exact hlast
      · exact parseIPv6Loop_groups fuel hnext hread h
    · exact parseIPv6Loop_groups fuel hnext hread h
    · cases h

theorem ofGroups_lt : ∀ (gs : List Nat), (∀ g ∈ gs, g < 2 ^ 16) → ofGroups gs < 2 ^ (16 * gs.length) := by
  intro gs
  induction gs using List.reverseRecOn with
  | nil => exact fun _ => by decide
  | append_singleton gs g ih =>
    intro hgs
    have hlt := ih (fun x hx => hgs x (List.mem_append_left _ hx))
    have hg := hgs g (by simp)
    have hfold : ofGroups (gs ++ [g]) = ofGroups gs * 2 ^ 16 + g := by simp [ofGroups]
    rw [hfold, List.length_append, List.length_singleton, Nat.mul_add, Nat.pow_add]
    omega

theorem expandGroups_groups {groups gs : List Nat} {ellipsis : Option Nat} (hlength : groups.length ≤ 8)
    (hgroups : ∀ g ∈ groups, g < 2 ^ 16) (h : expandGroups groups ellipsis = some gs) :
    gs.length ≤ 8 ∧ ∀ g ∈ gs, g < 2 ^ 16 := by
  unfold expandGroups at h
  split at h
  · obtain ⟨k, -, rfl⟩ := Option.map_eq_some_iff.1 h
    constructor
    · simp only [List.length_append, List.length_take, List.length_drop, List.length_replicate]
      omega
    · intro g hg
      rw [List.mem_append, List.mem_append] at hg
      obtain (hg | hg) | hg := hg
      · exact hgroups g (List.mem_of_mem_take hg)
      · rw [List.eq_of_mem_replicate hg]
        decide
      · exact hgroups g (List.mem_of_mem_drop hg)
  split at h
  · cases h
  · obtain rfl := Option.some.inj h
    exact ⟨hlength, hgroups⟩

theorem parseIPv6_lt {s : List Char} {a : Addr} (h : parseIPv6 s = some a) : a.as16 < 2 ^ 128 := by
  have hread : ∀ start : Option Nat × List Char, (do
      if start = (some 0, []) then return (⟨128, 0⟩ : Addr)
      let read ← parseIPv6Loop 8 start.2 [] start.1
      if read.2.2 ≠ [] then none
      let gs ← expandGroups read.1 read.2.1
      return ⟨128, ofGroups gs⟩ : Option Addr) = some a → a.as16 < 2 ^ 128 := by
    intro start h
    split at h
    · cases h
      decide
    · obtain ⟨read, hloop, h⟩ := Option.bind_eq_some_iff.1 h
      split at h
      · cases h
      · obtain ⟨gs, hexpand, h⟩ := Option.bind_eq_some_iff.1 h
        cases h
        obtain ⟨hlength, hgroups⟩ := parseIPv6Loop_groups 8 (by simp) (by simp) hloop
        obtain ⟨hlength, hgroups⟩ := expandGroups_groups hlength hgroups hexpand
        exact (ofGroups_lt gs hgroups).trans_le (Nat.pow_le_pow_right (by decide) (by omega))
  exact hread _ h

/-! ## Texts without abbreviations -/

/-- An IPv4 address has a dot. -/
theorem parseAddrZone_cases {s zone : List Char} {a : Addr} (h : parseAddrZone s = some (a, zone)) :
    (a.bitLen = 32 ∧ '.' ∈ s) ∨ (a.bitLen = 128 ∧ a.as16 < 2 ^ 128) := by
  have hsix : ∀ {t : List Char} {z : List Char}, (parseIPv6 t).map (fun a => (a, z)) = some (a, zone) →
      a.bitLen = 128 ∧ a.as16 < 2 ^ 128 := by
    intro t z ht
    obtain ⟨b, hb, heq⟩ := Option.map_eq_some_iff.1 ht
    obtain ⟨rfl, -⟩ := Prod.mk.inj heq
    exact ⟨parseIPv6_bitLen hb, parseIPv6_lt hb⟩
  unfold parseAddrZone at h
  split at h
  · rename_i hfind
    obtain ⟨b, hb, heq⟩ := Option.map_eq_some_iff.1 h
    obtain ⟨rfl, -⟩ := Prod.mk.inj heq
    exact .inl ⟨(parseIPv4_to4 hb).1, List.mem_of_find?_eq_some hfind⟩
  · split at h
    · exact .inr (hsix h)
    split at h
    · cases h
    · exact .inr (hsix h)
  · cases h

/-! A group with its leading zeros has four digits, and they tell which group it is. -/

theorem toList_hexPad (g : Nat) :
    (hexPad g).toList = List.replicate (4 - (Nat.toDigits 16 g).length) '0' ++ Nat.toDigits 16 g := by
  simp [hexPad]

theorem length_hexPad {g : Nat} (hg : g < 2 ^ 16) : (hexPad g).toList.length = 4 := by
  have hlen : (Nat.toDigits 16 g).length ≤ 4 := (Nat.length_toDigits_le_iff (by decide) (by decide)).2
    (by simpa using hg)
  rw [toList_hexPad, List.length_append, List.length_replicate]
  omega

theorem takeHex_zeros (s : List Char) : ∀ n off : Nat, takeHex (List.replicate n '0' ++ s) 0 off = takeHex s 0 (off + n)
  | 0, off => rfl
  | n + 1, off => by
    have hzero : hexVal '0' = some 0 := by decide
    rw [List.replicate_succ, List.cons_append, takeHex, hzero]
    simp only [Nat.zero_mul, Nat.zero_add]
    rw [takeHex_zeros s n, Nat.add_assoc, Nat.add_comm 1 n]

theorem hexPad_inj {g g' : Nat} (h : (hexPad g).toList = (hexPad g').toList) : g = g' := by
  have hread : ∀ g : Nat, (takeHex (hexPad g).toList 0 0).1 = g := by
    intro g
    rw [toList_hexPad, takeHex_zeros, ← List.append_nil (Nat.toDigits 16 g), takeHex_digits]
    rfl
  rw [← hread g, h, hread g']

theorem hexPad_char {g : Nat} {c : Char} (hc : c ∈ (hexPad g).toList) : c ≠ '.' ∧ c ≠ ':' ∧ c ≠ '-' := by
  rw [toList_hexPad, List.mem_append, List.mem_replicate] at hc
  obtain ⟨-, rfl⟩ | hc := hc
  · decide
  · obtain ⟨d, hd, rfl⟩ := mem_toDigits_hex hc
    exact (by decide : ∀ d < 16, Nat.digitChar d ≠ '.' ∧ Nat.digitChar d ≠ ':' ∧ Nat.digitChar d ≠ '-') d hd

/-- The text of an address without abbreviations. -/
theorem toList_stringExpanded (ip : Nat) :
    (stringExpanded ip []).toList = [':'].intercalate ((List.range 8).map (fun i => (hexPad (group ip i)).toList)) := by
  simp [stringExpanded, String.toList_intercalate, Function.comp_def]

theorem length_stringExpanded (ip : Nat) : (stringExpanded ip []).toList.length = 39 := by
  have hpad : ∀ i, (hexPad (group ip i)).toList.length = 4 := fun i => length_hexPad (Nat.mod_lt _ (by decide))
  rw [toList_stringExpanded, show List.range 8 = [0, 1, 2, 3, 4, 5, 6, 7] from rfl]
  simp [List.intercalate_cons_cons, hpad]

theorem stringExpanded_char {ip : Nat} {c : Char} (hc : c ∈ (stringExpanded ip []).toList) : c ≠ '.' ∧ c ≠ '-' := by
  rw [toList_stringExpanded] at hc
  obtain hc | ⟨w, hw, hc⟩ := mem_intercalate hc
  · rw [List.mem_singleton.1 hc]
    decide
  · obtain ⟨i, -, rfl⟩ := List.mem_map.1 hw
    exact ⟨(hexPad_char hc).1, (hexPad_char hc).2.2⟩

theorem stringExpanded_inj {ip ip' : Nat} (hip : ip < 2 ^ 128) (hip' : ip' < 2 ^ 128)
    (h : (stringExpanded ip []).toList = (stringExpanded ip' []).toList) : ip = ip' := by
  have hcolon : ∀ ip : Nat, ∀ w ∈ (List.range 8).map (fun i => (hexPad (group ip i)).toList), ':' ∉ w := by
    intro ip w hw hc
    obtain ⟨i, -, rfl⟩ := List.mem_map.1 hw
    exact (hexPad_char hc).2.1 rfl
  rw [toList_stringExpanded, toList_stringExpanded] at h
  have hgroups := List.map_inj_left.1 (intercalate_inj (hcolon ip) (hcolon ip') (by simp) (by simp) h)
  rw [← ofGroups_group hip, ← ofGroups_group hip', List.map_inj_left.2 (fun i hi => hexPad_inj (hgroups i hi))]

end Net

end FrrK8s
