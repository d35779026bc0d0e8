import Mathlib.Data.Nat.Digits.Lemmas
import Mathlib.Logic.Function.Iterate
/-!
# Crc — cyclic redundancy checks

A check of `w` bits, in the reflected form: the remainder is moved down bit by bit, and where a one falls out the
polynomial is added.  A move is linear and, as the constant term of the polynomial is one, injective.  So what tells two
messages of one length apart is the check of their difference, and a difference within `w` bits in a row is never lost
(`crcUpdate_burst`).
-/
namespace FrrK8s

section

variable {w : Nat} (poly : BitVec w)

/-- The remainder moved down by a bit. -/
def crcShift (c : BitVec w) : BitVec w := (c >>> 1) ^^^ (if c.getLsbD 0 then poly else 0#w)

/-- A byte is added to the low end and moved out. -/
def crcByte (c : BitVec w) (b : BitVec 8) : BitVec w := (crcShift poly)^[8] (c ^^^ b.setWidth w)

def crcUpdate (c : BitVec w) (bytes : List (BitVec 8)) : BitVec w := bytes.foldl (crcByte poly) c

/-! ## Moves -/

theorem crcShift_xor (a b : BitVec w) : crcShift poly (a ^^^ b) = crcShift poly a ^^^ crcShift poly b := by
  unfold crcShift
  rw [BitVec.getLsbD_xor, BitVec.ushiftRight_xor_distrib]
  apply BitVec.eq_of_getLsbD_eq
  intro i hi
  cases a.getLsbD 0 <;> cases b.getLsbD 0 <;> simp <;> grind

theorem crcShifts_xor (n : Nat) (a b : BitVec w) :
    (crcShift poly)^[n] (a ^^^ b) = (crcShift poly)^[n] a ^^^ (crcShift poly)^[n] b := by
  induction n generalizing a b with
  | zero => rfl
  | succ n ih =>
    rw [Function.iterate_succ_apply, Function.iterate_succ_apply, Function.iterate_succ_apply, crcShift_xor, ih]

/-- Zeros that fall out leave the rest as it is. -/
theorem crcShifts_shiftLeft : ∀ (n : Nat) (x : BitVec w), x.toNat * 2 ^ n < 2 ^ w → (crcShift poly)^[n] (x <<< n) = x
  | 0, x, _ => by simp
  | n + 1, x, hx => by
    have hlow : x.toNat * 2 ^ n < 2 ^ w := by
      rw [Nat.pow_succ, ← Nat.mul_assoc] at hx
      omega
    have hmoved : crcShift poly (x <<< (n + 1)) = x <<< n := by
      have hbit : (x <<< (n + 1)).getLsbD 0 = false := by simp
      rw [crcShift, hbit, if_neg Bool.false_ne_true, BitVec.xor_zero]
      apply BitVec.eq_of_toNat_eq
      rw [BitVec.toNat_ushiftRight, BitVec.toNat_shiftLeft, BitVec.toNat_shiftLeft, Nat.shiftLeft_eq, Nat.shiftLeft_eq,
        Nat.mod_eq_of_lt hx, Nat.mod_eq_of_lt hlow, Nat.shiftRight_eq_div_pow, Nat.pow_succ,
        ← Nat.mul_assoc, Nat.pow_one, Nat.mul_div_cancel _ Nat.two_pos]
    rw [Function.iterate_succ_apply, hmoved]
    exact crcShifts_shiftLeft n x hlow

variable {poly}

theorem crcShift_eq_zero (hpoly : poly.msb = true) {c : BitVec w} (h : crcShift poly c = 0#w) : c = 0#w := by
  have hrest : c >>> 1 = if c.getLsbD 0 then poly else 0#w := BitVec.xor_eq_zero_iff.1 h
  by_cases hbit : c.getLsbD 0 = true
  · -- the highest bit of what is left is zero, that of the polynomial is one
    rw [if_pos hbit] at hrest
    have htop := congrArg BitVec.msb hrest
    rw [hpoly, BitVec.msb_eq_getLsbD_last, BitVec.getLsbD_ushiftRight, BitVec.getLsbD_of_ge _ _ (by omega)] at htop
    cases htop
  · rw [if_neg hbit] at hrest
    apply BitVec.eq_of_getLsbD_eq
    intro i hi
    cases i with
    | zero => simpa using hbit
    | succ i =>
      have hbits := congrArg (fun x => x.getLsbD i) hrest
      rw [BitVec.getLsbD_ushiftRight, Nat.add_comm] at hbits
      simpa using hbits

/-- A move loses nothing. -/
theorem crcShift_injective (hpoly : poly.msb = true) : Function.Injective (crcShift poly) := by
  intro a b h
  refine BitVec.xor_eq_zero_iff.1 (crcShift_eq_zero hpoly ?_)
  rw [crcShift_xor, h, BitVec.xor_self]

/-! ## Messages -/

theorem crcByte_xor (c : BitVec w) (b : BitVec 8) :
    crcByte poly c b = (crcShift poly)^[8] c ^^^ crcByte poly 0#w b := by
  rw [crcByte, crcByte, crcShifts_xor, BitVec.zero_xor]

/-- What was there before a message and the message do not mix. -/
theorem crcUpdate_xor (bytes : List (BitVec 8)) (c : BitVec w) :
    crcUpdate poly c bytes = (crcShift poly)^[8 * bytes.length] c ^^^ crcUpdate poly 0#w bytes := by
  induction bytes generalizing c with
  | nil => exact (BitVec.xor_zero).symm
  | cons b bytes ih =>
    have hcons : ∀ c, crcUpdate poly c (b :: bytes) = crcUpdate poly (crcByte poly c b) bytes := fun _ => rfl
    rw [hcons, hcons, ih, ih (crcByte poly 0#w b), crcByte_xor c, crcShifts_xor, ← Function.iterate_add_apply,
      BitVec.xor_assoc, List.length_cons, Nat.mul_succ]

theorem crcUpdate_append (c : BitVec w) (x y : List (BitVec 8)) :
    crcUpdate poly c (x ++ y) = crcUpdate poly (crcUpdate poly c x) y := List.foldl_append

/-- The bytes side by side, the first one lowest. -/
def sideBySide (w : Nat) (bytes : List (BitVec 8)) : BitVec w :=
  BitVec.ofNat w (Nat.ofDigits 256 (bytes.map BitVec.toNat))

theorem map_toNat_lt (bytes : List (BitVec 8)) : ∀ d ∈ bytes.map BitVec.toNat, d < 256 := fun d hd => by
  obtain ⟨b, _, rfl⟩ := List.mem_map.1 hd
  exact b.isLt

theorem ofDigits_bytes_lt (bytes : List (BitVec 8)) :
    Nat.ofDigits 256 (bytes.map BitVec.toNat) < 2 ^ (8 * bytes.length) := by
  have hlt := Nat.ofDigits_lt_base_pow_length (by omega) (map_toNat_lt bytes)
  rwa [List.length_map, show 256 = 2 ^ 8 from rfl, ← Nat.pow_mul] at hlt

theorem sideBySide_cons (b : BitVec 8) (bytes : List (BitVec 8)) :
    sideBySide w (b :: bytes) = b.setWidth w ^^^ (sideBySide w bytes <<< 8) := by
  apply BitVec.eq_of_getLsbD_eq
  intro i hi
  have hdigits : Nat.ofDigits 256 ((b :: bytes).map BitVec.toNat) =
      2 ^ 8 * Nat.ofDigits 256 (bytes.map BitVec.toNat) + b.toNat := by
    rw [List.map_cons, Nat.ofDigits_cons]
    omega
  simp only [sideBySide, hdigits, BitVec.getLsbD_xor, BitVec.getLsbD_setWidth, BitVec.getLsbD_shiftLeft,
    BitVec.getLsbD_ofNat, hi, Nat.testBit_two_pow_mul_add _ b.isLt]
  by_cases hlow : i < 8
  · simp [hlow, BitVec.getLsbD]
  · have hlt : i - 8 < w := by omega
    simp [hlow, hlt, BitVec.getLsbD_of_ge b i (by omega)]

/-- A short message is the moves of its bytes side by side. -/
theorem crcUpdate_short (bytes : List (BitVec 8)) (hshort : 8 * bytes.length ≤ w) :
    crcUpdate poly 0#w bytes = (crcShift poly)^[8 * bytes.length] (sideBySide w bytes) := by
  induction bytes with
  | nil => rfl
  | cons b bytes ih =>
    rw [List.length_cons, Nat.mul_succ] at hshort ⊢
    have hroom : (sideBySide w bytes).toNat * 2 ^ 8 < 2 ^ w := by
      have hlt := ofDigits_bytes_lt bytes
      have hpow : 2 ^ (8 * bytes.length) * 2 ^ 8 ≤ 2 ^ w := by
        rw [← Nat.pow_add]
        exact Nat.pow_le_pow_right Nat.two_pos hshort
      have hmod : (sideBySide w bytes).toNat ≤ Nat.ofDigits 256 (bytes.map BitVec.toNat) := Nat.mod_le _ _
      omega
    calc crcUpdate poly 0#w (b :: bytes)
        = (crcShift poly)^[8 * bytes.length] (crcByte poly 0#w b) ^^^ crcUpdate poly 0#w bytes := crcUpdate_xor bytes _
      _ = (crcShift poly)^[8 * bytes.length] ((crcShift poly)^[8] (b.setWidth w) ^^^ sideBySide w bytes) := by
        rw [ih (by omega), ← crcShifts_xor, crcByte, BitVec.zero_xor]
      _ = (crcShift poly)^[8 * bytes.length] ((crcShift poly)^[8] (sideBySide w (b :: bytes))) := by
        rw [sideBySide_cons, crcShifts_xor poly 8, crcShifts_shiftLeft poly 8 _ hroom]
      _ = (crcShift poly)^[8 * bytes.length + 8] (sideBySide w (b :: bytes)) :=
      (Function.iterate_add_apply _ _ _ _).symm

theorem sideBySide_inj {x y : List (BitVec 8)} (hlength : x.length = y.length) (hshort : 8 * x.length ≤ w)
    (h : sideBySide w x = sideBySide w y) : x = y := by
  have hfits : ∀ z : List (BitVec 8), z.length = x.length →
      (sideBySide w z).toNat = Nat.ofDigits 256 (z.map BitVec.toNat) := fun z hz => by
    refine Nat.mod_eq_of_lt ((ofDigits_bytes_lt z).trans_le ?_)
    rw [hz]
    exact Nat.pow_le_pow_right Nat.two_pos hshort
  have hdigits := congrArg BitVec.toNat h
  rw [hfits x rfl, hfits y hlength.symm] at hdigits
  have hmap := Nat.ofDigits_inj_of_len_eq (by omega) (by simp [hlength]) (map_toNat_lt x) (map_toNat_lt y) hdigits
  exact List.map_injective_iff.2 (fun _ _ => BitVec.eq_of_toNat_eq) hmap

/-- **A difference within `w` bits in a row is never lost.** -/
theorem crcUpdate_burst (hpoly : poly.msb = true) (c : BitVec w) (before after : List (BitVec 8))
    {x y : List (BitVec 8)} (hlength : x.length = y.length) (hshort : 8 * x.length ≤ w)
    (h : crcUpdate poly c (before ++ x ++ after) = crcUpdate poly c (before ++ y ++ after)) : x = y := by
  have hinj : ∀ n, Function.Injective (crcShift poly)^[n] := (crcShift_injective hpoly).iterate
  rw [crcUpdate_append, crcUpdate_append, crcUpdate_append, crcUpdate_append, crcUpdate_xor after,
    crcUpdate_xor after (crcUpdate poly (crcUpdate poly c before) y), BitVec.xor_left_inj] at h
  have hmiddle := hinj _ h
  rw [crcUpdate_xor x, crcUpdate_xor y, hlength, BitVec.xor_right_inj, crcUpdate_short x hshort,
    crcUpdate_short y (hlength ▸ hshort), hlength] at hmiddle
  exact sideBySide_inj hlength hshort (hinj _ hmiddle)

end

end FrrK8s
