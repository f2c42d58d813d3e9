import PayloadSchema.Proofs.Number.Range

/-!
The rational numbers that numerals, floats and decimals stand for. A whole float of less than 96
bits is the decimal of the same value, and a larger one never comes down to the size of a machine
integer.
-/
namespace PayloadSchema

theorem exists_int_div_iff {i : ℤ} {b : ℕ} (hb : 0 < b) :
    (∃ j : ℤ, (i : ℚ) / b = j) ↔ i.natAbs % b = 0 := by
  have hb' : (b : ℚ) ≠ 0 := by exact_mod_cast hb.ne'
  rw [← Nat.dvd_iff_mod_eq_zero, ← Int.natCast_dvd]
  constructor
  · rintro ⟨j, hj⟩
    rw [div_eq_iff hb'] at hj
    exact ⟨j, by rw [mul_comm]; exact_mod_cast hj⟩
  · rintro ⟨j, rfl⟩
    exact ⟨j, by push_cast; rw [mul_div_cancel_left₀ _ hb']⟩

/-- A sign and a magnitude tell a number, unless it is zero. -/
theorem eq_of_signed_eq {p q : Bool} {a b : ℚ} (ha : 0 ≤ a) (hb : 0 < b)
    (h : (if p then -a else a) = if q then -b else b) : p = q ∧ a = b := by
  cases p <;> cases q <;> simp only [Bool.false_eq_true, if_true, if_false] at h
  · exact ⟨rfl, h⟩
  · linarith
  · linarith
  · exact ⟨rfl, neg_inj.1 h⟩

theorem compare_scaled (a b : ℤ) {c : ℚ} (hc : 0 < c) :
    Ord.compare a b = Ord.compare (a * c : ℚ) (b * c) := by
  have hlt : a < b ↔ (a * c : ℚ) < b * c := by
    rw [mul_lt_mul_iff_left₀ hc, Int.cast_lt]
  have heq : a = b ↔ (a * c : ℚ) = b * c := by
    rw [mul_left_inj' hc.ne', Int.cast_inj]
  rw [LinearOrder.compare_eq_compareOfLessAndEq, LinearOrder.compare_eq_compareOfLessAndEq]
  simp only [compareOfLessAndEq, hlt, heq]

namespace Scientific

def signed (s : Scientific) : ℤ := if s.negative then -s.coefficient else s.coefficient

def toRat (s : Scientific) : ℚ := s.signed * 10 ^ s.exponent

theorem toRat_eq (s : Scientific) :
    s.toRat = if s.negative then -(s.coefficient * 10 ^ s.exponent : ℚ)
      else s.coefficient * 10 ^ s.exponent := by
  rw [toRat, signed]
  split <;> simp

end Scientific

theorem Numeral.toRat_of_toInt? {n : Numeral} {i : ℤ} (h : n.toInt? = some i) :
    n.toScientific.toRat = i := by
  obtain ⟨hfraction, hexponent, rfl⟩ := toInt?_eq_some h
  obtain ⟨negative, whole, fraction, exponent⟩ := n
  cases hfraction
  cases hexponent
  simp [Scientific.toRat, Scientific.signed, toScientific]

namespace Decimal

def toRat (d : Decimal) : ℚ := d.signed / (10 ^ d.scale : ℕ)

theorem compare_eq (a b : Decimal) : a.compare b = Ord.compare a.toRat b.toRat := by
  have ha : (0 : ℚ) < 10 ^ a.scale := by positivity
  have hb : (0 : ℚ) < 10 ^ b.scale := by positivity
  rw [compare, compare_scaled _ _ (inv_pos.2 (mul_pos ha hb)), toRat, toRat]
  push_cast [pow10_eq]
  congr 1 <;> field_simp

theorem natAbs_signed (d : Decimal) : d.signed.natAbs = d.mantissa := by
  rw [signed]
  split <;> simp

theorem isWhole_iff (d : Decimal) : d.isWhole = true ↔ ∃ i : ℤ, d.toRat = i := by
  rw [isWhole, beq_iff_eq, ← natAbs_signed]
  exact (exists_int_div_iff (Nat.pow_pos (by decide))).symm

theorem truncate_eq {d : Decimal} {i : ℤ} (h : d.toRat = i) : d.truncate = i := by
  have hpow : ((10 ^ d.scale : ℕ) : ℚ) ≠ 0 := by positivity
  rw [toRat, div_eq_iff hpow] at h
  have hsigned : d.signed = i * (10 ^ d.scale : ℕ) := by exact_mod_cast h
  rw [truncate, hsigned, pow10_eq]
  exact Int.mul_tdiv_cancel _ (by positivity)

theorem toRat_of_scale {d : Decimal} (h : d.scale = 0) :
    d.toRat = if d.negative then -(d.mantissa : ℚ) else d.mantissa := by
  rw [toRat, h, pow_zero, Nat.cast_one, div_one, signed]
  split <;> simp

end Decimal

namespace Binary64

def toRat (x : Binary64) : ℚ := x.signed * 2 ^ x.exponent

theorem toRat_eq (x : Binary64) :
    x.toRat = if x.negative then -(x.significand * 2 ^ x.exponent : ℚ)
      else x.significand * 2 ^ x.exponent := by
  rw [toRat, signed]
  split <;> simp

theorem compare_eq (x y : Binary64) : x.compare y = Ord.compare x.toRat y.toRat := by
  have hvalue (s e low : ℤ) (h : low ≤ e) :
      ((s * pow2 (e - low).toNat : ℤ) : ℚ) * 2 ^ low = s * 2 ^ e := by
    have hshift : (2 : ℚ) ^ e = 2 ^ (e - low).toNat * 2 ^ low := by
      rw [← zpow_natCast, ← zpow_add₀ (by norm_num)]
      congr 1
      omega
    rw [hshift]
    push_cast [pow2_eq]
    ring
  have hpow : (0 : ℚ) < 2 ^ min x.exponent y.exponent := by positivity
  rw [compare, compare_scaled _ _ hpow, hvalue _ _ _ (min_le_left _ _),
    hvalue _ _ _ (min_le_right _ _), toRat, toRat]

theorem natAbs_signed (x : Binary64) : x.signed.natAbs = x.significand := by
  rw [signed]
  split <;> simp

theorem toRat_of_nonneg {x : Binary64} {q : ℕ} (hq : x.exponent = q) :
    x.toRat = (x.signed * (2 ^ q : ℕ) : ℤ) := by
  rw [toRat, hq, zpow_natCast]
  push_cast
  rfl

theorem toRat_of_neg {x : Binary64} {k : ℕ} (hk : x.exponent = -k) :
    x.toRat = x.signed / (2 ^ k : ℕ) := by
  rw [toRat, hk, zpow_neg, zpow_natCast, ← div_eq_mul_inv]
  push_cast
  rfl

theorem isWhole_iff (x : Binary64) : x.isWhole = true ↔ ∃ i : ℤ, x.toRat = i := by
  rw [isWhole, Bool.or_eq_true, decide_eq_true_eq, beq_iff_eq]
  rcases Int.le_total 0 x.exponent with hexp | hexp
  · obtain ⟨q, hq⟩ := Int.eq_ofNat_of_zero_le hexp
    exact iff_of_true (.inl hexp) ⟨_, toRat_of_nonneg hq⟩
  · obtain ⟨k, hk⟩ : ∃ k : ℕ, x.exponent = -k := ⟨(-x.exponent).toNat, by omega⟩
    rw [toRat_of_neg hk, exists_int_div_iff (Nat.two_pow_pos k), natAbs_signed, hk, neg_neg,
      Int.toNat_natCast, pow2_eq, or_iff_right_iff_imp]
    intro hnonneg
    obtain rfl : k = 0 := by omega
    exact Nat.mod_one _

theorem attracts_self (x : Binary64) : x.Attracts (x.significand * 2 ^ x.exponent) := by
  have hvalue : (x.significand : ℚ) * 2 ^ x.exponent =
      4 * x.significand * 2 ^ (x.exponent - 2) := by
    rw [show x.exponent = x.exponent - 2 + 1 + 1 by ring, two_zpow_succ, two_zpow_succ]
    ring_nf
  have hgap : (0 : ℚ) < x.gapBelow := by
    rw [gapBelow_eq]
    split <;> norm_num
  have hlow : x.low < x.significand * 2 ^ x.exponent := by
    rw [hvalue, low]
    gcongr
    linarith
  have hhigh : x.significand * 2 ^ x.exponent < x.high := by
    rw [hvalue, high]
    gcongr
    linarith
  exact ⟨hlow.le, hhigh.le, fun _ => ⟨hlow, hhigh⟩⟩

/-- A numeral that stands for a number of the format is rounded to that number. -/
theorem ofScientific?_of_toRat {s : Scientific} {x : Binary64} (h : s.toRat = x.toRat) :
    ∃ y, ofScientific? s = some y ∧ y.toRat = x.toRat := by
  rcases Nat.eq_zero_or_pos x.significand with hzero | hm
  · have hx : x.toRat = 0 := by
      rw [toRat, Int.natAbs_eq_zero.1 (x.natAbs_signed.trans hzero), Int.cast_zero, zero_mul]
    have hs : s.coefficient = 0 := by
      have hten : (10 : ℚ) ^ s.exponent ≠ 0 := by positivity
      rw [hx, Scientific.toRat, mul_eq_zero, or_iff_left hten, Int.cast_eq_zero,
        Scientific.signed] at h
      split at h <;> omega
    refine ⟨zero s.negative, if_pos (.inl hs), ?_⟩
    rw [hx, toRat]
    cases s.negative <;> simp [signed, zero]
  · rw [s.toRat_eq, x.toRat_eq] at h
    obtain ⟨hneg, hvalue⟩ := eq_of_signed_eq (by positivity) (by positivity) h
    exact ⟨x, ofScientific?_of_attracts hm hneg (hvalue ▸ x.attracts_self), rfl⟩

end Binary64

namespace Decimal
open Binary64 (toRat_of_neg toRat_of_nonneg)

theorem absorbHalves_eq (n m : ℕ) (e : ℤ) :
    Draft.absorbHalves n ⟨m * 2 ^ n, e⟩ = ⟨m, e + n⟩ := by
  induction n generalizing e with
  | zero => simp [Draft.absorbHalves]
  | succ n ih =>
    have heven : m * 2 ^ (n + 1) % 2 = 0 := by
      rw [pow_succ, ← mul_assoc, Nat.mul_mod_left]
    have hhalf : m * 2 ^ (n + 1) / 2 = m * 2 ^ n := by
      rw [pow_succ, ← mul_assoc, Nat.mul_div_cancel _ (by decide)]
    rw [Draft.absorbHalves, if_pos heven, hhalf, ih]
    congr 1
    push_cast
    ring

/-- A whole number with a fractional unit is halved as often as its unit says. -/
theorem ofBinary64?_of_halves {x : Binary64} {k m : ℕ} (hk : x.exponent = -(k + 1 : ℕ))
    (hm : x.significand = m * 2 ^ (k + 1)) (h : m < 2 ^ 96) :
    ofBinary64? x = some ⟨x.negative, m, 0, h, by decide⟩ := by
  have hneg : ¬(0 : ℤ) ≤ -(k + 1 : ℕ) := by omega
  rw [ofBinary64?, hk, hm]
  simp only [if_neg hneg, neg_neg, Int.toNat_natCast]
  rw [absorbHalves_eq, neg_add_cancel]
  simp [Draft.raise, Draft.limitPlaces, Draft.limitDigits, Draft.strip, make?, h]

/-- The value is past the range as soon as its mantissa can not be doubled any more. -/
theorem absorbDoubles_eq_none {n m : ℕ} (hm : m < 2 ^ 96) (h : 2 ^ 96 ≤ m * 2 ^ n) :
    Draft.absorbDoubles n ⟨m, n⟩ = none := by
  induction n generalizing m with
  | zero => omega
  | succ n ih =>
    rw [Draft.absorbDoubles]
    simp only
    split
    · rename_i hsmall
      rw [pow2_eq] at hsmall
      have hexponent : ((n + 1 : ℕ) : ℤ) - 1 = n := by omega
      have hdouble : 2 * m * 2 ^ n = m * 2 ^ (n + 1) := by ring
      rw [hexponent]
      exact ih (by omega) (hdouble ▸ h)
    · exact if_pos (by push_cast; omega)

theorem ofBinary64?_eq_none {x : Binary64} {q : ℕ} (hq : x.exponent = q)
    (h : 2 ^ 96 ≤ x.significand * 2 ^ q) : ofBinary64? x = none := by
  have hbits : x.significand < 2 ^ 53 := x.canonical.1
  rw [ofBinary64?, hq]
  simp only [Int.natCast_nonneg, if_true, Int.toNat_natCast]
  rw [absorbDoubles_eq_none (by omega) h]
  rfl

/-- A whole float has a decimal of the same value, or none if it has more than 96 bits. -/
theorem truncate_of_ofBinary64? {x : Binary64} {i : ℤ} (hx : x.toRat = i) :
    (∃ d, ofBinary64? x = some d ∧ d.truncate = i) ∨
      2 ^ 96 ≤ i.natAbs ∧ ofBinary64? x = none := by
  rcases lt_or_ge x.exponent 0 with hexp | hexp
  · obtain ⟨k, hk⟩ : ∃ k : ℕ, x.exponent = -(k + 1 : ℕ) := ⟨(-x.exponent - 1).toNat, by omega⟩
    obtain ⟨m, hm⟩ : ∃ m, x.significand = m * 2 ^ (k + 1) := by
      have hmod := (exists_int_div_iff (Nat.two_pow_pos (k + 1))).1 ⟨i, toRat_of_neg hk ▸ hx⟩
      rw [x.natAbs_signed] at hmod
      exact ⟨_, (Nat.div_mul_cancel (Nat.dvd_of_mod_eq_zero hmod)).symm⟩
    have hsmall : m < 2 ^ 96 := by
      have hbits : x.significand < 2 ^ 53 := x.canonical.1
      have := Nat.le_mul_of_pos_right m (Nat.two_pow_pos (k + 1))
      omega
    refine .inl ⟨_, ofBinary64?_of_halves hk hm hsmall, truncate_eq (.trans ?_ hx)⟩
    rw [toRat_of_scale rfl, x.toRat_eq, hk, hm, zpow_neg, zpow_natCast]
    push_cast
    rw [mul_inv_cancel_right₀ (by positivity)]
  · obtain ⟨q, hq⟩ := Int.eq_ofNat_of_zero_le hexp
    by_cases hsmall : x.significand * 2 ^ q < 2 ^ 96
    · refine .inl ⟨_, ofBinary64?_of_whole hq hsmall, truncate_eq (.trans ?_ hx)⟩
      rw [toRat_of_scale rfl, x.toRat_eq, hq, zpow_natCast]
      push_cast
      rfl
    · have hlarge : 2 ^ 96 ≤ x.significand * 2 ^ q := by omega
      have hi : i = x.signed * (2 ^ q : ℕ) := by exact_mod_cast hx.symm.trans (toRat_of_nonneg hq)
      refine .inr ⟨?_, ofBinary64?_eq_none hq hlarge⟩
      rwa [hi, Int.natAbs_mul, Int.natAbs_natCast, x.natAbs_signed]

end Decimal
end PayloadSchema
