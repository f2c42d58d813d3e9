import Mathlib.Algebra.Order.Ring.Abs
import PayloadSchema.Proofs.Number.Value

/-!
How far the decimal of a float is from the float. Digits that do not fit are cut off while the power
of two is taken in, and then places are rounded away, first those past the 28th and then those past
52 bits. A float past the range has no decimal, and is compared with the float of a bound instead.
-/
namespace PayloadSchema
open Binary64 (two_zpow_succ two_zpow_le)

namespace Decimal.Draft
variable {d : Draft}

def toRat (d : Draft) : ℚ := d.mantissa * 10 ^ d.exponent

theorem ten_zpow_succ (e : ℤ) : (10 : ℚ) ^ (e + 1) = 10 * 10 ^ e := by
  rw [zpow_add_one₀ (by norm_num), mul_comm]

theorem toRat_nonneg (d : Draft) : 0 ≤ d.toRat :=
  mul_nonneg (Nat.cast_nonneg _) (by positivity)

/-- What is left of a value after its power of two has been halved `n` times: at most `n` times the
last bit of a mantissa of more than 93 bits is lost. -/
structure Halved (n : ℕ) (d r : Draft) : Prop where
  fits : r.mantissa < 2 ^ 96
  exponent : r.exponent ≤ d.exponent + n
  le : r.toRat ≤ d.toRat * 5 ^ n
  close : d.toRat * 5 ^ n - r.toRat ≤ n * (5 / 2 ^ 96) * (d.toRat * 5 ^ n)

theorem Halved.step {n : ℕ} {d e r : Draft} (h : Halved n e r)
    (hexponent : e.exponent ≤ d.exponent + 1) (hle : e.toRat ≤ d.toRat * 5)
    (hclose : d.toRat * 5 - e.toRat ≤ 5 / 2 ^ 96 * (d.toRat * 5)) :
    Halved (n + 1) d r := by
  have hpow : (0 : ℚ) < 5 ^ n := by positivity
  have hvalue : d.toRat * 5 ^ (n + 1) = d.toRat * 5 * 5 ^ n := by ring
  have hle' := mul_le_mul_of_nonneg_right hle hpow.le
  refine ⟨h.fits, ?_, ?_, ?_⟩
  · have := h.exponent
    push_cast
    omega
  · rw [hvalue]
    exact h.le.trans hle'
  · have hlost : d.toRat * 5 * 5 ^ n - e.toRat * 5 ^ n ≤ 5 / 2 ^ 96 * (d.toRat * 5 * 5 ^ n) := by
      calc d.toRat * 5 * 5 ^ n - e.toRat * 5 ^ n = (d.toRat * 5 - e.toRat) * 5 ^ n := by ring
        _ ≤ 5 / 2 ^ 96 * (d.toRat * 5) * 5 ^ n := by gcongr
        _ = 5 / 2 ^ 96 * (d.toRat * 5 * 5 ^ n) := by ring
    have hrest : n * (5 / 2 ^ 96) * (e.toRat * 5 ^ n) ≤
        n * (5 / 2 ^ 96) * (d.toRat * 5 * 5 ^ n) := by
      gcongr
    have := h.close
    rw [hvalue]
    push_cast
    linarith

theorem toRat_half (m : ℕ) (e : ℤ) :
    toRat ⟨m / 2, e + 1⟩ = ((m : ℚ) - (m % 2 : ℕ)) * 5 * 10 ^ e := by
  have hm : (m : ℚ) = 2 * (m / 2 : ℕ) + (m % 2 : ℕ) := by exact_mod_cast (Nat.div_add_mod m 2).symm
  rw [toRat, ten_zpow_succ, hm]
  ring

theorem halved_absorbHalves (n : ℕ) (d : Draft) (h : d.mantissa < 2 ^ 96) :
    Halved n d (d.absorbHalves n) := by
  induction n generalizing d with
  | zero =>
    refine ⟨h, ?_, ?_, ?_⟩ <;> simp [absorbHalves]
  | succ n ih =>
    obtain ⟨m, e⟩ := d
    have hten : (0 : ℚ) < 10 ^ e := by positivity
    rw [absorbHalves]
    simp only at h ⊢
    split
    · rename_i heven
      have hsame : toRat ⟨m / 2, e + 1⟩ = toRat ⟨m, e⟩ * 5 := by
        rw [toRat_half, heven, toRat]
        push_cast
        ring
      refine (ih _ (show m / 2 < 2 ^ 96 by omega)).step le_rfl hsame.le ?_
      rw [hsame, sub_self]
      have := toRat_nonneg ⟨m, e⟩
      positivity
    · rename_i hodd
      split
      · rename_i hfits
        have hsame : toRat ⟨5 * m, e⟩ = toRat ⟨m, e⟩ * 5 := by
          rw [toRat, toRat]
          push_cast
          ring
        refine (ih _ hfits).step (by simp) hsame.le ?_
        rw [hsame, sub_self]
        have := toRat_nonneg ⟨m, e⟩
        positivity
      · rename_i hlarge
        rw [pow2_eq, not_lt] at hlarge
        have hbit : m % 2 = 1 := by omega
        have hm : (2 : ℚ) ^ 96 ≤ 5 * m := by exact_mod_cast hlarge
        refine (ih _ (show m / 2 < 2 ^ 96 by omega)).step le_rfl ?_ ?_
        · rw [toRat_half, hbit, toRat]
          push_cast
          nlinarith
        · rw [toRat_half, hbit, toRat]
          push_cast
          have : (1 : ℚ) ≤ 5 / 2 ^ 96 * m := by
            rw [div_mul_eq_mul_div, one_le_div (by positivity)]
            exact hm
          nlinarith

/-- One place less moves a value by at most half a unit of the place before. -/
theorem abs_dropPlace (d : Draft) : |d.dropPlace.toRat - d.toRat| ≤ 5 * 10 ^ d.exponent := by
  obtain ⟨m, e⟩ := d
  have hten : (0 : ℚ) < 10 ^ e := by positivity
  have hm : (m : ℚ) = 10 * (m / 10 : ℕ) + (m % 10 : ℕ) := by
    exact_mod_cast (Nat.div_add_mod m 10).symm
  obtain ⟨up, hup⟩ : ∃ up, up = if 5 ≤ m % 10 then 1 else 0 := ⟨_, rfl⟩
  have hlow : ((m % 10 : ℕ) : ℚ) ≤ 10 * up + 5 := by
    exact_mod_cast show m % 10 ≤ 10 * up + 5 by split at hup <;> omega
  have hhigh : (10 * up : ℚ) ≤ (m % 10 : ℕ) + 5 := by
    exact_mod_cast show 10 * up ≤ m % 10 + 5 by split at hup <;> omega
  have hmove : toRat ⟨m / 10 + up, e + 1⟩ - toRat ⟨m, e⟩ = (10 * up - (m % 10 : ℕ)) * 10 ^ e := by
    rw [toRat, toRat, ten_zpow_succ]
    simp only
    rw [hm]
    push_cast
    ring
  rw [dropPlace, ← hup, hmove, abs_mul, abs_of_pos hten]
  gcongr
  exact abs_le.2 ⟨by linarith, by linarith⟩

theorem mantissa_dropPlace (h : 10 ≤ d.mantissa) :
    d.mantissa / 10 ≤ d.dropPlace.mantissa ∧ d.dropPlace.mantissa ≤ d.mantissa := by
  rw [dropPlace]
  simp only
  split <;> omega

theorem exponent_dropPlace (d : Draft) : d.dropPlace.exponent = d.exponent + 1 := rfl

/-- Places past the limit are rounded away one by one; the error is less than a unit of the last
place that is left. -/
theorem limitPlaces_spec (n : ℕ) (d : Draft) :
    (d.limitPlaces n).mantissa ≤ d.mantissa ∧
      ((d.limitPlaces n).exponent = d.exponent + n ∨ d.limitPlaces n = ⟨0, 0⟩) ∧
      |(d.limitPlaces n).toRat - d.toRat| ≤ 10 ^ (d.exponent + n) - 10 ^ d.exponent := by
  induction n generalizing d with
  | zero => simp [limitPlaces]
  | succ n ih =>
    have hten : (0 : ℚ) < 10 ^ d.exponent := by positivity
    rw [limitPlaces]
    split
    · rename_i hsmall
      have hm : (d.mantissa : ℚ) ≤ 9 := by exact_mod_cast Nat.le_of_lt_succ hsmall
      have hgrows : (10 : ℚ) ^ (d.exponent + 1) ≤ 10 ^ (d.exponent + (n + 1 : ℕ)) :=
        zpow_le_zpow_right₀ (by norm_num) (by push_cast; omega)
      rw [ten_zpow_succ] at hgrows
      refine ⟨Nat.zero_le _, .inr rfl, ?_⟩
      rw [abs_sub_comm, show toRat ⟨0, 0⟩ = 0 by simp [toRat], sub_zero,
        abs_of_nonneg d.toRat_nonneg, toRat]
      nlinarith
    · rename_i hlarge
      obtain ⟨hmantissa, hexponent, hclose⟩ := ih d.dropPlace
      have hdrop := d.abs_dropPlace
      have hend : d.dropPlace.exponent + n = d.exponent + (n + 1 : ℕ) := by
        rw [exponent_dropPlace]
        push_cast
        ring
      rw [hend] at hexponent hclose
      rw [exponent_dropPlace, ten_zpow_succ] at hclose
      refine ⟨hmantissa.trans (mantissa_dropPlace (not_lt.1 hlarge)).2, hexponent, ?_⟩
      calc |(d.dropPlace.limitPlaces n).toRat - d.toRat|
          ≤ |(d.dropPlace.limitPlaces n).toRat - d.dropPlace.toRat|
            + |d.dropPlace.toRat - d.toRat| := abs_sub_le _ _ _
        _ ≤ 10 ^ (d.exponent + (n + 1 : ℕ)) - 10 ^ d.exponent := by linarith

/-- Places are rounded away while there are more than 52 bits, so that 49 of them are left. -/
theorem limitDigits_spec (n : ℕ) (d : Draft) :
    (d.limitDigits n).mantissa ≤ d.mantissa ∧ d.exponent ≤ (d.limitDigits n).exponent ∧
      (d.limitDigits n).exponent ≤ d.exponent + n ∧
      (d.limitDigits n = d ∨ 2 ^ 52 / 10 ≤ (d.limitDigits n).mantissa) ∧
      |(d.limitDigits n).toRat - d.toRat| ≤
        5 / 9 * (10 ^ (d.limitDigits n).exponent - 10 ^ d.exponent) := by
  induction n generalizing d with
  | zero => simp [limitDigits]
  | succ n ih =>
    rw [limitDigits]
    split
    · rename_i hlarge
      rw [pow2_eq] at hlarge
      obtain ⟨hmantissa, hgrows, hexponent, hfull, hclose⟩ := ih d.dropPlace
      obtain ⟨hleast, hmost⟩ := mantissa_dropPlace (d := d) (by omega)
      have hdrop := d.abs_dropPlace
      rw [exponent_dropPlace] at hgrows hexponent
      rw [exponent_dropPlace, ten_zpow_succ] at hclose
      refine ⟨hmantissa.trans hmost, by omega, by push_cast; omega, .inr ?_, ?_⟩
      · rcases hfull with heq | hfull
        · rw [heq]
          omega
        · exact hfull
      · calc |(d.dropPlace.limitDigits n).toRat - d.toRat|
            ≤ |(d.dropPlace.limitDigits n).toRat - d.dropPlace.toRat|
              + |d.dropPlace.toRat - d.toRat| := abs_sub_le _ _ _
          _ ≤ 5 / 9 * (10 ^ (d.dropPlace.limitDigits n).exponent - 10 ^ d.exponent) := by linarith
    · refine ⟨le_rfl, le_rfl, by push_cast; omega, .inl rfl, ?_⟩
      simp

theorem limitDigits_close (n : ℕ) (d : Draft) :
    |(d.limitDigits n).toRat - d.toRat| ≤ (d.limitDigits n).toRat / (8 * 10 ^ 14) := by
  obtain ⟨-, -, -, hfull, hclose⟩ := limitDigits_spec n d
  have hnonneg := (d.limitDigits n).toRat_nonneg
  rcases hfull with heq | hfull
  · rw [heq, sub_self, abs_zero]
    have := d.toRat_nonneg
    positivity
  · have hten : (0 : ℚ) < 10 ^ (d.limitDigits n).exponent := by positivity
    have hten' : (0 : ℚ) < 10 ^ d.exponent := by positivity
    have hm : (450359962737049 : ℚ) ≤ (d.limitDigits n).mantissa := by exact_mod_cast hfull
    have hunit : 450359962737049 * 10 ^ (d.limitDigits n).exponent ≤ (d.limitDigits n).toRat := by
      rw [toRat]
      gcongr
    linarith

/-- Zeros at the end do not count. -/
theorem strip_spec (n : ℕ) (d : Draft) :
    (d.strip n).mantissa ≤ d.mantissa ∧ d.exponent ≤ (d.strip n).exponent ∧
      (d.strip n).exponent ≤ d.exponent + n ∧ (d.strip n).toRat = d.toRat := by
  induction n generalizing d with
  | zero => simp [strip]
  | succ n ih =>
    rw [strip]
    split
    · rename_i hzero
      obtain ⟨hmantissa, hgrows, hexponent, hsame⟩ := ih ⟨d.mantissa / 10, d.exponent + 1⟩
      simp only at hmantissa hgrows hexponent
      refine ⟨by omega, by omega, by push_cast; omega, hsame.trans ?_⟩
      have hm : (d.mantissa : ℚ) = 10 * (d.mantissa / 10 : ℕ) := by
        exact_mod_cast show d.mantissa = 10 * (d.mantissa / 10) by omega
      rw [toRat, toRat, ten_zpow_succ, hm]
      push_cast
      ring
    · exact ⟨le_rfl, le_rfl, by push_cast; omega, rfl⟩

end Decimal.Draft

namespace Decimal

theorem toRat_eq (d : Decimal) :
    d.toRat =
      if d.negative then -((d.mantissa : ℚ) / 10 ^ d.scale) else d.mantissa / 10 ^ d.scale := by
  rw [toRat, signed]
  split <;> push_cast <;> ring

theorem abs_signed_sub (negative : Bool) (a b : ℚ) :
    |(if negative then -a else a) - if negative then -b else b| = |a - b| := by
  cases negative
  · rfl
  · rw [if_pos rfl, if_pos rfl, neg_sub_neg, abs_sub_comm]

theorem abs_signed {negative : Bool} {a : ℚ} (ha : 0 ≤ a) : |if negative then -a else a| = a := by
  cases negative <;> simp [ha]

def Draft.rounded (d : Draft) : Draft :=
  let d := d.limitPlaces (-28 - d.exponent).toNat
  let d := d.limitDigits (-d.exponent).toNat
  d.strip (-d.exponent).toNat

theorem Draft.rounded_spec {d : Draft} (h : d.exponent ≤ 0) :
    d.rounded.mantissa ≤ d.mantissa ∧ -28 ≤ d.rounded.exponent ∧ d.rounded.exponent ≤ 0 ∧
      |d.rounded.toRat - d.toRat| ≤ d.rounded.toRat / (8 * 10 ^ 14) + 1 / 10 ^ 28 := by
  obtain ⟨hmantissa₁, hexponent₁, hclose₁⟩ := limitPlaces_spec (-28 - d.exponent).toNat d
  have hunit : (10 : ℚ) ^ (d.exponent + (-28 - d.exponent).toNat) - 10 ^ d.exponent ≤
      1 / 10 ^ 28 := by
    have hten : (0 : ℚ) < 10 ^ d.exponent := by positivity
    rcases Int.le_total (-28) d.exponent with hle | hle
    · have hzero : (-28 - d.exponent).toNat = 0 := by omega
      simp [hzero]
    · have hend : d.exponent + (-28 - d.exponent).toNat = -28 := by omega
      rw [hend]
      norm_num
      exact hten.le
  rw [rounded]
  generalize d.limitPlaces (-28 - d.exponent).toNat = p at *
  have hplaces : -28 ≤ p.exponent ∧ p.exponent ≤ 0 := by
    rcases hexponent₁ with hexponent₁ | rfl
    · omega
    · simp
  obtain ⟨hmantissa₂, hleast₂, hmost₂, -, -⟩ := limitDigits_spec (-p.exponent).toNat p
  have hclose₂ := limitDigits_close (-p.exponent).toNat p
  generalize p.limitDigits (-p.exponent).toNat = q at *
  obtain ⟨hmantissa₃, hleast₃, hmost₃, hsame⟩ := strip_spec (-q.exponent).toNat q
  refine ⟨by omega, by omega, by omega, ?_⟩
  rw [hsame]
  calc |q.toRat - d.toRat| ≤ |q.toRat - p.toRat| + |p.toRat - d.toRat| := abs_sub_le _ _ _
    _ ≤ q.toRat / (8 * 10 ^ 14) + 1 / 10 ^ 28 := by linarith

/-- Numbers with a fractional unit have a decimal, with an error in the sixteenth digit or in the
28th place. -/
theorem ofBinary64?_close {x : Binary64} (h : x.exponent < 0) :
    ∃ d, ofBinary64? x = some d ∧ |d.toRat - x.toRat| ≤ |x.toRat| / 2 ^ 49 + 2 / 10 ^ 28 := by
  obtain ⟨k, hk⟩ : ∃ k : ℕ, x.exponent = -k := ⟨(-x.exponent).toNat, by omega⟩
  have hmin : -1074 ≤ x.exponent := x.canonical.2.1
  have hbits : x.significand < 2 ^ 53 := x.canonical.1
  have hhalved := Draft.halved_absorbHalves k ⟨x.significand, x.exponent⟩
    (show x.significand < 2 ^ 96 by omega)
  have hmagnitude : Draft.toRat ⟨x.significand, x.exponent⟩ * 5 ^ k =
      x.significand * 2 ^ x.exponent := by
    rw [Draft.toRat, hk, zpow_neg, zpow_neg, zpow_natCast, zpow_natCast,
      show (10 : ℚ) ^ k = 2 ^ k * 5 ^ k by rw [← mul_pow]; norm_num]
    field_simp
  obtain ⟨hfits, hexponent, hle, hclose⟩ := hhalved
  rw [hmagnitude] at hle hclose
  simp only at hexponent
  have hround : ofBinary64? x =
      make? x.negative (Draft.absorbHalves k ⟨x.significand, x.exponent⟩).rounded.mantissa
        (-(Draft.absorbHalves k ⟨x.significand, x.exponent⟩).rounded.exponent).toNat := by
    have hunraised : (Draft.absorbHalves k ⟨x.significand, x.exponent⟩).exponent.toNat = 0 := by
      omega
    have hcount : (-x.exponent).toNat = k := by omega
    rw [ofBinary64?]
    simp only [if_neg (not_le.2 h), hcount, Option.bind_some, hunraised, Draft.raise, Draft.rounded]
  generalize Draft.absorbHalves k ⟨x.significand, x.exponent⟩ = d at *
  obtain ⟨hmantissa, hleast, hmost, hrounded⟩ := Draft.rounded_spec (d := d) (by omega)
  generalize d.rounded = r at *
  refine ⟨⟨x.negative, r.mantissa, (-r.exponent).toNat, ?_⟩, ?_, ?_⟩
  · rw [pow2_eq]
    omega
  · rw [hround, make?, dif_pos]
  · have hvalue : (r.mantissa : ℚ) / 10 ^ (-r.exponent).toNat = r.toRat := by
      rw [Draft.toRat, ← zpow_natCast, div_eq_mul_inv, ← zpow_neg]
      congr 2
      omega
    have hpos : (0 : ℚ) ≤ x.significand * 2 ^ x.exponent := by positivity
    rw [toRat_eq, x.toRat_eq, abs_signed_sub, abs_signed hpos]
    simp only
    rw [hvalue]
    have hk' : (k : ℚ) ≤ 1074 := by exact_mod_cast show k ≤ 1074 by omega
    have hlost : x.significand * 2 ^ x.exponent - d.toRat ≤
        1074 * (5 / 2 ^ 96) * (x.significand * 2 ^ x.exponent) :=
      hclose.trans (by gcongr)
    have hparts : |r.toRat - x.significand * 2 ^ x.exponent| ≤
        |r.toRat - d.toRat| + |d.toRat - x.significand * 2 ^ x.exponent| := abs_sub_le _ _ _
    rw [abs_of_nonpos (sub_nonpos.2 hle)] at hparts
    have := (abs_le.1 hrounded).2
    linarith

/-- A float has a decimal close to it, unless it is past the range of decimals. -/
theorem ofBinary64?_cases (x : Binary64) :
    (∃ d, ofBinary64? x = some d ∧ |d.toRat - x.toRat| ≤ |x.toRat| / 2 ^ 49 + 2 / 10 ^ 28) ∨
      ofBinary64? x = none ∧ 2 ^ 96 ≤ |x.toRat| := by
  rcases lt_or_ge x.exponent 0 with hexp | hexp
  · exact .inl (ofBinary64?_close hexp)
  · obtain ⟨q, hq⟩ := Int.eq_ofNat_of_zero_le hexp
    have hmagnitude : |x.toRat| = (x.significand * 2 ^ q : ℕ) := by
      rw [x.toRat_eq, abs_signed (by positivity), hq, zpow_natCast]
      push_cast
      rfl
    by_cases hsmall : x.significand * 2 ^ q < 2 ^ 96
    · refine .inl ⟨_, ofBinary64?_of_whole hq hsmall, ?_⟩
      have hsame : toRat ⟨x.negative, x.significand * 2 ^ q, 0, hsmall, by decide⟩ = x.toRat := by
        rw [toRat_of_scale rfl, x.toRat_eq, hq, zpow_natCast]
        push_cast
        rfl
      rw [hsame, sub_self, abs_zero]
      positivity
    · have hlarge : 2 ^ 96 ≤ x.significand * 2 ^ q := not_lt.1 hsmall
      refine .inr ⟨ofBinary64?_eq_none hq hlarge, ?_⟩
      rw [hmagnitude]
      exact_mod_cast hlarge

end Decimal

namespace Binary64

/-- A ratio is rounded by at most one unit. -/
theorem ofRatio?_close {negative : Bool} {n d : ℕ} (hn : 0 < n) (hd : 0 < d) {x : Binary64}
    (h : ofRatio? negative n d = some x) :
    x.negative = negative ∧
      |(x.significand : ℚ) * 2 ^ x.exponent - n / d| ≤ 2 ^ max (floorLog2 n d - 52) (-1074) := by
  rw [ofRatio?, if_neg hn.ne'] at h
  generalize max (floorLog2 n d - 52) (-1074) = q at *
  have hb := scaleTwo_pos (n := n) hd (-q)
  have hratio := scaleTwo_ratio n hd (-q)
  simp only at h
  generalize (scaleTwo n d (-q)).1 = a at *
  generalize (scaleTwo n d (-q)).2 = b at *
  obtain ⟨hlow, hhigh⟩ := roundQuotient_bounds a b
  generalize roundQuotient a b = m at *
  have hb' : (0 : ℚ) < b := by exact_mod_cast hb
  have hvalue : (n : ℚ) / d = a / b * 2 ^ q := by
    rw [hratio, mul_div_cancel_right₀ _ hb'.ne', mul_assoc, ← zpow_add₀ (by norm_num),
      neg_add_cancel, zpow_zero, mul_one]
  have hquotient : |(m : ℚ) - a / b| ≤ 1 := by
    have hdiv := Nat.div_add_mod a b
    have hmod := Nat.mod_lt a hb
    have hup := Nat.mul_le_mul_left b hhigh
    have hdown := Nat.mul_le_mul_left b hlow
    rw [Nat.mul_succ] at hup
    have hleast : (b : ℚ) * m ≤ a + b := by
      exact_mod_cast show b * m ≤ a + b by omega
    have hmost : (a : ℚ) ≤ b * m + b := by
      exact_mod_cast show a ≤ b * m + b by omega
    rw [abs_le, neg_le_sub_iff_le_add, sub_le_iff_le_add', div_le_iff₀ hb', ← sub_le_iff_le_add,
      le_div_iff₀ hb']
    constructor <;> linarith
  have hclose : |(m : ℚ) * 2 ^ q - n / d| ≤ 2 ^ q := by
    rw [hvalue, ← sub_mul, abs_mul, abs_of_pos (by positivity : (0 : ℚ) < 2 ^ q)]
    exact mul_le_of_le_one_left (by positivity) hquotient
  split at h
  · rename_i hcarry
    obtain ⟨_, hx⟩ := Option.dite_none_right_eq_some.1 h
    cases hx
    have hcarried : ((pow2 52 : ℕ) : ℚ) * 2 ^ (q + 1) = m * 2 ^ q := by
      rw [hcarry, two_zpow_succ]
      push_cast [pow2_eq]
      ring
    exact ⟨rfl, hcarried ▸ hclose⟩
  · obtain ⟨_, hx⟩ := Option.dite_none_right_eq_some.1 h
    cases hx
    exact ⟨rfl, hclose⟩

end Binary64

/-- A decimal has a float close to it, with an error of less than one unit below `2 ^ 96`. -/
theorem Decimal.toBinary64?_close (d : Decimal) :
    ∃ x, d.toBinary64? = some x ∧ |x.toRat - d.toRat| ≤ 2 ^ 43 := by
  rw [toBinary64?]
  rcases Nat.eq_zero_or_pos d.mantissa with hzero | hpos
  · refine ⟨Binary64.zero d.negative, by rw [hzero]; rfl, ?_⟩
    have hd : d.toRat = 0 := by
      rw [toRat_eq, hzero]
      simp
    rw [hd, Binary64.toRat_eq]
    simp [Binary64.zero]
  · have hscale : 0 < 10 ^ d.scale := Nat.pow_pos (by decide)
    have hbound : (d.mantissa : ℚ) / (10 ^ d.scale : ℕ) < 2 ^ (96 : ℤ) := by
      have hm : (d.mantissa : ℚ) < 2 ^ (96 : ℤ) := by exact_mod_cast d.inRange.1
      exact (div_le_self (Nat.cast_nonneg _) (by exact_mod_cast hscale)).trans_lt hm
    have hlog : Binary64.floorLog2 d.mantissa (10 ^ d.scale) < 96 :=
      Binary64.two_zpow_lt.1 ((Binary64.floorLog2_bounds hpos hscale).1.trans_lt hbound)
    obtain ⟨x, hx, -⟩ := Binary64.exists_ofRatio? d.negative hpos hscale (by omega)
    obtain ⟨hnegative, hclose⟩ := Binary64.ofRatio?_close hpos hscale hx
    refine ⟨x, hx, ?_⟩
    rw [x.toRat_eq, toRat_eq, hnegative, abs_signed_sub]
    push_cast at hclose
    exact hclose.trans (two_zpow_le.2 (by omega : max _ _ ≤ (43 : ℤ)))

end PayloadSchema
