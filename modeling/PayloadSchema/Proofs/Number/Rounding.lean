import Mathlib.Algebra.Order.Field.Power
import Mathlib.Data.Rat.Cast.Order
import Mathlib.Tactic.FieldSimp
import Mathlib.Tactic.Linarith
import Mathlib.Tactic.LinearCombination
import Mathlib.Tactic.NormNum
import Mathlib.Tactic.Positivity
import PayloadSchema.Number.Shortest
import PayloadSchema.Proofs.Number.Digits

/-!
Rounding to binary64 in terms of rational numbers: each number of the format is what the ratios in
an interval around it are rounded to.
-/
namespace PayloadSchema.Binary64

theorem pow_toNat {b : ℚ} (hb : b ≠ 0) (k : ℤ) : b ^ k.toNat = b ^ k * b ^ (-k).toNat := by
  rw [← zpow_natCast, ← zpow_natCast, ← zpow_add₀ hb]
  congr 1
  omega

theorem two_zpow_le {j k : ℤ} : (2 : ℚ) ^ j ≤ 2 ^ k ↔ j ≤ k :=
  zpow_le_zpow_iff_right₀ (by norm_num)

theorem two_zpow_lt {j k : ℤ} : (2 : ℚ) ^ j < 2 ^ k ↔ j < k :=
  zpow_lt_zpow_iff_right₀ (by norm_num)

theorem two_zpow_succ (k : ℤ) : (2 : ℚ) ^ (k + 1) = 2 * 2 ^ k := by
  rw [zpow_add_one₀ (by norm_num), mul_comm]

theorem scaleTwo_pos {n d : Nat} (hd : 0 < d) (k : ℤ) : 0 < (scaleTwo n d k).2 := by
  rw [scaleTwo]
  split
  · exact hd
  · exact Nat.mul_pos hd (Nat.two_pow_pos _)

theorem scaleTwo_ratio (n : Nat) {d : Nat} (hd : 0 < d) (k : ℤ) :
    ((scaleTwo n d k).1 : ℚ) = n / d * 2 ^ k * (scaleTwo n d k).2 := by
  have hd' : (d : ℚ) ≠ 0 := by exact_mod_cast hd.ne'
  have hk := pow_toNat (show (2 : ℚ) ≠ 0 by norm_num) k
  rw [scaleTwo, pow2_eq, pow2_eq]
  split
  · rename_i hnonneg
    have hneg : (-k).toNat = 0 := by omega
    rw [hneg, pow_zero, mul_one] at hk
    push_cast
    rw [hk]
    field_simp
  · rename_i hneg
    have hnonneg : k.toNat = 0 := by omega
    rw [hnonneg, pow_zero] at hk
    push_cast
    rw [mul_comm (d : ℚ), ← mul_assoc, mul_assoc _ _ ((2 : ℚ) ^ (-k).toNat), ← hk]
    field_simp

theorem log2_bounds {n : Nat} (hn : 0 < n) :
    (2 : ℚ) ^ (n.log2 : ℤ) ≤ n ∧ (n : ℚ) < 2 ^ ((n.log2 : ℤ) + 1) := by
  constructor
  · rw [zpow_natCast]
    exact_mod_cast Nat.log2_self_le hn.ne'
  · rw [← Nat.cast_succ, zpow_natCast]
    exact_mod_cast Nat.lt_log2_self

theorem floorLog2_bounds {n d : Nat} (hn : 0 < n) (hd : 0 < d) :
    (2 : ℚ) ^ floorLog2 n d ≤ n / d ∧ (n : ℚ) / d < 2 ^ (floorLog2 n d + 1) := by
  obtain ⟨hn1, hn2⟩ := log2_bounds hn
  obtain ⟨hd1, hd2⟩ := log2_bounds hd
  have hdpos : (0 : ℚ) < d := by exact_mod_cast hd
  have hlow : (2 : ℚ) ^ ((n.log2 : ℤ) - d.log2 - 1) ≤ n / d := by
    rw [le_div_iff₀ hdpos]
    calc (2 : ℚ) ^ ((n.log2 : ℤ) - d.log2 - 1) * d
        ≤ 2 ^ ((n.log2 : ℤ) - d.log2 - 1) * 2 ^ ((d.log2 : ℤ) + 1) := by gcongr
      _ = 2 ^ (n.log2 : ℤ) := by rw [← zpow_add₀ (by norm_num)]; congr 1; ring
      _ ≤ n := hn1
  have hhigh : (n : ℚ) / d < 2 ^ ((n.log2 : ℤ) - d.log2 + 1) := by
    rw [div_lt_iff₀ hdpos]
    calc (n : ℚ) < 2 ^ ((n.log2 : ℤ) + 1) := hn2
      _ = 2 ^ ((n.log2 : ℤ) - d.log2 + 1) * 2 ^ (d.log2 : ℤ) := by
        rw [← zpow_add₀ (by norm_num)]; congr 1; ring
      _ ≤ 2 ^ ((n.log2 : ℤ) - d.log2 + 1) * d := by gcongr
  generalize hk : (n.log2 : ℤ) - d.log2 = k at *
  have hb : (0 : ℚ) < (scaleTwo n d (-k)).2 := by exact_mod_cast scaleTwo_pos hd (-k)
  have hratio := scaleTwo_ratio n hd (-k)
  have hpow : (0 : ℚ) < 2 ^ k := by positivity
  have hcmp : (scaleTwo n d (-k)).2 ≤ (scaleTwo n d (-k)).1 ↔ (2 : ℚ) ^ k ≤ n / d := by
    rw [← Nat.cast_le (α := ℚ), hratio, le_mul_iff_one_le_left hb, zpow_neg, ← div_eq_mul_inv,
      one_le_div hpow]
  rw [floorLog2, hk]
  simp only
  split
  · rename_i h
    exact ⟨hcmp.mp h, hhigh⟩
  · rename_i h
    rw [sub_add_cancel]
    exact ⟨hlow, not_le.mp (mt hcmp.mpr h)⟩

/-- The floor of the binary logarithm of a ratio is the one exponent that fits. -/
theorem floorLog2_eq {n d : Nat} (hn : 0 < n) (hd : 0 < d) {k : ℤ} (hlow : (2 : ℚ) ^ k ≤ n / d)
    (hhigh : (n : ℚ) / d < 2 ^ (k + 1)) : floorLog2 n d = k := by
  obtain ⟨hlow', hhigh'⟩ := floorLog2_bounds hn hd
  have h1 : k < floorLog2 n d + 1 := two_zpow_lt.mp (hlow.trans_lt hhigh')
  have h2 : floorLog2 n d < k + 1 := two_zpow_lt.mp (hlow'.trans_lt hhigh)
  omega

theorem roundQuotient_eq {a b m : Nat} (hb : 0 < b) (hlow : 2 * m * b ≤ 2 * a + b)
    (hhigh : 2 * a ≤ 2 * m * b + b)
    (hodd : m % 2 = 1 → 2 * m * b < 2 * a + b ∧ 2 * a < 2 * m * b + b) :
    roundQuotient a b = m := by
  have hdiv := Nat.div_add_mod a b
  have hmod := Nat.mod_lt a hb
  rw [roundQuotient]
  generalize a / b = q at *
  generalize a % b = r at *
  have hle : m ≤ q + 1 := by
    by_contra hlt
    have : (q + 2) * b ≤ m * b := Nat.mul_le_mul_right b (by omega)
    nlinarith
  have hge : q ≤ m := by
    by_contra hlt
    have : (m + 1) * b ≤ q * b := Nat.mul_le_mul_right b (by omega)
    nlinarith
  rcases Nat.lt_or_ge m (q + 1) with hlt | hge'
  · have hm : m = q := by omega
    subst hm
    have hr : 2 * r ≤ b := by nlinarith
    split
    · rfl
    · rename_i hnot
      exfalso
      have htie : 2 * r = b := by omega
      have := hodd (by omega)
      nlinarith
  · have hm : m = q + 1 := by omega
    subst hm
    have hr : b ≤ 2 * r := by nlinarith
    split
    · rename_i h
      exfalso
      have htie : 2 * r = b ∧ q % 2 = 0 := by omega
      have := hodd (by omega)
      nlinarith [htie.1]
    · rfl

/-- A ratio is rounded to `m` units of `2 ^ q` if it is within half a unit; the ends count for an
even `m`. -/
theorem roundQuotient_scaleTwo {n d m : Nat} (hd : 0 < d) {q : ℤ}
    (hlow : (2 * (m : ℚ) - 1) * 2 ^ (q - 1) ≤ n / d)
    (hhigh : (n : ℚ) / d ≤ (2 * (m : ℚ) + 1) * 2 ^ (q - 1))
    (hodd : m % 2 = 1 → (2 * (m : ℚ) - 1) * 2 ^ (q - 1) < n / d ∧
      (n : ℚ) / d < (2 * (m : ℚ) + 1) * 2 ^ (q - 1)) :
    roundQuotient (scaleTwo n d (-q)).1 (scaleTwo n d (-q)).2 = m := by
  have hb := scaleTwo_pos (n := n) hd (-q)
  have hratio := scaleTwo_ratio n hd (-q)
  generalize (scaleTwo n d (-q)).1 = a at *
  generalize (scaleTwo n d (-q)).2 = b at *
  have hb' : (0 : ℚ) < b := by exact_mod_cast hb
  have hpow : (0 : ℚ) < 2 ^ (q - 1) := by positivity
  have hv : (n : ℚ) / d = 2 * a / b * 2 ^ (q - 1) := by
    have hunit : (2 : ℚ) * 2 ^ (-q) * 2 ^ (q - 1) = 1 := by
      rw [← two_zpow_succ, ← zpow_add₀ (by norm_num), show -q + 1 + (q - 1) = 0 by ring, zpow_zero]
    rw [hratio]
    field_simp
    linear_combination -(n : ℚ) * hunit
  rw [hv] at hlow hhigh hodd
  rw [mul_le_mul_iff_of_pos_right hpow, le_div_iff₀ hb'] at hlow
  rw [mul_le_mul_iff_of_pos_right hpow, div_le_iff₀ hb'] at hhigh
  rw [mul_lt_mul_iff_of_pos_right hpow, mul_lt_mul_iff_of_pos_right hpow, lt_div_iff₀ hb',
    div_lt_iff₀ hb'] at hodd
  apply roundQuotient_eq hb
  · have : (2 : ℚ) * m * b ≤ 2 * a + b := by linarith
    exact_mod_cast this
  · have : 2 * (a : ℚ) ≤ 2 * m * b + b := by linarith
    exact_mod_cast this
  · intro hm
    obtain ⟨hlow', hhigh'⟩ := hodd hm
    have hl : (2 : ℚ) * m * b < 2 * a + b := by linarith
    have hh : 2 * (a : ℚ) < 2 * m * b + b := by linarith
    exact ⟨by exact_mod_cast hl, by exact_mod_cast hh⟩

def low (x : Binary64) : ℚ := (4 * x.significand - x.gapBelow) * 2 ^ (x.exponent - 2)

def high (x : Binary64) : ℚ := (4 * x.significand + 2) * 2 ^ (x.exponent - 2)

/-- The magnitudes that are rounded to a number; the ends are if its significand is even. -/
def Attracts (x : Binary64) (v : ℚ) : Prop :=
  x.low ≤ v ∧ v ≤ x.high ∧ (x.significand % 2 = 1 → x.low < v ∧ v < x.high)

theorem high_eq (x : Binary64) : x.high = (2 * x.significand + 1) * 2 ^ (x.exponent - 1) := by
  rw [high, show x.exponent - 1 = x.exponent - 2 + 1 by ring, two_zpow_succ]
  ring

theorem gapBelow_eq (x : Binary64) :
    x.gapBelow = if x.significand = 2 ^ 52 ∧ -1074 < x.exponent then 1 else 2 := rfl

theorem low_eq {x : Binary64} (h : ¬(x.significand = 2 ^ 52 ∧ -1074 < x.exponent)) :
    x.low = (2 * x.significand - 1) * 2 ^ (x.exponent - 1) := by
  rw [low, gapBelow_eq, if_neg h, show x.exponent - 1 = x.exponent - 2 + 1 by ring, two_zpow_succ]
  push_cast
  ring

theorem high_lt {x : Binary64} {k : ℤ} (h : 53 + x.exponent ≤ k) : x.high < 2 ^ k := by
  have hm : (x.significand : ℚ) + 1 ≤ 2 ^ 53 := by exact_mod_cast x.canonical.1
  calc x.high < (4 * 2 ^ 53) * 2 ^ (x.exponent - 2) := by
        rw [high]
        gcongr
        linarith
    _ = 2 ^ (53 + x.exponent) := by
        rw [show (53 : ℤ) + x.exponent = 55 + (x.exponent - 2) by ring, zpow_add₀ (by norm_num)]
        norm_num
    _ ≤ 2 ^ k := two_zpow_le.mpr h

/-- Rounding a ratio with the unit that its size asks for, before and after the carry. -/
theorem ofRatio?_eq {negative : Bool} {n d : Nat} (hn : 0 < n) (x : Binary64) {q : ℤ}
    (hneg : x.negative = negative) (hq : max (floorLog2 n d - 52) (-1074) = q)
    (h : (roundQuotient (scaleTwo n d (-q)).1 (scaleTwo n d (-q)).2 = x.significand ∧
        q = x.exponent) ∨
      (roundQuotient (scaleTwo n d (-q)).1 (scaleTwo n d (-q)).2 = 2 ^ 53 ∧
        x.significand = 2 ^ 52 ∧ q + 1 = x.exponent)) :
    ofRatio? negative n d = some x := by
  obtain ⟨xneg, m, e, hcanon⟩ := x
  subst hq
  simp only at hneg h
  subst hneg
  rw [← pow2_eq 53, ← pow2_eq 52] at h
  rw [ofRatio?, if_neg hn.ne']
  generalize max (floorLog2 n d - 52) (-1074) = q at *
  simp only
  generalize roundQuotient (scaleTwo n d (-q)).1 (scaleTwo n d (-q)).2 = r at *
  rcases h with ⟨rfl, rfl⟩ | ⟨rfl, rfl, rfl⟩
  · have hne : ¬r = pow2 53 := hcanon.1.ne
    simp only [if_neg hne]
    rw [dif_pos hcanon]
  · simp only [if_true]
    rw [dif_pos hcanon]

/-- A magnitude that is attracted from below a power of two has a smaller unit; only there the gap
is halved. -/
theorem gap_halved {x : Binary64} {v : ℚ} (h : x.low ≤ v) (hexp : x.exponent ≠ -1074)
    (hv : v < 2 ^ (x.exponent + 52)) : x.significand = 2 ^ 52 := by
  by_contra hne
  have hnormal : 2 ^ 52 ≤ x.significand ∨ x.exponent = -1074 := x.canonical.2.2.2
  have hm : 2 ^ 52 + 1 ≤ x.significand := by omega
  have hm' : (2 : ℚ) ^ 52 + 1 ≤ x.significand := by exact_mod_cast hm
  have hle : (2 : ℚ) ^ (x.exponent + 52) ≤ x.low := by
    rw [low_eq (fun hx => hne hx.1)]
    calc (2 : ℚ) ^ (x.exponent + 52) = 2 ^ 53 * 2 ^ (x.exponent - 1) := by
          rw [show x.exponent + 52 = 53 + (x.exponent - 1) by ring, zpow_add₀ (by norm_num)]
          norm_num
      _ ≤ (2 * x.significand - 1) * 2 ^ (x.exponent - 1) := by
          gcongr
          linarith
  linarith

theorem low_pos {x : Binary64} (hm : 0 < x.significand) : 2 ^ (x.exponent - 1) ≤ x.low := by
  have hgap : (x.gapBelow : ℚ) ≤ 2 := by
    rw [gapBelow_eq]
    split <;> norm_num
  have hm' : (1 : ℚ) ≤ x.significand := by exact_mod_cast hm
  rw [low, show x.exponent - 1 = x.exponent - 2 + 1 by ring, two_zpow_succ]
  gcongr
  linarith

/-- Magnitudes at least as great as the least one with the exponent of `x` have its unit. -/
theorem unit_eq {x : Binary64} {n d : Nat} (hn : 0 < n) (hd : 0 < d) (hhigh : (n : ℚ) / d ≤ x.high)
    (h : x.exponent = -1074 ∨ (2 : ℚ) ^ (x.exponent + 52) ≤ n / d) :
    max (floorLog2 n d - 52) (-1074) = x.exponent := by
  have hsmall : (n : ℚ) / d < 2 ^ (x.exponent + 53) := hhigh.trans_lt (high_lt (by omega))
  rcases h with hmin | hnormal
  · have hlog : floorLog2 n d < x.exponent + 53 :=
      two_zpow_lt.mp ((floorLog2_bounds hn hd).1.trans_lt hsmall)
    omega
  · have hlog : floorLog2 n d = x.exponent + 52 := by
      apply floorLog2_eq hn hd hnormal
      rwa [add_assoc]
    have := x.canonical.2.1
    omega

theorem ofRatio?_same_unit {x : Binary64} {n d : Nat} (hn : 0 < n) (hd : 0 < d)
    (h : x.Attracts (n / d)) (hunit : x.exponent = -1074 ∨ (2 : ℚ) ^ (x.exponent + 52) ≤ n / d) :
    ofRatio? x.negative n d = some x := by
  obtain ⟨hlow, hhigh, hodd⟩ := h
  refine ofRatio?_eq hn x rfl (unit_eq hn hd hhigh hunit) (.inl ⟨?_, rfl⟩)
  rw [high_eq] at hhigh hodd
  by_cases hgap : x.significand = 2 ^ 52 ∧ -1074 < x.exponent
  · have hnormal : (2 : ℚ) ^ (x.exponent + 52) ≤ n / d := hunit.resolve_left (by omega)
    have heven : ¬x.significand % 2 = 1 := by
      rw [hgap.1]
      norm_num
    refine roundQuotient_scaleTwo hd ?_ hhigh (fun hm => absurd hm heven)
    calc (2 * (x.significand : ℚ) - 1) * 2 ^ (x.exponent - 1)
        ≤ 2 ^ 53 * 2 ^ (x.exponent - 1) := by
          rw [hgap.1]
          gcongr
          norm_num
      _ = 2 ^ (x.exponent + 52) := by
          rw [show x.exponent + 52 = 53 + (x.exponent - 1) by ring, zpow_add₀ (by norm_num)]
          norm_num
      _ ≤ n / d := hnormal
  · rw [low_eq hgap] at hlow hodd
    exact roundQuotient_scaleTwo hd hlow hhigh hodd

/-- Below a power of two the unit is the smaller one, and rounding carries over. -/
theorem ofRatio?_carry {x : Binary64} {n d : Nat} (hn : 0 < n) (hd : 0 < d)
    (h : x.Attracts (n / d)) (hexp : x.exponent ≠ -1074)
    (hv : (n : ℚ) / d < 2 ^ (x.exponent + 52)) : ofRatio? x.negative n d = some x := by
  obtain ⟨hlow, -, -⟩ := h
  have hmin := x.canonical.2.1
  have hm : x.significand = 2 ^ 52 := gap_halved hlow hexp hv
  rw [low, gapBelow_eq, if_pos ⟨hm, by omega⟩, hm] at hlow
  push_cast at hlow
  have hlog : floorLog2 n d = x.exponent + 51 := by
    apply floorLog2_eq hn hd
    · calc (2 : ℚ) ^ (x.exponent + 51) = 2 ^ 53 * 2 ^ (x.exponent - 2) := by
            rw [show x.exponent + 51 = 53 + (x.exponent - 2) by ring, zpow_add₀ (by norm_num)]
            norm_num
        _ ≤ (4 * 2 ^ 52 - 1) * 2 ^ (x.exponent - 2) := by
            gcongr
            norm_num
        _ ≤ n / d := hlow
    · rwa [add_assoc]
  refine ofRatio?_eq hn x rfl (q := x.exponent - 1) (by omega) (.inr ⟨?_, hm, by ring⟩)
  rw [show x.exponent + 52 = 54 + (x.exponent - 2) by ring, zpow_add₀ (by norm_num)] at hv
  have hstep : x.exponent - 1 - 1 = x.exponent - 2 := by ring
  apply roundQuotient_scaleTwo hd
  · rw [hstep]
    refine le_of_eq_of_le ?_ hlow
    congr 1
    norm_num
  · rw [hstep]
    refine hv.le.trans ?_
    gcongr
    norm_num
  · norm_num

/-- A number is what all the magnitudes it attracts are rounded to. -/
theorem ofRatio?_of_attracts {x : Binary64} (hm : 0 < x.significand) {n d : Nat} (hd : 0 < d)
    (h : x.Attracts (n / d)) : ofRatio? x.negative n d = some x := by
  have hn : 0 < n := by
    have hpos : (0 : ℚ) < n / d := lt_of_lt_of_le (by positivity) ((low_pos hm).trans h.1)
    rcases Nat.eq_zero_or_pos n with rfl | hn
    · simp at hpos
    · exact hn
  by_cases hunit : x.exponent = -1074 ∨ (2 : ℚ) ^ (x.exponent + 52) ≤ n / d
  · exact ofRatio?_same_unit hn hd h hunit
  · rw [not_or, not_le] at hunit
    exact ofRatio?_carry hn hd h hunit.1 hunit.2

end PayloadSchema.Binary64
