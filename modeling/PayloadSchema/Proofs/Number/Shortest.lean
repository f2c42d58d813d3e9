import PayloadSchema.Proofs.Number.Digits
import PayloadSchema.Proofs.Number.Rounding

/-!
The shortest decimal form of a binary64 number reads back as that number: the search ends on a grid
point that the number attracts, and every layout of the digits denotes that point.
-/
namespace PayloadSchema.Binary64
open Digits

/-- Powers of ten below powers of two, from the fractions `59 / 196` and `28 / 93` on both sides of
the logarithm of two. -/
theorem ten_zpow_le {t k : ℤ} (h : 196 * t ≤ 59 * k) (h' : 93 * t ≤ 28 * k) :
    (10 : ℚ) ^ t ≤ 2 ^ k := by
  rcases Int.le_total 0 t with ht | ht
  · obtain ⟨n, rfl⟩ := Int.eq_ofNat_of_zero_le ht
    rw [← pow_le_pow_iff_left₀ (by positivity) (by positivity) (show 59 ≠ 0 by decide)]
    calc ((10 : ℚ) ^ (n : ℤ)) ^ 59 = (10 ^ 59) ^ n := by
          rw [zpow_natCast, ← pow_mul, ← pow_mul, mul_comm]
      _ ≤ (2 ^ 196) ^ n := by
          gcongr
          norm_num
      _ = 2 ^ (196 * (n : ℤ)) := by
          rw [← pow_mul]
          norm_cast
      _ ≤ 2 ^ (59 * k) := two_zpow_le.mpr h
      _ = ((2 : ℚ) ^ k) ^ 59 := by
          rw [← zpow_natCast, ← zpow_mul, mul_comm]
          rfl
  · obtain ⟨n, hn⟩ := Int.eq_ofNat_of_zero_le (show 0 ≤ -t by omega)
    obtain rfl : t = -(n : ℤ) := by omega
    rw [← pow_le_pow_iff_left₀ (by positivity) (by positivity) (show 28 ≠ 0 by decide)]
    calc ((10 : ℚ) ^ (-(n : ℤ))) ^ 28 = ((10 ^ 28) ^ n)⁻¹ := by
          rw [zpow_neg, zpow_natCast, inv_pow, ← pow_mul, ← pow_mul, mul_comm]
      _ ≤ ((2 ^ 93) ^ n)⁻¹ := by
          gcongr
          norm_num
      _ = 2 ^ (93 * -(n : ℤ)) := by
          rw [← pow_mul, mul_neg, zpow_neg]
          norm_cast
      _ ≤ 2 ^ (28 * k) := two_zpow_le.mpr h'
      _ = ((2 : ℚ) ^ k) ^ 28 := by
          rw [← zpow_natCast, ← zpow_mul, mul_comm]
          rfl

theorem step_pos (x : Binary64) (e : ℤ) : 0 < (Grid.of x e).step :=
  Nat.mul_pos (Nat.pow_pos (by decide)) (Nat.pow_pos (by decide))

/-- The unit and the step of a grid stand for a quarter of a unit in the last place and for a power
of ten, at one scale. -/
theorem exists_scale (x : Binary64) (e : ℤ) :
    ∃ w : ℚ, 0 < w ∧ ((Grid.of x e).unit : ℚ) = 2 ^ (x.exponent - 2) * w ∧
      ((Grid.of x e).step : ℚ) = 10 ^ e * w := by
  have htwo := pow_toNat (show (2 : ℚ) ≠ 0 by norm_num) (x.exponent - 2)
  have hten := pow_toNat (show (10 : ℚ) ≠ 0 by norm_num) e
  rw [neg_sub] at htwo
  refine ⟨2 ^ (2 - x.exponent).toNat * 10 ^ (-e).toNat, by positivity, ?_, ?_⟩
  · simp only [Grid.of, pow2_eq, pow10_eq]
    push_cast
    rw [htwo]
    ring
  · simp only [Grid.of, pow2_eq, pow10_eq]
    push_cast
    rw [hten]
    ring

theorem gapBelow_le (x : Binary64) : x.gapBelow ≤ 2 := by
  rw [gapBelow]
  split <;> decide

/-- The grid points that the search takes for rounding to a number are those it attracts. -/
theorem rounds_iff {x : Binary64} (hm : 0 < x.significand) (e : ℤ) (c : Nat) :
    (Grid.of x e).rounds x c = true ↔ x.Attracts (c * 10 ^ e) := by
  obtain ⟨w, hw, hunit, hstep⟩ := exists_scale x e
  have hgap : x.gapBelow ≤ 4 * x.significand := by
    have := x.gapBelow_le
    omega
  have hlow : (((4 * x.significand - x.gapBelow) * (Grid.of x e).unit : Nat) : ℚ) = x.low * w := by
    rw [Nat.cast_mul, Nat.cast_sub hgap, hunit, low]
    push_cast
    ring
  have hhigh : (((4 * x.significand + 2) * (Grid.of x e).unit : Nat) : ℚ) = x.high * w := by
    rw [Nat.cast_mul, hunit, high]
    push_cast
    ring
  have hpoint : ((c * (Grid.of x e).step : Nat) : ℚ) = c * 10 ^ e * w := by
    rw [Nat.cast_mul, hstep]
    ring
  rw [Grid.rounds, Attracts]
  split
  · rename_i heven
    rw [Bool.and_eq_true, decide_eq_true_iff, decide_eq_true_iff, ← Nat.cast_le (α := ℚ), hlow,
      ← Nat.cast_le (α := ℚ), hhigh, hpoint, mul_le_mul_iff_of_pos_right hw,
      mul_le_mul_iff_of_pos_right hw]
    exact ⟨fun h => ⟨h.1, h.2, fun hodd => by omega⟩, fun h => ⟨h.1, h.2.1⟩⟩
  · rename_i hodd
    rw [Bool.and_eq_true, decide_eq_true_iff, decide_eq_true_iff, ← Nat.cast_lt (α := ℚ), hlow,
      ← Nat.cast_lt (α := ℚ), hhigh, hpoint, mul_lt_mul_iff_of_pos_right hw,
      mul_lt_mul_iff_of_pos_right hw]
    exact ⟨fun h => ⟨h.1.le, h.2.le, fun _ => h⟩, fun h => h.2.2 (by omega)⟩

theorem nearest?_rounds {g : Grid} {x : Binary64} {c : Nat} (h : g.nearest? x = some c) :
    g.rounds x c = true ∧ 0 < c := by
  rw [Grid.nearest?] at h
  generalize 4 * x.significand * g.unit / g.step = b at h
  simp only [Bool.and_eq_true, decide_eq_true_eq] at h
  split at h
  · rename_i hboth
    obtain ⟨⟨hpos, hbelow⟩, habove⟩ := hboth
    split at h
    · cases h
      exact ⟨hbelow, hpos⟩
    · cases h
      exact ⟨habove, Nat.succ_pos b⟩
    · split at h <;> cases h
      · exact ⟨hbelow, hpos⟩
      · exact ⟨habove, Nat.succ_pos b⟩
  · split at h
    · rename_i hbelow
      cases h
      exact ⟨hbelow.2, hbelow.1⟩
    · split at h
      · rename_i habove
        cases h
        exact ⟨habove, Nat.succ_pos b⟩
      · cases h

/-- A grid finer than half a unit in the last place has a point above the number that the number
attracts. -/
theorem nearest?_ne_none {x : Binary64} (hm : 0 < x.significand) {e : ℤ}
    (he : (10 : ℚ) ^ e < 2 ^ (x.exponent - 1)) : (Grid.of x e).nearest? x ≠ none := by
  obtain ⟨w, hw, hunit, hstep⟩ := exists_scale x e
  have hmod := Nat.div_add_mod (4 * x.significand * (Grid.of x e).unit) (Grid.of x e).step
  have hlt := Nat.mod_lt (4 * x.significand * (Grid.of x e).unit) (step_pos x e)
  have habove : (Grid.of x e).rounds x
      (4 * x.significand * (Grid.of x e).unit / (Grid.of x e).step + 1) = true := by
    rw [rounds_iff hm]
    generalize 4 * x.significand * (Grid.of x e).unit / (Grid.of x e).step = c at *
    have hfloor : (c : ℚ) * 10 ^ e ≤ 4 * x.significand * 2 ^ (x.exponent - 2) := by
      have hnat : c * (Grid.of x e).step ≤ 4 * x.significand * (Grid.of x e).unit := by
        rw [mul_comm]
        omega
      rw [← Nat.cast_le (α := ℚ)] at hnat
      push_cast at hnat
      rw [hunit, hstep, ← mul_assoc, ← mul_assoc, mul_le_mul_iff_of_pos_right hw] at hnat
      exact hnat
    have hceil : 4 * (x.significand : ℚ) * 2 ^ (x.exponent - 2) < (c + 1) * 10 ^ e := by
      have hnat : 4 * x.significand * (Grid.of x e).unit < (c + 1) * (Grid.of x e).step := by
        rw [add_mul, one_mul, mul_comm c]
        omega
      rw [← Nat.cast_lt (α := ℚ)] at hnat
      push_cast at hnat
      rw [hunit, hstep, ← mul_assoc, ← mul_assoc, mul_lt_mul_iff_of_pos_right hw] at hnat
      exact hnat
    have hlow : x.low ≤ 4 * x.significand * 2 ^ (x.exponent - 2) := by
      rw [low]
      gcongr
      linarith [(Nat.cast_nonneg x.gapBelow : (0 : ℚ) ≤ x.gapBelow)]
    have hhigh : x.high = 4 * x.significand * 2 ^ (x.exponent - 2) + 2 ^ (x.exponent - 1) := by
      rw [high, show x.exponent - 1 = x.exponent - 2 + 1 by ring, two_zpow_succ]
      ring
    have hinside :
        x.low < ((c + 1 : Nat) : ℚ) * 10 ^ e ∧ ((c + 1 : Nat) : ℚ) * 10 ^ e < x.high := by
      push_cast
      constructor <;> linarith
    exact ⟨hinside.1.le, hinside.2.le, fun _ => hinside⟩
  rw [Grid.nearest?]
  simp only [habove, Bool.and_true]
  split
  · split <;> simp
  · simp

/-- The search stops at a grid point that the number attracts, if the last grid it may try is fine
enough. -/
theorem coarsest_attracts {x : Binary64} (hm : 0 < x.significand) {k : Nat} {e : ℤ}
    (he : (10 : ℚ) ^ (e - k) < 2 ^ (x.exponent - 1)) :
    0 < (coarsest x (k + 1) e).1 ∧
      x.Attracts ((coarsest x (k + 1) e).1 * 10 ^ (coarsest x (k + 1) e).2) := by
  induction k generalizing e with
  | zero =>
    have hsome := nearest?_ne_none hm (by simpa using he)
    obtain ⟨c, hc⟩ := Option.ne_none_iff_exists'.mp hsome
    obtain ⟨hrounds, hpos⟩ := nearest?_rounds hc
    rw [coarsest, hc]
    exact ⟨hpos, (rounds_iff hm e c).mp hrounds⟩
  | succ k ih =>
    rw [coarsest]
    cases hc : (Grid.of x e).nearest? x with
    | some c =>
      obtain ⟨hrounds, hpos⟩ := nearest?_rounds hc
      exact ⟨hpos, (rounds_iff hm e c).mp hrounds⟩
    | none =>
      apply ih
      rwa [Nat.cast_succ, ← sub_sub, sub_right_comm] at he

theorem shortest_attracts {x : Binary64} (hm : 0 < x.significand) :
    0 < x.shortest.1 ∧ x.Attracts (x.shortest.1 * 10 ^ x.shortest.2) := by
  obtain ⟨hm53, hmin, hmax, -⟩ := x.canonical
  have hlog : x.significand.log2 < 53 := (Nat.log2_lt hm.ne').mpr hm53
  apply coarsest_attracts hm (k := 19)
  have hdiv := Int.mul_fdiv_add_fmod (((x.significand.log2 : ℤ) + x.exponent) * 30103) 100000
  have hmod := Int.fmod_nonneg_of_pos (((x.significand.log2 : ℤ) + x.exponent) * 30103)
    (show (0 : ℤ) < 100000 by decide)
  generalize (((x.significand.log2 : ℤ) + x.exponent) * 30103).fdiv 100000 = t at *
  calc (10 : ℚ) ^ (t + 2 - ((19 : Nat) : ℤ)) ≤ 2 ^ (x.exponent - 2) :=
        ten_zpow_le (by omega) (by omega)
    _ < 2 ^ (x.exponent - 1) := two_zpow_lt.mpr (by omega)

/-- The place of the leading digit, counted from the point, gives the size of a numeral. -/
theorem leading_bounds {c : Nat} (hc : 0 < c) (e : ℤ) :
    (10 : ℚ) ^ (e + (ofNat c).length - 1) ≤ c * 10 ^ e ∧
      (c : ℚ) * 10 ^ e < 10 ^ (e + (ofNat c).length) := by
  obtain ⟨hlead, hlen⟩ := length_ofNat_bounds hc
  have hpos : 0 < (ofNat c).length := List.length_pos_iff.mpr (ofNat_ne_nil c)
  have hlead' : (10 : ℚ) ^ (((ofNat c).length : ℤ) - 1) ≤ c := by
    rw [← Nat.cast_pred hpos, zpow_natCast]
    exact_mod_cast hlead
  have hlen' : (c : ℚ) < 10 ^ ((ofNat c).length : ℤ) := by
    rw [zpow_natCast]
    exact_mod_cast hlen
  constructor
  · rw [add_sub_assoc, zpow_add₀ (by norm_num), mul_comm]
    gcongr
  · rw [zpow_add₀ (by norm_num), mul_comm]
    gcongr

theorem ten_zpow_mono {j k : ℤ} (h : j ≤ k) : (10 : ℚ) ^ j ≤ 10 ^ k :=
  zpow_le_zpow_right₀ (by norm_num) h

section
variable {x : Binary64} (hm : 0 < x.significand) {c : Nat} {e : ℤ} (h : x.Attracts (c * 10 ^ e))
include hm h

theorem ge_of_attracts : (2 : ℚ) ^ (-1075 : ℤ) ≤ c * 10 ^ e := by
  have hmin := x.canonical.2.1
  exact (two_zpow_le.mpr (by omega)).trans ((low_pos hm).trans h.1)

theorem pos_of_attracts : 0 < c := by
  rcases Nat.eq_zero_or_pos c with hzero | hpos
  · have hsmall := ge_of_attracts hm h
    rw [hzero, Nat.cast_zero, zero_mul] at hsmall
    exact absurd hsmall (not_le.mpr (by positivity))
  · exact hpos

/-- The sizes that are settled without rounding are outside the format. -/
theorem size_of_attracts :
    -330 ≤ e + ((ofNat c).length : ℤ) ∧ e + ((ofNat c).length : ℤ) ≤ 310 := by
  obtain ⟨hlead, hlen⟩ := leading_bounds (pos_of_attracts hm h) e
  constructor
  · by_contra htop
    have hten : (10 : ℚ) ^ (-331 : ℤ) ≤ 2 ^ (-1075 : ℤ) := ten_zpow_le (by norm_num) (by norm_num)
    have hmono := ten_zpow_mono (show e + ((ofNat c).length : ℤ) ≤ -331 by omega)
    have hsmall := ge_of_attracts hm h
    linarith
  · by_contra htop
    have hmax := x.canonical.2.2.1
    have hlarge : (c : ℚ) * 10 ^ e < 2 ^ (1024 : ℤ) := h.2.1.trans_lt (high_lt (by omega))
    have hten : (2 : ℚ) ^ (1024 : ℤ) ≤ 10 ^ (310 : ℤ) := by
      have hinv : (10 : ℚ) ^ (-310 : ℤ) ≤ 2 ^ (-1024 : ℤ) := ten_zpow_le (by norm_num) (by norm_num)
      rwa [zpow_neg, zpow_neg, inv_le_inv₀ (by positivity) (by positivity)] at hinv
    have hmono := ten_zpow_mono (show 310 ≤ e + ((ofNat c).length : ℤ) - 1 by omega)
    exact absurd (hten.trans (hmono.trans hlead)) (not_le.mpr hlarge)

end

/-- Within the sizes that are not settled from the number of digits, a numeral is rounded as the
ratio that it denotes. -/
theorem exists_ratio {s : Scientific} (hc : 0 < s.coefficient)
    (hleast : -330 ≤ s.exponent + ((ofNat s.coefficient).length : ℤ))
    (hmost : s.exponent + ((ofNat s.coefficient).length : ℤ) ≤ 310) :
    ∃ n d : Nat, 0 < n ∧ 0 < d ∧ (n : ℚ) / d = s.coefficient * 10 ^ s.exponent ∧
      ofScientific? s = ofRatio? s.negative n d := by
  have hnottiny :
      ¬(s.coefficient = 0 ∨ s.exponent + ((ofNat s.coefficient).length : ℤ) < -330) := by
    omega
  have hten := pow_toNat (show (10 : ℚ) ≠ 0 by norm_num) s.exponent
  rw [ofScientific?, if_neg hnottiny, if_neg (not_lt.mpr hmost), pow10_eq, pow10_eq]
  split
  · rename_i hexp
    rw [show (-s.exponent).toNat = 0 by omega, pow_zero, mul_one] at hten
    refine ⟨_, 1, Nat.mul_pos hc (Nat.pow_pos (by decide)), Nat.one_pos, ?_, rfl⟩
    push_cast
    rw [div_one, hten]
  · rename_i hexp
    rw [show s.exponent.toNat = 0 by omega, pow_zero] at hten
    refine ⟨_, _, hc, Nat.pow_pos (by decide), ?_, rfl⟩
    push_cast
    rw [div_eq_mul_inv, ← eq_inv_of_mul_eq_one_left hten.symm]

/-- A numeral is read as the number that attracts it. -/
theorem ofScientific?_of_attracts {x : Binary64} (hm : 0 < x.significand) {s : Scientific}
    (hneg : s.negative = x.negative) (h : x.Attracts (s.coefficient * 10 ^ s.exponent)) :
    ofScientific? s = some x := by
  obtain ⟨hleast, hmost⟩ := size_of_attracts hm h
  obtain ⟨n, d, -, hd, hratio, hround⟩ := exists_ratio (pos_of_attracts hm h) hleast hmost
  rw [hround, hneg]
  exact ofRatio?_of_attracts hm hd (by rwa [hratio])

/-- Digits and exponent of a numeral against a coefficient and its power of ten; `k` zeros may be
written out. -/
theorem toScientific_eq {n : Numeral} {c k : Nat} {e : ℤ}
    (hdigits : value (n.whole ++ n.fraction) = c * 10 ^ k)
    (hexponent : n.toScientific.exponent + k = e) :
    (n.toScientific.coefficient : ℚ) * 10 ^ n.toScientific.exponent = c * 10 ^ e := by
  rw [← hexponent, zpow_add₀ (by norm_num), zpow_natCast]
  rw [show n.toScientific.coefficient = c * 10 ^ k from hdigits]
  push_cast
  ring

theorem value_zeros_append (k : Nat) (ds : List Digit) :
    value (List.replicate k Digit.zero ++ ds) = value ds := by
  rw [value_append_eq, value_replicate_zero, Nat.zero_mul, Nat.zero_add]

section
variable {x : Binary64} (hzero : ¬x.isZero = true) {c : Nat} {e : ℤ} (hs : x.shortest = (c, e))
include hzero hs

theorem toPlainNumeral_of_nonneg (he : 0 ≤ e) :
    x.toPlainNumeral =
      ⟨x.negative, ofNat c ++ List.replicate e.toNat Digit.zero, [], none⟩ := by
  rw [toPlainNumeral, if_neg hzero, hs]
  simp only [he, if_true]

theorem exists_toPlainNumeral (he : ¬0 ≤ e) :
    ∃ whole fraction : List Digit, x.toPlainNumeral = ⟨x.negative, whole, fraction, none⟩ ∧
      value (whole ++ fraction) = c ∧ fraction.length = (-e).toNat := by
  rw [toPlainNumeral, if_neg hzero, hs]
  simp only [he, if_false]
  refine ⟨_, _, rfl, ?_, ?_⟩
  · rw [List.take_append_drop, value_zeros_append, value_ofNat]
  · rw [List.length_drop, List.length_append, List.length_replicate]
    omega

end

theorem toNumeral_denotes {x : Binary64} (hm : 0 < x.significand) :
    x.toNumeral.negative = x.negative ∧
      (x.toNumeral.toScientific.coefficient : ℚ) * 10 ^ x.toNumeral.toScientific.exponent =
        x.shortest.1 * 10 ^ x.shortest.2 := by
  have hzero : ¬x.isZero = true := by simpa [isZero] using hm.ne'
  rw [toNumeral, if_neg hzero]
  cases hs : x.shortest with
  | mk c e =>
    simp only
    split
    · by_cases he : 0 ≤ e
      · rw [toPlainNumeral_of_nonneg hzero hs he]
        refine ⟨rfl, toScientific_eq (k := e.toNat + 1) ?_ ?_⟩
        · have hlast : value [Digit.zero] = 0 := by decide
          simp only [List.isEmpty_nil, if_true]
          rw [value_append_eq, value_append_eq, value_replicate_zero, hlast, value_ofNat,
            List.length_replicate, List.length_singleton, pow_succ]
          ring
        · simp only [List.isEmpty_nil, if_true, Numeral.toScientific, List.length_singleton]
          push_cast
          omega
      · obtain ⟨whole, fraction, hplain, hvalue, hlength⟩ := exists_toPlainNumeral hzero hs he
        have hne : fraction.isEmpty = false := by
          rw [List.isEmpty_eq_false_iff, ← List.length_pos_iff]
          omega
        rw [hplain]
        simp only [hne, Bool.false_eq_true, if_false]
        refine ⟨trivial, toScientific_eq (k := 0) (by simpa using hvalue) ?_⟩
        simp only [Numeral.toScientific, hlength]
        push_cast
        omega
    · refine ⟨rfl, toScientific_eq (k := 0) ?_ ?_⟩
      · simp only [List.take_append_drop, value_ofNat, pow_zero, mul_one]
      · have hpos : 0 < (ofNat c).length := List.length_pos_iff.mpr (ofNat_ne_nil c)
        simp only [Numeral.toScientific, Numeral.Exponent.value, value_ofNat, List.length_drop]
        split
        · rename_i hlead
          have := of_decide_eq_true hlead
          omega
        · rename_i hlead
          have : ¬e + (ofNat c).length - 1 < 0 := by simpa using hlead
          omega

theorem toBinary64?_toNumeral (x : Binary64) : x.toNumeral.toBinary64? = some x := by
  rcases Nat.eq_zero_or_pos x.significand with hzero | hm
  · obtain ⟨negative, m, q, hcanon⟩ := x
    obtain rfl : m = 0 := hzero
    obtain rfl : q = -1074 := by
      have hnormal : 2 ^ 52 ≤ 0 ∨ q = -1074 := hcanon.2.2.2
      omega
    rfl
  · obtain ⟨hneg, hvalue⟩ := toNumeral_denotes hm
    apply ofScientific?_of_attracts hm hneg
    rw [hvalue]
    exact (shortest_attracts hm).2

end PayloadSchema.Binary64
