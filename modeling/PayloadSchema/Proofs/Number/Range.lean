import Mathlib.Data.List.TakeWhile
import PayloadSchema.Number.Decimal.OfBinary
import PayloadSchema.Proofs.Number.Decimal
import PayloadSchema.Proofs.Number.Shortest

/-!
Which numbers fit which format. A ratio below `2 ^ 1023` has a nearest binary64 number, literals
that are read as decimals are far below that, and whole binary64 numbers of moderate size are taken
over into decimals digit by digit.
-/
namespace PayloadSchema

theorem Digits.value_lt (ds : List Digit) : value ds < 10 ^ ds.length := by
  induction ds with
  | nil => decide
  | cons d ds ih =>
    have hone : ∀ d : Digit, value [d] ≤ 9 := by decide
    have := Nat.mul_le_mul_right (10 ^ ds.length) (hone d)
    rw [← List.singleton_append, value_append_eq, List.length_append, List.length_singleton,
      pow_add]
    omega

namespace Binary64
open Digits

theorem roundQuotient_bounds (a b : Nat) :
    a / b ≤ roundQuotient a b ∧ roundQuotient a b ≤ a / b + 1 := by
  rw [roundQuotient]
  split <;> omega

/-- In the unit that its size asks for, a ratio is below `2 ^ 53`, and not below `2 ^ 52` unless the
unit is the least one. -/
theorem quotient_bounds {n d : Nat} (hn : 0 < n) (hd : 0 < d) {q : ℤ}
    (hq : max (floorLog2 n d - 52) (-1074) = q) :
    (scaleTwo n d (-q)).1 / (scaleTwo n d (-q)).2 < 2 ^ 53 ∧
      (floorLog2 n d - 52 = q → 2 ^ 52 ≤ (scaleTwo n d (-q)).1 / (scaleTwo n d (-q)).2) := by
  obtain ⟨hlow, hhigh⟩ := floorLog2_bounds hn hd
  have hb := scaleTwo_pos (n := n) hd (-q)
  have hratio := scaleTwo_ratio n hd (-q)
  generalize (scaleTwo n d (-q)).1 = a at *
  generalize (scaleTwo n d (-q)).2 = b at *
  have hb' : (0 : ℚ) < b := by exact_mod_cast hb
  constructor
  · have hsmall : (n : ℚ) / d * 2 ^ (-q) < 2 ^ (53 : ℤ) :=
      calc (n : ℚ) / d * 2 ^ (-q) < 2 ^ (floorLog2 n d + 1) * 2 ^ (-q) := by gcongr
        _ = 2 ^ (floorLog2 n d + 1 + -q) := by rw [← zpow_add₀ (by norm_num)]
        _ ≤ 2 ^ (53 : ℤ) := two_zpow_le.2 (by omega)
    rw [Nat.div_lt_iff_lt_mul hb, ← Nat.cast_lt (α := ℚ), hratio]
    push_cast
    gcongr
    exact_mod_cast hsmall
  · intro hunit
    have hlarge : (2 : ℚ) ^ (52 : ℤ) ≤ n / d * 2 ^ (-q) :=
      calc (2 : ℚ) ^ (52 : ℤ) = 2 ^ (floorLog2 n d + -q) := by congr 1; omega
        _ = 2 ^ floorLog2 n d * 2 ^ (-q) := zpow_add₀ (by norm_num) _ _
        _ ≤ n / d * 2 ^ (-q) := by gcongr
    rw [Nat.le_div_iff_mul_le hb, ← Nat.cast_le (α := ℚ), hratio]
    push_cast
    gcongr
    exact_mod_cast hlarge

/-- A ratio of moderate size is rounded to a number. If it is not below the normal ones, the number
has a full significand, in the unit of the ratio or in the next one. -/
theorem exists_ofRatio? (negative : Bool) {n d : Nat} (hn : 0 < n) (hd : 0 < d)
    (hlog : floorLog2 n d ≤ 1022) :
    ∃ x, ofRatio? negative n d = some x ∧ x.negative = negative ∧
      (-1022 ≤ floorLog2 n d → 2 ^ 52 ≤ x.significand ∧ floorLog2 n d - 52 ≤ x.exponent ∧
        x.exponent ≤ floorLog2 n d - 51) := by
  obtain ⟨q, hq⟩ : ∃ q, max (floorLog2 n d - 52) (-1074) = q := ⟨_, rfl⟩
  obtain ⟨hsmall, hlarge⟩ := quotient_bounds hn hd hq
  obtain ⟨hround, hround'⟩ :=
    roundQuotient_bounds (scaleTwo n d (-q)).1 (scaleTwo n d (-q)).2
  by_cases hcarry : roundQuotient (scaleTwo n d (-q)).1 (scaleTwo n d (-q)).2 = 2 ^ 53
  · let x : Binary64 := ⟨negative, 2 ^ 52, q + 1, by decide, by omega, by omega, .inl le_rfl⟩
    refine ⟨x, ofRatio?_eq hn x rfl hq (.inr ⟨hcarry, rfl, rfl⟩), rfl, fun hnormal => ?_⟩
    exact ⟨le_rfl, show floorLog2 n d - 52 ≤ q + 1 by omega,
      show q + 1 ≤ floorLog2 n d - 51 by omega⟩
  · have hnormal : -1022 ≤ floorLog2 n d →
        2 ^ 52 ≤ roundQuotient (scaleTwo n d (-q)).1 (scaleTwo n d (-q)).2 :=
      fun h => (hlarge (by omega)).trans hround
    have hcanon : Canonical (roundQuotient (scaleTwo n d (-q)).1 (scaleTwo n d (-q)).2) q := by
      rw [Canonical, pow2_eq, pow2_eq]
      refine ⟨by omega, by omega, by omega, ?_⟩
      by_cases h : -1022 ≤ floorLog2 n d
      · exact .inl (hnormal h)
      · exact .inr (by omega)
    let x : Binary64 := ⟨negative, _, q, hcanon⟩
    refine ⟨x, ofRatio?_eq hn x rfl hq (.inl ⟨rfl, rfl⟩), rfl, fun h => ?_⟩
    exact ⟨hnormal h, show floorLog2 n d - 52 ≤ q by omega, show q ≤ floorLog2 n d - 51 by omega⟩

/-- Numerals below `10 ^ 300` are not too large. -/
theorem exists_ofScientific? {s : Scientific}
    (h : (s.coefficient : ℚ) * 10 ^ s.exponent < 10 ^ (300 : ℤ)) :
    ∃ x, ofScientific? s = some x := by
  by_cases htiny : s.coefficient = 0 ∨ s.exponent + ((ofNat s.coefficient).length : ℤ) < -330
  · exact ⟨_, if_pos htiny⟩
  · rw [not_or, not_lt] at htiny
    have hc := Nat.pos_of_ne_zero htiny.1
    have hmost : s.exponent + ((ofNat s.coefficient).length : ℤ) ≤ 310 := by
      have hlead := (leading_bounds hc s.exponent).1.trans_lt h
      have := (zpow_lt_zpow_iff_right₀ (by norm_num)).1 hlead
      omega
    obtain ⟨n, d, hn, hd, hratio, hround⟩ := exists_ratio hc htiny.2 hmost
    have hten : (10 : ℚ) ^ (300 : ℤ) ≤ 2 ^ (1023 : ℤ) := ten_zpow_le (by norm_num) (by norm_num)
    have hlog : floorLog2 n d < 1023 := by
      rw [← two_zpow_lt]
      exact (floorLog2_bounds hn hd).1.trans_lt (hratio ▸ h.trans_le hten)
    obtain ⟨x, hx, -⟩ := exists_ofRatio? s.negative hn hd (by omega)
    exact ⟨x, hround.trans hx⟩

end Binary64

namespace Decimal
open Digits

theorem value_of_readWhole {negative started : Bool} {mantissa : Nat} {ds : List Digit}
    {rest : List Char} {d : Decimal}
    (h : readWhole negative mantissa started (chars ds ++ rest) = some d)
    (hm : mantissa < 2 ^ 96) : valueFrom mantissa ds < 2 ^ 96 := by
  induction ds generalizing mantissa started with
  | nil => exact hm
  | cons a ds ih =>
    simp only [chars, List.map_cons, List.cons_append, readWhole, Digit.ofChar?_toChar] at h
    split at h
    · rename_i hfits
      exact ih h hfits
    · cases h

/-- The digits before the point have to fit. -/
theorem value_of_readPlain? {negative : Bool} {ds : List Digit} {rest : List Char} {d : Decimal}
    (h : readPlain? ((if negative then ['-'] else []) ++ chars ds ++ rest) = some d) :
    value ds < 2 ^ 96 := by
  by_cases hds : ds = []
  · rw [hds]
    decide
  · rw [readPlain?, takeSign_chars negative hds] at h
    exact value_of_readWhole h (by decide)

theorem isBeforeMark_of_ofChar? {c : Char} (h : (Digit.ofChar? c).isSome = true) :
    isBeforeMark c = true := by
  rw [isBeforeMark, Bool.not_eq_true', Bool.or_eq_false_iff, beq_eq_false_iff_ne,
    beq_eq_false_iff_ne]
  constructor
  · rintro rfl
    exact absurd h (by decide)
  · rintro rfl
    exact absurd h (by decide)

theorem isBeforeMark_of_mem_chars {c : Char} {ds : List Digit} (h : c ∈ chars ds) :
    isBeforeMark c = true := by
  obtain ⟨d, -, rfl⟩ := List.mem_map.1 h
  exact isBeforeMark_of_ofChar? (by rw [Digit.ofChar?_toChar]; rfl)

theorem mem_takeSign {c : Char} {cs : List Char} (hminus : c ≠ '-') (hplus : c ≠ '+')
    (h : c ∈ cs) : c ∈ (Scientific.takeSign cs).2 := by
  unfold Scientific.takeSign
  split
  · exact (List.mem_cons.1 h).resolve_left hminus
  · exact (List.mem_cons.1 h).resolve_left hplus
  · exact h

def leadChars (n : Numeral) : List Char :=
  (if n.negative then ['-'] else []) ++ chars n.whole
    ++ (if n.fraction.isEmpty then [] else '.' :: chars n.fraction)

theorem isBeforeMark_of_mem_leadChars {n : Numeral} {c : Char} (h : c ∈ leadChars n) :
    isBeforeMark c = true := by
  simp only [leadChars, List.mem_append] at h
  rcases h with (h | h) | h
  · split at h
    · rw [List.mem_singleton.1 h]
      rfl
    · cases h
  · exact isBeforeMark_of_mem_chars h
  · split at h
    · cases h
    · rcases List.mem_cons.1 h with rfl | h
      · rfl
      · exact isBeforeMark_of_mem_chars h

theorem le_of_grow {base d : Decimal} {k : Nat} (h : base.grow k = some d) : k ≤ 28 := by
  have hscale := base.inRange.2
  unfold grow at h
  split at h
  · omega
  · split at h
    · cases h
    · omega

theorem value_le_of_readPower? {e : Numeral.Exponent} {k : Nat}
    (h : readPower? ((if e.negative then '-' else '+') :: chars e.digits) = some k) :
    e.value ≤ k := by
  obtain ⟨negative, ds⟩ := e
  cases negative with
  | true =>
    rw [Numeral.Exponent.value, if_pos rfl]
    omega
  | false =>
    obtain ⟨ds', hds, h⟩ := Option.bind_eq_some_iff.1 h
    have hread : Digits.read? (chars ds) = some ds' := hds
    rw [Digits.read?, span_chars] at hread
    cases ds with
    | nil => cases hread
    | cons a ds =>
      cases hread
      simp only [Option.ite_none_right_eq_some, Option.some.injEq] at h
      rw [Numeral.Exponent.value, if_neg Bool.false_ne_true, h.2]

/-- A literal that is read as a decimal has less than `2 ^ 96` before the point and is scaled by no
more than `10 ^ 28`. -/
theorem bounds_of_read? {n : Numeral} {d : Decimal} (h : read? n.chars = some d) :
    value n.whole < 2 ^ 96 ∧ n.toScientific.exponent + n.fraction.length ≤ 28 := by
  have hlead (c : Char) (hc : c ∈ leadChars n) := isBeforeMark_of_mem_leadChars hc
  obtain ⟨negative, whole, fraction, exponent⟩ := n
  cases exponent with
  | none =>
    have hchars : (Numeral.mk negative whole fraction none).chars =
        leadChars ⟨negative, whole, fraction, none⟩ := List.append_nil _
    rw [hchars] at h
    rcases Option.or_eq_some_iff.1 h with h | ⟨-, h⟩
    · refine ⟨value_of_readPlain? h, ?_⟩
      simp [Numeral.toScientific]
    · obtain ⟨mark, power, base, hdrop, -⟩ := exists_of_readScaled? h
      rw [List.dropWhile_eq_nil_iff.2 hlead] at hdrop
      cases hdrop
  | some e =>
    have hchars : (Numeral.mk negative whole fraction (some e)).chars =
        leadChars ⟨negative, whole, fraction, some e⟩ ++ e.chars := rfl
    rw [hchars] at h
    rcases Option.or_eq_some_iff.1 h with h | ⟨-, h⟩
    · have hmem : 'e' ∈ leadChars ⟨negative, whole, fraction, some e⟩ ++ e.chars :=
        List.mem_append_right _ List.mem_cons_self
      have hplain := isPlain_of_readWhole h 'e' (mem_takeSign (by decide) (by decide) hmem)
      exact absurd hplain (by unfold IsPlain; decide)
    · obtain ⟨mark, power, base, hdrop, hbase, hpower⟩ := exists_of_readScaled? h
      rw [List.dropWhile_append_of_pos hlead] at hdrop
      rw [List.takeWhile_append_of_pos hlead] at hbase
      rw [show e.chars.takeWhile isBeforeMark = [] from rfl, List.append_nil] at hbase
      cases (hdrop : 'e' :: (if e.negative then '-' else '+') :: chars e.digits = mark :: power)
      suffices hle : e.value ≤ 28 from
        ⟨value_of_readPlain? hbase, (Int.sub_add_cancel e.value _).trans_le hle⟩
      rcases hpower with ⟨rest, k, hminus, -⟩ | ⟨k, hk, hgrow⟩
      · have hneg : e.negative = true := by
          by_contra hpos
          rw [if_neg hpos] at hminus
          cases hminus
        rw [Numeral.Exponent.value, if_pos hneg]
        omega
      · exact (value_le_of_readPower? hk).trans (by exact_mod_cast le_of_grow hgrow)

end Decimal

/-- Digits with an optional sign are a decimal, if they fit. -/
theorem Decimal.exists_read?_of_digits {cs : List Char} {ds : List Digit}
    (hds : Digits.read? (Scientific.takeSign cs).2 = some ds) (h : Digits.value ds < 2 ^ 96) :
    ∃ d, read? cs = some d ∧ d.scale = 0 ∧
      d.signed = if (Scientific.takeSign cs).1 then -(Digits.value ds : Int)
        else Digits.value ds := by
  have hchars := Digits.eq_of_read? hds
  have hne : ds ≠ [] := by
    rintro rfl
    rw [hchars] at hds
    cases hds
  have hplain : readPlain? cs = some ⟨(Scientific.takeSign cs).1 && Digits.value ds != 0,
      Digits.value ds, 0, h, by decide⟩ := by
    rw [readPlain?_eq, hchars, ← List.append_nil (Digits.chars ds), readWhole_chars _ _ _ _ _ h,
      readWhole, if_pos (by simpa using hne)]
    exact dif_pos ⟨h, by decide⟩
  exact ⟨_, by rw [read?, hplain, Option.some_or], rfl, signed_mk _ _ _ _⟩

namespace Numeral
open Digits

/-- Literals of the size of decimals have a nearest binary64 number. -/
theorem exists_toBinary64? {n : Numeral} (hwhole : value n.whole < 2 ^ 96)
    (hscale : n.toScientific.exponent + n.fraction.length ≤ 28) : ∃ x, n.toBinary64? = some x := by
  apply Binary64.exists_ofScientific?
  have hfraction := value_lt n.fraction
  have hcoefficient : n.toScientific.coefficient < 2 ^ 96 * 10 ^ n.fraction.length :=
    calc n.toScientific.coefficient
        = value n.whole * 10 ^ n.fraction.length + value n.fraction := value_append_eq _ _
      _ < (value n.whole + 1) * 10 ^ n.fraction.length := by rw [add_one_mul]; omega
      _ ≤ 2 ^ 96 * 10 ^ n.fraction.length := Nat.mul_le_mul_right _ hwhole
  have hcoefficient' : (n.toScientific.coefficient : ℚ) < 2 ^ 96 * 10 ^ n.fraction.length := by
    exact_mod_cast hcoefficient
  calc (n.toScientific.coefficient : ℚ) * 10 ^ n.toScientific.exponent
      < 2 ^ 96 * 10 ^ n.fraction.length * 10 ^ n.toScientific.exponent := by gcongr
    _ = 2 ^ 96 * 10 ^ (n.toScientific.exponent + n.fraction.length) := by
        rw [zpow_add₀ (by norm_num), zpow_natCast]
        ring
    _ ≤ 10 ^ (29 : ℤ) * 10 ^ (28 : ℤ) := by
        gcongr
        · norm_num
        · norm_num
    _ = 10 ^ (57 : ℤ) := by rw [← zpow_add₀ (by norm_num)]; norm_num
    _ ≤ 10 ^ (300 : ℤ) := Binary64.ten_zpow_mono (by norm_num)

theorem toInt?_eq_some {n : Numeral} {i : Int} (h : n.toInt? = some i) :
    n.fraction = [] ∧ n.exponent = none ∧
      i = if n.negative then -(value n.whole : Int) else value n.whole := by
  obtain ⟨negative, whole, fraction, exponent⟩ := n
  cases fraction with
  | cons => cases h
  | nil =>
    cases exponent with
    | some => cases h
    | none =>
      cases h
      exact ⟨rfl, rfl, rfl⟩

/-- An integer past those of 64 bits with a sign is rounded to a number of at least `2 ^ 63`. -/
theorem toBinary64?_of_large {n : Numeral} {i : Int} (h : n.toInt? = some i) (hlow : 2 ^ 63 ≤ i)
    (hhigh : i < 2 ^ 64) :
    ∃ x, n.toBinary64? = some x ∧ x.negative = false ∧ 2 ^ 52 ≤ x.significand ∧
      11 ≤ x.exponent ∧ x.exponent ≤ 12 := by
  obtain ⟨hfraction, hexponent, hi⟩ := toInt?_eq_some h
  obtain ⟨negative, whole, fraction, exponent⟩ := n
  cases hfraction
  cases hexponent
  have hneg : negative = false := by
    by_contra hneg
    rw [if_pos (by simpa using hneg)] at hi
    omega
  subst hneg
  obtain ⟨k, hk⟩ : ∃ k, value whole = k := ⟨_, rfl⟩
  have hi : i = k := hk ▸ hi
  have hpos : 0 < k := by omega
  have hlen := length_ofNat_le (show k < 10 ^ 20 by omega) (by decide)
  have hscientific : toScientific ⟨false, whole, [], none⟩ = ⟨false, k, 0⟩ := by
    rw [toScientific, List.append_nil, hk]
    rfl
  obtain ⟨n, d, hn, hd, hratio, hround⟩ :=
    Binary64.exists_ratio (s := ⟨false, k, 0⟩) hpos (by dsimp only; omega) (by dsimp only; omega)
  rw [zpow_zero, mul_one] at hratio
  have hlog : Binary64.floorLog2 n d = 63 := by
    have hlow' : (2 : ℚ) ^ 63 ≤ k := by exact_mod_cast (show 2 ^ 63 ≤ k by omega)
    have hhigh' : (k : ℚ) < 2 ^ 64 := by exact_mod_cast (show k < 2 ^ 64 by omega)
    apply Binary64.floorLog2_eq hn hd
    · rw [hratio]
      exact_mod_cast hlow'
    · rw [hratio]
      exact_mod_cast hhigh'
  obtain ⟨x, hx, hxneg, hnormal⟩ := Binary64.exists_ofRatio? false hn hd (by omega)
  obtain ⟨hfull, hexp, hexp'⟩ := hnormal (by omega)
  refine ⟨x, ?_, hxneg, hfull, by omega, by omega⟩
  rw [toBinary64?, hscientific, hround, hx]

end Numeral

namespace Decimal

theorem absorbDoubles_eq {n m : Nat} (e : Int) (h : m * 2 ^ n < 2 ^ 96) :
    Draft.absorbDoubles n ⟨m, e⟩ = some ⟨m * 2 ^ n, e - n⟩ := by
  induction n generalizing m e with
  | zero => simp [Draft.absorbDoubles]
  | succ n ih =>
    rw [pow_succ', ← mul_assoc, mul_comm m] at h
    have hfits : m < pow2 95 := by
      have := Nat.le_mul_of_pos_right (2 * m) (Nat.two_pow_pos n)
      rw [pow2_eq]
      omega
    rw [Draft.absorbDoubles, if_pos hfits, ih _ h, pow_succ', ← mul_assoc, mul_comm m]
    congr 2
    push_cast
    ring

/-- A whole number of less than 96 bits is kept as it is. -/
theorem ofBinary64?_of_whole {x : Binary64} {q : Nat} (hq : x.exponent = q)
    (h : x.significand * 2 ^ q < 2 ^ 96) :
    ofBinary64? x = some ⟨x.negative, x.significand * 2 ^ q, 0, h, by decide⟩ := by
  rw [ofBinary64?, hq]
  simp only [Int.natCast_nonneg, if_true, Int.toNat_natCast]
  rw [absorbDoubles_eq _ h]
  simp [Draft.raise, Draft.limitPlaces, Draft.limitDigits, Draft.strip, make?, h]

end Decimal
end PayloadSchema
