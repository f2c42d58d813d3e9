import PayloadSchema.Proofs.Number.Range
import PayloadSchema.Proofs.Validation.Leaf

/-!
How the kinds of numbers overlap. A literal that is an integer or a decimal is a float, a text that
is an integer is a decimal, and a literal that is no integer is none after it has been rounded to a
float.
-/
namespace PayloadSchema

/-- A float is never written as an integer literal. -/
theorem Binary64.toInt?_toNumeral (x : Binary64) : x.toNumeral.toInt? = none := by
  rw [Option.eq_none_iff_forall_ne_some]
  intro i hi
  obtain ⟨hfraction, hexponent, -⟩ := Numeral.toInt?_eq_some hi
  unfold toNumeral at hfraction hexponent
  split at hfraction
  · cases hfraction
  · rename_i hzero
    simp only [hzero] at hexponent
    simp only at hfraction
    split at hfraction
    · split at hfraction
      · cases hfraction
      · rename_i hempty
        exact hempty (List.isEmpty_iff.2 hfraction)
    · rename_i hplain
      simp only [hplain] at hexponent
      cases hexponent

namespace Conversion
open Instance (FitsMachine)

theorem isValue_machineInteger (literal : String) (i : Int) :
    (machineInteger literal i).isValue = decide (FitsMachine i) := by
  unfold machineInteger FitsMachine
  split
  · rename_i h
    rw [decide_eq_true h]
    rfl
  · rename_i h
    rw [decide_eq_false h]
    rfl

def holdsInteger (x : Binary64) : Bool :=
  x.isWhole && (Decimal.ofBinary64? x).any fun d => decide (FitsMachine d.truncate)

/-- The integer that a literal denotes if it has 64 bits, signed or not. -/
def machineLiteral? (n : Numeral) : Option Int :=
  n.toInt?.filter fun i => decide (-(pow2 63 : Int) ≤ i) && decide (i < pow2 64)

theorem machineLiteral?_eq_some {n : Numeral} {i : Int} (h : machineLiteral? n = some i) :
    n.toInt? = some i ∧ -2 ^ 63 ≤ i ∧ i < 2 ^ 64 := by
  obtain ⟨hi, hrange⟩ := Option.filter_eq_some_iff.1 h
  rw [Bool.and_eq_true, decide_eq_true_eq, decide_eq_true_eq] at hrange
  exact ⟨hi, hrange⟩

theorem integerOfNumber_eq (n : Numeral) :
    integerOfNumber n =
      match machineLiteral? n with
      | some i => machineInteger n.text i
      | none =>
        match n.toBinary64? with
        | none => outOfRange n.text integerTarget
        | some x =>
          if !x.isWhole then wrongShape
          else
            match Decimal.ofBinary64? x with
            | some d => machineInteger n.text d.truncate
            | none => outOfRange n.text integerTarget :=
  rfl

theorem isValue_integerOfNumber_of_some {n : Numeral} {i : Int} (h : machineLiteral? n = some i) :
    (integerOfNumber n).isValue = decide (FitsMachine i) := by
  rw [integerOfNumber_eq, h]
  exact isValue_machineInteger n.text i

/-- Any other literal is judged by the float that it is rounded to. -/
theorem isValue_integerOfNumber_of_none {n : Numeral} {x : Binary64}
    (h : machineLiteral? n = none) (hx : n.toBinary64? = some x) :
    (integerOfNumber n).isValue = holdsInteger x := by
  rw [integerOfNumber_eq, h, hx, holdsInteger]
  simp only
  cases x.isWhole with
  | false => rfl
  | true =>
    cases Decimal.ofBinary64? x with
    | none => rfl
    | some d => exact isValue_machineInteger n.text d.truncate

/-- A literal too large for a sign is rounded to a float that is too large as well. -/
theorem holdsInteger_of_large {n : Numeral} {i : Int} {x : Binary64} (h : n.toInt? = some i)
    (hlow : 2 ^ 63 ≤ i) (hhigh : i < 2 ^ 64) (hx : n.toBinary64? = some x) :
    holdsInteger x = false := by
  obtain ⟨y, hy, hneg, hfull, hexp, hexp'⟩ := Numeral.toBinary64?_of_large h hlow hhigh
  cases hx.symm.trans hy
  obtain ⟨q, hq⟩ := Int.eq_ofNat_of_zero_le (show 0 ≤ x.exponent by omega)
  have hpow : 2 ^ 11 ≤ 2 ^ q := Nat.pow_le_pow_right (by decide) (by omega)
  have hpow' : 2 ^ q ≤ 2 ^ 12 := Nat.pow_le_pow_right (by decide) (by omega)
  have hbits : x.significand < 2 ^ 53 := x.canonical.1
  have hsmall : x.significand * 2 ^ q < 2 ^ 96 :=
    calc x.significand * 2 ^ q ≤ 2 ^ 53 * 2 ^ 12 := Nat.mul_le_mul hbits.le hpow'
      _ < 2 ^ 96 := by norm_num
  have hlarge : 2 ^ 63 ≤ x.significand * 2 ^ q :=
    calc 2 ^ 63 = 2 ^ 52 * 2 ^ 11 := by norm_num
      _ ≤ x.significand * 2 ^ q := Nat.mul_le_mul hfull hpow
  have hnot : ¬FitsMachine ((x.significand * 2 ^ q : Nat) : Int) := by
    rw [FitsMachine, pow2_eq]
    omega
  rw [holdsInteger, Decimal.ofBinary64?_of_whole hq hsmall, Option.any_some, Decimal.truncate,
    Decimal.signed, hneg, if_neg Bool.false_ne_true, pow10_eq, pow_zero, Nat.cast_one,
    Int.tdiv_one, decide_eq_false hnot, Bool.and_false]

/-- Digits that are a machine integer are the same number as a decimal. -/
theorem exists_read?_of_machineInteger? {cs : List Char} {i : Int}
    (h : machineInteger? cs = some i) :
    ∃ d, Decimal.read? cs = some d ∧ d.scale = 0 ∧ d.signed = i := by
  have hfits := machineInteger?_eq_some h
  simp only [machineInteger?, Option.bind_eq_bind, Option.bind_eq_some_iff,
    Option.ite_none_right_eq_some, Option.some.injEq] at h
  obtain ⟨ds, hds, -, hvalue⟩ := h
  have hsmall : Digits.value ds < 2 ^ 96 := by
    rw [FitsMachine, pow2_eq] at hfits
    split at hvalue <;> omega
  rw [← hvalue]
  exact Decimal.exists_read?_of_digits hds hsmall

theorem exists_read?_of_integerOfText {cs : List Char} (h : (integerOfText cs).isValue = true) :
    ∃ d, Decimal.read? cs = some d := by
  unfold integerOfText at h
  split at h
  · rename_i k hk
    obtain ⟨d, hd, -⟩ := exists_read?_of_machineInteger? hk
    exact ⟨d, hd⟩
  · split at h
    · rename_i d hd
      exact ⟨d, hd⟩
    · split at h
      · cases h
      · split at h
        · cases h
        · split at h <;> cases h

end Conversion

namespace Kind
open Conversion

theorem accepts_float_number {n : Numeral} :
    Kind.float.accepts (.number n) = n.toBinary64?.isSome := by
  rw [accepts, convert]
  cases n.toBinary64? <;> rfl

/-- A literal that is an integer is a float too. -/
theorem accepts_float_of_integer {n : Numeral} (h : Kind.integer.accepts (.number n) = true) :
    Kind.float.accepts (.number n) = true := by
  rw [accepts_float_number]
  cases hi : machineLiteral? n with
  | some i =>
    obtain ⟨hint, hlow, hhigh⟩ := machineLiteral?_eq_some hi
    obtain ⟨hfraction, hexponent, hvalue⟩ := Numeral.toInt?_eq_some hint
    have hwhole : Digits.value n.whole < 2 ^ 96 := by
      split at hvalue <;> omega
    obtain ⟨x, hx⟩ := Numeral.exists_toBinary64? hwhole (by simp [Numeral.toScientific, *])
    rw [hx]
    rfl
  | none =>
    cases hx : n.toBinary64? with
    | some x => rfl
    | none =>
      rw [accepts, convert, integerOfNumber_eq, hi, hx] at h
      cases h

/-- A literal that is a decimal is a float too. -/
theorem accepts_float_of_decimal {n : Numeral} (h : Kind.decimal.accepts (.number n) = true) :
    Kind.float.accepts (.number n) = true := by
  rw [accepts_float_number]
  cases hd : Decimal.read? n.chars with
  | none =>
    rw [accepts, convert, decimalOfNumber, hd] at h
    cases h
  | some d =>
    obtain ⟨hwhole, hscale⟩ := Decimal.bounds_of_read? hd
    obtain ⟨x, hx⟩ := Numeral.exists_toBinary64? hwhole hscale
    rw [hx]
    rfl

/-- A text that is an integer is a decimal too. -/
theorem accepts_decimal_of_integer {s : String} (h : Kind.integer.accepts (.string s) = true) :
    Kind.decimal.accepts (.string s) = true := by
  obtain ⟨d, hd⟩ := exists_read?_of_integerOfText h
  exact accepts_of_convert (decimalOfText_eq_value.2 ⟨d, hd, rfl⟩)

/-- A literal that is no integer is none after it has been rounded to a float. -/
theorem accepts_integer_of_float {n : Numeral} {x : Binary64} (hx : n.toBinary64? = some x)
    (h : Kind.integer.accepts (.number x.toNumeral) = true) :
    Kind.integer.accepts (.number n) = true := by
  have hnone : machineLiteral? x.toNumeral = none := by
    rw [machineLiteral?, x.toInt?_toNumeral]
    rfl
  have hholds := isValue_integerOfNumber_of_none hnone x.toBinary64?_toNumeral
  rw [accepts, convert] at h ⊢
  rw [h] at hholds
  cases hi : machineLiteral? n with
  | none => rw [isValue_integerOfNumber_of_none hi hx, hholds]
  | some i =>
    obtain ⟨hint, hlow, hhigh⟩ := machineLiteral?_eq_some hi
    rw [isValue_integerOfNumber_of_some hi, decide_eq_true_eq, Instance.FitsMachine, pow2_eq]
    by_contra hnot
    have hlarge := holdsInteger_of_large hint (by omega) hhigh hx
    rw [hlarge] at hholds
    cases hholds

end Kind
end PayloadSchema
