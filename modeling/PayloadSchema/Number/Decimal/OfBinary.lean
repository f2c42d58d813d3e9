import PayloadSchema.Number.Decimal

/-!
Binary64 numbers as decimals. The significand takes in the power of two as powers of five, digits
past those that a binary64 number guarantees are rounded away, and trailing zeros are dropped.
-/
namespace PayloadSchema.Decimal

structure Draft where
  mantissa : Nat
  exponent : Int

namespace Draft

/-- Halves the power of two `n` times: an even mantissa is halved, an odd one is multiplied by
five, or loses a bit where that does not fit. -/
def absorbHalves : Nat → Draft → Draft
  | 0, d => d
  | n + 1, d =>
    if d.mantissa % 2 = 0 then absorbHalves n ⟨d.mantissa / 2, d.exponent + 1⟩
    else if 5 * d.mantissa < pow2 96 then absorbHalves n ⟨5 * d.mantissa, d.exponent⟩
    else absorbHalves n ⟨d.mantissa / 2, d.exponent + 1⟩

/-- Doubles the mantissa `n` times; a value past 96 bits has no decimal. -/
def absorbDoubles : Nat → Draft → Option Draft
  | 0, d => some d
  | n + 1, d =>
    if d.mantissa < pow2 95 then absorbDoubles n ⟨2 * d.mantissa, d.exponent - 1⟩
    else if (n + 1 : Int) < d.exponent * 2 then none
    else absorbDoubles n ⟨d.mantissa / 5, d.exponent⟩

def raise : Nat → Draft → Option Draft
  | 0, d => some d
  | n + 1, d =>
    if 10 * d.mantissa < pow2 96 then raise n ⟨10 * d.mantissa, d.exponent - 1⟩ else none

def dropPlace (d : Draft) : Draft :=
  ⟨d.mantissa / 10 + (if 5 ≤ d.mantissa % 10 then 1 else 0), d.exponent + 1⟩

/-- Brings the exponent up to -28; a mantissa that runs out of digits is zero. -/
def limitPlaces : Nat → Draft → Draft
  | 0, d => d
  | n + 1, d =>
    if d.mantissa < 10 then ⟨0, 0⟩ else limitPlaces n d.dropPlace

/-- Rounds away places while the mantissa has more than 52 bits. -/
def limitDigits : Nat → Draft → Draft
  | 0, d => d
  | n + 1, d => if pow2 52 ≤ d.mantissa then limitDigits n d.dropPlace else d

def strip : Nat → Draft → Draft
  | 0, d => d
  | n + 1, d => if d.mantissa % 10 = 0 then strip n ⟨d.mantissa / 10, d.exponent + 1⟩ else d

end Draft

def ofBinary64? (x : Binary64) : Option Decimal :=
  let start : Draft := ⟨x.significand, x.exponent⟩
  let absorbed :=
    if 0 ≤ x.exponent then start.absorbDoubles x.exponent.toNat
    else some (start.absorbHalves (-x.exponent).toNat)
  (absorbed.bind fun d => d.raise d.exponent.toNat).bind fun d =>
    let d := d.limitPlaces (-28 - d.exponent).toNat
    let d := d.limitDigits (-d.exponent).toNat
    let d := d.strip (-d.exponent).toNat
    make? x.negative d.mantissa (-d.exponent).toNat

end PayloadSchema.Decimal
