import PayloadSchema.Number.Scientific

/-!
The finite numbers of the binary64 format, `± significand · 2 ^ exponent`, with rounding to the
nearest of them (a half goes to the even neighbour).
-/
namespace PayloadSchema

/-- The one form in which each finite binary64 number is held. -/
abbrev Binary64.Canonical (m : Nat) (q : Int) : Prop :=
  m < pow2 53 ∧ -1074 ≤ q ∧ q ≤ 971 ∧ (pow2 52 ≤ m ∨ q = -1074)

structure Binary64 where
  negative : Bool
  significand : Nat
  exponent : Int
  canonical : Binary64.Canonical significand exponent
  deriving DecidableEq

namespace Binary64

def zero (negative : Bool) : Binary64 := ⟨negative, 0, -1074, by decide⟩

/-- The quotient of two naturals rounded to the nearest natural, a half to the even one. -/
def roundQuotient (n d : Nat) : Nat :=
  let q := n / d
  let r := n % d
  if 2 * r < d ∨ (2 * r = d ∧ q % 2 = 0) then q else q + 1

/-- `n · 2 ^ k / d` and its denominator, both natural. -/
def scaleTwo (n d : Nat) (k : Int) : Nat × Nat :=
  if 0 ≤ k then (n * pow2 k.toNat, d) else (n, d * pow2 (-k).toNat)

/-- The exponent of the greatest power of two not above `n / d`, for positive `n` and `d`. -/
def floorLog2 (n d : Nat) : Int :=
  let k : Int := (Nat.log2 n : Int) - (Nat.log2 d : Int)
  let (a, b) := scaleTwo n d (-k)
  if b ≤ a then k else k - 1

/-- The number nearest to `± n / d`; none if that is beyond the greatest finite one. -/
def ofRatio? (negative : Bool) (n d : Nat) : Option Binary64 :=
  if n = 0 then some (zero negative)
  else
    let q := max (floorLog2 n d - 52) (-1074)
    let (a, b) := scaleTwo n d (-q)
    let m := roundQuotient a b
    let (m, q) := if m = pow2 53 then (pow2 52, q + 1) else (m, q)
    if h : Canonical m q then some ⟨negative, m, q, h⟩ else none

/-- The number nearest to a numeral. Exponents far outside the format are settled from the
number of digits alone. -/
def ofScientific? (s : Scientific) : Option Binary64 :=
  let top := s.exponent + ((Digits.ofNat s.coefficient).length : Int)
  if s.coefficient = 0 ∨ top < -330 then some (zero s.negative)
  else if 310 < top then none
  else if 0 ≤ s.exponent then ofRatio? s.negative (s.coefficient * pow10 s.exponent.toNat) 1
  else ofRatio? s.negative s.coefficient (pow10 (-s.exponent).toNat)

def isZero (x : Binary64) : Bool := x.significand == 0

def isWhole (x : Binary64) : Bool :=
  decide (0 ≤ x.exponent) || x.significand % pow2 (-x.exponent).toNat == 0

def signed (x : Binary64) : Int := if x.negative then -x.significand else x.significand

def compare (x y : Binary64) : Ordering :=
  let low := min x.exponent y.exponent
  Ord.compare (x.signed * pow2 (x.exponent - low).toNat) (y.signed * pow2 (y.exponent - low).toNat)

def same (x y : Binary64) : Bool := compare x y == .eq

end Binary64
end PayloadSchema
