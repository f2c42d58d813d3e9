import PayloadSchema.Number.Numeral

/-!
Decimal numbers with a 96-bit mantissa and up to 28 places, `± mantissa / 10 ^ scale`. The scale
is part of a number's text, not of its value.
-/
namespace PayloadSchema

structure Decimal where
  negative : Bool
  mantissa : Nat
  scale : Nat
  inRange : mantissa < pow2 96 ∧ scale ≤ 28
  deriving DecidableEq

namespace Decimal

def make? (negative : Bool) (mantissa scale : Nat) : Option Decimal :=
  if h : mantissa < pow2 96 ∧ scale ≤ 28 then some ⟨negative, mantissa, scale, h⟩ else none

def signed (d : Decimal) : Int := if d.negative then -d.mantissa else d.mantissa

def compare (a b : Decimal) : Ordering :=
  Ord.compare (a.signed * pow10 b.scale) (b.signed * pow10 a.scale)

def same (a b : Decimal) : Bool := compare a b == .eq

def isWhole (d : Decimal) : Bool := d.mantissa % pow10 d.scale == 0

def truncate (d : Decimal) : Int := d.signed.tdiv (pow10 d.scale)

/-- All digits before the point, and as many after it as the scale says. -/
def toNumeral (d : Decimal) : Numeral :=
  let ds := Digits.ofNat d.mantissa
  let ds := List.replicate (d.scale + 1 - ds.length) Digit.zero ++ ds
  ⟨d.negative, ds.take (ds.length - d.scale), ds.drop (ds.length - d.scale), none⟩

def text (d : Decimal) : String := d.toNumeral.text

def toBinary64? (d : Decimal) : Option Binary64 :=
  Binary64.ofRatio? d.negative d.mantissa (pow10 d.scale)

end Decimal
end PayloadSchema
