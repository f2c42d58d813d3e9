import PayloadSchema.Number.Digit

/-!
Numbers in scientific form, `± coefficient · 10 ^ exponent`, and the text that denotes them:
an optional sign, digits with an optional point, and an optional exponent.
-/
namespace PayloadSchema

structure Scientific where
  negative : Bool
  coefficient : Nat
  exponent : Int
  deriving DecidableEq, Repr

namespace Scientific

def takeSign : List Char → Bool × List Char
  | '-' :: cs => (true, cs)
  | '+' :: cs => (false, cs)
  | cs => (false, cs)

def readExponent? : List Char → Option Int
  | [] => some 0
  | c :: cs =>
    if c = 'e' ∨ c = 'E' then
      let (negative, cs) := takeSign cs
      (Digits.read? cs).map fun ds =>
        if negative then -(Digits.value ds : Int) else (Digits.value ds : Int)
    else none

def takeFraction : List Char → List Digit × List Char
  | '.' :: cs => Digits.span cs
  | cs => ([], cs)

/-- Reads a whole text; a digit has to stand before or after the point. -/
def read? (cs : List Char) : Option Scientific :=
  let (negative, cs) := takeSign cs
  let (whole, cs) := Digits.span cs
  let (fraction, cs) := takeFraction cs
  if whole.isEmpty && fraction.isEmpty then none
  else (readExponent? cs).map fun e =>
    ⟨negative, Digits.value (whole ++ fraction), e - fraction.length⟩

def isWhole (s : Scientific) : Bool :=
  s.coefficient == 0 || decide (0 ≤ s.exponent) || s.coefficient % pow10 s.exponent.natAbs == 0

end Scientific
end PayloadSchema
