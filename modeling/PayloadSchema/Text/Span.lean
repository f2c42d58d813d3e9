/-! Sets of characters written as spans of code points. -/
namespace PayloadSchema.Text

/-- The code points `first, first + step, …` up to `last`. -/
structure Span where
  first : Nat
  last : Nat
  step : Nat
  deriving DecidableEq, Repr

namespace Span

def contains (s : Span) (n : Nat) : Bool :=
  decide (s.first ≤ n) && decide (n ≤ s.last) && (n - s.first) % s.step == 0

end Span

def inSpans (spans : List Span) (c : Char) : Bool :=
  spans.any (·.contains c.toNat)

end PayloadSchema.Text
