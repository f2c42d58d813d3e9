import PayloadSchema.Number.Binary64

/-!
Number literals of JSON text. A literal keeps its digits; only the exponent is normalised, to a
small `e` and a written sign. Two literals are equal only if they are written alike.
-/
namespace PayloadSchema

namespace Numeral

structure Exponent where
  negative : Bool
  digits : List Digit
  deriving DecidableEq, Repr

end Numeral

/-- An optional minus, the digits before the point, the digits after it (none if there is no
point), and the exponent. -/
structure Numeral where
  negative : Bool
  whole : List Digit
  fraction : List Digit
  exponent : Option Numeral.Exponent
  deriving DecidableEq, Repr

namespace Numeral

def Exponent.value (e : Exponent) : Int :=
  if e.negative then -(Digits.value e.digits : Int) else (Digits.value e.digits : Int)

def Exponent.chars (e : Exponent) : List Char :=
  'e' :: (if e.negative then '-' else '+') :: Digits.chars e.digits

def chars (n : Numeral) : List Char :=
  (if n.negative then ['-'] else []) ++ Digits.chars n.whole
    ++ (if n.fraction.isEmpty then [] else '.' :: Digits.chars n.fraction)
    ++ (match n.exponent with | some e => e.chars | none => [])

def text (n : Numeral) : String := String.ofList n.chars

def ofInt (i : Int) : Numeral := ⟨decide (i < 0), Digits.ofNat i.natAbs, [], none⟩

/-- The integer a literal denotes if it has neither a fraction nor an exponent. -/
def toInt? (n : Numeral) : Option Int :=
  match n.fraction, n.exponent with
  | [], none => some (if n.negative then -(Digits.value n.whole : Int) else Digits.value n.whole)
  | _, _ => none

def toScientific (n : Numeral) : Scientific where
  negative := n.negative
  coefficient := Digits.value (n.whole ++ n.fraction)
  exponent := (match n.exponent with | some e => e.value | none => 0) - n.fraction.length

def toBinary64? (n : Numeral) : Option Binary64 := Binary64.ofScientific? n.toScientific

theorem toInt?_ofInt (i : Int) : (ofInt i).toInt? = some i := by
  by_cases h : i < 0
  · have : -((i.natAbs : Nat) : Int) = i := by omega
    simp only [toInt?, ofInt, Digits.value_ofNat, h, decide_true, if_true, this]
  · have : ((i.natAbs : Nat) : Int) = i := by omega
    simp only [toInt?, ofInt, Digits.value_ofNat, h, decide_false, Bool.false_eq_true, if_false,
      this]

end Numeral
end PayloadSchema
