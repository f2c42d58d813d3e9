import PayloadSchema.Instance
import PayloadSchema.Json.Printer
import PayloadSchema.Number.Decimal.Reader
import PayloadSchema.Number.Decimal.OfBinary

/-!
Raw values as values of a kind. Numbers may also be sent as text, with blanks around it; booleans
are never numbers and numbers are never text. A well-formed number that the kind cannot hold is
told apart from a value of the wrong shape.
-/
namespace PayloadSchema

inductive Conversion where
  | value (i : Instance)
  /-- A number that `target` cannot hold. -/
  | outOfRange (literal target : String)
  | wrongShape

namespace Conversion

def ofOption (i : Option Instance) : Conversion :=
  match i with
  | some i => value i
  | none => wrongShape

def isValue : Conversion → Bool
  | value _ => true
  | _ => false

def integerTarget : String := "a 64-bit signed integer"

def machineInteger (literal : String) (i : Int) : Conversion :=
  if -(pow2 63 : Int) ≤ i ∧ i < pow2 63 then value (.integer i)
  else outOfRange literal integerTarget

/-- A literal that is an integer is taken as it stands if it has 64 bits, signed or not; any other
one is rounded to binary64 first. -/
def integerOfNumber (n : Numeral) : Conversion :=
  match n.toInt?.filter fun i => decide (-(pow2 63 : Int) ≤ i) && decide (i < pow2 64) with
  | some i => machineInteger n.text i
  | none =>
    match n.toBinary64? with
    | none => outOfRange n.text integerTarget
    | some x =>
      if !x.isWhole then wrongShape
      else
        match Decimal.ofBinary64? x with
        | some d => machineInteger n.text d.truncate
        | none => outOfRange n.text integerTarget

def machineInteger? (cs : List Char) : Option Int := do
  let (negative, rest) := Scientific.takeSign cs
  let ds ← Digits.read? rest
  let i : Int := if negative then -(Digits.value ds : Int) else Digits.value ds
  if -(pow2 63 : Int) ≤ i ∧ i < pow2 63 then some i else none

/-- Text that is no decimal may still be a number: a whole one is too large, any other one is no
integer. -/
def integerOfText (cs : List Char) : Conversion :=
  match machineInteger? cs with
  | some i => value (.integer i)
  | none =>
    match Decimal.read? cs with
    | some d => if d.isWhole then machineInteger (String.ofList cs) d.truncate else wrongShape
    | none =>
      match Scientific.read? cs with
      | none => wrongShape
      | some s =>
        match Binary64.ofScientific? s with
        | none => outOfRange (String.ofList cs) integerTarget
        | some x => if x.isWhole then outOfRange (String.ofList cs) integerTarget else wrongShape

def floatOf (literal : String) (x : Option Binary64) : Conversion :=
  match x with
  | some x => value (.float x)
  | none => outOfRange literal "float"

def floatOfText (cs : List Char) : Conversion :=
  match Scientific.read? cs with
  | some s => floatOf (String.ofList cs) (Binary64.ofScientific? s)
  | none => wrongShape

def decimalOfNumber (n : Numeral) : Conversion :=
  match Decimal.read? n.chars with
  | some d => value (.decimal d)
  | none => outOfRange n.text "decimal"

def decimalOfText (cs : List Char) : Conversion :=
  match Decimal.read? cs with
  | some d => value (.decimal d)
  | none =>
    match Scientific.read? cs with
    | some _ => outOfRange (String.ofList cs) "decimal"
    | none => wrongShape

end Conversion

namespace Kind

open Conversion in
def convert : Kind → Json → Conversion
  | .any, v => value (.any v)
  | .null, .null => value .null
  | .string, .string s => value (.string s)
  | .boolean, .bool b => value (.boolean b)
  | .integer, .number n => integerOfNumber n
  | .integer, .string s => integerOfText (Text.trim s.toList)
  | .float, .number n => floatOf n.text n.toBinary64?
  | .float, .string s => floatOfText (Text.trim s.toList)
  | .decimal, .number n => decimalOfNumber n
  | .decimal, .string s => decimalOfText (Text.trim s.toList)
  | .bytes, .string s => .ofOption ((Base64.decode? s.toList).map .bytes)
  | .date, .string s => .ofOption ((Date.parse s).toOption.map .date)
  | .dateTime, .string s => .ofOption ((DateTime.parse s).toOption.map .dateTime)
  | .uuid, .string s => .ofOption ((Uuid.parse? s).map .uuid)
  | _, _ => wrongShape

/-- Whether a raw value has a value of this kind, whatever the constraints say. -/
def accepts (kind : Kind) (raw : Json) : Bool := (kind.convert raw).isValue

end Kind
end PayloadSchema
