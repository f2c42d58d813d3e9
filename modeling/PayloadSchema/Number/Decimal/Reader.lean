import PayloadSchema.Number.Decimal

/-!
Decimal text. The plain form has a sign, digits with separating underscores, and a point; digits
after the point that do not fit are rounded away. The exponent form scales a plain form by a power
of ten.
-/
namespace PayloadSchema.Decimal

/-- Places that are cut off hold only digits and underscores. -/
def droppable (cs : List Char) : Bool :=
  cs.all fun c => (Digit.ofChar? c).isSome || c == '_'

/-- Ends a number at the digit `next`, which rounds half away from zero; a mantissa that
overflows gives up one more place. -/
def roundAt (negative : Bool) (mantissa scale next : Nat) : Option Decimal :=
  let mantissa := if 5 ≤ next then mantissa + 1 else mantissa
  if mantissa < pow2 96 then make? (negative && mantissa != 0) mantissa scale
  else if scale = 0 then none
  else make? negative ((mantissa + 4) / 10) (scale - 1)

/-- Whether the digits before the last one of a mantissa need more than a machine word to go on
with. -/
def isWide (mantissa : Nat) : Bool := decide ((pow2 64 - 1) / 10 - 255 ≤ mantissa / 10)

/-- The digits after the point. An underscore after the last place that is kept stands for a zero,
or is passed over if the mantissa is wide. -/
def readPlaces (negative : Bool) (mantissa scale : Nat) (started : Bool) :
    List Char → Option Decimal
  | [] => if started then make? (negative && mantissa != 0) mantissa scale else none
  | c :: cs =>
    match Digit.ofChar? c with
    | some d =>
      if 28 ≤ scale ∨ pow2 96 ≤ 10 * mantissa + d.val then
        if droppable cs then roundAt negative mantissa scale d.val else none
      else readPlaces negative (10 * mantissa + d.val) (scale + 1) true cs
    | none =>
      if c = '_' ∧ started then
        if 28 ≤ scale ∧ !isWide mantissa then
          if droppable cs then roundAt negative mantissa scale 0 else none
        else readPlaces negative mantissa scale started cs
      else none

def readWhole (negative : Bool) (mantissa : Nat) (started : Bool) : List Char → Option Decimal
  | [] => if started then make? (negative && mantissa != 0) mantissa 0 else none
  | c :: cs =>
    match Digit.ofChar? c with
    | some d =>
      if 10 * mantissa + d.val < pow2 96 then
        readWhole negative (10 * mantissa + d.val) true cs
      else none
    | none =>
      if c = '.' then readPlaces negative mantissa 0 started cs
      else if c = '_' ∧ started then readWhole negative mantissa started cs
      else none

def readPlain? (cs : List Char) : Option Decimal :=
  let (negative, cs) := Scientific.takeSign cs
  readWhole negative 0 false cs

def readPower? (cs : List Char) : Option Nat :=
  let cs := match cs with | '+' :: r => r | cs => cs
  (Digits.read? cs).bind fun ds =>
    let n := Digits.value ds
    if n < pow2 32 then some n else none

/-- Half away from zero, to at most `places` places. -/
def roundTo (d : Decimal) (places : Nat) : Decimal :=
  if places < d.scale then
    let unit := pow10 (d.scale - places)
    match make? d.negative ((2 * d.mantissa + unit) / (2 * unit)) places with
    | some r => r
    | none => d
  else d

/-- Divides by `10 ^ x`, rounding away what would exceed 28 places. -/
def shrink (d : Decimal) (x : Nat) : Option Decimal :=
  if 28 < x then none
  else
    let d := if 28 < d.scale + x then d.roundTo (28 - x) else d
    make? d.negative d.mantissa (d.scale + x)

def grow (d : Decimal) (x : Nat) : Option Decimal :=
  if x ≤ d.scale then make? d.negative d.mantissa (d.scale - x)
  else if 28 < x then none
  else make? d.negative (d.mantissa * pow10 (x - d.scale)) 0

def readScaled? (cs : List Char) : Option Decimal :=
  let isMark := fun c => c == 'e' || c == 'E'
  match cs.dropWhile (fun c => !isMark c) with
  | [] => none
  | _ :: power =>
    (readPlain? (cs.takeWhile fun c => !isMark c)).bind fun base =>
      match power with
      | '-' :: rest => (readPower? rest).bind base.shrink
      | _ => (readPower? power).bind base.grow

def read? (cs : List Char) : Option Decimal := (readPlain? cs).or (readScaled? cs)

end PayloadSchema.Decimal
