import PayloadSchema.Calendar.Fault
import PayloadSchema.Number.Digit
import PayloadSchema.Text.Category

/-!
Days of the Gregorian calendar and their text `YYYY-MM-DD`. Text is read loosely: white space may
stand before each number, month and day may have one digit, and a signed year any number of them.
-/
namespace PayloadSchema

namespace Date

def isLeapYear (year : Int) : Bool :=
  year % 4 == 0 && (year % 100 != 0 || year % 400 == 0)

def daysInMonth (year : Int) (month : Nat) : Nat :=
  if month = 2 then (if isLeapYear year then 29 else 28)
  else if month = 4 ∨ month = 6 ∨ month = 9 ∨ month = 11 then 30
  else 31

abbrev Valid (year : Int) (month day : Nat) : Prop :=
  -262143 ≤ year ∧ year ≤ 262142 ∧ 1 ≤ month ∧ month ≤ 12 ∧ 1 ≤ day ∧ day ≤ daysInMonth year month

end Date

structure Date where
  year : Int
  month : Nat
  day : Nat
  valid : Date.Valid year month day
  deriving DecidableEq

namespace Date
open Calendar

def make? (year : Int) (month day : Nat) : Option Date :=
  if h : Valid year month day then some ⟨year, month, day, h⟩ else none

/-- Days since 1970-01-01, counting years from March so that a leap day ends its year. -/
def dayNumber (d : Date) : Int :=
  let y := if d.month ≤ 2 then d.year - 1 else d.year
  let shifted : Int := if d.month ≤ 2 then d.month + 9 else d.month - 3
  365 * y + y.fdiv 4 - y.fdiv 100 + y.fdiv 400 + (153 * shifted + 2) / 5 + d.day - 719469

def padded (width n : Nat) : List Char :=
  let ds := Digits.chars (Digits.ofNat n)
  List.replicate (width - ds.length) '0' ++ ds

/-- A year has at least four digits, and a sign if it is not one of 0 to 9999. -/
def yearChars (year : Int) : List Char :=
  if year < 0 then '-' :: padded 4 year.natAbs
  else if 9999 < year then '+' :: padded 4 year.natAbs
  else padded 4 year.natAbs

def chars (d : Date) : List Char :=
  yearChars d.year ++ '-' :: padded 2 d.month ++ '-' :: padded 2 d.day

def text (d : Date) : String := String.ofList d.chars

def readNumber (most : Nat) (cs : List Char) : Except Fault (Nat × List Char) :=
  match Digits.span (cs.take most) with
  | ([], _) => if cs.isEmpty then .error .tooShort else .error .invalid
  | (ds, rest) => .ok (Digits.value ds, rest ++ cs.drop most)

/-- Without a sign a year has at most four digits. -/
def readYear (cs : List Char) : Except Fault (Int × List Char) :=
  match cs.dropWhile Text.isBlank with
  | '-' :: cs => (readNumber cs.length cs).map fun (n, rest) => (-(n : Int), rest)
  | '+' :: cs => (readNumber cs.length cs).map fun (n, rest) => ((n : Int), rest)
  | cs => (readNumber 4 cs).map fun (n, rest) => ((n : Int), rest)

def readDash : List Char → Except Fault (List Char)
  | [] => .error .tooShort
  | c :: cs => if c = '-' then .ok cs else .error .invalid

def readField (greatest : Nat) (cs : List Char) : Except Fault (Nat × List Char) := do
  let (n, rest) ← readNumber 2 (cs.dropWhile Text.isBlank)
  if n = 0 ∨ greatest < n then .error .outOfRange
  return (n, rest)

/-- The fields are checked as they are read, then the end of the text, then the calendar. -/
def read (cs : List Char) : Except Fault Date := do
  let (year, cs) ← readYear cs
  if year < -(pow2 31 : Int) ∨ pow2 31 ≤ year then .error .outOfRange
  let cs ← readDash cs
  let (month, cs) ← readField 12 cs
  let cs ← readDash cs
  let (day, cs) ← readField 31 cs
  unless cs.isEmpty do .error .tooLong
  match make? year month day with
  | some d => .ok d
  | none => .error .outOfRange

def parse (s : String) : Except Fault Date := read s.toList

end Date
end PayloadSchema
