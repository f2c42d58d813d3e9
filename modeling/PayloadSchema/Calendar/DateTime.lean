import PayloadSchema.Calendar.Date

/-!
Moments with an offset from UTC and their RFC 3339 text. The offset is kept as written. Second 60
is a leap second: second 59 with a nanosecond count past one thousand million.
-/
namespace PayloadSchema

namespace DateTime

/-- Times of day, with a leap second only after second 59, and offsets of less than a day. -/
abbrev Valid (hour minute second nano : Nat) (offset : Int) : Prop :=
  hour < 24 ∧ minute < 60 ∧ second < 60 ∧ nano < 2000000000
    ∧ (nano < 1000000000 ∨ second = 59) ∧ -86400 < offset ∧ offset < 86400

end DateTime

structure DateTime where
  date : Date
  hour : Nat
  minute : Nat
  second : Nat
  nano : Nat
  offset : Int
  valid : DateTime.Valid hour minute second nano offset
  deriving DecidableEq

namespace DateTime
open Calendar

/-- Seconds since the start of 1970 in UTC, leap seconds not counted. -/
def unixSeconds (t : DateTime) : Int :=
  t.date.dayNumber * 86400 + (t.hour * 3600 + t.minute * 60 + t.second : Nat) - t.offset

def same (a b : DateTime) : Bool := a.unixSeconds == b.unixSeconds && a.nano == b.nano

/-- A fraction of a second has three, six or nine digits, as few as keep it. -/
def fractionChars (nano : Nat) : List Char :=
  if nano = 0 then []
  else if nano % 1000000 = 0 then '.' :: Date.padded 3 (nano / 1000000)
  else if nano % 1000 = 0 then '.' :: Date.padded 6 (nano / 1000)
  else '.' :: Date.padded 9 nano

def offsetChars (offset : Int) : List Char :=
  if offset = 0 then ['Z']
  else
    let minutes := offset.natAbs / 60
    (if offset < 0 then '-' else '+') :: Date.padded 2 (minutes / 60) ++ ':'
      :: Date.padded 2 (minutes % 60)

def chars (t : DateTime) : List Char :=
  t.date.chars ++ 'T' :: Date.padded 2 t.hour ++ ':' :: Date.padded 2 t.minute
    ++ ':' :: Date.padded 2 (t.second + t.nano / 1000000000)
    ++ fractionChars (t.nano % 1000000000) ++ offsetChars t.offset

def text (t : DateTime) : String := String.ofList t.chars

def readChar (ok : Char → Bool) : List Char → Except Fault (List Char)
  | [] => .error .tooShort
  | c :: cs => if ok c then .ok cs else .error .invalid

def readDigit : List Char → Except Fault (Nat × List Char)
  | [] => .error .tooShort
  | c :: cs =>
    match Digit.ofChar? c with
    | some d => .ok (d.val, cs)
    | none => .error .invalid

def readDigits : Nat → Nat → List Char → Except Fault (Nat × List Char)
  | 0, value, cs => .ok (value, cs)
  | n + 1, value, cs => do
    let (d, cs) ← readDigit cs
    readDigits n (10 * value + d) cs

/-- Two digits of an offset; a lone ASCII character is too short for them. -/
def readPair : List Char → Except Fault (Nat × Nat × List Char)
  | [] => .error .tooShort
  | [c] => if c.toNat < 128 then .error .tooShort else .error .invalid
  | c :: c' :: cs =>
    match Digit.ofChar? c, Digit.ofChar? c' with
    | some d, some d' => .ok (d.val, d'.val, cs)
    | _, _ => .error .invalid

/-- Nanoseconds from the digits after a point; digits past the ninth are dropped. -/
def readFraction : List Char → Except Fault (Nat × List Char)
  | '.' :: cs =>
    match Digits.span cs with
    | ([], _) => if cs.isEmpty then .error .tooShort else .error .invalid
    | (ds, rest) =>
      let kept := ds.take 9
      .ok (Digits.value kept * pow10 (9 - kept.length), rest)
  | cs => .ok (0, cs)

/-- `Z`, or a sign with hours and minutes; a minus may also be U+2212. -/
def readOffset : List Char → Except Fault (Int × List Char)
  | [] => .error .tooShort
  | c :: cs =>
    if c = 'Z' ∨ c = 'z' then .ok (0, cs)
    else if c ≠ '+' ∧ c ≠ '-' ∧ c.toNat ≠ 0x2212 then .error .invalid
    else do
      let (h, h', cs) ← readPair cs
      let cs ← readChar (· == ':') cs
      let (m, m', cs) ← readPair cs
      if 6 ≤ m then .error .outOfRange
      let seconds : Int := ((10 * h + h') * 3600 + (10 * m + m') * 60 : Nat)
      return (if c = '+' then seconds else -seconds, cs)

/-- Nineteen bytes at fixed places, then a fraction and an offset. The date is checked once its
digits are read, the time after the fraction, and the range of the offset last. -/
def read (cs : List Char) : Except Fault DateTime := do
  if (String.ofList cs).utf8ByteSize < 19 then .error .tooShort
  let (year, cs) ← readDigits 4 0 cs
  let cs ← readChar (· == '-') cs
  let (month, cs) ← readDigits 2 0 cs
  let cs ← readChar (· == '-') cs
  let (day, cs) ← readDigits 2 0 cs
  match Date.make? year month day with
  | none => .error .outOfRange
  | some date =>
    let cs ← readChar (fun c => c == 'T' || c == 't' || c == ' ') cs
    let (hour, cs) ← readDigits 2 0 cs
    let cs ← readChar (· == ':') cs
    let (minute, cs) ← readDigits 2 0 cs
    let cs ← readChar (· == ':') cs
    let (second, cs) ← readDigits 2 0 cs
    let (fraction, cs) ← readFraction cs
    let (second, nano) := if second = 60 then (59, 1000000000 + fraction) else (second, fraction)
    unless hour < 24 ∧ minute < 60 ∧ second < 60 do .error .outOfRange
    let (offset, cs) ← readOffset cs
    unless cs.isEmpty do .error .tooLong
    if h : Valid hour minute second nano offset then
      .ok ⟨date, hour, minute, second, nano, offset, h⟩
    else .error .outOfRange

def parse (s : String) : Except Fault DateTime := read s.toList

end DateTime
end PayloadSchema
