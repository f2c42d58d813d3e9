import PayloadSchema.Json.Basic

/-!
Strict JSON text. A repeated key keeps its first place and takes the last value, and at most 127
containers may be nested. An object whose first key is reserved for numbers stands for a number.
-/
namespace PayloadSchema.Json

def skipBlank (cs : List Char) : List Char :=
  cs.dropWhile fun c => c == ' ' || c == '\t' || c == '\n' || c == '\r'

def hexValue? (c : Char) : Option Nat :=
  let n := c.toNat
  if 48 ≤ n ∧ n ≤ 57 then some (n - 48)
  else if 97 ≤ n ∧ n ≤ 102 then some (n - 87)
  else if 65 ≤ n ∧ n ≤ 70 then some (n - 55)
  else none

def unit? (a b c d : Char) : Option Nat := do
  let a ← hexValue? a
  let b ← hexValue? b
  let c ← hexValue? c
  let d ← hexValue? d
  return ((a * 16 + b) * 16 + c) * 16 + d

def simpleEscape? : Char → Option Char
  | '"' => some '"'
  | '\\' => some '\\'
  | '/' => some '/'
  | 'b' => some (Char.ofNat 8)
  | 'f' => some (Char.ofNat 12)
  | 'n' => some '\n'
  | 'r' => some '\r'
  | 't' => some '\t'
  | _ => none

/-- The rest of a string after its opening quote. A high surrogate has to be followed by a low
one, and neither may stand alone. -/
def readString (seen : List Char) : List Char → Option (String × List Char)
  | [] => none
  | '"' :: rest => some (String.ofList seen.reverse, rest)
  | '\\' :: 'u' :: a :: b :: c :: d :: '\\' :: 'u' :: e :: f :: g :: h :: rest =>
    match unit? a b c d, unit? e f g h with
    | some high, some low =>
      if 0xD800 ≤ high ∧ high < 0xDC00 then
        if 0xDC00 ≤ low ∧ low < 0xE000 then
          readString (Char.ofNat (0x10000 + (high - 0xD800) * 0x400 + (low - 0xDC00)) :: seen) rest
        else none
      else if 0xDC00 ≤ high ∧ high < 0xE000 then none
      else readString (Char.ofNat high :: seen) ('\\' :: 'u' :: e :: f :: g :: h :: rest)
    | _, _ => none
  | '\\' :: 'u' :: a :: b :: c :: d :: rest =>
    match unit? a b c d with
    | some n =>
      if 0xD800 ≤ n ∧ n < 0xE000 then none else readString (Char.ofNat n :: seen) rest
    | none => none
  | '\\' :: c :: rest =>
    match simpleEscape? c with
    | some c => readString (c :: seen) rest
    | none => none
  | c :: rest => if c.toNat < 32 ∨ c = '\\' then none else readString (c :: seen) rest

/-- The digits before the point: one zero, or no leading zero. -/
def readWhole? (cs : List Char) : Option (List Digit × List Char) :=
  match Digits.span cs with
  | ([], _) => none
  | (ds, rest) => if ds.head? = some 0 ∧ ds.length ≠ 1 then none else some (ds, rest)

def readFraction? : List Char → Option (List Digit × List Char)
  | '.' :: cs =>
    match Digits.span cs with
    | ([], _) => none
    | (ds, rest) => some (ds, rest)
  | cs => some ([], cs)

def readExponent? : List Char → Option (Option Numeral.Exponent × List Char)
  | c :: cs =>
    if c = 'e' ∨ c = 'E' then
      let (negative, cs) := Scientific.takeSign cs
      match Digits.span cs with
      | ([], _) => none
      | (ds, rest) => some (some ⟨negative, ds⟩, rest)
    else some (none, c :: cs)
  | [] => some (none, [])

def readNumber? (cs : List Char) : Option (Numeral × List Char) := do
  let (negative, cs) := match cs with | '-' :: r => (true, r) | cs => (false, cs)
  let (whole, cs) ← readWhole? cs
  let (fraction, cs) ← readFraction? cs
  let (exponent, cs) ← readExponent? cs
  return (⟨negative, whole, fraction, exponent⟩, cs)

def numeral? (text : String) : Option Numeral :=
  match readNumber? text.toList with
  | some (n, []) => some n
  | _ => none

/-- The number that a reserved member stands for; only a string can hold it. -/
def reserved? : Json → Option Numeral
  | string s => numeral? s
  | _ => none

mutual

/-- One value at the front, with `room` for nested containers. The first argument bounds the
number of steps; the length of the text suffices. -/
def readValue : Nat → Nat → List Char → Option (Json × List Char)
  | 0, _, _ => none
  | n + 1, room, cs =>
    match skipBlank cs with
    | 'n' :: 'u' :: 'l' :: 'l' :: rest => some (null, rest)
    | 't' :: 'r' :: 'u' :: 'e' :: rest => some (bool true, rest)
    | 'f' :: 'a' :: 'l' :: 's' :: 'e' :: rest => some (bool false, rest)
    | '"' :: rest => (readString [] rest).map fun (s, rest) => (string s, rest)
    | '[' :: rest =>
      match room with
      | 0 => none
      | room + 1 =>
        match skipBlank rest with
        | ']' :: rest => some (array [], rest)
        | rest => readItems n room [] rest
    | '\x7b' :: rest =>
      match room with
      | 0 => none
      | room + 1 =>
        match skipBlank rest with
        | '\x7d' :: rest => some (object [], rest)
        | rest => readMembers n room [] rest
    | rest => (readNumber? rest).map fun (m, rest) => (number m, rest)

def readItems : Nat → Nat → List Json → List Char → Option (Json × List Char)
  | 0, _, _, _ => none
  | n + 1, room, items, cs =>
    match readValue n room cs with
    | none => none
    | some (v, rest) =>
      match skipBlank rest with
      | ',' :: rest => readItems n room (v :: items) rest
      | ']' :: rest => some (array (v :: items).reverse, rest)
      | _ => none

def readMembers : Nat → Nat → Members → List Char → Option (Json × List Char)
  | 0, _, _, _ => none
  | n + 1, room, members, cs =>
    match skipBlank cs with
    | '"' :: rest =>
      match readString [] rest with
      | none => none
      | some (k, rest) =>
        match skipBlank rest with
        | ':' :: rest =>
          match readValue n room rest with
          | none => none
          | some (v, rest) =>
            match members.isEmpty && k == numberKey, skipBlank rest with
            | true, '\x7d' :: rest => (reserved? v).map fun m => (number m, rest)
            | false, ',' :: rest => readMembers n room (members.insert k v) rest
            | false, '\x7d' :: rest => some (object (members.insert k v), rest)
            | _, _ => none
        | _ => none
    | _ => none

end

def maxNesting : Nat := 127

def parse? (text : String) : Option Json :=
  let cs := text.toList
  match readValue (2 * cs.length + 2) maxNesting cs with
  | some (v, rest) => if (skipBlank rest).isEmpty then some v else none
  | none => none

end PayloadSchema.Json
