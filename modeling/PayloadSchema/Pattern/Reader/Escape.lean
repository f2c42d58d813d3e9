import PayloadSchema.Json.Reader
import PayloadSchema.Pattern.Case
import PayloadSchema.Pattern.Expr
import PayloadSchema.Pattern.Property

/-!
Single elements of a pattern: characters, escapes and classes by name, under the flags that hold
where they stand.
-/
namespace PayloadSchema.Pattern
open CharSet

structure Flags where
  ignoreCase : Bool
  multiLine : Bool
  dotAll : Bool
  swapGreed : Bool
  unicode : Bool
  anyNewline : Bool
  extended : Bool
  deriving DecidableEq

namespace Flags

def initial : Flags := ⟨false, false, false, false, true, false, false⟩

def set? (f : Flags) (c : Char) (on : Bool) : Option Flags :=
  match c with
  | 'i' => some { f with ignoreCase := on }
  | 'm' => some { f with multiLine := on }
  | 's' => some { f with dotAll := on }
  | 'U' => some { f with swapGreed := on }
  | 'u' => some { f with unicode := on }
  | 'R' => some { f with anyNewline := on }
  | 'x' => some { f with extended := on }
  | _ => none

def fold (f : Flags) (s : CharSet) : CharSet :=
  if f.ignoreCase then s.folded (if f.unicode then foldShifts else asciiShifts) else s

/-- A set that is folded and then, if need be, negated. Without the Unicode flag a negated set
would match part of a character and is refused. -/
def finish? (f : Flags) (negated : Bool) (s : CharSet) : Option CharSet :=
  if negated && !f.unicode then none else some ((f.fold s).complIf negated)

end Flags

/-- Passes over blanks and comments; `comment` says whether one is under way. -/
def skipGaps (comment : Bool) : List Char → List Char
  | [] => []
  | c :: cs =>
    if comment then skipGaps (c != '\n') cs
    else if c = '#' then skipGaps true cs
    else if Text.isBlank c then skipGaps false cs
    else c :: cs

def gaps (f : Flags) (cs : List Char) : List Char := if f.extended then skipGaps false cs else cs

inductive Primitive where
  | char (n : Nat)
  | set (s : CharSet)
  | look (l : Look)

def scalar? (n : Nat) : Option Nat :=
  if n < 0xD800 ∨ (0xE000 ≤ n ∧ n ≤ maxChar) then some n else none

def hexNumber? (cs : List Char) : Option Nat :=
  cs.foldlM (fun n c => (Json.hexValue? c).map (16 * n + ·)) 0

def readBraced (f : Flags) (comment : Bool) (seen : List Char) :
    List Char → Option (List Char × List Char)
  | [] => none
  | c :: cs =>
    if comment then readBraced f (c != '\n') seen cs
    else if c = '\x7d' then some (seen.reverse, cs)
    else if f.extended && c == '#' then readBraced f true seen cs
    else if f.extended && Text.isBlank c then readBraced f false seen cs
    else readBraced f false (c :: seen) cs

def takeDense (f : Flags) : Nat → List Char → Option (List Char × List Char)
  | 0, cs => some ([], cs)
  | n + 1, cs =>
    match gaps f cs with
    | [] => none
    | c :: rest => (takeDense f n rest).map fun (more, rest) => (c :: more, rest)

/-- A code point in hexadecimal: a fixed number of digits, or any number in braces. Without the
Unicode flag two digits stand for a byte, which has to be a character. -/
def readHex (f : Flags) (width : Nat) (cs : List Char) : Option (Nat × List Char) :=
  match gaps f cs with
  | '\x7b' :: rest => do
    let (digits, rest) ← readBraced f false [] rest
    if digits.isEmpty then none
    else return (← (← hexNumber? digits) |> scalar?, rest)
  | cs => do
    let (digits, rest) ← takeDense f width cs
    let n ← (← hexNumber? digits) |> scalar?
    if width = 2 ∧ !f.unicode ∧ 128 ≤ n then none else return (n, rest)

def splitAt? (mark : List Char) : List Char → Option (List Char × List Char)
  | [] => none
  | c :: cs =>
    if mark.isPrefixOf (c :: cs) then some ([], (c :: cs).drop mark.length)
    else (splitAt? mark cs).map fun (a, b) => (c :: a, b)

def describedClass? (text : List Char) : Option (CharSet × Bool) :=
  match splitAt? ['!', '='] text with
  | some (property, value) => (Property.valued? property value).map fun s => (s, true)
  | none =>
    match (splitAt? [':'] text).or (splitAt? ['='] text) with
    | some (property, value) => (Property.valued? property value).map fun s => (s, false)
    | none => (Property.named? text).map fun s => (s, false)

def readProperty (f : Flags) (negated : Bool) (cs : List Char) : Option (CharSet × List Char) :=
  if !f.unicode then none
  else
    match gaps f cs with
    | '\x7b' :: rest => do
      let (text, rest) ← readBraced f false [] rest
      let (s, unequal) ← describedClass? text
      return (← f.finish? (negated != unequal) s, rest)
    | c :: rest => do
      let s ← Property.named? [c]
      return (← f.finish? negated s, rest)
    | [] => none

def asciiClass? : String → Option CharSet
  | "alnum" => some (ofText "30-39 41-5A 61-7A")
  | "alpha" => some (ofText "41-5A 61-7A")
  | "ascii" => some (range 0 0x7F)
  | "blank" => some (ofText "9 20")
  | "cntrl" => some (ofText "0-1F 7F")
  | "digit" => some (range 0x30 0x39)
  | "graph" => some (range 0x21 0x7E)
  | "lower" => some (range 0x61 0x7A)
  | "print" => some (range 0x20 0x7E)
  | "punct" => some (ofText "21-2F 3A-40 5B-60 7B-7E")
  | "space" => some (ofText "9-D 20")
  | "upper" => some (range 0x41 0x5A)
  | "word" => some (ofText "30-39 41-5A 5F 61-7A")
  | "xdigit" => some (ofText "30-39 41-46 61-66")
  | _ => none

def shorthand? (f : Flags) (c : Char) : Option CharSet :=
  let (known, ascii) :=
    match c.toLower with
    | 'd' => (Property.digit, "digit")
    | 's' => (Property.whiteSpace, "space")
    | _ => (Property.word, "word")
  if f.unicode then some (known.complIf c.isUpper)
  else if c.isUpper then none
  else asciiClass? ascii

def namedBoundary? : String → Option Boundary
  | "start" => some .start
  | "end" => some .stop
  | "start-half" => some .startHalf
  | "end-half" => some .stopHalf
  | _ => none

def isNameChar (c : Char) : Bool := c.isAlpha || c == '-'

/-- After `\b`: a brace with a letter in it names a special boundary, any other brace is a
repetition. -/
def readBoundary (f : Flags) (cs : List Char) : Option (Boundary × List Char) :=
  match cs with
  | '\x7b' :: inside =>
    match gaps f inside with
    | [] => none
    | c :: _ =>
      if isNameChar c then do
        let (name, rest) ← readBraced f false [] inside
        return (← namedBoundary? (String.ofList name), rest)
      else some (.edge, cs)
  | _ => some (.edge, cs)

def readEscape (f : Flags) : List Char → Option (Primitive × List Char)
  | [] => none
  | c :: rest =>
    let word := fun b => Primitive.look (.word b (!f.unicode))
    match c with
    | 'x' => (readHex f 2 rest).map fun (n, rest) => (.char n, rest)
    | 'u' => (readHex f 4 rest).map fun (n, rest) => (.char n, rest)
    | 'U' => (readHex f 8 rest).map fun (n, rest) => (.char n, rest)
    | 'p' => (readProperty f false rest).map fun (s, rest) => (.set s, rest)
    | 'P' => (readProperty f true rest).map fun (s, rest) => (.set s, rest)
    | 'd' | 's' | 'w' | 'D' | 'S' | 'W' => (shorthand? f c).map fun s => (.set s, rest)
    | 'a' => some (.char 7, rest)
    | 'f' => some (.char 12, rest)
    | 't' => some (.char 9, rest)
    | 'n' => some (.char 10, rest)
    | 'r' => some (.char 13, rest)
    | 'v' => some (.char 11, rest)
    | 'A' => some (.look .textStart, rest)
    | 'z' => some (.look .textEnd, rest)
    | 'b' => (readBoundary f rest).map fun (b, rest) => (word b, rest)
    | 'B' => some (word .noEdge, rest)
    | '<' => some (word .start, rest)
    | '>' => some (word .stop, rest)
    | c => if c.isAlphanum || decide (128 ≤ c.toNat) then none else some (.char c.toNat, rest)

def dot? (f : Flags) : Option CharSet :=
  if !f.unicode then none
  else if f.dotAll then some full
  else if f.anyNewline then some (ofText "A D").compl
  else some (single 10).compl

def lineStart (f : Flags) : Look :=
  if !f.multiLine then .textStart else if f.anyNewline then .lineStartAny else .lineStart

def lineEnd (f : Flags) : Look :=
  if !f.multiLine then .textEnd else if f.anyNewline then .lineEndAny else .lineEnd

def Primitive.expr (f : Flags) : Primitive → Expr
  | .char n => .ofSet (f.fold (single n))
  | .set s => .ofSet s
  | .look l => .look l

end PayloadSchema.Pattern
