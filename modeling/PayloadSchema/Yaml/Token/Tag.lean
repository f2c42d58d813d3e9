import PayloadSchema.Json.Reader
import PayloadSchema.Yaml.Cursor
import PayloadSchema.Yaml.Token

/-! Anchors, tags and directives. -/
namespace PayloadSchema.Yaml.Token

def endsAnchor : List Char → Bool
  | [] => true
  | c :: _ => isBlank c || isBreak c || "?:,]\x7d%@`".toList.contains c

def readAnchor (c : Cursor) : Option (List Char × Cursor) :=
  let name := c.rest.takeWhile isWordChar
  let c := c.skip name.length
  if name.isEmpty || !endsAnchor c.rest then none else some (name, c)

def readHandle (c : Cursor) : Option (List Char × Cursor) :=
  match c.rest with
  | '!' :: rest =>
    let word := rest.takeWhile isWordChar
    match rest.drop word.length with
    | '!' :: _ => some ('!' :: word ++ ['!'], c.skip (word.length + 2))
    | _ => some ('!' :: word, c.skip (word.length + 1))
  | _ => none

def isHandle (handle : List Char) : Bool := handle.length > 1 && handle.getLast? == some '!'

def isTagChar (verbatim : Bool) (c : Char) : Bool :=
  isWordChar c || ";/?:@&=+$.%!~*'()".toList.contains c || (verbatim && ",[]".toList.contains c)

def width? (b : Nat) : Option Nat :=
  if b < 0x80 then some 1
  else if 0xc0 ≤ b ∧ b < 0xe0 then some 2
  else if 0xe0 ≤ b ∧ b < 0xf0 then some 3
  else if 0xf0 ≤ b ∧ b < 0xf8 then some 4
  else none

def readByte : List Char → Option (Nat × List Char)
  | '%' :: a :: b :: rest => do
    let a ← Json.hexValue? a
    let b ← Json.hexValue? b
    pure (16 * a + b, rest)
  | _ => none

def readTrailing : Nat → List Char → Option (List UInt8 × List Char)
  | 0, cs => some ([], cs)
  | n + 1, cs => do
    let (b, cs) ← readByte cs
    if 0x80 ≤ b ∧ b < 0xc0 then
      let (bs, cs) ← readTrailing n cs
      pure (b.toUInt8 :: bs, cs)
    else none

def readTagBytes (verbatim : Bool) : Nat → List Char → Option (List UInt8 × List Char)
  | 0, cs => some ([], cs)
  | fuel + 1, cs =>
    match cs with
    | [] => some ([], [])
    | c :: rest =>
      if !isTagChar verbatim c then some ([], cs)
      else if c == '%' then do
        let (b, rest) ← readByte cs
        let width ← width? b
        let (bs, rest) ← readTrailing (width - 1) rest
        let (more, rest) ← readTagBytes verbatim fuel rest
        pure (b.toUInt8 :: bs ++ more, rest)
      else do
        let (more, rest) ← readTagBytes verbatim fuel rest
        pure (c.toNat.toUInt8 :: more, rest)

def readSuffix (verbatim : Bool) (c : Cursor) : Option (List UInt8 × Cursor) := do
  let (bs, rest) ← readTagBytes verbatim c.rest.length c.rest
  pure (bs, c.skip (c.rest.length - rest.length))

def bytesOf (cs : List Char) : List UInt8 := cs.map fun c => c.toNat.toUInt8

/-- A zero byte ends a tag, whatever is written after it. -/
def untilZero (bs : List UInt8) : List UInt8 := bs.takeWhile (· != 0)

/-- The parts of a tag: a handle and a suffix. A verbatim tag and the lone mark have no handle. -/
def readTagParts (c : Cursor) : Option (List Char × List UInt8 × Cursor) :=
  match c.rest with
  | '!' :: '<' :: _ => do
    let (suffix, c) ← readSuffix true (c.skip 2)
    if suffix.isEmpty || c.rest.head? != some '>' then none
    else pure ([], untilZero suffix, c.skip 1)
  | _ => do
    let (handle, c) ← readHandle c
    let (suffix, c) ← readSuffix false c
    if isHandle handle then
      if suffix.isEmpty then none else pure (handle, untilZero suffix, c)
    else
      match untilZero (bytesOf (handle.drop 1) ++ suffix) with
      | [] => pure ([], bytesOf ['!'], c)
      | suffix => pure (['!'], suffix, c)

/-- Reads a tag, which a blank ends, or a comma inside a flow collection. -/
def readTag (inFlow : Bool) (c : Cursor) : Option (Token × Cursor) := do
  let (handle, suffix, c) ← readTagParts c
  if endsWord c.rest || (inFlow && c.rest.head? == some ',') then pure (tag handle suffix, c)
  else none

def readVersionNumber (c : Cursor) : Option (Nat × Cursor) :=
  let digits := c.rest.takeWhile Char.isDigit
  if digits.isEmpty || digits.length > 9 then none
  else some (digits.foldl (fun n d => 10 * n + (d.toNat - 48)) 0, c.skip digits.length)

def readVersion (c : Cursor) : Option (Token × Cursor) := do
  let (major, c) ← readVersionNumber c.skipBlanks
  if c.rest.head? != some '.' then none
  else
    let (minor, c) ← readVersionNumber (c.skip 1)
    pure (version major minor, c)

def readTagHandle (c : Cursor) : Option (Token × Cursor) := do
  let (handle, c) ← readHandle c.skipBlanks
  if !(isHandle handle || handle == ['!']) || !(c.rest.head?.any isBlank) then none
  else
    let (stem, c) ← readSuffix true c.skipBlanks
    if stem.isEmpty || !endsWord c.rest then none
    else pure (tagHandle handle (untilZero stem), c)

def readDirective (c : Cursor) : Option (Token × Cursor) := do
  let name := (c.rest.drop 1).takeWhile isWordChar
  let c := c.skip (name.length + 1)
  if !endsWord c.rest then none
  else
    let (t, c) ← match String.ofList name with
      | "YAML" => readVersion c
      | "TAG" => readTagHandle c
      | _ => none
    let c := c.skipBlanks.skipComment
    if endsLine c.rest then pure (t, c.takeBreak.2) else none

end PayloadSchema.Yaml.Token
