import PayloadSchema.Yaml.Cursor

/-! Literal and folded block scalars. -/
namespace PayloadSchema.Yaml.Block

inductive Chomping where
  | strip
  | clip
  | keep
  deriving DecidableEq, Repr

structure Header where
  chomping : Chomping
  /-- The indentation that is written, if any. -/
  increment : Option Nat

def chomping? : Char → Option Chomping
  | '+' => some .keep
  | '-' => some .strip
  | _ => none

def increment? (c : Char) : Option Nat := if c.isDigit then some (c.toNat - 48) else none

/-- Reads the marks after `|` or `>`, in either order; an indentation is not zero. -/
def readHeader (c : Cursor) : Option (Header × Cursor) :=
  match c.rest with
  | d :: rest =>
    match chomping? d with
    | some ch =>
      match rest.head?.bind increment? with
      | some 0 => none
      | some n => some (⟨ch, some n⟩, c.skip 2)
      | none => some (⟨ch, none⟩, c.skip 1)
    | none =>
      match increment? d with
      | some 0 => none
      | some n =>
        match rest.head?.bind chomping? with
        | some ch => some (⟨ch, some n⟩, c.skip 2)
        | none => some (⟨.clip, some n⟩, c.skip 1)
      | none => some (⟨.clip, none⟩, c)
  | [] => some (⟨.clip, none⟩, c)

/-- Passes over indentation and empty lines. An indentation of zero is not known yet: it becomes
that of the deepest line, but at least `least`. Tabs are no indentation. -/
def readBreaks (least : Nat) : Nat → Nat → Nat → List Char → Cursor →
    Option (Nat × List Char × Cursor)
  | 0, _, _, _, _ => none
  | fuel + 1, indent, deepest, breaks, c =>
    let spaces := (c.rest.takeWhile (· == ' ')).length
    let c := c.skip (if indent = 0 then spaces else min spaces (indent - c.column))
    let deepest := max deepest c.column
    if (indent = 0 || decide (c.column < indent)) && c.rest.head? == some '\t' then none
    else if c.atBreak then
      let (b, c) := c.takeBreak
      readBreaks least fuel indent deepest (breaks ++ b) c
    else some (if indent = 0 then max deepest least else indent, breaks, c)

/-- A scalar read so far, last character first, and the breaks after its last line. -/
structure Draft where
  text : List Char
  lineBreak : List Char
  emptyLines : List Char
  /-- Whether the last line started with a blank. -/
  indented : Bool
  indent : Nat
  cursor : Cursor

/-- The breaks between the last line and the next: in a folded scalar a single line feed between
lines that do not start with blanks becomes a space. -/
def Draft.joint (d : Draft) (literal : Bool) (nextIndented : Bool) : List Char :=
  if !literal && d.lineBreak == ['\n'] && !d.indented && !nextIndented then
    if d.emptyLines.isEmpty then [' '] else d.emptyLines
  else d.lineBreak ++ d.emptyLines

def readLines (literal : Bool) (least : Nat) : Nat → Draft → Option Draft
  | 0, _ => none
  | fuel + 1, d =>
    match d.cursor.rest with
    | [] => some d
    | first :: _ =>
      if d.cursor.column != d.indent then some d
      else
        let line := d.cursor.rest.takeWhile fun c => !isBreak c
        let text := line.reverse ++ ((d.joint literal (isBlank first)).reverse ++ d.text)
        let (b, c) := (d.cursor.skip line.length).takeBreak
        match readBreaks least fuel d.indent 0 [] c with
        | none => none
        | some (indent, breaks, c) =>
          readLines literal least fuel ⟨text, b, breaks, isBlank first, indent, c⟩

/-- Reads a block scalar after its first character; `outer` is the indentation of the collection it
stands in, `-1` if there is none. The fuel exceeds the number of characters. -/
def read (fuel : Nat) (literal : Bool) (outer : Int) (c : Cursor) :
    Option (List Char × Cursor) := do
  let (header, c) ← readHeader c
  let c := c.skipBlanks.skipComment
  if !endsLine c.rest then none
  else
    let (_, c) := c.takeBreak
    let indent := match header.increment with
      | some n => outer.toNat + n
      | none => 0
    let least := max (outer + 1).toNat 1
    let (indent, breaks, c) ← readBreaks least fuel indent 0 [] c
    let d ← readLines literal least fuel ⟨[], [], breaks, false, indent, c⟩
    let tail := match header.chomping with
      | .strip => []
      | .clip => d.lineBreak
      | .keep => d.lineBreak ++ d.emptyLines
    pure (d.text.reverse ++ tail, d.cursor)

end PayloadSchema.Yaml.Block
