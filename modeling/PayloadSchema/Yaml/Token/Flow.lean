import PayloadSchema.Json.Reader
import PayloadSchema.Yaml.Cursor

/-! Quoted and plain scalars. Lines are folded: one line break between words becomes a space. -/
namespace PayloadSchema.Yaml.Flow

structure Gap where
  blanks : List Char
  lineBreak : List Char
  emptyLines : List Char
  /-- Whether there is a line break, escaped or not. -/
  broken : Bool

def Gap.none : Gap := ⟨[], [], [], false⟩

def Gap.text (g : Gap) : List Char :=
  if !g.broken then g.blanks
  else if g.lineBreak == ['\n'] then if g.emptyLines.isEmpty then [' '] else g.emptyLines
  else g.lineBreak ++ g.emptyLines

/-- Reads a gap. At the start of a line, tabs before column `indent` are refused. -/
def readGap (indent : Nat) : Nat → Gap → Cursor → Option (Gap × Cursor)
  | 0, _, _ => .none
  | fuel + 1, g, c =>
    match c.rest with
    | [] => some (g, c)
    | d :: _ =>
      if isBlank d then
        if g.broken && d == '\t' && decide (c.column < indent) then .none
        else
          readGap indent fuel (if g.broken then g else { g with blanks := g.blanks ++ [d] })
            (c.skip 1)
      else if isBreak d then
        let (b, c) := c.takeBreak
        if g.broken then readGap indent fuel { g with emptyLines := g.emptyLines ++ b } c
        else readGap indent fuel { g with blanks := [], lineBreak := b, broken := true } c
      else some (g, c)

def simpleEscape? : Char → Option Char
  | '0' => some '\x00'
  | 'a' => some '\x07'
  | 'b' => some '\x08'
  | 't' => some '\t'
  | '\t' => some '\t'
  | 'n' => some '\n'
  | 'v' => some '\x0b'
  | 'f' => some '\x0c'
  | 'r' => some '\r'
  | 'e' => some '\x1b'
  | ' ' => some ' '
  | '"' => some '"'
  | '/' => some '/'
  | '\\' => some '\\'
  | 'N' => some '\x85'
  | '_' => some '\xa0'
  | 'L' => some '\u2028'
  | 'P' => some '\u2029'
  | _ => none

def codeLength? : Char → Option Nat
  | 'x' => some 2
  | 'u' => some 4
  | 'U' => some 8
  | _ => none

def code? (digits : List Char) (length : Nat) : Option Char := do
  let values ← digits.mapM Json.hexValue?
  let n := values.foldl (fun n v => 16 * n + v) 0
  if digits.length = length ∧ n.isValidChar then some (Char.ofNat n) else none

def readEscape (c : Cursor) : Option (Char × Cursor) :=
  match c.rest with
  | [] => none
  | d :: rest =>
    match simpleEscape? d with
    | some e => some (e, c.skip 1)
    | none => do
      let n ← codeLength? d
      let e ← code? (rest.take n) n
      pure (e, c.skip (1 + n))

/-- Reads the characters of a quoted scalar up to a blank, a line break, an escaped line break,
which is passed over, or the closing quote. The text has its last character first. -/
def readQuotedWord (quote : Char) : Nat → List Char → Cursor → Option (List Char × Bool × Cursor)
  | 0, _, _ => none
  | fuel + 1, text, c =>
    match c.rest with
    | [] => some (text, false, c)
    | d :: rest =>
      if isBlank d || isBreak d then some (text, false, c)
      else if d == quote then
        if quote == '\'' && rest.head? == some '\'' then
          readQuotedWord quote fuel ('\'' :: text) (c.skip 2)
        else some (text, false, c)
      else if d == '\\' && quote == '"' then
        if (c.skip 1).atBreak then some (text, true, (c.skip 1).takeBreak.2)
        else
          match readEscape (c.skip 1) with
          | some (e, c) => readQuotedWord quote fuel (e :: text) c
          | none => none
      else readQuotedWord quote fuel (d :: text) (c.skip 1)

def readQuotedWords (quote : Char) : Nat → List Char → Cursor → Option (List Char × Cursor)
  | 0, _, _ => none
  | fuel + 1, text, c =>
    if c.atDocumentMark || c.rest.isEmpty then none
    else
      match readQuotedWord quote fuel text c with
      | none => none
      | some (text, broken, c) =>
        if c.rest.head? == some quote then some (text.reverse, c.skip 1)
        else
          match readGap 0 fuel { Gap.none with broken } c with
          | none => none
          | some (g, c) => readQuotedWords quote fuel (g.text.reverse ++ text) c

def readQuoted (fuel : Nat) (quote : Char) (c : Cursor) : Option (List Char × Cursor) :=
  readQuotedWords quote (fuel + 1) [] c

def isFlowMark (c : Char) : Bool := c == ',' || c == '[' || c == ']' || c == '\x7b' || c == '\x7d'

/-- Reads the characters of a plain scalar up to a blank, a line break or an indicator. Inside a
flow collection a colon must not be followed by an indicator. -/
def readPlainWord (inFlow : Bool) : Nat → List Char → Cursor → Option (List Char × Cursor)
  | 0, _, _ => none
  | fuel + 1, text, c =>
    match c.rest with
    | [] => some (text, c)
    | d :: rest =>
      if isBlank d || isBreak d then some (text, c)
      else if inFlow && d == ':' && (rest.head?.any fun e => isFlowMark e || e == '?') then none
      else if d == ':' && endsWord rest then some (text, c)
      else if inFlow && isFlowMark d then some (text, c)
      else readPlainWord inFlow fuel (d :: text) (c.skip 1)

/-- Reads words of a plain scalar; the gap before a word counts only if the word is not empty. The
flag tells whether a line break follows the last word. -/
def readPlainWords (inFlow : Bool) (indent : Nat) :
    Nat → List Char → Gap → Cursor → Option (List Char × Bool × Cursor)
  | 0, _, _, _ => none
  | fuel + 1, text, g, c =>
    if c.atDocumentMark || c.rest.head? == some '#' then some (text.reverse, g.broken, c)
    else
      match readPlainWord inFlow fuel [] c with
      | none => none
      | some ([], c) => some (text.reverse, g.broken, c)
      | some (word, c) =>
        let text := word ++ (g.text.reverse ++ text)
        match readGap indent fuel .none c with
        | none => none
        | some (g, d) =>
          if d.index == c.index then some (text.reverse, false, c)
          else if !inFlow && decide (d.column < indent) then some (text.reverse, g.broken, d)
          else readPlainWords inFlow indent fuel text g d

/-- Reads a plain scalar; `outer` is the indentation of the collection it stands in. The fuel
exceeds the number of characters. -/
def readPlain (fuel : Nat) (inFlow : Bool) (outer : Int) (c : Cursor) :
    Option (List Char × Bool × Cursor) :=
  readPlainWords inFlow (outer + 1).toNat (fuel + 1) [] .none c

end PayloadSchema.Yaml.Flow
