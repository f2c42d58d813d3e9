/-!
A place in a text: what follows it, and how many bytes, lines and columns lie before it. The line
breaks are those of YAML 1.1.
-/
namespace PayloadSchema.Yaml

structure Cursor where
  rest : List Char
  /-- Bytes of UTF-8 before this place. -/
  index : Nat
  line : Nat
  column : Nat

def isBreak (c : Char) : Bool :=
  c == '\n' || c == '\r' || c == '\x85' || c == '\u2028' || c == '\u2029'

def isBlank (c : Char) : Bool := c == ' ' || c == '\t'

def isWordChar (c : Char) : Bool := c.isAlphanum || c == '_' || c == '-'

def isPrintable (c : Char) : Bool :=
  c == '\t' || c == '\n' || c == '\r' || (' ' ≤ c && c ≤ '~') || c == '\x85'
    || ('\u00a0' ≤ c && c ≤ '\ufffd') || 0x10000 ≤ c.toNat

def endsLine : List Char → Bool
  | [] => true
  | c :: _ => isBreak c

def endsWord : List Char → Bool
  | [] => true
  | c :: _ => isBlank c || isBreak c

def isDocumentMark : List Char → Bool
  | '-' :: '-' :: '-' :: rest => endsWord rest
  | '.' :: '.' :: '.' :: rest => endsWord rest
  | _ => false

namespace Cursor

def start (text : List Char) : Cursor := ⟨text, 0, 0, 0⟩

def width (cs : List Char) : Nat := cs.foldl (fun n c => n + c.utf8Size) 0

def skip (c : Cursor) (n : Nat) : Cursor :=
  ⟨c.rest.drop n, c.index + width (c.rest.take n), c.line, c.column + n⟩

def skipWhile (c : Cursor) (p : Char → Bool) : Cursor := c.skip (c.rest.takeWhile p).length

def skipBlanks (c : Cursor) : Cursor := c.skipWhile isBlank

def skipComment (c : Cursor) : Cursor :=
  match c.rest with
  | '#' :: _ => c.skipWhile fun d => !isBreak d
  | _ => c

/-- A line break and what it stands for in a scalar: separators stand for themselves, all others for
a line feed. -/
def takeBreak (c : Cursor) : List Char × Cursor :=
  match c.rest with
  | '\r' :: '\n' :: rest => (['\n'], ⟨rest, c.index + 2, c.line + 1, 0⟩)
  | d :: rest =>
    if !isBreak d then ([], c)
    else
      (if d == '\u2028' || d == '\u2029' then [d] else ['\n'],
        ⟨rest, c.index + d.utf8Size, c.line + 1, 0⟩)
  | [] => ([], c)

def atBreak (c : Cursor) : Bool :=
  match c.rest with
  | [] => false
  | d :: _ => isBreak d

def atDocumentMark (c : Cursor) : Bool := c.column == 0 && isDocumentMark c.rest

end Cursor
end PayloadSchema.Yaml
