import PayloadSchema.Yaml.Token.Block
import PayloadSchema.Yaml.Token.Flow
import PayloadSchema.Yaml.Token.Tag

/-!
The tokens of a text. Block collections have no brackets: they are opened and closed by indentation.
A key without a mark is known as one only when its colon is met, so its token is then put in before
it.
-/
namespace PayloadSchema.Yaml

structure KeyStart where
  /-- Whether what starts here must turn out to be a key. -/
  required : Bool
  /-- How many tokens came before. -/
  position : Nat
  index : Nat
  line : Nat
  column : Nat

structure Scanner where
  cursor : Cursor
  /-- The tokens so far, last one first. -/
  tokens : List Token
  /-- How many tokens there are. -/
  count : Nat
  /-- The indentation of the innermost block collection, `-1` outside of all. -/
  indent : Int
  outerIndents : List Int
  /-- Where the key of the collection at hand may have started. -/
  keyStart : Option KeyStart
  /-- The same for the collections around it, one for each open bracket. -/
  outerKeys : List (Option KeyStart)
  /-- Whether a key may start here. -/
  keyAllowed : Bool

namespace Scanner

def start (text : List Char) : Scanner := ⟨.start text, [], 0, -1, [], none, [], true⟩

def inFlow (s : Scanner) : Bool := !s.outerKeys.isEmpty

def push (s : Scanner) (t : Token) : Scanner :=
  { s with tokens := t :: s.tokens, count := s.count + 1 }

def insert (s : Scanner) (position : Nat) (t : Token) : Scanner :=
  let later := s.count - position
  { s with tokens := s.tokens.take later ++ t :: s.tokens.drop later, count := s.count + 1 }

/-- Blanks, comments and line breaks, and a byte order mark at the start of a line. Tabs are refused
where a key may start. -/
def skipSpace : Nat → Scanner → Scanner
  | 0, s => s
  | fuel + 1, s =>
    let c := if s.cursor.column == 0 && s.cursor.rest.head? == some '\ufeff' then s.cursor.skip 1
      else s.cursor
    let tabs := s.inFlow || !s.keyAllowed
    let c := (c.skipWhile fun d => d == ' ' || (tabs && d == '\t')).skipComment
    if c.atBreak then
      skipSpace fuel { s with cursor := c.takeBreak.2, keyAllowed := s.keyAllowed || !s.inFlow }
    else { s with cursor := c }

/-- A key lies on one line and has at most 1024 bytes. -/
def isStale (s : Scanner) (k : KeyStart) : Bool :=
  decide (k.line < s.cursor.line) || decide (k.index + 1024 < s.cursor.index)

def dropStale (s : Scanner) (k : Option KeyStart) : Option (Option KeyStart) :=
  match k with
  | none => some none
  | some k => if !s.isStale k then some (some k) else if k.required then none else some none

def dropStaleKeys (s : Scanner) : Option Scanner := do
  let keyStart ← s.dropStale s.keyStart
  let outerKeys ← s.outerKeys.mapM s.dropStale
  pure { s with keyStart, outerKeys }

def dropKey (s : Scanner) : Option Scanner :=
  match s.keyStart with
  | some k => if k.required then none else some { s with keyStart := none }
  | none => some s

/-- Notes that a key may start here. One is required at the indentation of a block collection. -/
def saveKey (s : Scanner) : Option Scanner :=
  if !s.keyAllowed then some s
  else do
    let s ← s.dropKey
    let c := s.cursor
    pure { s with
      keyStart := some ⟨!s.inFlow && s.indent == c.column, s.count, c.index, c.line, c.column⟩ }

def openBlock (s : Scanner) (column : Nat) (position : Option Nat) (t : Token) : Scanner :=
  if s.inFlow || decide ((column : Int) ≤ s.indent) then s
  else
    let s := { s with indent := column, outerIndents := s.indent :: s.outerIndents }
    match position with
    | some p => s.insert p t
    | none => s.push t

def closeDeeper (column : Int) : List Int → Scanner → Scanner
  | [], s => s
  | outer :: rest, s =>
    if decide (column < s.indent) then
      closeDeeper column rest { s.push .blockEnd with indent := outer, outerIndents := rest }
    else s

def closeBlocks (s : Scanner) (column : Int) : Scanner :=
  if s.inFlow then s else closeDeeper column s.outerIndents s

def documentMark (s : Scanner) (t : Token) : Option Scanner := do
  let s ← (s.closeBlocks (-1)).dropKey
  pure { s.push t with cursor := s.cursor.skip 3, keyAllowed := false }

def directive (s : Scanner) : Option Scanner := do
  let s ← (s.closeBlocks (-1)).dropKey
  let (t, c) ← Token.readDirective s.cursor
  pure { s.push t with cursor := c, keyAllowed := false }

def openFlow (s : Scanner) (t : Token) : Option Scanner := do
  let s ← s.saveKey
  pure { s.push t with
    cursor := s.cursor.skip 1, keyStart := none, outerKeys := s.keyStart :: s.outerKeys,
    keyAllowed := true }

def closeFlow (s : Scanner) (t : Token) : Option Scanner := do
  let s ← s.dropKey
  let s := match s.outerKeys with
    | [] => s
    | k :: rest => { s with keyStart := k, outerKeys := rest }
  pure { s.push t with cursor := s.cursor.skip 1, keyAllowed := false }

def flowEntry (s : Scanner) : Option Scanner := do
  let s ← s.dropKey
  pure { s.push .flowEntry with cursor := s.cursor.skip 1, keyAllowed := true }

def blockEntry (s : Scanner) : Option Scanner :=
  if !s.inFlow && !s.keyAllowed then none
  else do
    let s ← (s.openBlock s.cursor.column none .blockSequenceStart).dropKey
    pure { s.push .blockEntry with cursor := s.cursor.skip 1, keyAllowed := true }

def key (s : Scanner) : Option Scanner :=
  if !s.inFlow && !s.keyAllowed then none
  else do
    let s ← (s.openBlock s.cursor.column none .blockMappingStart).dropKey
    pure { s.push .key with cursor := s.cursor.skip 1, keyAllowed := !s.inFlow }

/-- A colon: it makes what may have been a key one, or else goes with a key that has a mark. -/
def value (s : Scanner) : Option Scanner :=
  match s.keyStart with
  | some k =>
    let s := (s.insert k.position .key).openBlock k.column (some k.position) .blockMappingStart
    some { s.push .value with cursor := s.cursor.skip 1, keyStart := none, keyAllowed := false }
  | none =>
    if !s.inFlow && !s.keyAllowed then none
    else
      let s := s.openBlock s.cursor.column none .blockMappingStart
      some { s.push .value with cursor := s.cursor.skip 1, keyAllowed := !s.inFlow }

def anchor (s : Scanner) (make : List Char → Token) : Option Scanner := do
  let s ← s.saveKey
  let (name, c) ← Token.readAnchor (s.cursor.skip 1)
  pure { s.push (make name) with cursor := c, keyAllowed := false }

def tag (s : Scanner) : Option Scanner := do
  let s ← s.saveKey
  let (t, c) ← Token.readTag s.inFlow s.cursor
  pure { s.push t with cursor := c, keyAllowed := false }

def blockScalar (fuel : Nat) (s : Scanner) (literal : Bool) : Option Scanner := do
  let s ← s.dropKey
  let (text, c) ← Block.read fuel literal s.indent (s.cursor.skip 1)
  pure { s.push (.scalar text false) with cursor := c, keyAllowed := true }

def quotedScalar (fuel : Nat) (s : Scanner) (quote : Char) : Option Scanner := do
  let s ← s.saveKey
  let (text, c) ← Flow.readQuoted fuel quote (s.cursor.skip 1)
  pure { s.push (.scalar text false) with cursor := c, keyAllowed := false }

def plainScalar (fuel : Nat) (s : Scanner) : Option Scanner := do
  let s ← s.saveKey
  let (text, broken, c) ← Flow.readPlain fuel s.inFlow s.indent s.cursor
  pure { s.push (.scalar text true) with cursor := c, keyAllowed := broken }

def isIndicator (c : Char) : Bool :=
  "-?:,[]\x7b\x7d#&*!|>'\"%@`".toList.contains c

/-- Whether a plain scalar starts here: no indicator, or one that a character of a word follows. -/
def startsPlain (s : Scanner) (c : Char) (rest : List Char) : Bool :=
  !(isBlank c || isBreak c || isIndicator c)
    || (c == '-' && !(rest.head?.any isBlank))
    || (!s.inFlow && (c == '?' || c == ':') && !endsWord rest)

def next (fuel : Nat) (s : Scanner) (c : Char) (rest : List Char) : Option Scanner :=
  if s.cursor.column == 0 && c == '%' then s.directive
  else if s.cursor.atDocumentMark then
    s.documentMark (if c == '-' then .documentStart else .documentEnd)
  else if c == '[' then s.openFlow .flowSequenceStart
  else if c == '\x7b' then s.openFlow .flowMappingStart
  else if c == ']' then s.closeFlow .flowSequenceEnd
  else if c == '\x7d' then s.closeFlow .flowMappingEnd
  else if c == ',' then s.flowEntry
  else if c == '-' && endsWord rest then s.blockEntry
  else if c == '?' && (s.inFlow || endsWord rest) then s.key
  else if c == ':' && (s.inFlow || endsWord rest) then s.value
  else if c == '*' then s.anchor .aliasTo
  else if c == '&' then s.anchor .anchor
  else if c == '!' then s.tag
  else if c == '|' && !s.inFlow then s.blockScalar fuel true
  else if c == '>' && !s.inFlow then s.blockScalar fuel false
  else if c == '\'' || c == '"' then s.quotedScalar fuel c
  else if s.startsPlain c rest then s.plainScalar fuel
  else none

/-- Reads all tokens; each takes at least one character. -/
def run : Nat → Scanner → Option (List Token)
  | 0, _ => none
  | fuel + 1, s => do
    let s ← (skipSpace (fuel + 1) s).dropStaleKeys
    let s := s.closeBlocks s.cursor.column
    match s.cursor.rest with
    | [] =>
      let s ← (s.closeBlocks (-1)).dropKey
      pure (Token.streamEnd :: s.tokens).reverse
    | c :: rest =>
      let s ← s.next (fuel + 1) c rest
      run fuel s

end Scanner

def Token.scan? (text : List Char) : Option (List Token) :=
  if text.all isPrintable then (Scanner.start text).run (text.length + 1) else none

end PayloadSchema.Yaml
