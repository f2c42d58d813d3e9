import PayloadSchema.Pattern.Reader.Class
import PayloadSchema.Text.Category

/-!
The text of patterns: elements, groups, alternatives, repetitions and inline flags. Look-around and
back-references are refused, and so are patterns that are nested too deeply.
-/
namespace PayloadSchema.Pattern

/-- The most levels of a pattern. Groups, repetitions and classes make a level, and so do several
elements in a row and several alternatives. -/
def maxHeight : Nat := 250

def readDigits (f : Flags) (comment : Bool) (seen : List Digit) :
    List Char → List Digit × List Char
  | [] => (seen.reverse, [])
  | c :: cs =>
    if comment then readDigits f (c != '\n') seen cs
    else
      match Digit.ofChar? c with
      | some d => readDigits f false (d :: seen) cs
      | none =>
        if f.extended && c == '#' then readDigits f true seen cs
        else if f.extended && Text.isBlank c then readDigits f false seen cs
        else (seen.reverse, c :: cs)

/-- A repetition count below `2 ^ 32`, with blanks around it. Inner none: there are no digits. -/
def readCount (f : Flags) (cs : List Char) : Option (Option Nat × List Char) :=
  let (ds, rest) := readDigits f false [] (cs.dropWhile Text.isBlank)
  let rest := rest.dropWhile Text.isBlank
  if ds.isEmpty then some (none, rest)
  else if Digits.value ds < pow2 32 then some (some (Digits.value ds), rest)
  else none

def readBounds (f : Flags) (cs : List Char) : Option (Nat × Option Nat × List Char) := do
  let (least, rest) ← readCount f (gaps f cs)
  let least ← least
  match rest with
  | '\x7d' :: rest => return (least, some least, rest)
  | ',' :: rest =>
    match gaps f rest with
    | '\x7d' :: rest => return (least, none, rest)
    | rest =>
      let (most, rest) ← readCount f rest
      let most ← most
      match rest with
      | '\x7d' :: rest => if least ≤ most then return (least, some most, rest) else none
      | _ => none
  | _ => none

def readLazy : List Char → Bool × List Char
  | '?' :: rest => (true, rest)
  | cs => (false, cs)

def isAlphabetic (c : Char) : Bool :=
  Text.isLetter c || Text.inSpans Text.Category.letterNumber c
    || (Property.binaryTable "otheralphabetic").contains c.toNat
    || Property.laterAlphabetic.contains c.toNat

def isGroupNameStart (c : Char) : Bool := c == '_' || isAlphabetic c

def isGroupNameChar (c : Char) : Bool :=
  isGroupNameStart c || c == '.' || c == '[' || c == ']' || Text.isNumeric c

def readGroupName (names : List String) (cs : List Char) : Option (String × List Char) :=
  match cs.span (· != '>') with
  | (c :: more, _ :: rest) =>
    let s := String.ofList (c :: more)
    if isGroupNameStart c && more.all isGroupNameChar && !names.contains s then some (s, rest)
    else none
  | _ => none

/-- The flags between `(?` and the colon or parenthesis that ends them; each letter and the minus
may stand once, and the minus not last. -/
def readFlags (f : Flags) (on : Bool) (seen : List Char) :
    List Char → Option (Flags × List Char × List Char)
  | [] => none
  | c :: rest =>
    if c = ':' ∨ c = ')' then
      if seen.head? = some '-' then none else some (f, seen, c :: rest)
    else if seen.contains c then none
    else if c = '-' then readFlags f false (c :: seen) rest
    else
      match f.set? c on with
      | some f => readFlags f on (c :: seen) rest
      | none => none

structure Tall where
  expr : Expr
  height : Nat

/-- What has been read of an alternative, latest first, where `none` stands for a change of flags,
which cannot be repeated. -/
abbrev Items := List (Option Tall)

namespace Items

def heights (items : Items) : Nat := items.foldl (fun n t => max n (t.elim 0 Tall.height)) 0

def total (items : Items) : Tall :=
  ⟨.sequence (items.filterMap fun t => t.map Tall.expr).reverse,
    if 2 ≤ items.length then items.heights + 1 else items.heights⟩

def push (items : Items) (e : Expr) (height : Nat) : Items := some ⟨e, height⟩ :: items

def repeatLast (items : Items) (least : Nat) (most : Option Nat) (greedy : Bool) :
    Option Items :=
  match items with
  | some t :: rest => some (some ⟨.repeated least most greedy t.expr, t.height + 1⟩ :: rest)
  | _ => none

end Items

def joinAlternatives (earlier : List Tall) (last : Tall) : Tall :=
  if earlier.isEmpty then last
  else ⟨.choice (earlier.reverse.map Tall.expr ++ [last.expr]),
    earlier.foldl (fun n t => max n t.height) last.height + 1⟩

/-- The rest of a pattern, with the flags that hold, the names of groups and their number. -/
structure Place where
  flags : Flags
  names : List String
  groups : Nat
  rest : List Char

mutual

/-- Reads alternatives up to the end of the text or of a group, with `room` for nested groups. The
number bounds the steps. -/
def readAlternatives : Nat → Nat → List Tall → Items → Place → Option (Tall × Place)
  | 0, _, _, _, _ => none
  | n + 1, room, earlier, items, p =>
    let f := p.flags
    let go := fun e rest => readAlternatives n room earlier (items.push e 0) { p with rest := rest }
    let again := fun least most isLazy rest =>
      match items.repeatLast least most (isLazy == f.swapGreed) with
      | some items => readAlternatives n room earlier items { p with rest := rest }
      | none => none
    match gaps f p.rest with
    | [] => some (joinAlternatives earlier items.total, { p with rest := [] })
    | ')' :: rest => some (joinAlternatives earlier items.total, { p with rest := ')' :: rest })
    | '|' :: rest => readAlternatives n room (items.total :: earlier) [] { p with rest := rest }
    | '(' :: rest =>
      match readGroup n room { p with rest := rest } with
      | some (item, p) => readAlternatives n room earlier (item :: items) p
      | none => none
    | '[' :: rest =>
      match readClass f n maxHeight rest with
      | some ((s, height), rest) =>
        readAlternatives n room earlier (items.push (.ofSet s) height) { p with rest := rest }
      | none => none
    | '*' :: rest => let (isLazy, rest) := readLazy rest; again 0 none isLazy rest
    | '+' :: rest => let (isLazy, rest) := readLazy rest; again 1 none isLazy rest
    | '?' :: rest => let (isLazy, rest) := readLazy rest; again 0 (some 1) isLazy rest
    | '\x7b' :: rest =>
      match readBounds f rest with
      | some (least, most, rest) =>
        let (isLazy, rest) := readLazy (gaps f rest)
        again least most isLazy rest
      | none => none
    | '\\' :: rest =>
      match readEscape f rest with
      | some (x, rest) => go (x.expr f) rest
      | none => none
    | '.' :: rest =>
      match dot? f with
      | some s => go (.ofSet s) rest
      | none => none
    | '^' :: rest => go (.look (lineStart f)) rest
    | '$' :: rest => go (.look (lineEnd f)) rest
    | c :: rest => go ((Primitive.char c.toNat).expr f) rest

/-- What follows an opening parenthesis: a change of flags for the rest of the enclosing group, or
a group, after which the flags are what they were. -/
def readGroup : Nat → Nat → Place → Option (Option Tall × Place)
  | n + 1, room + 1, p =>
    match gaps p.flags p.rest with
    | '?' :: '=' :: _ => none
    | '?' :: '!' :: _ => none
    | '?' :: '<' :: '=' :: _ => none
    | '?' :: '<' :: '!' :: _ => none
    | '?' :: 'P' :: '<' :: rest => readNamedGroup n room p rest
    | '?' :: '<' :: rest => readNamedGroup n room p rest
    | '?' :: rest =>
      match readFlags p.flags true [] rest with
      | some (f, seen, ')' :: rest) =>
        if seen.isEmpty then none else some (none, { p with flags := f, rest := rest })
      | some (f, _, _ :: rest) =>
        closeGroup n room none p.flags { p with flags := f, rest := rest }
      | _ => none
    | rest =>
      closeGroup n room (some p.groups) p.flags { p with groups := p.groups + 1, rest := rest }
  | _, _, _ => none

def readNamedGroup : Nat → Nat → Place → List Char → Option (Option Tall × Place)
  | 0, _, _, _ => none
  | n + 1, room, p, cs =>
    match readGroupName p.names cs with
    | some (name, rest) =>
      closeGroup n room (some p.groups) p.flags
        { p with names := name :: p.names, groups := p.groups + 1, rest := rest }
    | none => none

/-- The inside of a group and its closing parenthesis; `index` is the number of a group that
captures. -/
def closeGroup : Nat → Nat → Option Nat → Flags → Place → Option (Option Tall × Place)
  | 0, _, _, _, _ => none
  | n + 1, room, index, outer, p =>
    match readAlternatives n room [] [] p with
    | some (t, p) =>
      match p.rest with
      | ')' :: rest =>
        let e := match index with
          | some i => .group i t.expr
          | none => t.expr
        some (some ⟨e, t.height + 1⟩, { p with flags := outer, rest := rest })
      | _ => none
    | none => none

end

def read? (cs : List Char) : Option Expr :=
  match readAlternatives (4 * cs.length + 4) maxHeight [] [] ⟨.initial, [], 1, cs⟩ with
  | some (t, p) => if p.rest.isEmpty ∧ t.height ≤ maxHeight then some t.expr else none
  | none => none

end PayloadSchema.Pattern
