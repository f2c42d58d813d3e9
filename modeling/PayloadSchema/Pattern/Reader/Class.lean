import PayloadSchema.Pattern.Reader.Escape

/-!
Classes in brackets: characters, ranges, named and nested classes, joined by set operations. Each
class is read together with its height, the number of levels that are nested in it.
-/
namespace PayloadSchema.Pattern
open CharSet

/-- A named ASCII class such as `[:alpha:]`, after its opening bracket. Outer none: there is no
such name; inner none: the class is refused. -/
def readNamedClass (f : Flags) : List Char → Option (Option CharSet × List Char)
  | ':' :: rest =>
    let (negated, rest) := match rest with | '^' :: r => (true, r) | r => (false, r)
    match rest.span (· != ':') with
    | (name, ':' :: ']' :: rest) =>
      (asciiClass? (String.ofList name)).map fun s => (f.finish? negated s, rest)
    | _ => none
  | _ => none

def readMember (f : Flags) : List Char → Option (Primitive × List Char)
  | '\\' :: rest => readEscape f rest
  | c :: rest => some (.char c.toNat, rest)
  | [] => none

/-- The members between two characters. Without the Unicode flag both have to be ASCII. -/
def span? (f : Flags) (first last : Nat) : Option CharSet :=
  if first ≤ last ∧ (f.unicode ∨ last < 128) then some (range first last) else none

def Primitive.member? (f : Flags) : Primitive → Option CharSet
  | .char n => span? f n n
  | .set s => some s
  | .look _ => none

/-- The character after a hyphen that decides whether the hyphen makes a range. Where gaps are
allowed, the sign of a comment is passed over but not the comment. -/
def peek? (f : Flags) (cs : List Char) : Option Char :=
  if f.extended then
    match cs.dropWhile Text.isBlank with
    | '#' :: rest => (rest.dropWhile Text.isBlank).head?
    | rest => rest.head?
  else cs.head?

/-- A member or a range of a class. A hyphen before the closing bracket or before another hyphen
makes no range. -/
def readRange (f : Flags) (cs : List Char) : Option (CharSet × List Char) := do
  let (first, rest) ← readMember f cs
  match gaps f rest with
  | [] => none
  | '-' :: more =>
    if peek? f more = some ']' ∨ peek? f more = some '-' then
      return (← first.member? f, '-' :: more)
    else
      let (last, rest) ← readMember f (gaps f more)
      match first, last with
      | .char a, .char b => return (← span? f a b, rest)
      | _, _ => none
  | rest => return (← first.member? f, rest)

inductive SetOp where
  | inter
  | diff
  | symmDiff

structure Members where
  ranges : List Range
  count : Nat
  height : Nat

namespace Members

def none : Members := ⟨[], 0, 0⟩

def add (m : Members) (s : CharSet) (height : Nat) : Members :=
  ⟨s.ranges ++ m.ranges, m.count + 1, max m.height height⟩

def total (m : Members) : CharSet × Nat :=
  (.ofRanges m.ranges, if 2 ≤ m.count then m.height + 1 else m.height)

end Members

def SetOp.apply (f : Flags) (pending : Option (SetOp × CharSet × Nat)) (right : CharSet × Nat) :
    CharSet × Nat :=
  match pending with
  | none => right
  | some (op, left, height) =>
    let a := f.fold left
    let b := f.fold right.1
    (match op with
      | .inter => a.inter b
      | .diff => a.diff b
      | .symmDiff => a.symmDiff b, max height right.2 + 1)

def leadingHyphens (f : Flags) : Nat → Members → List Char → Members × List Char
  | n + 1, m, '-' :: rest => leadingHyphens f n (m.add (single 45) 0) (gaps f rest)
  | _, m, cs => (m, cs)

mutual

/-- A class after its opening bracket, with `room` for nested ones. The number bounds the
steps. -/
def readClass (f : Flags) : Nat → Nat → List Char → Option ((CharSet × Nat) × List Char)
  | n + 1, room + 1, cs =>
    let cs := gaps f cs
    let (negated, cs) := match cs with | '^' :: r => (true, gaps f r) | cs => (false, cs)
    let (m, cs) := leadingHyphens f n .none cs
    let (m, cs) :=
      match m.count, cs with
      | 0, ']' :: rest => (m.add (single 93) 0, rest)
      | _, cs => (m, cs)
    match readClassBody f n room none m cs with
    | some ((s, height), rest) => (f.finish? negated s).map fun s => ((s, height + 1), rest)
    | none => none
  | _, _, _ => none

def readClassBody (f : Flags) : Nat → Nat → Option (SetOp × CharSet × Nat) → Members →
    List Char → Option ((CharSet × Nat) × List Char)
  | 0, _, _, _, _ => none
  | n + 1, room, pending, m, cs =>
    let joined := fun op => some (op, SetOp.apply f pending m.total)
    match gaps f cs with
    | [] => none
    | '[' :: rest =>
      match readNamedClass f rest with
      | some (some s, rest) => readClassBody f n room pending (m.add s 0) rest
      | some (none, _) => none
      | none =>
        match readClass f n room rest with
        | some ((s, height), rest) => readClassBody f n room pending (m.add s height) rest
        | none => none
    | ']' :: rest => some (SetOp.apply f pending m.total, rest)
    | '&' :: '&' :: rest => readClassBody f n room (joined .inter) .none rest
    | '-' :: '-' :: rest => readClassBody f n room (joined .diff) .none rest
    | '~' :: '~' :: rest => readClassBody f n room (joined .symmDiff) .none rest
    | cs =>
      match readRange f cs with
      | some (s, rest) => readClassBody f n room pending (m.add s 0) rest
      | none => none

end

end PayloadSchema.Pattern
