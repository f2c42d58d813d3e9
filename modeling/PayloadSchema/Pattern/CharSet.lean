import PayloadSchema.Text.Span

/-! Sets of code points, kept as ascending ranges that neither overlap nor touch. -/
namespace PayloadSchema.Pattern

structure Range where
  first : Nat
  last : Nat
  deriving DecidableEq, Repr

structure CharSet where
  ranges : List Range
  deriving DecidableEq, Repr

/-- The character after `n`; surrogates are none. -/
def succ (n : Nat) : Nat := if n = 0xD7FF then 0xE000 else n + 1

def pred (n : Nat) : Nat := if n = 0xE000 then 0xD7FF else n - 1

def maxChar : Nat := 0x10FFFF

namespace CharSet

/-- Joins ascending ranges that overlap or touch; `r` comes before the others. -/
def join (r : Range) : List Range → List Range
  | [] => [r]
  | s :: rest =>
    if s.first ≤ r.last + 1 then join ⟨r.first, max r.last s.last⟩ rest else r :: join s rest

def ofRanges (rs : List Range) : CharSet :=
  match rs.mergeSort fun r s => decide (r.first ≤ s.first) with
  | [] => ⟨[]⟩
  | r :: rest => ⟨join r rest⟩

def empty : CharSet := ⟨[]⟩

def range (first last : Nat) : CharSet := ⟨[⟨first, last⟩]⟩

def single (n : Nat) : CharSet := range n n

def full : CharSet := range 0 maxChar

def spanRanges (s : Text.Span) : List Range :=
  if s.step = 1 then [⟨s.first, s.last⟩]
  else (List.range ((s.last - s.first) / s.step + 1)).map fun i =>
    ⟨s.first + i * s.step, s.first + i * s.step⟩

def ofSpans (ss : List Text.Span) : CharSet := ofRanges (ss.flatMap spanRanges)

def contains (a : CharSet) (n : Nat) : Bool :=
  a.ranges.any fun r => decide (r.first ≤ n) && decide (n ≤ r.last)

def isAscii (a : CharSet) : Bool := a.ranges.all fun r => decide (r.last < 128)

def only? (a : CharSet) : Option Nat :=
  match a.ranges with
  | [r] => if r.first = r.last then some r.first else none
  | _ => none

def union (a b : CharSet) : CharSet := ofRanges (a.ranges ++ b.ranges)

def unionAll (as : List CharSet) : CharSet := ofRanges (as.flatMap ranges)

def meet : List Range → List Range → List Range
  | r :: rs, s :: ss =>
    let rest := if r.last < s.last then meet rs (s :: ss) else meet (r :: rs) ss
    if max r.first s.first ≤ min r.last s.last then
      ⟨max r.first s.first, min r.last s.last⟩ :: rest
    else rest
  | _, _ => []
termination_by rs ss => rs.length + ss.length

def inter (a b : CharSet) : CharSet := ⟨meet a.ranges b.ranges⟩

def minus : List Range → List Range → List Range
  | [], _ => []
  | rs, [] => rs
  | r :: rs, s :: ss =>
    if s.last < r.first then minus (r :: rs) ss
    else if r.last < s.first then r :: minus rs (s :: ss)
    else
      let rest := if s.last < r.last then minus (⟨succ s.last, r.last⟩ :: rs) ss
        else minus rs (s :: ss)
      if r.first < s.first then ⟨r.first, pred s.first⟩ :: rest else rest
termination_by rs ss => rs.length + ss.length

def diff (a b : CharSet) : CharSet := ⟨minus a.ranges b.ranges⟩

def symmDiff (a b : CharSet) : CharSet := (a.union b).diff (a.inter b)

def gap (r s : Range) : Range :=
  ⟨min (succ r.last) (pred s.first), max (succ r.last) (pred s.first)⟩

def gapsAfter (r : Range) : List Range → List Range
  | [] => if r.last < maxChar then [⟨succ r.last, maxChar⟩] else []
  | s :: rest => gap r s :: gapsAfter s rest

def compl (a : CharSet) : CharSet :=
  match a.ranges with
  | [] => full
  | r :: rest =>
    if 0 < r.first then ⟨⟨0, pred r.first⟩ :: gapsAfter r rest⟩ else ⟨gapsAfter r rest⟩

def complIf (negated : Bool) (a : CharSet) : CharSet := if negated then a.compl else a

def hexText (cs : List Char) : Nat :=
  cs.foldl (fun n c => 16 * n + (if c.isDigit then c.toNat - 48 else c.toNat - 55)) 0

/-- A range as tables write it: `41`, `41-5A` or, for every second one, `100-12E:2`. -/
def spanOfText (cs : List Char) : Text.Span :=
  let (bounds, step) := cs.span (· != ':')
  let (first, last) := bounds.span (· != '-')
  ⟨hexText first, if last.isEmpty then hexText first else hexText (last.drop 1),
    if step.isEmpty then 1 else hexText (step.drop 1)⟩

/-- The words of a text, latest first; `word` is the one under way, backwards. -/
def words (word : List Char) (seen : List (List Char)) : List Char → List (List Char)
  | [] => if word.isEmpty then seen else word.reverse :: seen
  | c :: cs =>
    if c = ' ' ∨ c = '\n' then words [] (if word.isEmpty then seen else word.reverse :: seen) cs
    else words (c :: word) seen cs

def ofText (text : String) : CharSet :=
  ofSpans ((words [] [] text.toList).map spanOfText)

end CharSet
end PayloadSchema.Pattern
