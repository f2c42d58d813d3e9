import PayloadSchema.Pattern.CharSet

/-!
Pattern expressions. They are built in a simplified form: sequences and alternatives are flat,
neighbouring literals are one, alternatives of single characters are a set, and what all
alternatives begin with stands before them.
-/
namespace PayloadSchema.Pattern

inductive Boundary where
  | edge
  | noEdge
  | start
  | stop
  | startHalf
  | stopHalf
  deriving DecidableEq, Repr

inductive Look where
  | textStart
  | textEnd
  | lineStart
  | lineEnd
  /-- Lines that may also end in a carriage return. -/
  | lineStartAny
  | lineEndAny
  /-- A boundary of words, where `ascii` says whether they hold ASCII characters only. -/
  | word (b : Boundary) (ascii : Bool)
  deriving DecidableEq, Repr

/-- The condition on the same position of the text read backwards. -/
def Look.reversed : Look → Look
  | textStart => textEnd
  | textEnd => textStart
  | lineStart => lineEnd
  | lineEnd => lineStart
  | lineStartAny => lineEndAny
  | lineEndAny => lineStartAny
  | word .start a => word .stop a
  | word .stop a => word .start a
  | word .startHalf a => word .stopHalf a
  | word .stopHalf a => word .startHalf a
  | word b a => word b a

inductive Expr where
  | empty
  | literal (cs : List Char)
  | set (s : CharSet)
  | look (l : Look)
  /-- At least `least` and at most `most` times in a row. -/
  | times (least : Nat) (most : Option Nat) (greedy : Bool) (e : Expr)
  | group (index : Nat) (e : Expr)
  | seq (es : List Expr)
  | alt (es : List Expr)

namespace Expr

mutual

def same : Expr → Expr → Bool
  | empty, empty => true
  | literal a, literal b => a == b
  | set a, set b => a == b
  | look a, look b => a == b
  | times l m g a, times l' m' g' b => l == l' && m == m' && g == g' && same a b
  | group i a, group j b => i == j && same a b
  | seq as, seq bs => sameList as bs
  | alt as, alt bs => sameList as bs
  | _, _ => false

def sameList : List Expr → List Expr → Bool
  | [], [] => true
  | a :: as, b :: bs => same a b && sameList as bs
  | _, _ => false

end

def width (cs : List Char) : Nat := cs.foldl (fun n c => n + c.utf8Size) 0

def charWidth (n : Nat) : Nat := (Char.ofNat n).utf8Size

def least? : List (Option Nat) → Option Nat
  | [] => none
  | [n] => n
  | n :: rest => n.bind fun n => (least? rest).map (min n)

mutual

/-- The bytes of a shortest match; none if nothing matches. -/
def shortest : Expr → Option Nat
  | empty => some 0
  | literal cs => some (width cs)
  | set s => s.ranges.head?.map fun r => charWidth r.first
  | look _ => some 0
  | times l _ _ e => (shortest e).map (· * l)
  | group _ e => shortest e
  | seq es => shortestSum es
  | alt es => least? (shortestAll es)

def shortestSum : List Expr → Option Nat
  | [] => some 0
  | e :: es => (shortest e).bind fun n => (shortestSum es).map (n + ·)

def shortestAll : List Expr → List (Option Nat)
  | [] => []
  | e :: es => shortest e :: shortestAll es

end

mutual

def isBlank : Expr → Bool
  | empty => true
  | literal _ => false
  | set _ => false
  | look _ => true
  | times _ most _ e => most.isSome && isBlank e
  | group _ e => isBlank e
  | seq es => areBlank es
  | alt es => areBlank es

def areBlank : List Expr → Bool
  | [] => true
  | e :: es => isBlank e && areBlank es

end

mutual

def leads (l : Look) : Expr → Bool
  | look k => k == l
  | times least _ _ e => decide (0 < least) && leads l e
  | group _ e => leads l e
  | seq es => leadsFirst l es
  | alt es => leadsAll l es
  | _ => false

def leadsFirst (l : Look) : List Expr → Bool
  | [] => false
  | e :: es => leads l e || (isBlank e && leadsFirst l es)

def leadsAll (l : Look) : List Expr → Bool
  | [] => true
  | e :: es => leads l e && leadsAll l es

end

mutual

def trails (l : Look) : Expr → Bool
  | look k => k == l
  | times least _ _ e => decide (0 < least) && trails l e
  | group _ e => trails l e
  | seq es => trailsLast l es
  | alt es => trailsAll l es
  | _ => false

def trailsLast (l : Look) : List Expr → Bool
  | [] => false
  | e :: es => trailsLast l es || (areBlank es && trails l e)

def trailsAll (l : Look) : List Expr → Bool
  | [] => true
  | e :: es => trails l e && trailsAll l es

end

def ofSet (s : CharSet) : Expr :=
  match s.only? with
  | some n => literal [Char.ofNat n]
  | none => set s

/-- A repetition. What matches only the empty text need not be repeated. -/
def repeated (least : Nat) (most : Option Nat) (greedy : Bool) (e : Expr) : Expr :=
  let least := if isBlank e then min least 1 else least
  let most := if isBlank e then some (min (most.getD 1) 1) else most
  if most = some 0 then empty
  else if least = 1 ∧ most = some 1 then e
  else times least most greedy e

def prepend : Expr → List Expr → List Expr
  | empty, es => es
  | literal a, literal b :: es => literal (a ++ b) :: es
  | e, es => e :: es

/-- The parts of a sequence, sequences among them opened. -/
def parts : Expr → List Expr
  | seq es => es
  | e => [e]

def sequence (es : List Expr) : Expr :=
  match (es.flatMap parts).foldr prepend [] with
  | [] => empty
  | [e] => e
  | es => seq es

def char? : Expr → Option Nat
  | literal [c] => some c.toNat
  | _ => none

def set? : Expr → Option CharSet
  | set s => some s
  | _ => none

def parts? : Expr → Option (List Expr)
  | seq es => some es
  | _ => none

def common : List Expr → List Expr → Nat
  | a :: as, b :: bs => if same a b then common as bs + 1 else 0
  | _, _ => 0

def options : Expr → List Expr
  | alt es => es
  | e => [e]

/-- Chooses between expressions. The number bounds how often a common front is taken out. -/
def choiceWithin : Nat → List Expr → Expr
  | n, es =>
    match es.flatMap options with
    | [] => set .empty
    | [e] => e
    | es =>
      match es.mapM char?, es.mapM set?, n, es.mapM parts? with
      | some ns, _, _, _ => ofSet (.ofRanges (ns.map fun n => ⟨n, n⟩))
      | none, some ss, _, _ => ofSet (.unionAll ss)
      | none, none, n + 1, some (first :: rest) =>
        let shared := rest.foldl (fun k ps => min k (common first ps)) first.length
        if shared = 0 then alt es
        else sequence (first.take shared
          ++ [choiceWithin n ((first :: rest).map fun ps => sequence (ps.drop shared))])
      | none, none, _, _ => alt es

def choice (es : List Expr) : Expr := choiceWithin 250 es

end Expr
end PayloadSchema.Pattern
