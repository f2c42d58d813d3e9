import PayloadSchema.Pattern.Program
import PayloadSchema.Pattern.Property

/-!
The search of a text. All states that a program can be in are followed at once, so that the time is
proportional to the length of the text.
-/
namespace PayloadSchema.Pattern

def isAsciiWord (c : Char) : Bool := c.isAlphanum || c == '_'

def isWord (ascii : Bool) (c : Char) : Bool :=
  isAsciiWord c || (!ascii && decide (128 ≤ c.toNat) && Property.word.contains c.toNat)

def Boundary.holds (before after : Bool) : Boundary → Bool
  | edge => before != after
  | noEdge => before == after
  | start => !before && after
  | stop => before && !after
  | startHalf => !before
  | stopHalf => !after

/-- Whether a condition holds between two characters, either of which may be missing. -/
def Look.holds (before after : Option Char) : Look → Bool
  | textStart => before.isNone
  | textEnd => after.isNone
  | lineStart => before.isNone || before == some '\n'
  | lineEnd => after.isNone || after == some '\n'
  | lineStartAny =>
    before.isNone || before == some '\n' || (before == some '\r' && after != some '\n')
  | lineEndAny =>
    after.isNone || after == some '\r' || (after == some '\n' && before != some '\r')
  | word b ascii => b.holds (before.any (isWord ascii)) (after.any (isWord ascii))

def Step.takes (s : Step) (b : UInt8) : Bool := decide (s.first ≤ b) && decide (b ≤ s.last)

def State.next? (b : UInt8) : State → Option Nat
  | .read s => if s.takes b then some s.next else none
  | .choose ss => (ss.find? (·.takes b)).map Step.next
  | _ => none

structure Front where
  /-- The round in which each state was met last. -/
  met : Array Nat
  round : Nat
  /-- The states that read the next byte. -/
  readers : List Nat
  found : Bool

def Front.isMet (f : Front) (i : Nat) : Bool := f.met[i]? == some f.round

namespace Program

/-- Follows states up to those that read a byte. The number bounds the steps. -/
def spread (p : Program) (before after : Option Char) : Nat → List Nat → Front → Front
  | 0, _, f => f
  | _, [], f => f
  | n + 1, i :: rest, f =>
    if f.isMet i then spread p before after n rest f
    else
      let f := { f with met := f.met.setIfInBounds i f.round }
      match p.states[i]? with
      | some (.pass j) => spread p before after n (j :: rest) f
      | some (.check l j) =>
        spread p before after n (if l.holds before after then j :: rest else rest) f
      | some (.fork js) => spread p before after n (js.toList ++ rest) f
      | some .accept => { f with found := true }
      | some _ => spread p before after n rest { f with readers := i :: f.readers }
      | none => spread p before after n rest f

def links (p : Program) : Nat := p.states.foldl (fun n s => n + s.fanOut + 1) 0

def afterByte (p : Program) (b : UInt8) (readers : List Nat) : List Nat :=
  readers.filterMap fun i => p.states[i]?.bind (State.next? b)

def follow (p : Program) (links : Nat) (before after : Option Char) (places : List Nat)
    (f : Front) : Front :=
  p.spread before after (places.length + links + 1) places
    ⟨f.met, f.round + 1, [], f.found⟩

/-- Reads the bytes of a character but the last; the result is where the last one leads. -/
def readBytes (p : Program) (links : Nat) (f : Front) : List UInt8 → Front × List Nat
  | [] => (f, f.readers)
  | [b] => (f, p.afterByte b f.readers)
  | b :: bs => readBytes p links (p.follow links none none (p.afterByte b f.readers) f) bs

/-- Searches the characters to come. A match may begin between any two of them. -/
def searchFrom (p : Program) (links : Nat) (f : Front) : List Char → Bool
  | [] => f.found
  | c :: cs =>
    if f.found then true
    else
      let (f, places) := p.readBytes links f (String.utf8EncodeChar c)
      searchFrom p links (p.follow links (some c) cs.head? (p.start :: places) f) cs

def isFoundIn (p : Program) (s : String) : Bool :=
  let cs := s.toList
  let links := p.links
  let f : Front := ⟨Array.replicate p.states.size 0, 0, [], false⟩
  p.searchFrom links (p.follow links none cs.head? [p.start] f) cs

end Program
end PayloadSchema.Pattern
