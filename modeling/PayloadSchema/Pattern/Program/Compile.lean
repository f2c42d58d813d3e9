import PayloadSchema.Pattern.Program.Bytes
import PayloadSchema.Pattern.Program.Trie

/-!
Programs for expressions. A program reads a text forwards; its twin that reads backwards is built
as well, and both have to fit.
-/
namespace PayloadSchema.Pattern

namespace Build

def optional (p : Build Part) : Build Part := do
  let fork ← addFork
  let p ← p
  let stop ← addPass
  link fork p.start
  link fork stop
  link p.stop stop
  return ⟨fork, stop⟩

def loop (p : Build Part) : Build Part := do
  let fork ← addFork
  let p ← p
  link fork p.start
  link p.stop fork
  return ⟨fork, fork⟩

/-- A part any number of times, where a round may read nothing. -/
def looseLoop (p : Build Part) : Build Part := do
  let p ← p
  let again ← addFork
  link p.stop again
  link again p.start
  let fork ← addFork
  let stop ← addPass
  link fork p.start
  link fork stop
  link again stop
  return ⟨fork, stop⟩

def atLeastOnce (p : Build Part) : Build Part := do
  let p ← p
  let again ← addFork
  link p.stop again
  link again p.start
  return ⟨p.start, again⟩

/-- A part up to `n` more times after the state `last`; each round may leave for `stop`. -/
def upTo (p : Build Part) (stop : Nat) : Nat → Nat → Build Unit
  | 0, last => link last stop
  | n + 1, last => do
    let fork ← addFork
    let p' ← p
    link last fork
    link fork p'.start
    link fork stop
    upTo p stop n p'.stop

/-- A repeated part; `reads` says whether each round reads a byte. -/
def repeated (p : Build Part) (reads : Bool) (least : Nat) (most : Option Nat) : Build Part :=
  match least, most with
  | 0, some 1 => optional p
  | 0, none => if reads then loop p else looseLoop p
  | 1, none => atLeastOnce p
  | n + 1, none => do
    let front ← copies p n
    after front (← atLeastOnce p)
  | n, some m => do
    let front ← copies p n
    if m ≤ n then return front
    else
      let stop ← addPass
      upTo p stop (m - n) front.stop
      return ⟨front.start, stop⟩

def marked (p : Build Part) : Build Part := do
  let start ← addPass
  let p ← p
  let stop ← addPass
  link start p.start
  link p.stop stop
  return ⟨start, stop⟩

end Build

def literalBytes (backward : Bool) (cs : List Char) : List UInt8 :=
  let bytes := cs.flatMap String.utf8EncodeChar
  if backward then bytes.reverse else bytes

namespace Expr

def literal? : Expr → Option (List Char)
  | literal cs => some cs
  | _ => none

mutual

def build (backward : Bool) : Expr → Build Part
  | empty => Build.one Build.addPass
  | literal cs =>
    Build.chain ((literalBytes backward cs).map fun b => Build.one (Build.addRead b b 0))
  | set s => s.build backward
  | look l => Build.one (Build.add (.check (if backward then l.reversed else l) 0))
  | times least most _ e =>
    Build.repeated (build backward e) (decide (0 < (shortest e).getD 0)) least most
  | group _ e => if backward then build backward e else Build.marked (build backward e)
  | seq es =>
    let parts := buildAll backward es
    Build.chain (if backward then parts.reverse else parts)
  | alt es =>
    match es.mapM literal? with
    | some literals => Trie.build (literals.map (literalBytes backward))
    | none => Build.oneOf (buildAll backward es)

def buildAll (backward : Bool) : List Expr → List (Build Part)
  | [] => []
  | e :: es => build backward e :: buildAll backward es

end

def buildLead (anchored : Bool) : Build Part :=
  if anchored then Build.one Build.addPass
  else Build.loop do
    let stop ← Build.addPass
    let choice ← Build.addChoice #[⟨0, 255, stop⟩]
    return ⟨choice, stop⟩

def buildWhole (backward : Bool) (e : Expr) : Build Nat := do
  let lead ← buildLead (if backward then e.trails .textEnd else e.leads .textStart)
  let whole ← if backward then e.build true else Build.marked (e.build false)
  let accept ← Build.add .accept
  Build.link whole.stop accept
  Build.link lead.stop whole.start
  return whole.start

/-- The program that searches forwards; none if it or its twin is too large. -/
def program? (e : Expr) : Option Program := do
  let (start, b) ← (buildWhole false e).run ⟨#[], 0, 0⟩
  let _ ← (buildWhole true e).run ⟨#[], 0, 0⟩
  return ⟨b.states, start⟩

end Expr
end PayloadSchema.Pattern
