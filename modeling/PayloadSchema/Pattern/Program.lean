import PayloadSchema.Pattern.Expr
import PayloadSchema.Pattern.Fault

/-!
Programs that search a text byte by byte, and their construction state by state. The size of a
program is bounded.
-/
namespace PayloadSchema.Pattern

structure Step where
  first : UInt8
  last : UInt8
  next : Nat
  deriving DecidableEq, Repr

inductive State where
  | pass (next : Nat)
  | read (step : Step)
  | choose (steps : Array Step)
  | check (l : Look) (next : Nat)
  | fork (targets : Array Nat)
  | accept
  deriving Inhabited

/-- The state with one more way to go on, or with another one. -/
def State.linked (next : Nat) : State → State
  | .pass _ => .pass next
  | .read s => .read { s with next := next }
  | .check l _ => .check l next
  | .fork ts => .fork (ts.push next)
  | s => s

def State.fanOut : State → Nat
  | .fork ts => ts.size
  | _ => 0

structure Program where
  states : Array State
  start : Nat

structure Builder where
  states : Array State
  /-- The number of steps of all choices. -/
  steps : Nat
  /-- The number of targets of all forks. -/
  targets : Nat

def Builder.size (b : Builder) : Nat := 32 * b.states.size + 8 * b.steps + 4 * b.targets

/-- A construction; it fails once the program is too large. -/
abbrev Build := StateT Builder Option

structure Part where
  start : Nat
  stop : Nat

namespace Build

def add (s : State) : Build Nat := fun b =>
  let place := b.states.size
  let b := { b with states := b.states.push s, targets := b.targets + s.fanOut }
  if b.size ≤ sizeLimit then some (place, b) else none

def addPass : Build Nat := add (.pass 0)

def addFork : Build Nat := add (.fork #[])

def addRead (first last : UInt8) (next : Nat) : Build Nat := add (.read ⟨first, last, next⟩)

def addChoice (steps : Array Step) : Build Nat := fun b =>
  add (.choose steps) { b with steps := b.steps + steps.size }

def link (place next : Nat) : Build Unit := fun b =>
  let more := match b.states[place]? with
    | some (.fork _) => 1
    | _ => 0
  let b := { b with
    states := b.states.modify place (State.linked next), targets := b.targets + more }
  if b.size ≤ sizeLimit then some ((), b) else none

def one (place : Build Nat) : Build Part := do
  let n ← place
  return ⟨n, n⟩

def after (p q : Part) : Build Part := do
  link p.stop q.start
  return ⟨p.start, q.stop⟩

/-- Parts in a row after a first one; the empty text matches where there are none. -/
def chain (ps : List (Build Part)) : Build Part :=
  match ps with
  | [] => one addPass
  | p :: rest => do
    let p ← p
    rest.foldlM (fun p q => do after p (← q)) p

def more (again : Build Part) : Nat → Part → Build Part
  | 0, p => return p
  | n + 1, p => do
    let p ← after p (← again)
    more again n p

def copies (again : Build Part) : Nat → Build Part
  | 0 => one addPass
  | n + 1 => do more again n (← again)

def oneOf (ps : List (Build Part)) : Build Part :=
  match ps with
  | [] => one (addChoice #[])
  | [p] => p
  | p :: q :: rest => do
    let p ← p
    let q ← q
    let fork ← addFork
    let stop ← addPass
    let join := fun (p : Part) => do
      link fork p.start
      link p.stop stop
    join p
    join q
    rest.forM fun r => do join (← r)
    return ⟨fork, stop⟩

end Build
end PayloadSchema.Pattern
