import PayloadSchema.Pattern.Program
import Std.Data.HashMap

/-!
Sets of characters as parts of programs. A range of code points is cut into ranges whose UTF-8
forms differ only in independent bytes; states that go on alike are shared.
-/
namespace PayloadSchema.Pattern

structure ByteRange where
  first : UInt8
  last : UInt8
  deriving DecidableEq, Repr

/-- Where a range has to be cut so that its ends have the same number of bytes and, behind the
first byte in which they differ, all bytes vary freely. The result ends the first piece. -/
def cut? (r : Range) : Option Nat :=
  match [0x7F, 0x7FF, 0xFFFF].find? fun m => decide (r.first ≤ m) && decide (m < r.last) with
  | some m => some m
  | none =>
    if r.last < 128 then none
    else
      [64, 4096, 262144].findSome? fun p =>
        if r.first / p = r.last / p then none
        else if r.first % p ≠ 0 then some (r.first / p * p + p - 1)
        else if r.last % p ≠ p - 1 then some (r.last / p * p - 1)
        else none

def byteRanges (r : Range) : List ByteRange :=
  (String.utf8EncodeChar (Char.ofNat r.first)).zipWith ByteRange.mk
    (String.utf8EncodeChar (Char.ofNat r.last))

/-- The sequences of byte ranges for the characters of a range, in ascending order. Surrogates
have none. -/
def sequences (r : Range) : List (List ByteRange) :=
  if r.first < 0xD800 ∧ 0xE000 ≤ r.last then
    sequences ⟨r.first, 0xD7FF⟩ ++ sequences ⟨0xE000, r.last⟩
  else
    match cut? r with
    | some m =>
      if r.first ≤ m ∧ m < r.last then sequences ⟨r.first, m⟩ ++ sequences ⟨m + 1, r.last⟩
      else []
    | none => [byteRanges r]
termination_by r.last + 1 - r.first

def CharSet.sequences (s : CharSet) : List (List ByteRange) :=
  s.ranges.flatMap Pattern.sequences

/-- States that can be found again by their steps, each in a slot that a later one may take. -/
abbrev Shared := Std.HashMap UInt64 (Array Step × Nat)

def slot (size : UInt64) (ns : List UInt64) : UInt64 :=
  ns.foldl (fun h n => (h ^^^ n) * 1099511628211) 14695981039346656037 % size

def sharedChoice (steps : Array Step) : StateT Shared Build Nat := do
  let key := slot 10000 (steps.toList.flatMap fun s =>
    [s.first.toUInt64, s.last.toUInt64, s.next.toUInt64])
  match (← get).get? key with
  | some (found, place) =>
    if found = steps then return place
    else addNew key
  | none => addNew key
where
  addNew (key : UInt64) : StateT Shared Build Nat := do
    let place ← Build.addChoice steps
    modify fun m => m.insert key (steps, place)
    return place

def sharedRead (r : ByteRange) (next : Nat) : StateT Shared Build Nat := do
  let key := slot 1000 [next.toUInt64, r.first.toUInt64, r.last.toUInt64]
  match (← get).get? key with
  | some (found, place) =>
    if found = #[⟨r.first, r.last, next⟩] then return place
    else addNew key
  | none => addNew key
where
  addNew (key : UInt64) : StateT Shared Build Nat := do
    let place ← Build.addRead r.first r.last next
    modify fun m => m.insert key (#[⟨r.first, r.last, next⟩], place)
    return place

/-- A choice to be: finished steps, and the bytes of a last one whose target is not known. -/
structure Open where
  steps : Array Step
  last : Option ByteRange

def Open.close (o : Open) (next : Nat) : Array Step :=
  match o.last with
  | some r => o.steps.push ⟨r.first, r.last, next⟩
  | none => o.steps

/-- Finishes the choices behind the first `keep` ones; the latest choice comes first. -/
def finish (keep next : Nat) : List Open → StateT Shared Build (List Open)
  | [] => return []
  | o :: earlier =>
    if keep < earlier.length then do
      finish keep (← sharedChoice (o.close next)) earlier
    else return ⟨o.close next, none⟩ :: earlier

def agreement : List ByteRange → List Open → Nat
  | r :: rs, o :: os => if o.last = some r then agreement rs os + 1 else 0
  | _, _ => 0

def addSequence (target : Nat) (opens : List Open) (rs : List ByteRange) :
    StateT Shared Build (List Open) := do
  let kept := agreement rs opens.reverse
  match ← finish kept target opens, rs.drop kept with
  | o :: earlier, r :: rest =>
    return rest.foldl (fun os r => ⟨#[], some r⟩ :: os) (⟨o.steps, some r⟩ :: earlier)
  | os, _ => return os

/-- A set that is read forwards: a tree of choices with shared ends. -/
def forwardTree (s : CharSet) : StateT Shared Build Part := do
  let target ← Build.addPass
  let opens ← s.sequences.foldlM (addSequence target) [⟨#[], none⟩]
  match ← finish 0 target opens with
  | o :: _ => return ⟨← sharedChoice o.steps, target⟩
  | [] => return ⟨target, target⟩

/-- A set that is read backwards: one branch for each sequence, with shared first bytes. -/
def backwardBranches (s : CharSet) : StateT Shared Build Part := do
  let fork ← Build.addFork
  let target ← Build.addPass
  s.sequences.forM fun rs => do
    let place ← rs.foldlM (fun next r => sharedRead r next) target
    Build.link fork place
  return ⟨fork, target⟩

def CharSet.build (backward : Bool) (s : CharSet) : Build Part := do
  if s.isAscii then
    let target ← Build.addPass
    let choice ← Build.addChoice (s.ranges.toArray.map fun r =>
      ⟨r.first.toUInt8, r.last.toUInt8, target⟩)
    return ⟨choice, target⟩
  else
    let tree := if backward then backwardBranches s else forwardTree s
    (·.1) <$> tree.run {}

end PayloadSchema.Pattern
