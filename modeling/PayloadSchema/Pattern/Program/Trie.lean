import PayloadSchema.Pattern.Program

/-!
Alternatives of literals, by their first bytes. A state with a match in it keeps the bytes that are
tried before the match apart from those after it.
-/
namespace PayloadSchema.Pattern

/-- A tree of bytes. The branches stand in groups, latest first: between two groups a literal
ends. -/
inductive Trie where
  | node (groups : List (List (UInt8 × Trie)))

namespace Trie

def root : Trie := node [[]]

def isLeaf : Trie → Bool
  | node groups => groups.all List.isEmpty

def path : List UInt8 → Trie
  | [] => node [[], []]
  | b :: bs => node [[(b, path bs)]]

/-- A literal ends in a node; a second end in a node without branches adds nothing. -/
def ended : List (List (UInt8 × Trie)) → List (List (UInt8 × Trie))
  | [[], []] => [[], []]
  | groups => [] :: groups

mutual

def insert : Trie → List UInt8 → Trie
  | node groups, [] => node (ended groups)
  | node [], b :: bs => node [[(b, path bs)]]
  | node (active :: earlier), b :: bs => node (insertByte active b bs :: earlier)

def insertByte : List (UInt8 × Trie) → UInt8 → List UInt8 → List (UInt8 × Trie)
  | [], b, bs => [(b, path bs)]
  | (c, t) :: rest, b, bs =>
    if b = c then (c, t.insert bs) :: rest
    else if b < c then (b, path bs) :: (c, t) :: rest
    else (c, t) :: insertByte rest b bs

end

def addGroup (steps : Array Step) : Build (List Nat) :=
  match steps.toList with
  | [] => return []
  | [s] => do return [← Build.add (.read s)]
  | _ => do return [← Build.addChoice steps]

mutual

def buildNode (stop : Nat) : Trie → Build Nat
  | node groups => do Build.add (.fork (← buildGroups stop groups).toArray)

/-- The targets for groups, the first group first, with an end between any two. -/
def buildGroups (stop : Nat) : List (List (UInt8 × Trie)) → Build (List Nat)
  | [] => return []
  | group :: earlier => do
    let before ← buildGroups stop earlier
    let here ← addGroup (← buildSteps stop #[] group)
    return if earlier.isEmpty then here else before ++ stop :: here

def buildSteps (stop : Nat) (steps : Array Step) : List (UInt8 × Trie) → Build (Array Step)
  | [] => return steps
  | (b, t) :: rest => do
    let next ← if t.isLeaf then pure stop else buildNode stop t
    buildSteps stop (steps.push ⟨b, b, next⟩) rest

end

def build (literals : List (List UInt8)) : Build Part := do
  let stop ← Build.addPass
  let fork ← buildNode stop (literals.foldl insert root)
  return ⟨fork, stop⟩

end Trie
end PayloadSchema.Pattern
