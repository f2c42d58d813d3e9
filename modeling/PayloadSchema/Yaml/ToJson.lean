import PayloadSchema.Error
import PayloadSchema.Yaml.Value

/-!
YAML values as JSON values. Tags are dropped and scalar keys become texts. Numbers that are not
finite and keys that are no scalars have no JSON form. The conversion keeps the location of the node
at hand on a stack, and a failure leaves it there.
-/
namespace PayloadSchema.Yaml

/-- A conversion with the location of the node at hand, from the root inwards. Failures give a
reason; the location is kept beside it. -/
abbrev Walk := EStateM String Path

namespace Walk

def enter (segment : Segment) : Walk Unit := modify fun location => location ++ [segment]

def leave : Walk Unit := modify List.dropLast

end Walk

namespace Value
open Walk

def keyText? : Value → Option String
  | string s => some s
  | integer i => some (intText i)
  | real x => some x.text
  | bool true => some "true"
  | bool false => some "false"
  | null => some "null"
  | _ => none

mutual

def walk : Value → Walk Json
  | null => pure .null
  | bool b => pure (.bool b)
  | integer i => pure (.number (.ofInt i))
  | real (.finite x) => pure (.number x.toNumeral)
  | real x => throw ("number " ++ x.text ++ " has no JSON form")
  | string s => pure (.string s)
  | tagged _ v => walk v
  | sequence items => do
    let items ← walkItems 0 items
    pure (.array items)
  | mapping entries => do
    let members ← walkEntries [] entries
    pure (.object members)

def walkItems (i : Nat) : List Value → Walk (List Json)
  | [] => pure []
  | v :: rest => do
    enter (.index i)
    let v ← walk v
    leave
    let rest ← walkItems (i + 1) rest
    pure (v :: rest)

/-- Converts entries after some others. Keys with the same text keep the place of the first and the
value of the last one. -/
def walkEntries (seen : Members) : List (Value × Value) → Walk Members
  | [] => pure seen
  | (k, v) :: rest =>
    match keyText? k with
    | none => throw "mapping keys must be scalars"
    | some key => do
      enter (.key key)
      let v ← walk v
      leave
      walkEntries (seen.insert key v) rest

end

def load (v : Value) (source : String) : Except SchemaError Json :=
  match v.walk.run [] with
  | .ok j _ => .ok j
  | .error reason location => .error (.load source (location.text ++ ": " ++ reason))

end Value
end PayloadSchema.Yaml
