import PayloadSchema.Json.Basic

/-!
Locations inside a payload. A path is read from the root inwards and rendered like
`columns[2].attributes[0].name`.
-/
namespace PayloadSchema

inductive Segment where
  /-- A declared or additional field of an object. -/
  | field (name : String)
  /-- A position in a list. -/
  | index (i : Nat)
  /-- A key of a dict. -/
  | key (name : String)
  deriving DecidableEq, Repr

def Segment.text : Segment → String
  | .field name => name
  | .index i => "[" ++ natText i ++ "]"
  | .key name => name

abbrev Path := List Segment

namespace Path

/-- A segment after another one; names are set off by a dot. -/
def joint : Segment → String
  | .index i => Segment.text (.index i)
  | s => "." ++ s.text

def text : Path → String
  | [] => "(root)"
  | s :: rest => s.text ++ String.join (rest.map joint)

end Path

namespace Json

def child? : Json → Segment → Option Json
  | object members, .field name => members.lookup name
  | object members, .key name => members.lookup name
  | array items, .index i => items[i]?
  | _, _ => none

def at? (v : Json) : Path → Option Json
  | [] => some v
  | s :: rest => (v.child? s).bind (·.at? rest)

end Json
end PayloadSchema
