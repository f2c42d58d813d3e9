import PayloadSchema.Models.Model

/-! Trees of namespaces. -/
namespace PayloadSchema

structure NodeNamespace where
  name : String
  children : Presence (List NodeNamespace)

namespace NodeNamespace

mutual

def flatten : NodeNamespace → List String
  | ⟨name, children⟩ => name :: flattenChildren children

def flattenChildren : Presence (List NodeNamespace) → List String
  | .value children => flattenAll children
  | _ => []

def flattenAll : List NodeNamespace → List String
  | [] => []
  | n :: rest => flatten n ++ flattenAll rest

end

mutual

/-- Reads a tree. Every entry of an object is also read as a list of trees, and the one for the
children is taken. -/
def reading : Reading NodeNamespace
  | .object o => readObject o
  | i => Reading.mismatch "object" i

def readObject : ObjectInstance → Except AccessError NodeNamespace
  | ⟨c, entries⟩ => do
    let o : ObjectInstance := ⟨c, entries⟩
    let name ← o.required Reading.string "namespace"
    let children ←
      (((c.lookup? (readEntries entries) "children").getD .unset).tryMap id).mapError
        (·.inField "children")
    pure ⟨name, children⟩

def readEntries : List (String × Presence Instance) →
    List (String × Presence (Except AccessError (List NodeNamespace)))
  | [] => []
  | (name, .value i) :: rest => (name, .value (readList i)) :: readEntries rest
  | (name, .null) :: rest => (name, .null) :: readEntries rest
  | (name, .unset) :: rest => (name, .unset) :: readEntries rest

def readList : Instance → Except AccessError (List NodeNamespace)
  | .list items => readItems 0 items
  | i => Reading.mismatch "list" i

def readItems (n : Nat) : List Instance → Except AccessError (List NodeNamespace)
  | [] => .ok []
  | i :: rest => do
    let a ← (reading i).mapError (·.inField ("[" ++ natText n ++ "]"))
    let as ← readItems (n + 1) rest
    pure (a :: as)

end

def model : Model NodeNamespace where
  schemaName := Models.nodeNamespace
  read := readObject

end NodeNamespace
end PayloadSchema
