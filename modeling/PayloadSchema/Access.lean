import PayloadSchema.Instance

/-!
Validated values as values of fixed types. A reading says how to take a value of one type out of an
instance; fields of objects are read with or without their presence.
-/
namespace PayloadSchema

inductive AccessError where
  /-- The field has no value. -/
  | presence (e : PresenceError)
  /-- The value is of another kind; `field` says where it stands. -/
  | wrongKind (field expected found : String)
  deriving DecidableEq, Repr

namespace AccessError

def message : AccessError → String
  | presence e => e.message
  | wrongKind field expected found =>
    "field '" ++ field ++ "': expected " ++ expected ++ ", found " ++ found

/-- The same failure seen from the enclosing value. Positions follow a name without a dot. -/
def inField (name : String) : AccessError → AccessError
  | presence e => presence e
  | wrongKind field expected found =>
    let field := if field.isEmpty || field.startsWith "[" then name ++ field
      else name ++ "." ++ field
    wrongKind field expected found

end AccessError

abbrev Reading (α : Type) := Instance → Except AccessError α

namespace Reading

def mismatch {α : Type} (expected : String) (i : Instance) : Except AccessError α :=
  .error (.wrongKind "" expected i.kindName)

def string : Reading String
  | .string s => .ok s
  | i => mismatch "string" i

def integer : Reading Int
  | .integer n => .ok n
  | i => mismatch "integer" i

def float : Reading Binary64
  | .float x => .ok x
  | i => mismatch "float" i

def boolean : Reading Bool
  | .boolean b => .ok b
  | i => mismatch "boolean" i

def decimal : Reading Decimal
  | .decimal d => .ok d
  | i => mismatch "decimal" i

def bytes : Reading (List UInt8)
  | .bytes bs => .ok bs
  | i => mismatch "bytes" i

def date : Reading Date
  | .date d => .ok d
  | i => mismatch "date" i

def dateTime : Reading DateTime
  | .dateTime t => .ok t
  | i => mismatch "date-time" i

def uuid : Reading Uuid
  | .uuid u => .ok u
  | i => mismatch "uuid" i

def object : Reading ObjectInstance
  | .object o => .ok o
  | i => mismatch "object" i

def anything : Reading Instance := .ok

def json : Reading Json := fun i => .ok i.encode

/-- Reads items that stand at position `n` and after. -/
def items {α : Type} (read : Reading α) (n : Nat) : List Instance → Except AccessError (List α)
  | [] => .ok []
  | i :: rest => do
    let a ← (read i).mapError (·.inField ("[" ++ natText n ++ "]"))
    let as ← items read (n + 1) rest
    pure (a :: as)

def list {α : Type} (read : Reading α) : Reading (List α)
  | .list is => items read 0 is
  | i => mismatch "list" i

def dict {α : Type} (read : Reading α) : Reading (List (String × α))
  | .dict entries => entries.mapM fun (k, i) => do
    let a ← (read i).mapError (·.inField k)
    pure (k, a)
  | i => mismatch "dict" i

end Reading

namespace ObjectInstance

def required {α : Type} (o : ObjectInstance) (read : Reading α) (name : String) :
    Except AccessError α := do
  let i ← (o.get name).mapError .presence
  (read i).mapError (·.inField name)

def optional {α : Type} (o : ObjectInstance) (read : Reading α) (name : String) :
    Except AccessError (Presence α) :=
  ((o.field name).tryMap read).mapError (·.inField name)

/-- Reads a field and takes unset and null both as none. -/
def nullable {α : Type} (o : ObjectInstance) (read : Reading α) (name : String) :
    Except AccessError (Option α) :=
  (o.optional read name).map Presence.toOption

end ObjectInstance
end PayloadSchema
