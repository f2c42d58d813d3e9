import PayloadSchema.Schema.Name
import PayloadSchema.Pattern
import PayloadSchema.Number.Decimal

/-!
Schemas: what a payload has to look like. A reference is a name that is looked up when a payload
reaches it, so schemas may refer to later ones and to themselves.
-/
namespace PayloadSchema

inductive Kind where
  | string
  | integer
  | float
  | decimal
  | boolean
  | bytes
  | date
  | dateTime
  | uuid
  | any
  | null
  deriving DecidableEq, Repr

namespace Kind

def name : Kind → String
  | string => "string"
  | integer => "integer"
  | float => "float"
  | decimal => "decimal"
  | boolean => "boolean"
  | bytes => "bytes"
  | date => "date"
  | dateTime => "date-time"
  | uuid => "uuid"
  | any => "any"
  | null => "null"

def isNumeric : Kind → Bool
  | integer | float | decimal => true
  | _ => false

end Kind

/-- Conditions on a leaf. Lengths and patterns concern text and bytes, bounds concern numbers, and
`allowed` lists the written forms that any kind may have. -/
structure Constraints where
  minLength : Option Nat
  maxLength : Option Nat
  pattern : Option Pattern
  allowed : Option (List Json)
  minimum : Option Decimal
  maximum : Option Decimal
  exclusiveMinimum : Option Decimal
  exclusiveMaximum : Option Decimal

def Constraints.none : Constraints :=
  ⟨.none, .none, .none, .none, .none, .none, .none, .none⟩

instance : Inhabited Constraints := ⟨Constraints.none⟩

mutual

inductive Schema where
  | primitive (kind : Kind) (constraints : Constraints)
  | list (items : Schema) (minItems maxItems : Option Nat)
  | dict (values : Schema)
  | object (composite : Composite)
  | ref (name : SchemaName)
  | union (candidates : List Schema)

structure Composite where
  name : SchemaName
  description : Option String
  fields : List Field
  additional : Policy

structure Field where
  name : String
  schema : Schema
  required : Bool
  nullable : Bool
  description : Option String

inductive Policy where
  | any
  | forbidden
  | typed (schema : Schema)

end

namespace Schema

def leaf (kind : Kind) : Schema := primitive kind .none

instance : Inhabited Schema := ⟨leaf .any⟩

mutual

def typeName : Schema → String
  | primitive kind _ => kind.name
  | list items _ _ => "list<" ++ typeName items ++ ">"
  | dict values => "dict<" ++ typeName values ++ ">"
  | object composite => composite.name.text
  | ref name => name.text
  | union candidates => " | ".intercalate (typeNames candidates)

def typeNames : List Schema → List String
  | [] => []
  | s :: rest => typeName s :: typeNames rest

end

mutual

/-- The names that a schema refers to, in the order they are written and with repeats. References
are not followed. -/
def references : Schema → List SchemaName
  | primitive _ _ => []
  | list items _ _ => references items
  | dict values => references values
  | object composite => compositeReferences composite
  | ref name => [name]
  | union candidates => listReferences candidates

def listReferences : List Schema → List SchemaName
  | [] => []
  | s :: rest => references s ++ listReferences rest

def compositeReferences : Composite → List SchemaName
  | ⟨_, _, fields, additional⟩ => fieldReferences fields ++ policyReferences additional

def fieldReferences : List Field → List SchemaName
  | [] => []
  | ⟨_, schema, _, _, _⟩ :: rest => references schema ++ fieldReferences rest

def policyReferences : Policy → List SchemaName
  | .typed schema => references schema
  | _ => []

end

end Schema

def Field.acceptsNull (f : Field) : Bool := !f.required || f.nullable

def Field.requiredNames (fields : List Field) : List String :=
  (fields.filter (·.required)).map (·.name)

namespace Composite

def field? (c : Composite) (name : String) : Option Field := c.fields.find? (·.name == name)

def position? (c : Composite) (name : String) : Option Nat := c.fields.findIdx? (·.name == name)

/-- Looks up a field among entries that start with the declared fields: a declared field by its
place, another one by its name. -/
def lookup? {α : Type} (c : Composite) (entries : List (String × α)) (name : String) : Option α :=
  match c.position? name with
  | some i => entries[i]?.map (·.2)
  | none => (entries.drop c.fields.length).lookup name

def requiredNames (c : Composite) : List String := Field.requiredNames c.fields

/-- The first field that has an empty or a repeated name; `seen` holds the names before. -/
def fieldFault? (seen : List String) : List Field → Option String
  | [] => none
  | f :: rest =>
    if f.name.isEmpty then some ("field #" ++ natText seen.length ++ " has an empty name")
    else if seen.contains f.name then some ("field '" ++ f.name ++ "' is declared twice")
    else fieldFault? (seen ++ [f.name]) rest

def build (name : String) (description : Option String) (fields : List Field)
    (additional : Policy) : Except SchemaError Composite := do
  let name ← SchemaName.make name
  match fieldFault? [] fields with
  | some reason => .error (.invalidDeclaration name.text reason)
  | none => .ok ⟨name, description, fields, additional⟩

end Composite
end PayloadSchema
