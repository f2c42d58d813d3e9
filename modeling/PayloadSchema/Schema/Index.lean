import PayloadSchema.Schema.Basic

/-!
Composites that are declared call by call. A finished composite comes with an index, made in one
pass over its fields: the place of each name, and the names that are required.
-/
namespace PayloadSchema

structure Draft where
  name : String
  description : Option String
  fields : List Field
  additional : Policy

namespace Draft

inductive Call where
  | describe (text : String)
  | field (f : Field)
  | required (name : String) (schema : Schema)
  | requiredNullable (name : String) (schema : Schema)
  | optional (name : String) (schema : Schema)
  | additional (policy : Policy)
  | forbidAdditional

def Call.field? : Call → Option Field
  | field f => some f
  | required name schema => some ⟨name, schema, true, false, none⟩
  | requiredNullable name schema => some ⟨name, schema, true, true, none⟩
  | optional name schema => some ⟨name, schema, false, false, none⟩
  | _ => none

def start (name : String) : Draft := ⟨name, none, [], .any⟩

def after (d : Draft) (call : Call) : Draft :=
  match call with
  | .describe text => { d with description := some text }
  | .additional policy => { d with additional := policy }
  | .forbidAdditional => { d with additional := .forbidden }
  | _ => { d with fields := d.fields ++ call.field?.toList }

def ofCalls (name : String) (calls : List Call) : Draft := calls.foldl after (start name)

end Draft

structure Index where
  places : List (String × Nat)
  /-- In order, each name once. -/
  required : List String

namespace Index

def empty : Index := ⟨[], []⟩

/-- Puts a name in its place among names that are in order, unless it is one of them. -/
def insertName (name : String) : List String → List String
  | [] => [name]
  | other :: rest =>
    if name = other then other :: rest
    else if name ≤ other then name :: other :: rest
    else other :: insertName name rest

def add (index : Index) (place : Nat) (f : Field) : Except String Index :=
  if f.name.isEmpty then .error ("field #" ++ natText place ++ " has an empty name")
  else if (index.places.lookup f.name).isSome then
    .error ("field '" ++ f.name ++ "' is declared twice")
  else
    .ok ⟨(f.name, place) :: index.places,
      if f.required then insertName f.name index.required else index.required⟩

/-- Enters fields that stand at a place and after, up to the first that is refused. -/
def addAll (index : Index) (place : Nat) : List Field → Except String Index
  | [] => .ok index
  | f :: rest => do
    let index ← index.add place f
    index.addAll (place + 1) rest

end Index

structure IndexedComposite where
  composite : Composite
  index : Index

/-- Finishes a draft: the name is checked first and then the fields in order. -/
def Draft.build (d : Draft) : Except SchemaError IndexedComposite := do
  let name ← SchemaName.make d.name
  match Index.empty.addAll 0 d.fields with
  | .error reason => .error (.invalidDeclaration name.text reason)
  | .ok index => .ok ⟨⟨name, d.description, d.fields, d.additional⟩, index⟩

structure OutOfRange where
  place : Nat
  deriving DecidableEq, Repr

def elementAt {α : Type} (xs : List α) (place : Nat) : Except OutOfRange α :=
  match xs[place]? with
  | some x => .ok x
  | none => .error ⟨place⟩

namespace IndexedComposite

def position? (c : IndexedComposite) (name : String) : Option Nat := c.index.places.lookup name

def field? (c : IndexedComposite) (name : String) : Except OutOfRange (Option Field) :=
  match c.position? name with
  | some place => (elementAt c.composite.fields place).map some
  | none => .ok none

end IndexedComposite
end PayloadSchema
