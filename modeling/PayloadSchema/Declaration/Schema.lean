import PayloadSchema.Declaration.Basic
import PayloadSchema.Number.Decimal.Reader
import PayloadSchema.Registry

/-!
Schemas from declarations. A composite that is declared inside another one is named after the field
it stands in.
-/
namespace PayloadSchema.Declaration

def fileSuffixes : List String := [".schema.json", ".schema.yaml", ".schema.yml"]

/-- The name that a reference means: what follows its last slash, without a file ending. -/
def referenceName (target : String) : Except SchemaError SchemaName :=
  let cs := (target.toList.reverse.takeWhile (· != '/')).reverse
  let bare := (fileSuffixes.find? fun suffix => suffix.toList.isSuffixOf cs).elim cs
    fun suffix => cs.take (cs.length - suffix.length)
  SchemaName.make (String.ofList bare)

def kind? (type : String) (format : Option String) : Option Kind :=
  match type with
  | "string" =>
    match format with
    | some "date" => some .date
    | some "date-time" => some .dateTime
    | some "uuid" => some .uuid
    | some "decimal" => some .decimal
    | some "byte" => some .bytes
    | some "binary" => some .bytes
    | _ => some .string
  | "number" => if format = some "decimal" then some .decimal else some .float
  | "date" => some .date
  | "date-time" => some .dateTime
  | "datetime" => some .dateTime
  | "uuid" => some .uuid
  | "decimal" => some .decimal
  | "bytes" => some .bytes
  | "integer" => some .integer
  | "float" => some .float
  | "boolean" => some .boolean
  | "null" => some .null
  | "any" => some .any
  | _ => none

namespace Facets

def typeNames (f : Facets) : List String :=
  match f.type with
  | .none => []
  | some (.one t) => [t]
  | some (.several ts) => ts

def isNullable (f : Facets) : Bool :=
  f.nullable || match f.type with
    | some (.several ts) => ts.contains "null"
    | _ => false

def bound (f : Option Numeral) (owner : SchemaName) : Except SchemaError (Option Decimal) :=
  match f with
  | .none => .ok .none
  | some n =>
    match Decimal.read? n.chars with
    | some d => .ok (some d)
    | .none => .error (.invalidDeclaration owner.text ("bound " ++ n.text ++ " is not a decimal"))

def patternOf (source : Option String) : Except SchemaError (Option Pattern) :=
  match source with
  | .none => .ok .none
  | some source =>
    match Pattern.compile source with
    | .ok p => .ok (some p)
    | .error fault => .error (.invalidPattern source fault)

def constraints (f : Facets) (owner : SchemaName) : Except SchemaError Constraints := do
  let pattern ← patternOf f.pattern
  let minimum ← bound f.minimum owner
  let maximum ← bound f.maximum owner
  let exclusiveMinimum ← bound f.exclusiveMinimum owner
  let exclusiveMaximum ← bound f.exclusiveMaximum owner
  pure ⟨f.minLength, f.maxLength, pattern, f.allowed, minimum, maximum, exclusiveMinimum,
    exclusiveMaximum⟩

end Facets

/-- A composite has fields, or requires some while it neither refers nor lists alternatives, or is
of the mere type `object` and forbids further fields. -/
def isComposite (d : Declaration) : Bool :=
  d.properties.isSome
    || (!d.facets.required.isEmpty && d.facets.reference.isNone && d.anyOf.isNone)
    || (d.facets.typeNames == ["object"] && match d.additional with
      | some (.flag false) => true
      | _ => false)

/-- A composite from its fields and its policy. All required fields have to be declared; after that
a failure in a field comes before one in the policy. -/
def assembleComposite (d : Declaration) (name : SchemaName)
    (fields : Except SchemaError (List Field)) (additional : Except SchemaError Policy) :
    Except SchemaError Composite :=
  let declared := (d.properties.getD []).map (·.1)
  match d.facets.required.find? fun r => !declared.contains r with
  | some r =>
    .error (.invalidDeclaration name.text ("required field '" ++ r ++ "' is not declared"))
  | none => do
    let fields ← fields
    let additional ← additional
    Composite.build name.text d.facets.description fields additional

def Facets.single (f : Facets) (hint : SchemaName) (items values : Except SchemaError Schema)
    (type : String) : Except SchemaError Schema :=
  if type = "array" ∨ type = "list" then items.map fun s => .list s f.minItems f.maxItems
  else if type = "object" ∨ type = "dict" then values.map .dict
  else
    match kind? type f.format with
    | some kind => (f.constraints hint).map (.primitive kind)
    | .none => .error (.invalidDeclaration hint.text ("unknown type '" ++ type ++ "'"))

def Facets.assemble (f : Facets) (hint : SchemaName) (items values : Except SchemaError Schema) :
    Except SchemaError Schema :=
  match f.typeNames with
  | [] => .ok (.leaf .any)
  | types =>
    match types.filter (· != "null") with
    | [] => .ok (.leaf .null)
    | [type] => f.single hint items values type
    | several => (several.mapM (f.single hint items values)).map .union

/-- The name for what stands in a field; an unusual field leaves the name as it is. -/
def fieldHint (name : SchemaName) (field : String) : SchemaName :=
  match name.nested field with
  | .ok nested => nested
  | .error _ => name

mutual

/-- The schema of a declaration: a reference, or alternatives, or a composite, or else its types.
The hint names composites. -/
def toSchema (hint : SchemaName) : Declaration → Except SchemaError Schema
  | ⟨facets, anyOf, items, properties, additional⟩ =>
    match facets.reference with
    | some target => (referenceName target).map .ref
    | none =>
      match anyOf with
      | some ds => (toSchemas hint ds).map .union
      | none =>
        let d : Declaration := ⟨facets, none, items, properties, additional⟩
        if d.isComposite then
          (d.assembleComposite hint (tableFields hint facets.required properties)
            (policy hint additional)).map .object
        else facets.assemble hint (optionalSchema hint items) (dictValues hint additional)

def toSchemas (hint : SchemaName) : List Declaration → Except SchemaError (List Schema)
  | [] => .ok []
  | d :: rest => do
    let s ← toSchema hint d
    let rest ← toSchemas hint rest
    pure (s :: rest)

def optionalSchema (hint : SchemaName) : Option Declaration → Except SchemaError Schema
  | none => .ok (.leaf .any)
  | some d => toSchema hint d

def dictValues (hint : SchemaName) : Option AdditionalProperties → Except SchemaError Schema
  | some (.declared d) => toSchema hint d
  | _ => .ok (.leaf .any)

def policy (hint : SchemaName) : Option AdditionalProperties → Except SchemaError Policy
  | none => .ok .any
  | some (.flag true) => .ok .any
  | some (.flag false) => .ok .forbidden
  | some (.declared d) => (toSchema (fieldHint hint "additional") d).map .typed

def tableFields (hint : SchemaName) (required : List String) :
    Option (List (String × Declaration)) → Except SchemaError (List Field)
  | none => .ok []
  | some table => toFields hint required table

def toFields (hint : SchemaName) (required : List String) :
    List (String × Declaration) → Except SchemaError (List Field)
  | [] => .ok []
  | (name, d) :: rest => do
    let s ← toSchema (fieldHint hint name) d
    let rest ← toFields hint required rest
    pure (⟨name, s, required.contains name, d.facets.isNullable, d.facets.description⟩ :: rest)

end

/-- A declaration at the top of a document has a name. A composite is one even if it also refers to
another schema or lists alternatives. -/
def toEntry (d : Declaration) : Except SchemaError (SchemaName × Schema) := do
  match d.facets.name with
  | none => .error (.invalidDeclaration "(unnamed)" "top-level declarations need a 'name'")
  | some text =>
    let name ← SchemaName.make text
    if d.isComposite then
      let c ← d.assembleComposite name (tableFields name d.facets.required d.properties)
        (policy name d.additional)
      pure (name, .object c)
    else
      let s ← d.toSchema name
      pure (name, s)

def parse (document : Json) (source : String) : Except SchemaError (List (SchemaName × Schema)) :=
  match ofDocument? document with
  | some ds => ds.mapM toEntry
  | none => .error (.load source "not a schema declaration")

end Declaration

/-- Registers what a document declares. If that cannot be read nothing is registered; a name that
is taken stops the registration, and the entries before it stay. -/
def Registry.load (r : Registry) (document : Json) (source : String) :
    Registry × Except SchemaError Nat :=
  match Declaration.parse document source with
  | .error e => (r, .error e)
  | .ok entries =>
    match r.registerAll entries with
    | (r, none) => (r, .ok entries.length)
    | (r, some e) => (r, .error e)

end PayloadSchema
