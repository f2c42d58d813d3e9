import PayloadSchema.Json.Reader
import PayloadSchema.Number.Shortest

/-!
Declarations: documents that describe schemas, a subset of JSON Schema. A declaration is an object
with known keys, the others being ignored, or an array of the values of those keys in a fixed
order. A value of the wrong type anywhere spoils the whole document.
-/
namespace PayloadSchema

inductive TypeNames where
  | one (name : String)
  | several (names : List String)
  deriving DecidableEq, Repr

namespace Declaration

structure Facets where
  name : Option String
  description : Option String
  type : Option TypeNames
  format : Option String
  nullable : Bool
  reference : Option String
  required : List String
  allowed : Option (List Json)
  minLength : Option Nat
  maxLength : Option Nat
  pattern : Option String
  minimum : Option Numeral
  maximum : Option Numeral
  exclusiveMinimum : Option Numeral
  exclusiveMaximum : Option Numeral
  minItems : Option Nat
  maxItems : Option Nat

def Facets.none : Facets where
  name := .none
  description := .none
  type := .none
  format := .none
  nullable := false
  reference := .none
  required := []
  allowed := .none
  minLength := .none
  maxLength := .none
  pattern := .none
  minimum := .none
  maximum := .none
  exclusiveMinimum := .none
  exclusiveMaximum := .none
  minItems := .none
  maxItems := .none

end Declaration

mutual

structure Declaration where
  facets : Declaration.Facets
  anyOf : Option (List Declaration)
  items : Option Declaration
  properties : Option (List (String × Declaration))
  additional : Option AdditionalProperties

inductive AdditionalProperties where
  | flag (b : Bool)
  | declared (d : Declaration)

end

namespace Declaration

def empty : Declaration := ⟨.none, none, none, none, none⟩

instance : Inhabited Declaration := ⟨empty⟩

inductive Key where
  | name
  | description
  | type
  | format
  | nullable
  | reference
  | anyOf
  | items
  | properties
  | required
  | additionalProperties
  | allowed
  | minLength
  | maxLength
  | pattern
  | minimum
  | maximum
  | exclusiveMinimum
  | exclusiveMaximum
  | minItems
  | maxItems
  deriving DecidableEq, Repr

namespace Key

/-- The keys in the order in which an array lists their values. -/
def inOrder : List Key :=
  [name, description, type, format, nullable, reference, anyOf, items, properties, required,
    additionalProperties, allowed, minLength, maxLength, pattern, minimum, maximum,
    exclusiveMinimum, exclusiveMaximum, minItems, maxItems]

def ofText? : String → Option Key
  | "name" => some name
  | "description" => some description
  | "type" => some type
  | "format" => some format
  | "nullable" => some nullable
  | "$ref" => some reference
  | "anyOf" => some anyOf
  | "oneOf" => some anyOf
  | "items" => some items
  | "properties" => some properties
  | "required" => some required
  | "additionalProperties" => some additionalProperties
  | "enum" => some allowed
  | "minLength" => some minLength
  | "maxLength" => some maxLength
  | "pattern" => some pattern
  | "minimum" => some minimum
  | "maximum" => some maximum
  | "exclusiveMinimum" => some exclusiveMinimum
  | "exclusiveMaximum" => some exclusiveMaximum
  | "minItems" => some minItems
  | "maxItems" => some maxItems
  | _ => none

end Key

/-- A literal that is the shortest or the plain text of its binary64 value, other than a machine
integer. -/
def isFloatText (n : Numeral) : Bool :=
  !Json.isMachineInteger n && match n.toBinary64? with
    | some x => n == x.toNumeral || n == x.toPlainNumeral
    | none => false

/-- A literal as declarations keep it: zero has no sign and float texts are brought to one form.
Integers beyond 64 but within 128 bits are refused. -/
def keepNumber? (n : Numeral) : Option Numeral :=
  if Json.isMachineInteger n then n.toInt?.map Numeral.ofInt
  else
    match n.toInt?.filter fun i => decide (-(pow2 127 : Int) ≤ i) && decide (i < pow2 128) with
    | some _ => none
    | none => if isFloatText n then n.toBinary64?.map Binary64.toNumeral else some n

mutual

def keep? : Json → Option Json
  | .number n => (keepNumber? n).map .number
  | .array items => (keepItems? items).map .array
  | .object members => (keepMembers? members).map .object
  | v => some v

def keepItems? : List Json → Option (List Json)
  | [] => some []
  | v :: rest => do
    let v ← keep? v
    let rest ← keepItems? rest
    pure (v :: rest)

def keepMembers? : Members → Option Members
  | [] => some []
  | (k, v) :: rest => do
    let v ← keep? v
    let rest ← keepMembers? rest
    pure ((k, v) :: rest)

end

def text? : Json → Option String
  | .string s => some s
  | _ => none

def orNull? {α : Type} (read : Json → Option α) : Json → Option (Option α)
  | .null => some none
  | v => (read v).map some

def texts? : Json → Option (List String)
  | .array items => items.mapM text?
  | _ => none

def typeNames? (v : Json) : Option TypeNames :=
  match v with
  | .string s => some (.one s)
  | _ => (texts? v).map .several

mutual

/-- A value as it is listed: objects that are marked as numbers become numbers. -/
def value? : Json → Option Json
  | .array items => (items? items).map .array
  | .object [] => some (.object [])
  | .object ((k, v) :: rest) =>
    if k = Json.numberKey then
      if rest.isEmpty then (Json.reserved? v).map .number else none
    else (members? ((k, v) :: rest)).map .object
  | v => some v

def items? : List Json → Option (List Json)
  | [] => some []
  | v :: rest => do
    let v ← value? v
    let rest ← items? rest
    pure (v :: rest)

def members? : Members → Option Members
  | [] => some []
  | (k, v) :: rest => do
    let v ← value? v
    let rest ← members? rest
    pure ((k, v) :: rest)

end

def values? : Json → Option (List Json)
  | .array items => items? items
  | _ => none

def flag? : Json → Option Bool
  | .bool b => some b
  | _ => none

def literal? (v : Json) : Option Numeral :=
  match value? v with
  | some (.number n) => some n
  | _ => none

def length? : Json → Option Nat
  | .number n =>
    match n.toInt? with
    | some i => if 0 ≤ i ∧ i < pow2 64 then some i.toNat else none
    | none => none
  | _ => none

structure View where
  raw : Json
  /-- The value as a declaration. -/
  declaration : Option Declaration
  /-- The value as a list of declarations. -/
  list : Option (List Declaration)
  /-- The value as declarations by name. -/
  table : Option (List (String × Declaration))

def additional? (v : View) : Option AdditionalProperties :=
  match v.raw with
  | .bool b => some (.flag b)
  | _ => v.declaration.map .declared

/-- Sets one key of a declaration. -/
def set? (d : Declaration) (key : Key) (v : View) : Option Declaration :=
  match key with
  | .name => (orNull? text? v.raw).map fun x => { d with facets.name := x }
  | .description => (orNull? text? v.raw).map fun x => { d with facets.description := x }
  | .type => (orNull? typeNames? v.raw).map fun x => { d with facets.type := x }
  | .format => (orNull? text? v.raw).map fun x => { d with facets.format := x }
  | .nullable => (flag? v.raw).map fun x => { d with facets.nullable := x }
  | .reference => (orNull? text? v.raw).map fun x => { d with facets.reference := x }
  | .anyOf =>
    if v.raw.isNull then some { d with anyOf := none }
    else v.list.map fun x => { d with anyOf := some x }
  | .items =>
    if v.raw.isNull then some { d with items := none }
    else v.declaration.map fun x => { d with items := some x }
  | .properties => v.table.map fun x => { d with properties := some x }
  | .required => (texts? v.raw).map fun x => { d with facets.required := x }
  | .additionalProperties =>
    if v.raw.isNull then some { d with additional := none }
    else (additional? v).map fun x => { d with additional := some x }
  | .allowed => (orNull? values? v.raw).map fun x => { d with facets.allowed := x }
  | .minLength => (orNull? length? v.raw).map fun x => { d with facets.minLength := x }
  | .maxLength => (orNull? length? v.raw).map fun x => { d with facets.maxLength := x }
  | .pattern => (orNull? text? v.raw).map fun x => { d with facets.pattern := x }
  | .minimum => (orNull? literal? v.raw).map fun x => { d with facets.minimum := x }
  | .maximum => (orNull? literal? v.raw).map fun x => { d with facets.maximum := x }
  | .exclusiveMinimum =>
    (orNull? literal? v.raw).map fun x => { d with facets.exclusiveMinimum := x }
  | .exclusiveMaximum =>
    (orNull? literal? v.raw).map fun x => { d with facets.exclusiveMaximum := x }
  | .minItems => (orNull? length? v.raw).map fun x => { d with facets.minItems := x }
  | .maxItems => (orNull? length? v.raw).map fun x => { d with facets.maxItems := x }

/-- Reads the values of keys, in any order but each key at most once. -/
def ofKeys? (pairs : List (Key × View)) : Option Declaration :=
  if (pairs.map (·.1)).eraseDups.length < pairs.length then none
  else pairs.foldlM (fun d (key, v) => d.set? key v) empty

/-- Reads an array of values of keys; those at the end may be left out. -/
def ofPositions? (vs : List View) : Option Declaration :=
  if Key.inOrder.length < vs.length then none else ofKeys? (Key.inOrder.zip vs)

def ofMembers? (vs : List (String × View)) : Option Declaration :=
  ofKeys? (vs.filterMap fun (k, v) => (Key.ofText? k).map fun key => (key, v))

mutual

/-- A number that is neither a machine integer nor a float text counts as a declaration without
keys. -/
def view : Json → View
  | .array items =>
    let vs := viewItems items
    ⟨.array items, ofPositions? vs, vs.mapM (·.declaration), none⟩
  | .object members =>
    let vs := viewMembers members
    ⟨.object members, ofMembers? vs, none,
      vs.mapM fun (k, v) => v.declaration.map fun d => (k, d)⟩
  | .number n =>
    ⟨.number n, if Json.isMachineInteger n || isFloatText n then none else some empty, none, none⟩
  | v => ⟨v, none, none, none⟩

def viewItems : List Json → List View
  | [] => []
  | v :: rest => view v :: viewItems rest

def viewMembers : Members → List (String × View)
  | [] => []
  | (k, v) :: rest => (k, view v) :: viewMembers rest

end

/-- The declarations of a document: a list of them, or else a single one. -/
def ofDocument? (document : Json) : Option (List Declaration) := do
  let v := view (← keep? document)
  match v.list with
  | some ds => some ds
  | none => v.declaration.map ([·])

end Declaration
end PayloadSchema
