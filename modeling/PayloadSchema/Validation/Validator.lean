import PayloadSchema.Registry
import PayloadSchema.Validation.Constraint

/-!
Validation of payloads. A schema is applied with the number of container levels that are still
allowed, its room. References cost no room; a union commits to its first alternative that fits the
shape of the raw value and does not turn back.
-/
namespace PayloadSchema

structure Validator where
  registry : Registry
  maxDepth : Nat

namespace Validator

def defaultDepth : Nat := 128

def new (registry : Registry) : Validator := ⟨registry, defaultDepth⟩

def tooDeep (v : Validator) : ValidationError := .here (.depthExceeded v.maxDepth)

/-- Whether a raw value looks like what a schema describes. Each reference and each union on the
way takes one level of room, so that a cycle of them comes to an end. -/
def acceptsShape (v : Validator) (raw : Json) : Nat → Schema → Except ValidationError Bool
  | 0, _ => .error v.tooDeep
  | _ + 1, .primitive kind _ => .ok (kind.accepts raw)
  | _ + 1, .list _ _ _ =>
    match raw with
    | .array _ => .ok true
    | _ => .ok false
  | _ + 1, .dict _ =>
    match raw with
    | .object _ => .ok true
    | _ => .ok false
  | _ + 1, .object _ =>
    match raw with
    | .object _ => .ok true
    | _ => .ok false
  | room + 1, .ref name => do
    let target ← v.registry.resolve (.ref name)
    v.acceptsShape raw room target
  | room + 1, .union candidates => candidates.anyM (v.acceptsShape raw room)

def choose (v : Validator) (raw : Json) (room : Nat) (candidates : List Schema) :
    Except ValidationError Schema := do
  match ← candidates.findM? (v.acceptsShape raw room) with
  | some s => pure s
  | none => .error (.here (.noAlternative (Schema.typeNames candidates) raw.shape))

/-- Follows references and unions to a schema that is neither. Every step after the first two is
one that the shape check has taken too, so `room + 2` steps are enough. -/
def settle (v : Validator) (raw : Json) (room : Nat) :
    Nat → Schema → Except ValidationError Schema
  | 0, _ => .error v.tooDeep
  | n + 1, .ref name => do
    let target ← v.registry.resolve (.ref name)
    v.settle raw room n target
  | n + 1, .union candidates => do
    let chosen ← v.choose raw room candidates
    v.settle raw room n chosen
  | _ + 1, s => .ok s

/-- How the parts of a container are validated; none if it stands at the limit. -/
abbrev Inner := Option (Schema → Json → Except ValidationError Instance)

def enter (v : Validator) (inner : Inner) :
    Except ValidationError (Schema → Json → Except ValidationError Instance) :=
  match inner with
  | some f => .ok f
  | none => .error v.tooDeep

def inside {α : Type} (segment : Segment) (r : Except ValidationError α) :
    Except ValidationError α :=
  r.mapError (·.within segment)

def checkSize (n : Nat) (minItems maxItems : Option Nat) : Except ValidationError Unit := do
  if let some least := minItems then
    if n < least then
      Constraints.violated "min_items"
        (natText n ++ " items, at least " ++ natText least ++ " required")
  if let some most := maxItems then
    if most < n then
      Constraints.violated "max_items"
        (natText n ++ " items, at most " ++ natText most ++ " allowed")

def applyItems (f : Json → Except ValidationError Instance) (i : Nat) :
    List Json → Except ValidationError (List Instance)
  | [] => .ok []
  | raw :: rest => do
    let item ← inside (.index i) (f raw)
    let items ← applyItems f (i + 1) rest
    pure (item :: items)

def applyDict (f : Json → Except ValidationError Instance) (members : Members) :
    Except ValidationError (List (String × Instance)) := do
  let entries ← members.mapM fun (k, raw) => do
    let i ← inside (.key k) (f raw)
    pure (k, i)
  pure (entries.mergeSort fun a b => decide (a.1 ≤ b.1))

/-- A declared field. Null is never passed on to the schema of the field. -/
def applyDeclared (f : Schema → Json → Except ValidationError Instance) (field : Field)
    (raw : Json) : Except ValidationError (Presence Instance) :=
  if !raw.isNull then inside (.field field.name) ((f field.schema raw).map .value)
  else if field.acceptsNull then .ok .null
  else inside (.field field.name) (.error (.here (.typeMismatch field.schema.typeName "null")))

def applyAdditional (f : Schema → Json → Except ValidationError Instance) (policy : Policy)
    (name : String) (raw : Json) : Except ValidationError (Presence Instance) :=
  match policy with
  | .forbidden => .error (.here (.unexpectedField name))
  | .typed s => do
    let i ← inside (.field name) (f s raw)
    pure (if raw.isNull then .null else .value i)
  | .any => .ok (if raw.isNull then .null else .value (.any raw))

def applyMember (f : Schema → Json → Except ValidationError Instance) (c : Composite) :
    String × Json → Except ValidationError (String × Presence Instance)
  | (name, raw) => do
    let p ←
      match c.field? name with
      | some field => applyDeclared f field raw
      | none => applyAdditional f c.additional name raw
    pure (name, p)

/-- The declared fields in order, and then the others as they came. -/
def arrange (c : Composite) (read : List (String × Presence Instance)) :
    List (String × Presence Instance) :=
  c.fields.map (fun field => (field.name, (read.lookup field.name).getD .unset))
    ++ read.filter fun (name, _) => (c.field? name).isNone

/-- An object: required fields first, in order of declaration, and then all fields as they came. -/
def applyComposite (v : Validator) (inner : Inner) (c : Composite) :
    Json → Except ValidationError ObjectInstance
  | .object members => do
    let f ← v.enter inner
    match c.requiredNames.find? fun name => (members.lookup name).isNone with
    | some name => .error (.here (.missingField name))
    | none =>
      let read ← members.mapM (applyMember f c)
      pure ⟨c, arrange c read⟩
  | raw => .error (.here (.notAnObject raw.shape))

def applyHead (v : Validator) (inner : Inner) (s : Schema) (raw : Json) :
    Except ValidationError Instance :=
  match s with
  | .primitive kind constraints => kind.coerce constraints raw
  | .list items minItems maxItems =>
    match raw with
    | .array raws => do
      let f ← v.enter inner
      checkSize raws.length minItems maxItems
      let items ← applyItems (f items) 0 raws
      pure (.list items)
    | _ => .error (.here (.typeMismatch s.typeName raw.shape))
  | .dict values =>
    match raw with
    | .object members => do
      let f ← v.enter inner
      let entries ← applyDict (f values) members
      pure (.dict entries)
    | _ => .error (.here (.typeMismatch s.typeName raw.shape))
  | .object c => (v.applyComposite inner c raw).map .object
  | _ => .error v.tooDeep

def apply (v : Validator) : Nat → Schema → Json → Except ValidationError Instance
  | 0, s, raw => do
    let head ← v.settle raw 0 2 s
    v.applyHead none head raw
  | room + 1, s, raw => do
    let head ← v.settle raw (room + 1) (room + 3) s
    v.applyHead (some (v.apply room)) head raw

def atRoot (v : Validator) : Inner :=
  match v.maxDepth with
  | 0 => none
  | room + 1 => some (v.apply room)

def validate (v : Validator) (s : Schema) (raw : Json) : Except ValidationError Instance :=
  v.apply v.maxDepth s raw

def validateNamed (v : Validator) (name : String) (raw : Json) :
    Except ValidationError Instance :=
  match v.registry.get? name with
  | some s => v.validate s raw
  | none => .error (.here (.unresolvedReference name))

def validateComposite (v : Validator) (c : Composite) (raw : Json) :
    Except ValidationError ObjectInstance :=
  v.applyComposite v.atRoot c raw

def validateObject (v : Validator) (name : String) (raw : Json) :
    Except ValidationError ObjectInstance :=
  match v.registry.composite? name with
  | some c => v.validateComposite c raw
  | none => .error (.here (.unresolvedReference name))

/-- The object with one field set anew, validated in full. -/
def withField (v : Validator) (o : ObjectInstance) (name : String) (raw : Json) :
    Except ValidationError ObjectInstance :=
  v.validateComposite o.schema (.object (o.encode.insert name raw))

def withoutField (v : Validator) (o : ObjectInstance) (name : String) :
    Except ValidationError ObjectInstance :=
  v.validateComposite o.schema (.object (o.encode.remove name))

end Validator
end PayloadSchema
