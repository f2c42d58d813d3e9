import PayloadSchema.Access
import PayloadSchema.Models.Schemas
import PayloadSchema.Validation.Validator

/-!
Typed payloads. A model names a registered composite and says how its instances are read; all rules
are those of the composite.
-/
namespace PayloadSchema

structure Model (α : Type) where
  schemaName : SchemaName
  read : ObjectInstance → Except AccessError α

inductive ModelError where
  | schema (e : SchemaError)
  | validation (e : ValidationError)
  | access (e : AccessError)
  deriving DecidableEq, Repr

def ModelError.message : ModelError → String
  | schema e => e.message
  | validation e => "invalid payload: " ++ e.message
  | access e => "cannot read instance: " ++ e.message

namespace Model

def reading {α : Type} (m : Model α) : Reading α
  | .object o => m.read o
  | i => Reading.mismatch "object" i

def parseWith {α : Type} (m : Model α) (v : Validator) (raw : Json) : Except ModelError α := do
  let o ← (v.validateObject m.schemaName.text raw).mapError .validation
  (m.read o).mapError .access

def parse {α : Type} (m : Model α) (raw : Json) : Except ModelError α :=
  m.parseWith (.new Models.registry) raw

end Model
end PayloadSchema
