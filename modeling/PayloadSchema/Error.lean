import PayloadSchema.Path
import PayloadSchema.Pattern.Fault
import PayloadSchema.Text.Quoted

/-! What can be wrong with a payload, with a schema, and with a document that holds either. -/
namespace PayloadSchema

inductive Cause where
  | notAnObject (actual : String)
  | missingField (field : String)
  | unexpectedField (field : String)
  | typeMismatch (expected actual : String)
  | noAlternative (candidates : List String) (actual : String)
  | constraint (name detail : String)
  | unresolvedReference (name : String)
  | depthExceeded (limit : Nat)
  deriving DecidableEq, Repr

def Cause.message : Cause → String
  | notAnObject actual => "expected an object, got " ++ actual
  | missingField field => "missing required field '" ++ field ++ "'"
  | unexpectedField field => "unexpected field '" ++ field ++ "'"
  | typeMismatch expected actual => "expected " ++ expected ++ ", got " ++ actual
  | noAlternative candidates actual =>
    "no alternative accepts " ++ actual ++ "; candidates: " ++ " | ".intercalate candidates
  | constraint name detail => name ++ " constraint violated: " ++ detail
  | unresolvedReference name => "schema '" ++ name ++ "' is not registered"
  | depthExceeded limit => "nesting exceeds the limit of " ++ natText limit

structure ValidationError where
  path : Path
  cause : Cause
  deriving DecidableEq, Repr

namespace ValidationError

def here (cause : Cause) : ValidationError := ⟨[], cause⟩

/-- The same failure seen from the enclosing value. -/
def within (segment : Segment) (e : ValidationError) : ValidationError :=
  ⟨segment :: e.path, e.cause⟩

def message (e : ValidationError) : String := e.path.text ++ ": " ++ e.cause.message

end ValidationError

inductive SchemaError where
  | duplicate (name : String)
  | invalidName (name reason : String)
  | invalidDeclaration (schema reason : String)
  /-- A pattern that cannot be used. -/
  | invalidPattern (source : String) (fault : Pattern.Fault)
  | unknown (name : String)
  /-- A document that cannot be used. -/
  | load (source reason : String)
  deriving DecidableEq, Repr

def SchemaError.message : SchemaError → String
  | duplicate name => "schema '" ++ name ++ "' is already registered"
  | invalidName name reason => "invalid schema name " ++ Text.quoted name ++ ": " ++ reason
  | invalidDeclaration schema reason => "invalid declaration for '" ++ schema ++ "': " ++ reason
  | invalidPattern source fault =>
    "invalid declaration for 'pattern " ++ Text.quoted source ++ "'" ++ fault.detail
  | unknown name => "schema '" ++ name ++ "' is not registered"
  | load source reason => "cannot load '" ++ source ++ "': " ++ reason

inductive DocumentError where
  | validation (e : ValidationError)
  | schema (e : SchemaError)
  deriving DecidableEq, Repr

def DocumentError.message : DocumentError → String
  | validation e => "validation error: " ++ e.message
  | schema e => "schema error: " ++ e.message

end PayloadSchema
