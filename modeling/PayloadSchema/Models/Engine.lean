import PayloadSchema.Models.Model

/-! Query engines and the catalogs that list them. -/
namespace PayloadSchema

inductive Dialect where
  | spark
  | trino
  | druid
  | postgres
  deriving DecidableEq, Repr

namespace Dialect

def text : Dialect → String
  | spark => "spark"
  | trino => "trino"
  | druid => "druid"
  | postgres => "postgres"

def reading : Reading Dialect
  | .string "spark" => .ok spark
  | .string "trino" => .ok trino
  | .string "druid" => .ok druid
  | .string "postgres" => .ok postgres
  | i => Reading.mismatch "dialect" i

end Dialect

/-- The version is always a text; a number is written in decimal. -/
structure Engine where
  name : String
  version : String
  uri : Presence String
  dialect : Presence Dialect
  deriving DecidableEq, Repr

namespace Engine

def readVersion (o : ObjectInstance) : Except AccessError String := do
  match ← (o.get "version").mapError .presence with
  | .integer i => pure (intText i)
  | _ => o.required Reading.string "version"

def model : Model Engine where
  schemaName := Models.engine
  read o := do
    let version ← readVersion o
    let name ← o.required Reading.string "name"
    let uri ← o.optional Reading.string "uri"
    let dialect ← o.optional Dialect.reading "dialect"
    pure ⟨name, version, uri, dialect⟩

end Engine

structure Catalog where
  name : String
  engines : Presence (List Engine)
  deriving DecidableEq, Repr

namespace Catalog

def model : Model Catalog where
  schemaName := Models.catalog
  read o := do
    let name ← o.required Reading.string "name"
    let engines ← o.optional (Reading.list Engine.model.reading) "engines"
    pure ⟨name, engines⟩

def engineList (c : Catalog) : List Engine := c.engines.toOption.getD []

end Catalog
end PayloadSchema
