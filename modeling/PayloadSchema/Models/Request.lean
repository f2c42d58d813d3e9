import PayloadSchema.Models.Column

/-! Requests to create nodes. -/
namespace PayloadSchema

inductive NodeMode where
  | published
  | draft
  deriving DecidableEq, Repr

namespace NodeMode

def text : NodeMode → String
  | published => "published"
  | draft => "draft"

def reading : Reading NodeMode
  | .string "published" => .ok published
  | .string "draft" => .ok draft
  | i => Reading.mismatch "node mode" i

end NodeMode

structure SourceColumn where
  name : String
  type : String
  dimension : Presence String
  attributes : Presence (List ColumnAttribute)
  deriving DecidableEq, Repr

def SourceColumn.model : Model SourceColumn where
  schemaName := Models.sourceColumn
  read o := do
    let name ← o.required Reading.string "name"
    let type ← o.required Reading.string "type"
    let dimension ← o.optional Reading.string "dimension"
    let attributes ← o.optional (Reading.list ColumnAttribute.model.reading) "attributes"
    pure ⟨name, type, dimension, attributes⟩

structure SourceNodeInput where
  name : String
  catalog : String
  schema : String
  table : String
  columns : List SourceColumn
  displayName : Presence String
  description : Presence String
  mode : Presence NodeMode
  primaryKey : Presence (List String)
  deriving DecidableEq, Repr

namespace SourceNodeInput

def model : Model SourceNodeInput where
  schemaName := Models.sourceNodeInput
  read o := do
    let name ← o.required Reading.string "name"
    let catalog ← o.required Reading.string "catalog"
    let schema ← o.required Reading.string "schema_"
    let table ← o.required Reading.string "table"
    let columns ← o.required (Reading.list SourceColumn.model.reading) "columns"
    let displayName ← o.optional Reading.string "display_name"
    let description ← o.optional Reading.string "description"
    let mode ← o.optional NodeMode.reading "mode"
    let primaryKey ← o.optional (Reading.list Reading.string) "primary_key"
    pure ⟨name, catalog, schema, table, columns, displayName, description, mode, primaryKey⟩

/-- What stands before the last dot of the name. -/
def scope (s : SourceNodeInput) : String :=
  String.ofList ((s.name.toList.reverse.dropWhile (· != '.')).drop 1).reverse

def unknownKeyColumns (s : SourceNodeInput) : List String :=
  (s.primaryKey.toOption.getD []).filter fun k => !s.columns.any (·.name == k)

end SourceNodeInput

structure MetricInput where
  name : String
  query : String
  displayName : Presence String
  description : Presence String
  mode : Presence NodeMode
  requiredDimensions : Presence (List String)
  deriving DecidableEq, Repr

namespace MetricInput

def model : Model MetricInput where
  schemaName := Models.metricInput
  read o := do
    let name ← o.required Reading.string "name"
    let query ← o.required Reading.string "query"
    let displayName ← o.optional Reading.string "display_name"
    let description ← o.optional Reading.string "description"
    let mode ← o.optional NodeMode.reading "mode"
    let requiredDimensions ← o.optional (Reading.list Reading.string) "required_dimensions"
    pure ⟨name, query, displayName, description, mode, requiredDimensions⟩

/-- A metric is published unless the request says otherwise. -/
def effectiveMode (m : MetricInput) : NodeMode := m.mode.toOption.getD .published

end MetricInput

structure CubeInput where
  name : String
  metrics : List String
  dimensions : List String
  description : Presence String
  mode : Presence NodeMode
  filters : Presence (List String)
  orderBy : Presence (List String)
  limit : Presence Int
  deriving DecidableEq, Repr

def CubeInput.model : Model CubeInput where
  schemaName := Models.cubeInput
  read o := do
    let name ← o.required Reading.string "name"
    let metrics ← o.required (Reading.list Reading.string) "metrics"
    let dimensions ← o.required (Reading.list Reading.string) "dimensions"
    let description ← o.optional Reading.string "description"
    let mode ← o.optional NodeMode.reading "mode"
    let filters ← o.optional (Reading.list Reading.string) "filters"
    let orderBy ← o.optional (Reading.list Reading.string) "orderby"
    let limit ← o.optional Reading.integer "limit"
    pure ⟨name, metrics, dimensions, description, mode, filters, orderBy, limit⟩

end PayloadSchema
