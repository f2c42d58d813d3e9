import PayloadSchema.Models.Model

/-! Columns and their attributes. -/
namespace PayloadSchema

/-- The namespace of attribute types that are given by their bare names. -/
def defaultAttributeNamespace : String := "system"

structure AttributeType where
  scope : String
  name : String
  deriving DecidableEq, Repr

def AttributeType.model : Model AttributeType where
  schemaName := Models.attributeTypeName
  read o := do
    let scope ← o.required Reading.string "namespace"
    let name ← o.required Reading.string "name"
    pure ⟨scope, name⟩

inductive AttributeTypeForm where
  | canonical (type : AttributeType)
  | bare (name : String)
  deriving DecidableEq, Repr

namespace AttributeTypeForm

def scope : AttributeTypeForm → String
  | canonical type => type.scope
  | bare _ => defaultAttributeNamespace

def name : AttributeTypeForm → String
  | canonical type => type.name
  | bare name => name

def toCanonical (f : AttributeTypeForm) : AttributeType := ⟨f.scope, f.name⟩

def reading : Reading AttributeTypeForm
  | .string name => .ok (bare name)
  | i => (AttributeType.model.reading i).map canonical

end AttributeTypeForm

structure ColumnAttribute where
  type : AttributeTypeForm
  deriving DecidableEq, Repr

def ColumnAttribute.model : Model ColumnAttribute where
  schemaName := Models.columnAttribute
  read o := do
    let type ← o.required AttributeTypeForm.reading "attribute_type"
    pure ⟨type⟩

structure ColumnAttributeInput where
  typeScope : Presence String
  typeName : String
  columnName : String
  deriving DecidableEq, Repr

namespace ColumnAttributeInput

def model : Model ColumnAttributeInput where
  schemaName := Models.columnAttributeInput
  read o := do
    let typeScope ← o.optional Reading.string "attribute_type_namespace"
    let typeName ← o.required Reading.string "attribute_type_name"
    let columnName ← o.required Reading.string "column_name"
    pure ⟨typeScope, typeName, columnName⟩

def scope (c : ColumnAttributeInput) : String :=
  c.typeScope.toOption.getD defaultAttributeNamespace

end ColumnAttributeInput

structure Column where
  name : String
  type : String
  id : Presence Int
  dimensionId : Presence Int
  dimensionColumn : Presence String
  attributes : Presence (List ColumnAttribute)
  deriving DecidableEq, Repr

namespace Column

def model : Model Column where
  schemaName := Models.column
  read o := do
    let name ← o.required Reading.string "name"
    let type ← o.required Reading.string "type"
    let id ← o.optional Reading.integer "id"
    let dimensionId ← o.optional Reading.integer "dimension_id"
    let dimensionColumn ← o.optional Reading.string "dimension_column"
    let attributes ← o.optional (Reading.list ColumnAttribute.model.reading) "attributes"
    pure ⟨name, type, id, dimensionId, dimensionColumn, attributes⟩

def hasAttribute (c : Column) (name : String) : Bool :=
  (c.attributes.toOption.getD []).any (·.type.name == name)

def isPrimaryKey (c : Column) : Bool := c.hasAttribute "primary_key"

end Column
end PayloadSchema
