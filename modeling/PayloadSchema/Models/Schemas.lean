import PayloadSchema.Registry

/-!
The built-in schemas: columns and their attributes, catalogs and engines, namespaces, and requests
to create nodes.
-/
namespace PayloadSchema.Models

def attributeTypeName : SchemaName := ⟨"AttributeTypeName", by decide⟩
def columnAttribute : SchemaName := ⟨"ColumnAttribute", by decide⟩
def columnAttributeInput : SchemaName := ⟨"ColumnAttributeInput", by decide⟩
def column : SchemaName := ⟨"Column", by decide⟩
def sourceColumn : SchemaName := ⟨"SourceColumn", by decide⟩
def catalog : SchemaName := ⟨"Catalog", by decide⟩
def engine : SchemaName := ⟨"Engine", by decide⟩
def dialect : SchemaName := ⟨"Dialect", by decide⟩
def nodeMode : SchemaName := ⟨"NodeMode", by decide⟩
def nodeNamespace : SchemaName := ⟨"NodeNamespace", by decide⟩
def sourceNodeInput : SchemaName := ⟨"SourceNodeInput", by decide⟩
def metricInput : SchemaName := ⟨"MetricInput", by decide⟩
def cubeInput : SchemaName := ⟨"CubeInput", by decide⟩

def string : Schema := .leaf .string

def integer : Schema := .leaf .integer

def nonEmpty : Schema := .primitive .string { Constraints.none with minLength := some 1 }

def nodeNamePattern : Option Pattern :=
  Pattern.compile? "^[A-Za-z_][A-Za-z0-9_]*(\\.[A-Za-z_][A-Za-z0-9_]*)*$"

def nodeName : Schema :=
  .primitive .string { Constraints.none with minLength := some 1, pattern := nodeNamePattern }

def oneOf (texts : List String) : Schema :=
  .primitive .string { Constraints.none with allowed := some (texts.map .string) }

def natural : Schema :=
  .primitive .integer { Constraints.none with minimum := Decimal.make? false 0 0 }

def listOf (items : Schema) : Schema := .list items none none

def nonEmptyListOf (items : Schema) : Schema := .list items (some 1) none

def required (name : String) (schema : Schema) : Field := ⟨name, schema, true, false, none⟩

def optional (name : String) (schema : Schema) : Field := ⟨name, schema, false, false, none⟩

def attributeTypeNameSchema : Composite where
  name := attributeTypeName
  description := some "Namespaced name of a column attribute type."
  fields := [required "namespace" nonEmpty, required "name" nonEmpty]
  additional := .forbidden

def columnAttributeSchema : Composite where
  name := columnAttribute
  description := some "An attribute set on a column."
  fields := [required "attribute_type" (.union [.ref attributeTypeName, nonEmpty])]
  additional := .forbidden

def columnAttributeInputSchema : Composite where
  name := columnAttributeInput
  description := some "Request to set an attribute on a node column."
  fields :=
    [optional "attribute_type_namespace" nonEmpty, required "attribute_type_name" nonEmpty,
      required "column_name" nonEmpty]
  additional := .forbidden

def columnSchema : Composite where
  name := column
  description := some "A column on a node."
  fields :=
    [required "name" string, required "type" string, optional "id" integer,
      optional "dimension_id" integer, optional "dimension_column" string,
      optional "attributes" (listOf (.ref columnAttribute))]
  additional := .forbidden

def sourceColumnSchema : Composite where
  name := sourceColumn
  description := some "A column declared when registering a source node."
  fields :=
    [required "name" nonEmpty, required "type" nonEmpty, optional "dimension" nodeName,
      optional "attributes" (listOf (.ref columnAttribute))]
  additional := .forbidden

def catalogSchema : Composite where
  name := catalog
  description := some "A physical catalog and the engines that can query it."
  fields := [required "name" nonEmpty, optional "engines" (listOf (.ref engine))]
  additional := .any

def engineSchema : Composite where
  name := engine
  description := some "A query engine."
  fields :=
    [required "name" nonEmpty, required "version" (.union [string, integer]),
      optional "uri" string, optional "dialect" (.ref dialect)]
  additional := .any

def dialectSchema : Schema := oneOf ["spark", "trino", "druid", "postgres"]

def nodeModeSchema : Schema := oneOf ["published", "draft"]

def nodeNamespaceSchema : Composite where
  name := nodeNamespace
  description := some "A node namespace and its child namespaces."
  fields := [required "namespace" nodeName, optional "children" (listOf (.ref nodeNamespace))]
  additional := .any

def sourceNodeInputSchema : Composite where
  name := sourceNodeInput
  description := some "Request to create a source node over a physical table."
  fields :=
    [required "name" nodeName, required "catalog" nonEmpty, required "schema_" nonEmpty,
      required "table" nonEmpty, required "columns" (nonEmptyListOf (.ref sourceColumn)),
      optional "display_name" string, optional "description" string,
      optional "mode" (.ref nodeMode), optional "primary_key" (listOf nonEmpty)]
  additional := .forbidden

def metricInputSchema : Composite where
  name := metricInput
  description := some "Request to create a metric node."
  fields :=
    [required "name" nodeName, required "query" nonEmpty, optional "display_name" string,
      optional "description" string, optional "mode" (.ref nodeMode),
      optional "required_dimensions" (listOf string)]
  additional := .forbidden

def cubeInputSchema : Composite where
  name := cubeInput
  description := some "Request to create a cube over metrics and dimensions."
  fields :=
    [required "name" nodeName, required "metrics" (nonEmptyListOf nodeName),
      required "dimensions" (listOf nodeName), optional "description" string,
      optional "mode" (.ref nodeMode), optional "filters" (listOf string),
      optional "orderby" (listOf string), optional "limit" natural]
  additional := .forbidden

def composites : List Composite :=
  [attributeTypeNameSchema, columnAttributeSchema, columnAttributeInputSchema, columnSchema,
    sourceColumnSchema, catalogSchema, engineSchema, nodeNamespaceSchema, sourceNodeInputSchema,
    metricInputSchema, cubeInputSchema]

def entries : List (SchemaName × Schema) :=
  [(dialect, dialectSchema), (nodeMode, nodeModeSchema)]
    ++ composites.map fun c => (c.name, .object c)

def registry : Registry := (Registry.empty.registerAll entries).1

end PayloadSchema.Models
