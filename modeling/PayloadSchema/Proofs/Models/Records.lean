import PayloadSchema.Models.Engine
import PayloadSchema.Models.Request
import PayloadSchema.Proofs.Models.Reading
import PayloadSchema.Proofs.Registry

/-!
The typed records against the built-in schemas: whatever a composite accepts can be read, and each
field of the record mirrors the member that it was read from.
-/
namespace PayloadSchema
open Outcome

namespace Models

/-- No two built-in schemas have the same name, so all of them are registered. -/
theorem registerAll_entries :
    (Registry.empty.registerAll entries).2 = none ∧ ∀ e, e ∈ registry.entries ↔ e ∈ entries := by
  have hn : (entries.map (·.1.text)).Nodup := by decide
  obtain ⟨hnone, hmem⟩ := Registry.registerAll_of_nodup hn (r := .empty) (by simp [Registry.empty])
  exact ⟨hnone, fun e => (hmem e).trans (by simp [Registry.empty])⟩

theorem get?_entry {name : SchemaName} {s : Schema} (h : (name, s) ∈ entries) :
    registry.get? name.text = some s :=
  Registry.get?_of_mem ((registerAll_entries.2 _).2 h)

theorem get?_composite {c : Composite} (h : c ∈ composites) :
    registry.get? c.name.text = some (.object c) :=
  get?_entry (List.mem_append_right _ (List.mem_map_of_mem h))

theorem composite?_eq {c : Composite} (h : c ∈ composites) :
    registry.composite? c.name.text = some c := by
  rw [Registry.composite?, get?_composite h]
  rfl

theorem resolve_ref {name : SchemaName} {s : Schema} (hs : s.IsHead)
    (h : registry.get? name.text = some s) : registry.resolve (.ref name) = .ok s := by
  rw [Registry.resolve, Registry.maxHops, Registry.resolveFrom, h]
  cases s with
  | ref => exact hs.elim
  | _ => rfl

abbrev validator (depth : Nat) : Validator := ⟨registry, depth⟩

end Models

open Models Validator
variable {α : Type} {depth n : Nat}

theorem Validator.reads_composite {c : Composite} {m : Model α} {mirror : Members → α → Prop}
    (hc : c ∈ composites) (h : (validator depth).ReadsObject n c m.read mirror) :
    (validator depth).Reads n (.ref c.name) m.reading (Mirror.object mirror) := by
  have hs : (Schema.object c).IsHead := trivial
  exact reads_ref (resolve_ref hs (get?_composite hc)) ((reads_object h).mono n.le_succ)

theorem Validator.reads_composites {c : Composite} {least most : Option Nat} {m : Model α}
    {mirror : Members → α → Prop} (hc : c ∈ composites)
    (h : (validator depth).ReadsObject n c m.read mirror) :
    (validator depth).Reads (n + 1) (.list (.ref c.name) least most) (Reading.list m.reading)
      (Mirror.list (Mirror.object mirror)) :=
  reads_list (reads_composite hc h)

theorem Validator.reads_texts {v : Validator} (c : Constraints) {least most : Option Nat} :
    v.Reads n (.list (.primitive .string c) least most) (Reading.list Reading.string)
      (Mirror.list Mirror.text) :=
  (reads_list (reads_text c)).mono n.le_succ

theorem Validator.reads_oneOf {v : Validator} {texts : List String} {read : Reading α}
    {mirror : Mirror α}
    (h : ∀ t ∈ texts, ∃ a, read (.string t) = .ok a ∧ mirror (.string t) a) :
    v.Reads n (oneOf texts) read mirror := by
  refine reads_leaf fun raw i hconvert hsat => ?_
  cases raw <;> cases hconvert
  obtain ⟨w, hw, hsame⟩ := hsat .allowed _ rfl
  obtain ⟨t, ht, rfl⟩ := List.mem_map.1 hw
  simp only [Instance.encode, Json.same, beq_iff_eq] at hsame
  subst hsame
  exact h t ht

structure AttributeType.Mirrors (sent : Members) (t : AttributeType) : Prop where
  scope : Mirror.Required Mirror.text sent "namespace" t.scope
  name : Mirror.Required Mirror.text sent "name" t.name

theorem AttributeType.readsObject : (validator depth).ReadsObject n attributeTypeNameSchema
    AttributeType.model.read AttributeType.Mirrors := by
  intro room hroom sent entries run
  obtain ⟨scope, hscope, mscope⟩ := run.required_eq_ok hroom "namespace" rfl (reads_text _)
  obtain ⟨name, hname, mname⟩ := run.required_eq_ok hroom "name" rfl (reads_text _)
  refine ⟨⟨scope, name⟩, ?_, mscope, mname⟩
  simp only [AttributeType.model, hscope, hname, ok_bind]
  rfl

namespace AttributeTypeForm

/-- A bare name was sent as a text, and a type in full as an object. -/
def mirror : Mirror AttributeTypeForm
  | raw, canonical t => Mirror.object AttributeType.Mirrors raw t
  | raw, bare name => Mirror.text raw name

theorem reads :
    (validator depth).Reads n (.union [.ref attributeTypeName, nonEmpty]) reading mirror := by
  refine reads_union fun s hs => ?_
  simp only [List.mem_cons, List.not_mem_nil, or_false] at hs
  rcases hs with rfl | rfl
  · refine (reads_composite (.head _) AttributeType.readsObject).imp fun raw i t ht hmirror => ?_
    cases i with
    | object o =>
      have hform : reading (.object o) = (AttributeType.model.reading (.object o)).map canonical :=
        rfl
      exact ⟨canonical t, by rw [hform, ht]; rfl, hmirror⟩
    | _ => cases ht
  · refine (reads_text _).imp fun raw i name hname hmirror => ?_
    cases i with
    | string =>
      cases hname
      exact ⟨bare name, rfl, hmirror⟩
    | _ => cases hname

end AttributeTypeForm

structure ColumnAttribute.Mirrors (sent : Members) (a : ColumnAttribute) : Prop where
  type : Mirror.Required AttributeTypeForm.mirror sent "attribute_type" a.type

theorem ColumnAttribute.readsObject : (validator depth).ReadsObject n columnAttributeSchema
    ColumnAttribute.model.read ColumnAttribute.Mirrors := by
  intro room hroom sent entries run
  obtain ⟨type, htype, mtype⟩ :=
    run.required_eq_ok hroom "attribute_type" rfl AttributeTypeForm.reads
  refine ⟨⟨type⟩, ?_, ⟨mtype⟩⟩
  simp only [ColumnAttribute.model, htype, ok_bind]
  rfl

theorem ColumnAttribute.reads_list : (validator depth).Reads n (listOf (.ref columnAttribute))
    (Reading.list ColumnAttribute.model.reading)
    (Mirror.list (Mirror.object ColumnAttribute.Mirrors)) :=
  (reads_composites (c := columnAttributeSchema) (by simp [composites])
    ColumnAttribute.readsObject).mono n.le_succ

structure ColumnAttributeInput.Mirrors (sent : Members) (c : ColumnAttributeInput) : Prop where
  typeScope : Mirror.Optional Mirror.text sent "attribute_type_namespace" c.typeScope
  typeName : Mirror.Required Mirror.text sent "attribute_type_name" c.typeName
  columnName : Mirror.Required Mirror.text sent "column_name" c.columnName

theorem ColumnAttributeInput.readsObject :
    (validator depth).ReadsObject n columnAttributeInputSchema ColumnAttributeInput.model.read
      ColumnAttributeInput.Mirrors := by
  intro room hroom sent entries run
  obtain ⟨scope, hscope, mscope⟩ :=
    run.optional_eq_ok hroom "attribute_type_namespace" rfl (reads_text _)
  obtain ⟨name, hname, mname⟩ :=
    run.required_eq_ok hroom "attribute_type_name" rfl (reads_text _)
  obtain ⟨column, hcolumn, mcolumn⟩ := run.required_eq_ok hroom "column_name" rfl (reads_text _)
  refine ⟨⟨scope, name, column⟩, ?_, mscope, mname, mcolumn⟩
  simp only [ColumnAttributeInput.model, hscope, hname, hcolumn, ok_bind]
  rfl

structure Column.Mirrors (sent : Members) (c : Column) : Prop where
  name : Mirror.Required Mirror.text sent "name" c.name
  type : Mirror.Required Mirror.text sent "type" c.type
  id : Mirror.Optional Mirror.integer sent "id" c.id
  dimensionId : Mirror.Optional Mirror.integer sent "dimension_id" c.dimensionId
  dimensionColumn : Mirror.Optional Mirror.text sent "dimension_column" c.dimensionColumn
  attributes : Mirror.Optional (Mirror.list (Mirror.object ColumnAttribute.Mirrors)) sent
    "attributes" c.attributes

theorem Column.readsObject : (validator depth).ReadsObject n columnSchema Column.model.read
    Column.Mirrors := by
  intro room hroom sent entries run
  obtain ⟨name, hname, mname⟩ := run.required_eq_ok hroom "name" rfl (reads_text _)
  obtain ⟨type, htype, mtype⟩ := run.required_eq_ok hroom "type" rfl (reads_text _)
  obtain ⟨id, hid, mid⟩ := run.optional_eq_ok hroom "id" rfl (reads_integer _)
  obtain ⟨dim, hdim, mdim⟩ := run.optional_eq_ok hroom "dimension_id" rfl (reads_integer _)
  obtain ⟨col, hcol, mcol⟩ := run.optional_eq_ok hroom "dimension_column" rfl (reads_text _)
  obtain ⟨attrs, hattrs, mattrs⟩ :=
    run.optional_eq_ok hroom "attributes" rfl ColumnAttribute.reads_list
  refine ⟨⟨name, type, id, dim, col, attrs⟩, ?_, mname, mtype, mid, mdim, mcol, mattrs⟩
  simp only [Column.model, hname, htype, hid, hdim, hcol, hattrs, ok_bind]
  rfl

def Dialect.mirror : Mirror Dialect := fun raw d => raw = .string d.text

theorem Dialect.reads :
    (validator depth).Reads n (.ref dialect) Dialect.reading Dialect.mirror := by
  have hs : dialectSchema.IsHead := trivial
  refine reads_ref (resolve_ref hs (get?_entry (.head _))) (reads_oneOf fun t ht => ?_)
  simp only [List.mem_cons, List.not_mem_nil, or_false] at ht
  rcases ht with rfl | rfl | rfl | rfl
  · exact ⟨spark, rfl, rfl⟩
  · exact ⟨trino, rfl, rfl⟩
  · exact ⟨druid, rfl, rfl⟩
  · exact ⟨postgres, rfl, rfl⟩

namespace Engine

def versionReading : Reading String
  | .integer k => .ok (intText k)
  | i => Reading.string i

theorem readVersion_eq (o : ObjectInstance) :
    readVersion o = o.required versionReading "version" := by
  simp only [readVersion, ObjectInstance.required]
  cases o.get "version" with
  | error e => rfl
  | ok i => cases i <;> rfl

/-- A version was sent as a text or as a number, which is written in decimal. -/
def versionMirror : Mirror String := fun raw version =>
  Mirror.text raw version ∨ ∃ k, Mirror.integer raw k ∧ version = intText k

theorem reads_version {v : Validator} :
    v.Reads n (.union [Models.string, Models.integer]) versionReading versionMirror := by
  refine reads_union fun s hs => ?_
  simp only [List.mem_cons, List.not_mem_nil, or_false] at hs
  rcases hs with rfl | rfl
  · refine (reads_text _).imp fun raw i t ht hmirror => ?_
    cases i with
    | string => exact ⟨t, ht, .inl hmirror⟩
    | _ => cases ht
  · refine (reads_integer _).imp fun raw i k hk hmirror => ?_
    cases i with
    | integer =>
      cases hk
      exact ⟨intText k, rfl, .inr ⟨k, hmirror, rfl⟩⟩
    | _ => cases hk

structure Mirrors (sent : Members) (e : Engine) : Prop where
  name : Mirror.Required Mirror.text sent "name" e.name
  version : Mirror.Required versionMirror sent "version" e.version
  uri : Mirror.Optional Mirror.text sent "uri" e.uri
  dialect : Mirror.Optional Dialect.mirror sent "dialect" e.dialect

theorem readsObject : (validator depth).ReadsObject n engineSchema model.read Mirrors := by
  intro room hroom sent entries run
  obtain ⟨name, hname, mname⟩ := run.required_eq_ok hroom "name" rfl (reads_text _)
  obtain ⟨version, hversion, mversion⟩ := run.required_eq_ok hroom "version" rfl reads_version
  obtain ⟨uri, huri, muri⟩ := run.optional_eq_ok hroom "uri" rfl (reads_text _)
  obtain ⟨dialect, hdialect, mdialect⟩ := run.optional_eq_ok hroom "dialect" rfl Dialect.reads
  refine ⟨⟨name, version, uri, dialect⟩, ?_, mname, mversion, muri, mdialect⟩
  simp only [model, readVersion_eq, hname, hversion, huri, hdialect, ok_bind]
  rfl

end Engine

structure Catalog.Mirrors (sent : Members) (c : Catalog) : Prop where
  name : Mirror.Required Mirror.text sent "name" c.name
  engines : Mirror.Optional (Mirror.list (Mirror.object Engine.Mirrors)) sent "engines" c.engines

theorem Catalog.readsObject : (validator depth).ReadsObject n catalogSchema Catalog.model.read
    Catalog.Mirrors := by
  have hlist : (validator depth).Reads n (listOf (.ref engine)) (Reading.list Engine.model.reading)
      (Mirror.list (Mirror.object Engine.Mirrors)) :=
    (reads_composites (c := engineSchema) (by simp [composites]) Engine.readsObject).mono n.le_succ
  intro room hroom sent entries run
  obtain ⟨name, hname, mname⟩ := run.required_eq_ok hroom "name" rfl (reads_text _)
  obtain ⟨engines, hengines, mengines⟩ := run.optional_eq_ok hroom "engines" rfl hlist
  refine ⟨⟨name, engines⟩, ?_, mname, mengines⟩
  simp only [Catalog.model, hname, hengines, ok_bind]
  rfl

structure SourceColumn.Mirrors (sent : Members) (c : SourceColumn) : Prop where
  name : Mirror.Required Mirror.text sent "name" c.name
  type : Mirror.Required Mirror.text sent "type" c.type
  dimension : Mirror.Optional Mirror.text sent "dimension" c.dimension
  attributes : Mirror.Optional (Mirror.list (Mirror.object ColumnAttribute.Mirrors)) sent
    "attributes" c.attributes

theorem SourceColumn.readsObject : (validator depth).ReadsObject n sourceColumnSchema
    SourceColumn.model.read SourceColumn.Mirrors := by
  intro room hroom sent entries run
  obtain ⟨name, hname, mname⟩ := run.required_eq_ok hroom "name" rfl (reads_text _)
  obtain ⟨type, htype, mtype⟩ := run.required_eq_ok hroom "type" rfl (reads_text _)
  obtain ⟨dim, hdim, mdim⟩ := run.optional_eq_ok hroom "dimension" rfl (reads_text _)
  obtain ⟨attrs, hattrs, mattrs⟩ :=
    run.optional_eq_ok hroom "attributes" rfl ColumnAttribute.reads_list
  refine ⟨⟨name, type, dim, attrs⟩, ?_, mname, mtype, mdim, mattrs⟩
  simp only [SourceColumn.model, hname, htype, hdim, hattrs, ok_bind]
  rfl

def NodeMode.mirror : Mirror NodeMode := fun raw m => raw = .string m.text

theorem NodeMode.reads :
    (validator depth).Reads n (.ref nodeMode) NodeMode.reading NodeMode.mirror := by
  have hs : nodeModeSchema.IsHead := trivial
  refine reads_ref (resolve_ref hs (get?_entry (.tail _ (.head _)))) (reads_oneOf fun t ht => ?_)
  simp only [List.mem_cons, List.not_mem_nil, or_false] at ht
  rcases ht with rfl | rfl
  · exact ⟨published, rfl, rfl⟩
  · exact ⟨draft, rfl, rfl⟩

structure SourceNodeInput.Mirrors (sent : Members) (s : SourceNodeInput) : Prop where
  name : Mirror.Required Mirror.text sent "name" s.name
  catalog : Mirror.Required Mirror.text sent "catalog" s.catalog
  schema : Mirror.Required Mirror.text sent "schema_" s.schema
  table : Mirror.Required Mirror.text sent "table" s.table
  columns : Mirror.Required (Mirror.list (Mirror.object SourceColumn.Mirrors)) sent "columns"
    s.columns
  displayName : Mirror.Optional Mirror.text sent "display_name" s.displayName
  description : Mirror.Optional Mirror.text sent "description" s.description
  mode : Mirror.Optional NodeMode.mirror sent "mode" s.mode
  primaryKey : Mirror.Optional (Mirror.list Mirror.text) sent "primary_key" s.primaryKey

theorem SourceNodeInput.readsObject : (validator depth).ReadsObject n sourceNodeInputSchema
    SourceNodeInput.model.read SourceNodeInput.Mirrors := by
  have hlist : (validator depth).Reads n (nonEmptyListOf (.ref sourceColumn))
      (Reading.list SourceColumn.model.reading)
      (Mirror.list (Mirror.object SourceColumn.Mirrors)) :=
    (reads_composites (c := sourceColumnSchema) (by simp [composites])
      SourceColumn.readsObject).mono n.le_succ
  intro room hroom sent entries run
  obtain ⟨name, hname, mname⟩ := run.required_eq_ok hroom "name" rfl (reads_text _)
  obtain ⟨catalog, hcatalog, mcatalog⟩ := run.required_eq_ok hroom "catalog" rfl (reads_text _)
  obtain ⟨schema, hschema, mschema⟩ := run.required_eq_ok hroom "schema_" rfl (reads_text _)
  obtain ⟨table, htable, mtable⟩ := run.required_eq_ok hroom "table" rfl (reads_text _)
  obtain ⟨columns, hcolumns, mcolumns⟩ := run.required_eq_ok hroom "columns" rfl hlist
  obtain ⟨title, htitle, mtitle⟩ := run.optional_eq_ok hroom "display_name" rfl (reads_text _)
  obtain ⟨descr, hdescr, mdescr⟩ := run.optional_eq_ok hroom "description" rfl (reads_text _)
  obtain ⟨mode, hmode, mmode⟩ := run.optional_eq_ok hroom "mode" rfl NodeMode.reads
  obtain ⟨key, hkey, mkey⟩ := run.optional_eq_ok hroom "primary_key" rfl (reads_texts _)
  refine ⟨⟨name, catalog, schema, table, columns, title, descr, mode, key⟩, ?_, mname, mcatalog,
    mschema, mtable, mcolumns, mtitle, mdescr, mmode, mkey⟩
  simp only [SourceNodeInput.model, hname, hcatalog, hschema, htable, hcolumns, htitle, hdescr,
    hmode, hkey, ok_bind]
  rfl

structure MetricInput.Mirrors (sent : Members) (m : MetricInput) : Prop where
  name : Mirror.Required Mirror.text sent "name" m.name
  query : Mirror.Required Mirror.text sent "query" m.query
  displayName : Mirror.Optional Mirror.text sent "display_name" m.displayName
  description : Mirror.Optional Mirror.text sent "description" m.description
  mode : Mirror.Optional NodeMode.mirror sent "mode" m.mode
  requiredDimensions : Mirror.Optional (Mirror.list Mirror.text) sent "required_dimensions"
    m.requiredDimensions

theorem MetricInput.readsObject : (validator depth).ReadsObject n metricInputSchema
    MetricInput.model.read MetricInput.Mirrors := by
  intro room hroom sent entries run
  obtain ⟨name, hname, mname⟩ := run.required_eq_ok hroom "name" rfl (reads_text _)
  obtain ⟨query, hquery, mquery⟩ := run.required_eq_ok hroom "query" rfl (reads_text _)
  obtain ⟨title, htitle, mtitle⟩ := run.optional_eq_ok hroom "display_name" rfl (reads_text _)
  obtain ⟨descr, hdescr, mdescr⟩ := run.optional_eq_ok hroom "description" rfl (reads_text _)
  obtain ⟨mode, hmode, mmode⟩ := run.optional_eq_ok hroom "mode" rfl NodeMode.reads
  obtain ⟨dims, hdims, mdims⟩ :=
    run.optional_eq_ok hroom "required_dimensions" rfl (reads_texts _)
  refine ⟨⟨name, query, title, descr, mode, dims⟩, ?_, mname, mquery, mtitle, mdescr, mmode, mdims⟩
  simp only [MetricInput.model, hname, hquery, htitle, hdescr, hmode, hdims, ok_bind]
  rfl

structure CubeInput.Mirrors (sent : Members) (c : CubeInput) : Prop where
  name : Mirror.Required Mirror.text sent "name" c.name
  metrics : Mirror.Required (Mirror.list Mirror.text) sent "metrics" c.metrics
  dimensions : Mirror.Required (Mirror.list Mirror.text) sent "dimensions" c.dimensions
  description : Mirror.Optional Mirror.text sent "description" c.description
  mode : Mirror.Optional NodeMode.mirror sent "mode" c.mode
  filters : Mirror.Optional (Mirror.list Mirror.text) sent "filters" c.filters
  orderBy : Mirror.Optional (Mirror.list Mirror.text) sent "orderby" c.orderBy
  limit : Mirror.Optional Mirror.integer sent "limit" c.limit

theorem CubeInput.readsObject : (validator depth).ReadsObject n cubeInputSchema
    CubeInput.model.read CubeInput.Mirrors := by
  intro room hroom sent entries run
  obtain ⟨name, hname, mname⟩ := run.required_eq_ok hroom "name" rfl (reads_text _)
  obtain ⟨metrics, hmetrics, mmetrics⟩ := run.required_eq_ok hroom "metrics" rfl (reads_texts _)
  obtain ⟨dims, hdims, mdims⟩ := run.required_eq_ok hroom "dimensions" rfl (reads_texts _)
  obtain ⟨descr, hdescr, mdescr⟩ := run.optional_eq_ok hroom "description" rfl (reads_text _)
  obtain ⟨mode, hmode, mmode⟩ := run.optional_eq_ok hroom "mode" rfl NodeMode.reads
  obtain ⟨filters, hfilters, mfilters⟩ := run.optional_eq_ok hroom "filters" rfl (reads_texts _)
  obtain ⟨order, horder, morder⟩ := run.optional_eq_ok hroom "orderby" rfl (reads_texts _)
  obtain ⟨limit, hlimit, mlimit⟩ := run.optional_eq_ok hroom "limit" rfl (reads_integer _)
  refine ⟨⟨name, metrics, dims, descr, mode, filters, order, limit⟩, ?_, mname, mmetrics, mdims,
    mdescr, mmode, mfilters, morder, mlimit⟩
  simp only [CubeInput.model, hname, hmetrics, hdims, hdescr, hmode, hfilters, horder, hlimit,
    ok_bind]
  rfl

end PayloadSchema
