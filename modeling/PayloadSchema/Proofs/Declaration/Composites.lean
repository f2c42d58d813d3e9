import Mathlib
import PayloadSchema.Proofs.Declaration.Enumeration
import PayloadSchema.Proofs.Declaration.Reading
import PayloadSchema.Proofs.Json.Reordered

/-!
Composites and the nodes of a document that they come from. A document that is accepted has, for
every node that counts as a composite at whatever depth, a composite at the matching place of a
schema: its fields are the properties of the node, and it is named after the way that leads there. A
document with a node that requires what it does not declare is refused.
-/
namespace PayloadSchema
open Outcome

inductive Step where
  | field (i : Nat)
  | additional
  | candidate (i : Nat)
  | items
  | values

def Schema.child? : Schema → Step → Option Schema
  | .object c, .field i => c.fields[i]?.map (·.schema)
  | .object c, .additional =>
    match c.additional with
    | .typed s => some s
    | _ => none
  | .union cs, .candidate i => cs[i]?
  | .list items _ _, .items => some items
  | .dict values, .values => some values
  | _, _ => none

def Schema.at? (s : Schema) : List Step → Option Schema
  | [] => some s
  | step :: rest => (s.child? step).bind fun t => t.at? rest

theorem Schema.at?_append (s : Schema) (route rest : List Step) :
    s.at? (route ++ rest) = (s.at? route).bind fun t => t.at? rest := by
  induction route generalizing s with
  | nil => rfl
  | cons step route ih =>
    rw [List.cons_append, at?, at?, Option.bind_assoc]
    simp only [ih]

theorem Schema.at?_singleton (s : Schema) (step : Step) : s.at? [step] = s.child? step :=
  Option.bind_fun_some (s.child? step)

namespace SchemaName

theorem make_text (name : SchemaName) : make name.text = .ok name := by
  rw [make]
  split
  · rfl
  · rename_i reason hreason
    cases name.valid.symm.trans hreason

theorem text_of_make {text : String} {name : SchemaName} (h : make text = .ok name) :
    name.text = text := by
  rw [make] at h
  split at h
  · cases h
    rfl
  · cases h

end SchemaName

namespace Declaration

/-- A node that declares properties, or requires some while it neither refers nor lists
alternatives, or is of the mere type `object` and forbids further properties. -/
def IsComposite (node : Json) : Prop :=
  (given? node .properties).isSome = true ∨
    (requiredNames node ≠ [] ∧ given? node .reference = none ∧ given? node .anyOf = none) ∨
    (listedTypes node = ["object"] ∧ given? node .additionalProperties = some (.bool false))

/-- At the top of a document a composite is one whatever else is given; elsewhere a reference or
alternatives come first. -/
def IsCompositeAt (top : Bool) (node : Json) : Prop :=
  IsComposite node ∧ (top = false → given? node .reference = none ∧ given? node .anyOf = none)

structure IsTyped (node : Json) : Prop where
  composite : ¬IsComposite node
  reference : given? node .reference = none
  anyOf : given? node .anyOf = none

def properTypes (node : Json) : List String := (listedTypes node).filter (· != "null")

/-- The type that the schema at a route stands for; several types are alternatives. -/
inductive TypeAt (node : Json) : List Step → String → Prop
  | only {type : String} (h : properTypes node = [type]) : TypeAt node [] type
  | among {i : Nat} {type : String} (hlen : 2 ≤ (properTypes node).length)
      (hi : (properTypes node)[i]? = some type) : TypeAt node [.candidate i] type

/-- The name of what is declared inside `owner` at a property: that of the owner with the property
after a dot, or where this is not a name that of the owner. -/
def InlineName (owner : SchemaName) (property : String) (name : SchemaName) : Prop :=
  name.text = owner.text ++ "." ++ property ∨
    (∀ other : SchemaName, other.text ≠ owner.text ++ "." ++ property) ∧ name = owner

/-- The nodes that a node is converted from, each with the route to its schema and with the name
that it goes by. -/
inductive Inside (top : Bool) (owner : SchemaName) (node : Json) :
    List Step → SchemaName → Json → Prop
  | property {i : Nat} {p : String} {child : Json} {name : SchemaName}
      (hnode : IsCompositeAt top node) (hp : (propertiesOf node)[i]? = some (p, child))
      (hname : InlineName owner p name) : Inside top owner node [.field i] name child
  | additional {child : Json} {name : SchemaName} (hnode : IsCompositeAt top node)
      (hchild : given? node .additionalProperties = some child) (hflag : ∀ b, child ≠ .bool b)
      (hname : InlineName owner "additional" name) : Inside top owner node [.additional] name child
  | candidate {nodes : List Json} {i : Nat} {child : Json} (hnode : ¬IsCompositeAt top node)
      (href : given? node .reference = none) (hany : given? node .anyOf = some (.array nodes))
      (hi : nodes[i]? = some child) : Inside top owner node [.candidate i] owner child
  | item {route : List Step} {type : String} {child : Json} (hnode : IsTyped node)
      (htype : TypeAt node route type) (hlist : type = "array" ∨ type = "list")
      (hchild : given? node .items = some child) :
      Inside top owner node (route ++ [.items]) owner child
  | value {route : List Step} {type : String} {child : Json} (hnode : IsTyped node)
      (htype : TypeAt node route type) (hdict : type = "object" ∨ type = "dict")
      (hchild : given? node .additionalProperties = some child) (hflag : ∀ b, child ≠ .bool b) :
      Inside top owner node (route ++ [.values]) owner child

inductive Converted (first : SchemaName) (start : Json) :
    List Step → Bool → SchemaName → Json → Prop
  | here : Converted first start [] true first start
  | inside {route steps : List Step} {top : Bool} {owner name : SchemaName} {node child : Json}
      (hnode : Converted first start route top owner node)
      (hchild : Inside top owner node steps name child) :
      Converted first start (route ++ steps) false name child

def convert (top : Bool) (name : SchemaName) (d : Declaration) : Except SchemaError Schema :=
  if top = true ∧ d.isComposite = true then
    (d.assembleComposite name (tableFields name d.facets.required d.properties)
      (policy name d.additional)).map .object
  else d.toSchema name

def Converts (top : Bool) (name : SchemaName) (node : Json) (s : Schema) : Prop :=
  ∃ d, ReadAs node d ∧ convert top name d = .ok s

structure FieldMirrors (owner : SchemaName) (required : List String) (property : String × Json)
    (f : Field) : Prop where
  name : f.name = property.1
  required : f.required = true ↔ property.1 ∈ required
  nullable : f.nullable = true ↔ AllowsNull property.2
  schema : ∃ inner, InlineName owner property.1 inner ∧ Converts false inner property.2 f.schema

inductive PolicyMirrors (owner : SchemaName) : Option Json → Policy → Prop
  | absent : PolicyMirrors owner none .any
  | allowed : PolicyMirrors owner (some (.bool true)) .any
  | forbidden : PolicyMirrors owner (some (.bool false)) .forbidden
  | typed {child : Json} {inner : SchemaName} {s : Schema} (hflag : ∀ b, child ≠ .bool b)
      (hname : InlineName owner "additional" inner) (hs : Converts false inner child s) :
      PolicyMirrors owner (some child) (.typed s)

structure Mirrors (c : Composite) (owner : SchemaName) (node : Json) : Prop where
  name : c.name = owner
  fields : List.Forall₂ (FieldMirrors owner (requiredNames node)) (propertiesOf node) c.fields
  declared : requiredNames node ⊆ (propertiesOf node).map (·.1)
  policy : PolicyMirrors owner (given? node .additionalProperties) c.additional

theorem inlineName_fieldHint (owner : SchemaName) (property : String) :
    InlineName owner property (fieldHint owner property) := by
  rw [fieldHint]
  cases h : owner.nested property with
  | ok name => exact .inl (SchemaName.text_of_make h)
  | error e =>
    refine .inr ⟨fun other hother => ?_, rfl⟩
    rw [SchemaName.nested, ← hother, SchemaName.make_text] at h
    cases h

theorem InlineName.unique {owner name other : SchemaName} {property : String}
    (h : InlineName owner property name) (h' : InlineName owner property other) : name = other := by
  rcases h with h | ⟨hnone, rfl⟩ <;> rcases h' with h' | ⟨hnone', rfl⟩
  · exact SchemaName.ext_text (h.trans h'.symm)
  · exact absurd h (hnone' name)
  · exact absurd h' (hnone other)
  · rfl

/-- The nodes inside another one do not depend on its name. -/
theorem Inside.rename {top : Bool} {owner name : SchemaName} {node child : Json}
    {steps : List Step} (h : Inside top owner node steps name child) (other : SchemaName) :
    ∃ name', Inside top other node steps name' child := by
  cases h with
  | property hnode hp => exact ⟨_, .property hnode hp (inlineName_fieldHint other _)⟩
  | additional hnode hchild hflag =>
    exact ⟨_, .additional hnode hchild hflag (inlineName_fieldHint other _)⟩
  | candidate hnode href hany hi => exact ⟨_, .candidate hnode href hany hi⟩
  | item hnode htype hlist hchild => exact ⟨_, .item hnode htype hlist hchild⟩
  | value hnode htype hdict hchild hflag => exact ⟨_, .value hnode htype hdict hchild hflag⟩

theorem Converted.rename {first name : SchemaName} {start node : Json} {route : List Step}
    {top : Bool} (h : Converted first start route top name node) (other : SchemaName) :
    ∃ name', Converted other start route top name' node := by
  induction h with
  | here => exact ⟨other, .here⟩
  | inside _ hchild ih =>
    obtain ⟨owner, howner⟩ := ih
    obtain ⟨name, hname⟩ := hchild.rename owner
    exact ⟨name, .inside howner hname⟩

inductive Conversion (top : Bool) (name : SchemaName) (d : Declaration) : Schema → Prop
  | composite {c : Composite} (hd : d.isComposite = true)
      (hfirst : top = false → d.facets.reference = none ∧ d.anyOf = none)
      (hc : d.assembleComposite name (tableFields name d.facets.required d.properties)
        (policy name d.additional) = .ok c) : Conversion top name d (.object c)
  | reference {target : String} {other : SchemaName} (hd : top = true → d.isComposite = false)
      (href : d.facets.reference = some target) : Conversion top name d (.ref other)
  | candidates {ds : List Declaration} {ss : List Schema} (hd : top = true → d.isComposite = false)
      (href : d.facets.reference = none) (hany : d.anyOf = some ds)
      (hs : List.Forall₂ (fun d s => d.toSchema name = .ok s) ds ss) :
      Conversion top name d (.union ss)
  | typed {s : Schema} (hd : d.isComposite = false) (href : d.facets.reference = none)
      (hany : d.anyOf = none)
      (hs : d.facets.assemble name (optionalSchema name d.items) (dictValues name d.additional) =
        .ok s) : Conversion top name d s

theorem toSchemas_eq (name : SchemaName) (ds : List Declaration) :
    toSchemas name ds = ds.mapM (toSchema name) := by
  induction ds with
  | nil => rfl
  | cons d rest ih => rw [toSchemas, List.mapM_cons, ih]

theorem conversion_of_toSchema {top : Bool} {name : SchemaName} {d : Declaration} {s : Schema}
    (hd : top = true → d.isComposite = false) (h : d.toSchema name = .ok s) :
    Conversion top name d s := by
  obtain ⟨facets, anyOf, items, properties, additional⟩ := d
  unfold toSchema at h
  cases href : facets.reference with
  | some target =>
    rw [href] at h
    obtain ⟨other, -, rfl⟩ := map_eq_ok.1 h
    exact .reference hd href
  | none =>
    rw [href] at h
    cases anyOf with
    | some ds =>
      obtain ⟨ss, hss, rfl⟩ := map_eq_ok.1 h
      rw [toSchemas_eq] at hss
      exact .candidates hd href rfl (mapM_eq_ok.1 hss)
    | none =>
      dsimp only at h
      split at h
      · rename_i hcomposite
        obtain ⟨c, hc, rfl⟩ := map_eq_ok.1 h
        exact .composite hcomposite (fun _ => ⟨href, rfl⟩) hc
      · rename_i hcomposite
        exact .typed (Bool.eq_false_of_not_eq_true hcomposite) href rfl h

theorem conversion_of_convert {top : Bool} {name : SchemaName} {d : Declaration} {s : Schema}
    (h : convert top name d = .ok s) : Conversion top name d s := by
  rw [convert] at h
  split at h
  · rename_i hd
    obtain ⟨c, hc, rfl⟩ := map_eq_ok.1 h
    exact .composite hd.2 (fun htop => absurd (hd.1.symm.trans htop) (by decide)) hc
  · rename_i hd
    exact conversion_of_toSchema
      (fun htop => Bool.eq_false_of_not_eq_true fun hcomposite => hd ⟨htop, hcomposite⟩) h

theorem convert_false (name : SchemaName) (d : Declaration) :
    convert false name d = d.toSchema name :=
  if_neg fun h => absurd h.1 (by decide)

theorem build_eq_ok {name : SchemaName} {description : Option String} {fields : List Field}
    {additional : Policy} {c : Composite}
    (h : Composite.build name.text description fields additional = .ok c) :
    c = ⟨name, description, fields, additional⟩ := by
  rw [Composite.build, SchemaName.make_text, ok_bind] at h
  split at h
  · cases h
  · cases h
    rfl

theorem assembleComposite_eq_ok {d : Declaration} {name : SchemaName}
    {fields : Except SchemaError (List Field)} {additional : Except SchemaError Policy}
    {c : Composite} (h : d.assembleComposite name fields additional = .ok c) :
    d.facets.required ⊆ (d.properties.getD []).map (·.1) ∧ c.name = name ∧
      fields = .ok c.fields ∧ additional = .ok c.additional := by
  rw [assembleComposite] at h
  split at h
  · cases h
  · rename_i hfind
    obtain ⟨fs, hfs, h⟩ := bind_eq_ok.1 h
    obtain ⟨p, hp, h⟩ := bind_eq_ok.1 h
    cases build_eq_ok h
    refine ⟨fun r hr => ?_, rfl, hfs, hp⟩
    have hcontains := List.find?_eq_none.1 hfind r hr
    simpa using hcontains

theorem toFields_eq_ok {name : SchemaName} {required : List String}
    {table : List (String × Declaration)} {fields : List Field}
    (h : toFields name required table = .ok fields) :
    List.Forall₂ (fun p f => f.name = p.1 ∧ f.required = required.contains p.1 ∧
      f.nullable = p.2.facets.isNullable ∧ p.2.toSchema (fieldHint name p.1) = .ok f.schema)
      table fields := by
  induction table generalizing fields with
  | nil =>
    cases h
    exact .nil
  | cons p rest ih =>
    obtain ⟨s, hs, h⟩ := bind_eq_ok.1 h
    obtain ⟨fs, hfs, h⟩ := bind_eq_ok.1 h
    cases h
    exact .cons ⟨rfl, rfl, rfl, hs⟩ (ih hfs)

theorem tableFields_eq (name : SchemaName) (required : List String)
    (properties : Option (List (String × Declaration))) :
    tableFields name required properties = toFields name required (properties.getD []) := by
  cases properties <;> rfl

theorem isComposite_iff {d : Declaration} :
    d.isComposite = true ↔ d.properties.isSome = true ∨
      (d.facets.required ≠ [] ∧ d.facets.reference = none ∧ d.anyOf = none) ∨
      (d.facets.typeNames = ["object"] ∧ d.additional = some (.flag false)) := by
  rw [isComposite, Bool.or_eq_true, Bool.or_eq_true, or_assoc]
  refine or_congr_right (or_congr (by simp [and_assoc]) ?_)
  rw [Bool.and_eq_true, beq_iff_eq]
  refine and_congr_right fun _ => ?_
  split <;> simp_all

section ReadAs
variable {node : Json} {d : Declaration} (h : ReadAs node d)
include h

theorem ReadAs.reference_eq_none : d.facets.reference = none ↔ given? node .reference = none := by
  rw [h.reference, Option.map_eq_none_iff]

theorem ReadAs.anyOf_eq_none : d.anyOf = none ↔ given? node .anyOf = none := by
  have hrel := h.anyOf
  generalize given? node .anyOf = given, d.anyOf = anyOf at hrel
  cases hrel <;> simp

theorem ReadAs.ne_flag (b : Bool) : node ≠ .bool b := by
  rintro rfl
  cases h

theorem ReadAs.forbids : d.additional = some (.flag false) ↔
    given? node .additionalProperties = some (.bool false) := by
  have hrel := h.additional
  generalize given? node .additionalProperties = given, d.additional = additional at hrel
  cases hrel with
  | none => simp
  | some hread =>
    cases hread with
    | flag b => simp
    | declared hread => simp [hread.ne_flag false]

theorem ReadAs.isSome_properties : d.properties.isSome = (given? node .properties).isSome := by
  have hrel := h.properties
  generalize given? node .properties = given, d.properties = properties at hrel
  cases hrel <;> rfl

theorem ReadAs.isComposite : d.isComposite = true ↔ IsComposite node := by
  rw [isComposite_iff, h.forbids, h.isSome_properties, h.typeNames, h.required,
    h.reference_eq_none, h.anyOf_eq_none, IsComposite]

theorem ReadAs.mirrors_policy {owner : SchemaName} {p : Policy}
    (hp : policy owner d.additional = .ok p) :
    PolicyMirrors owner (given? node .additionalProperties) p := by
  have hrel := h.additional
  generalize given? node .additionalProperties = given, d.additional = additional at hrel hp
  cases hrel with
  | none =>
    cases hp
    exact .absent
  | some hread =>
    cases hread with
    | flag b =>
      cases b with
      | false =>
        cases hp
        exact .forbidden
      | true =>
        cases hp
        exact .allowed
    | @declared child e hread =>
      obtain ⟨s, hs, rfl⟩ := map_eq_ok.1 hp
      exact .typed hread.ne_flag (inlineName_fieldHint owner _)
        ⟨e, hread, (convert_false _ _).trans hs⟩

theorem ReadAs.mirrors {owner : SchemaName} {c : Composite}
    (hc : d.assembleComposite owner (tableFields owner d.facets.required d.properties)
      (policy owner d.additional) = .ok c) : Mirrors c owner node := by
  obtain ⟨hdeclared, hname, hfields, hpolicy⟩ := assembleComposite_eq_ok hc
  have hnames : (propertiesOf node).map (·.1) = (d.properties.getD []).map (·.1) :=
    List.forall₂_eq_eq_eq ▸ List.forall₂_map_left_iff.2
      (List.forall₂_map_right_iff.2 (h.table.imp fun _ _ hp => hp.1))
  rw [h.required] at hdeclared hfields
  rw [tableFields_eq] at hfields
  refine ⟨hname, ?_, hnames ▸ hdeclared, h.mirrors_policy hpolicy⟩
  refine forall₂_trans (fun m p f hp hf => ?_) h.table (toFields_eq_ok hfields)
  obtain ⟨hkey, hread⟩ := hp
  obtain ⟨hfname, hrequired, hnullable, hschema⟩ := hf
  constructor
  · rw [hfname, hkey]
  · rw [hrequired, List.contains_iff_mem, hkey]
  · rw [hnullable, hread.isNullable]
  · exact ⟨_, hkey ▸ inlineName_fieldHint owner _, p.2, hread, (convert_false _ _).trans hschema⟩

end ReadAs

namespace Facets
variable {f : Facets} {hint : SchemaName} {items values : Except SchemaError Schema} {s : Schema}

theorem single_ne_object {type : String} (h : f.single hint items values type = .ok s)
    (c : Composite) : s ≠ .object c := by
  rw [single] at h
  split at h
  · obtain ⟨t, -, rfl⟩ := map_eq_ok.1 h
    rintro ⟨⟩
  · split at h
    · obtain ⟨t, -, rfl⟩ := map_eq_ok.1 h
      rintro ⟨⟩
    · split at h
      · obtain ⟨t, -, rfl⟩ := map_eq_ok.1 h
        rintro ⟨⟩
      · cases h

theorem assemble_ne_object (h : f.assemble hint items values = .ok s) (c : Composite) :
    s ≠ .object c := by
  by_cases hnil : f.typeNames = []
  · cases (assemble_of_nil hnil).symm.trans h
    rintro ⟨⟩
  · rw [assemble_of_ne_nil hnil] at h
    split at h
    · cases h
      rintro ⟨⟩
    · exact single_ne_object h c
    · obtain ⟨ss, -, rfl⟩ := map_eq_ok.1 h
      rintro ⟨⟩

/-- Each type has a schema of its own, at the place that several types give it. -/
theorem single_of_typeAt {node : Json} {route : List Step} {type : String}
    (hproper : f.proper = properTypes node) (htype : TypeAt node route type)
    (h : f.assemble hint items values = .ok s) :
    ∃ t, f.single hint items values type = .ok t ∧ s.at? route = some t := by
  have hne : f.typeNames ≠ [] := by
    intro hnil
    have hempty : properTypes node = [] := by rw [← hproper, proper, hnil, List.filter_nil]
    cases htype with
    | only h => cases hempty.symm.trans h
    | among hlen => simp [hempty] at hlen
  rw [assemble_of_ne_nil hne, hproper] at h
  cases htype with
  | only hone =>
    rw [hone] at h
    exact ⟨s, h, rfl⟩
  | @among i type hlen hi =>
    split at h
    · rename_i hnil
      simp [hnil] at hlen
    · rename_i hone
      simp [hone] at hlen
    · obtain ⟨ss, hss, rfl⟩ := map_eq_ok.1 h
      obtain ⟨t, ht, hsingle⟩ := exists_of_rel (hi ▸ rel_getElem? (mapM_eq_ok.1 hss) i)
      exact ⟨t, hsingle, by rw [Schema.at?_singleton, Schema.child?, ht]⟩

end Facets

section Converts
variable {top : Bool} {name : SchemaName} {node : Json} {s : Schema}

/-- The nodes that become composites, and those alone, do, and the composites mirror them. -/
theorem Converts.object_iff (h : Converts top name node s) :
    ((∃ c, s = .object c) ↔ IsCompositeAt top node) ∧ ∀ c, s = .object c → Mirrors c name node := by
  obtain ⟨d, hread, hs⟩ := h
  have hfirst : (top = false → d.facets.reference = none ∧ d.anyOf = none) ↔
      (top = false → given? node .reference = none ∧ given? node .anyOf = none) := by
    rw [hread.reference_eq_none, hread.anyOf_eq_none]
  have hcomposite : IsCompositeAt top node ↔
      d.isComposite = true ∧ (top = false → d.facets.reference = none ∧ d.anyOf = none) := by
    rw [IsCompositeAt, hread.isComposite, hfirst]
  rw [hcomposite]
  cases conversion_of_convert hs with
  | composite hd hfirst hc =>
    refine ⟨⟨fun _ => ⟨hd, hfirst⟩, fun _ => ⟨_, rfl⟩⟩, fun c' hc' => ?_⟩
    cases hc'
    exact hread.mirrors hc
  | reference hd href =>
    refine ⟨⟨nofun, fun hnode => ?_⟩, nofun⟩
    cases top with
    | true => cases (hd rfl).symm.trans hnode.1
    | false => cases href.symm.trans (hnode.2 rfl).1
  | candidates hd href hany =>
    refine ⟨⟨nofun, fun hnode => ?_⟩, nofun⟩
    cases top with
    | true => cases (hd rfl).symm.trans hnode.1
    | false => cases hany.symm.trans (hnode.2 rfl).2
  | typed hd _ _ hs =>
    refine ⟨⟨?_, fun hnode => ?_⟩, fun c hc => absurd hc (Facets.assemble_ne_object hs c)⟩
    · rintro ⟨c, hc⟩
      exact absurd hc (Facets.assemble_ne_object hs c)
    · cases hd.symm.trans hnode.1

/-- A node that is what its types say has a schema for each of them. -/
theorem Converts.single_of_typeAt {route : List Step} {type : String}
    (h : Converts top name node s) (hnode : IsTyped node) (htype : TypeAt node route type) :
    ∃ d t, ReadAs node d ∧ s.at? route = some t ∧
      d.facets.single name (optionalSchema name d.items) (dictValues name d.additional) type =
        .ok t := by
  obtain ⟨d, hread, hs⟩ := h
  have hcomposite : d.isComposite = false :=
    Bool.eq_false_of_not_eq_true fun hd => hnode.composite (hread.isComposite.1 hd)
  have hproper : d.facets.proper = properTypes node := by
    rw [Facets.proper, hread.typeNames, properTypes]
  cases conversion_of_convert hs with
  | composite hd => cases hcomposite.symm.trans hd
  | reference _ href => cases href.symm.trans (hread.reference_eq_none.2 hnode.reference)
  | candidates _ _ hany => cases hany.symm.trans (hread.anyOf_eq_none.2 hnode.anyOf)
  | typed _ _ _ hs =>
    obtain ⟨t, hsingle, ht⟩ := Facets.single_of_typeAt hproper htype hs
    exact ⟨d, t, hread, ht, hsingle⟩

/-- One step down: what stands inside a node has its schema inside that of the node. -/
theorem Inside.converts {steps : List Step} {inner : SchemaName} {child : Json}
    (h : Inside top name node steps inner child) (hs : Converts top name node s) :
    ∃ t, Converts false inner child t ∧ s.at? steps = some t := by
  cases h with
  | @property i p _ _ hnode hp hname =>
    obtain ⟨hobject, hmirrors⟩ := hs.object_iff
    obtain ⟨c, rfl⟩ := hobject.2 hnode
    obtain ⟨f, hf, hfield⟩ := exists_of_rel (hp ▸ rel_getElem? (hmirrors c rfl).fields i)
    obtain ⟨name', hname', hschema⟩ := hfield.schema
    cases hname'.unique hname
    exact ⟨f.schema, hschema, by rw [Schema.at?_singleton, Schema.child?, hf, Option.map_some]⟩
  | additional hnode hchild hflag hname =>
    obtain ⟨hobject, hmirrors⟩ := hs.object_iff
    obtain ⟨c, rfl⟩ := hobject.2 hnode
    have hpolicy := (hmirrors c rfl).policy
    rw [hchild] at hpolicy
    generalize hadditional : c.additional = additional at hpolicy
    cases hpolicy with
    | allowed => exact absurd rfl (hflag true)
    | forbidden => exact absurd rfl (hflag false)
    | @typed _ name' t _ hname' ht =>
      cases hname'.unique hname
      exact ⟨t, ht, by rw [Schema.at?_singleton, Schema.child?, hadditional]⟩
  | @candidate nodes i _ hnode href hany hi =>
    obtain ⟨hobject, -⟩ := hs.object_iff
    obtain ⟨d, hread, hs⟩ := hs
    obtain ⟨ds, hds, nodes', hnodes, hread'⟩ := exists_of_rel (hany ▸ hread.anyOf)
    cases hnodes
    cases conversion_of_convert hs with
    | composite => exact absurd (hobject.1 ⟨_, rfl⟩) hnode
    | reference _ href' => cases href'.symm.trans (hread.reference_eq_none.2 href)
    | typed _ _ hnone => cases hnone.symm.trans hds
    | candidates _ _ hany' hss =>
      cases hany'.symm.trans hds
      obtain ⟨e, he, hchild⟩ := exists_of_rel (hi ▸ rel_getElem? hread' i)
      obtain ⟨t, ht, hschema⟩ := exists_of_rel (he ▸ rel_getElem? hss i)
      exact ⟨t, ⟨e, hchild, (convert_false _ _).trans hschema⟩, by
        rw [Schema.at?_singleton, Schema.child?, ht]⟩
  | @item route type _ hnode htype hlist hchild =>
    obtain ⟨d, u, hread, hu, hsingle⟩ := hs.single_of_typeAt hnode htype
    obtain ⟨e, he, hchild⟩ := exists_of_rel (hchild ▸ hread.items)
    rw [Facets.single, if_pos hlist, he] at hsingle
    obtain ⟨t, ht, rfl⟩ := map_eq_ok.1 hsingle
    exact ⟨t, ⟨e, hchild, (convert_false _ _).trans ht⟩, by
      rw [Schema.at?_append, hu, Option.bind_some, Schema.at?_singleton, Schema.child?]⟩
  | @value route type _ hnode htype hdict hchild hflag =>
    obtain ⟨d, u, hread, hu, hsingle⟩ := hs.single_of_typeAt hnode htype
    obtain ⟨a, ha, hadditional⟩ := exists_of_rel (hchild ▸ hread.additional)
    have hlist : ¬(type = "array" ∨ type = "list") := by
      rcases hdict with rfl | rfl <;> decide
    rw [Facets.single, if_neg hlist, if_pos hdict, ha] at hsingle
    cases hadditional with
    | flag b => exact absurd rfl (hflag b)
    | @declared _ e hchild =>
      obtain ⟨t, ht, rfl⟩ := map_eq_ok.1 hsingle
      exact ⟨t, ⟨e, hchild, (convert_false _ _).trans ht⟩, by
        rw [Schema.at?_append, hu, Option.bind_some, Schema.at?_singleton, Schema.child?]⟩

/-- All the way down from the top of a document. -/
theorem Converted.converts {first : SchemaName} {start : Json} {whole : Schema} {route : List Step}
    (h : Converted first start route top name node) (hstart : Converts true first start whole) :
    ∃ t, Converts top name node t ∧ whole.at? route = some t := by
  induction h with
  | here => exact ⟨whole, hstart, rfl⟩
  | inside _ hchild ih =>
    obtain ⟨t, ht, hroute⟩ := ih
    obtain ⟨u, hu, hsteps⟩ := hchild.converts ht
    exact ⟨u, hu, by rw [Schema.at?_append, hroute, Option.bind_some, hsteps]⟩

end Converts

theorem toEntry_eq_ok {d : Declaration} {entry : SchemaName × Schema} (h : d.toEntry = .ok entry) :
    d.facets.name = some entry.1.text ∧ convert true entry.1 d = .ok entry.2 := by
  rw [toEntry] at h
  split at h
  · cases h
  · rename_i text htext
    obtain ⟨name, hname, h⟩ := bind_eq_ok.1 h
    rw [htext, convert]
    split at h
    · rename_i hd
      obtain ⟨c, hc, h⟩ := bind_eq_ok.1 h
      cases h
      rw [if_pos ⟨rfl, hd⟩, SchemaName.text_of_make hname]
      exact ⟨rfl, map_eq_ok.2 ⟨c, hc, rfl⟩⟩
    · rename_i hd
      obtain ⟨s, hs, h⟩ := bind_eq_ok.1 h
      cases h
      rw [if_neg fun hboth => hd hboth.2, SchemaName.text_of_make hname]
      exact ⟨rfl, hs⟩

/-- The entries of a document come from its nodes at the top, by which they are named. -/
theorem converts_of_parse {document : Json} {source : String} {entries : List (SchemaName × Schema)}
    (h : parse document source = .ok entries) :
    List.Forall₂ (fun node entry => given? node .name = some (.string entry.1.text) ∧
      Converts true entry.1 node entry.2) (topNodes document) entries := by
  rw [parse] at h
  split at h
  · rename_i ds hds
    refine forall₂_trans (fun node d entry hread hentry => ?_) (forall₂_of_ofDocument? hds)
      (mapM_eq_ok.1 h)
    obtain ⟨hname, hs⟩ := toEntry_eq_ok hentry
    exact ⟨by rw [hread.name, hname, Option.map_some], d, hread, hs⟩
  · cases h

/-- A document that is accepted has a composite for each node that counts as one, at the place of
the node, with its name and saying what it says, and has no others. A document is refused, and
nothing of it is registered, if such a node anywhere requires a property it does not declare. -/
theorem parse_mirrors_composites (document : Json) (source : String) :
    (∀ entries, parse document source = .ok entries →
      List.Forall₂ (fun start entry => given? start .name = some (.string entry.1.text) ∧
        ∀ route top name node, Converted entry.1 start route top name node →
          ∃ s, entry.2.at? route = some s ∧ ((∃ c, s = .object c) ↔ IsCompositeAt top node) ∧
            ∀ c, s = .object c → Mirrors c name node) (topNodes document) entries) ∧
    ((∃ start ∈ topNodes document, ∃ first route top name node,
        Converted first start route top name node ∧ IsCompositeAt top node ∧
          ¬requiredNames node ⊆ (propertiesOf node).map (·.1)) →
      ∃ e, parse document source = .error e ∧
        ∀ r : Registry, r.load document source = (r, .error e)) := by
  constructor
  · intro entries h
    refine (converts_of_parse h).imp fun start entry hstart => ⟨hstart.1, ?_⟩
    intro route top name node hnode
    obtain ⟨s, hs, hroute⟩ := hnode.converts hstart.2
    exact ⟨s, hroute, hs.object_iff⟩
  · rintro ⟨start, hstart, first, route, top, name, node, hnode, hcomposite, hmissing⟩
    cases h : parse document source with
    | ok entries =>
      -- the composite of that node would have all the required fields
      obtain ⟨entry, -, -, hwhole⟩ := exists_of_mem_right (converts_of_parse h).flip hstart
      obtain ⟨name', hnode'⟩ := hnode.rename entry.1
      obtain ⟨s, hs, -⟩ := hnode'.converts hwhole
      obtain ⟨hobject, hmirrors⟩ := hs.object_iff
      obtain ⟨c, hc⟩ := hobject.2 hcomposite
      exact absurd (hmirrors c hc).declared hmissing
    | error e => exact ⟨e, rfl, fun r => by rw [Registry.load, h]⟩

def lineNode (required : String) : Json :=
  let article := Json.object [("type", .array [.string "string", .string "null"])]
  .object [
    ("properties", .object [("article", article)]),
    ("required", .array [.string required]),
    ("additionalProperties", .bool false)]

def receiptDocument (required : String) : Json :=
  let lines := Json.object [("type", .string "list"), ("items", lineNode required)]
  .object [("name", .string "Receipt"), ("properties", .object [("lines", lines)])]

def receiptName : SchemaName := ⟨"Receipt", by decide⟩

def receiptLinesName : SchemaName := ⟨"Receipt.lines", by decide⟩

def receiptLine : Composite where
  name := receiptLinesName
  description := none
  fields := [⟨"article", .leaf .string, true, true, none⟩]
  additional := .forbidden

def receiptSchema : Schema :=
  let lines : Field := ⟨"lines", .list (.object receiptLine) none none, false, false, none⟩
  .object ⟨receiptName, none, [lines], .any⟩

theorem parse_receipt :
    parse (receiptDocument "article") "" = .ok [(receiptName, receiptSchema)] := rfl

theorem converted_line (required : String) :
    Converted receiptName (receiptDocument required) [.field 0, .items] false receiptLinesName
      (lineNode required) := by
  have hlines : Converted receiptName (receiptDocument required) [.field 0] false receiptLinesName
      (.object [("type", .string "list"), ("items", lineNode required)]) :=
    .inside .here (.property ⟨.inl rfl, nofun⟩ rfl (.inl (by decide)))
  refine .inside hlines (.item ⟨?_, rfl, rfl⟩ (.only rfl) (.inr rfl) rfl)
  rintro (hproperties | ⟨hrequired, -⟩ | ⟨htypes, -⟩)
  · cases hproperties
  · exact hrequired rfl
  · have hlist : ["list"] = ["object"] := htypes
    exact absurd hlist (by decide)

/-- The lines of a receipt are a composite of their own, and have to declare what they require. -/
theorem receipt_line_mirrored :
    parse (receiptDocument "article") "" = .ok [(receiptName, receiptSchema)] ∧
      receiptSchema.at? [.field 0, .items] = some (.object receiptLine) ∧
      Mirrors receiptLine receiptLinesName (lineNode "article") ∧
      ∃ e, parse (receiptDocument "price") "" = .error e ∧
        ∀ r : Registry, r.load (receiptDocument "price") "" = (r, .error e) := by
  refine ⟨parse_receipt, rfl, ?_, (parse_mirrors_composites _ "").2 ?_⟩
  · cases (parse_mirrors_composites _ "").1 _ parse_receipt with
    | cons hentry _ =>
      obtain ⟨s, hs, -, hmirrors⟩ := hentry.2 _ _ _ _ (converted_line "article")
      cases hs
      exact hmirrors receiptLine rfl
  · refine ⟨_, .head _, _, _, _, _, _, converted_line "price", ⟨.inl rfl, fun _ => ⟨rfl, rfl⟩⟩, ?_⟩
    decide

end Declaration
end PayloadSchema
