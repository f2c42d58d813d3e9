import Mathlib
import PayloadSchema.Declaration.Schema
import PayloadSchema.Proofs.Validation.Enumeration
import PayloadSchema.Proofs.Validation.Room
import PayloadSchema.Proofs.Validation.Rule

/-!
Declarations with a list of allowed values. Each type that such a declaration names, other than
null, becomes a leaf that has the list. A declaration that names no type, or only null, becomes a
leaf without constraints, and the list is lost.
-/
namespace PayloadSchema
open Outcome

/-- No list holds all values. -/
theorem Json.exists_not_oneOf (allowed : List Json) : ∃ v : Json, ¬v.OneOf allowed := by
  obtain ⟨s, hs⟩ := Infinite.exists_notMem_finset (allowed.filterMap Declaration.text?).toFinset
  refine ⟨.string s, ?_⟩
  rintro ⟨w, hw, hsame⟩
  have htext : Declaration.text? w = some s := by
    cases w with
    | string t => exact congrArg some (eq_of_beq hsame)
    | _ => cases hsame
  exact hs (List.mem_toFinset.2 (List.mem_filterMap.2 ⟨w, hw, htext⟩))

def Schema.IsListedLeaf (allowed : List Json) (s : Schema) : Prop :=
  ∃ kind c, s = .primitive kind c ∧ c.allowed = some allowed

inductive Schema.Listed (allowed : List Json) : Schema → Prop
  | leaf {s : Schema} (h : s.IsListedLeaf allowed) : Listed allowed s
  | union {cs : List Schema} (h : ∀ s ∈ cs, s.IsListedLeaf allowed) : Listed allowed (.union cs)

namespace Validator
variable {v : Validator} {allowed : List Json} {s : Schema} {room : Nat} {raw : Json} {i : Instance}

theorem apply_primitive (kind : Kind) (c : Constraints) :
    v.apply room (.primitive kind c) raw = kind.coerce c raw := by
  have hs : (Schema.primitive kind c).IsHead := trivial
  rw [apply_head hs, applyHead]

theorem oneOf_of_leaf (hs : s.IsListedLeaf allowed) (h : v.apply room s raw = .ok i) :
    i.encode.OneOf allowed := by
  obtain ⟨kind, c, rfl, hc⟩ := hs
  rw [apply_primitive] at h
  exact Constraints.satisfied_of_check (Kind.coerce_eq_ok.1 h).2 .allowed allowed hc

theorem oneOf_of_listed (hs : s.Listed allowed) (h : v.validate s raw = .ok i) :
    i.encode.OneOf allowed := by
  cases hs with
  | leaf hs => exact oneOf_of_leaf hs h
  | union hs =>
    obtain ⟨t, ht, h⟩ := exists_of_apply_union h
    exact oneOf_of_leaf (hs t ht) h

theorem validate_any (v : Validator) (raw : Json) :
    v.validate (.leaf .any) raw = .ok (.any raw) := by
  rw [validate, Schema.leaf, apply_primitive]
  rfl

theorem validate_null (v : Validator) : v.validate (.leaf .null) .null = .ok .null := by
  rw [validate, Schema.leaf, apply_primitive]
  rfl

theorem eq_null_of_validate (h : v.validate (.leaf .null) raw = .ok i) : i = .null := by
  rw [validate, Schema.leaf, apply_primitive] at h
  have hconvert := (Kind.coerce_eq_ok.1 h).1
  cases raw <;> cases hconvert
  rfl

end Validator

namespace Declaration
variable {allowed : List Json} {hint name : SchemaName} {items values : Except SchemaError Schema}
  {s : Schema}

/-- A declaration of primitive types with a list of allowed values, and without anything that would
make it another kind of declaration. -/
structure IsListed (d : Declaration) (allowed : List Json) : Prop where
  allowed : d.facets.allowed = some allowed
  types : ∀ t ∈ d.facets.typeNames, (kind? t d.facets.format).isSome = true
  reference : d.facets.reference = none
  anyOf : d.anyOf = none
  items : d.items = none
  properties : d.properties = none
  required : d.facets.required = []
  additional : d.additional = none

namespace Facets
variable {f : Facets}

theorem allowed_of_constraints {c : Constraints} (h : f.constraints hint = .ok c) :
    c.allowed = f.allowed := by
  obtain ⟨_, -, h⟩ := bind_eq_ok.1 h
  obtain ⟨_, -, h⟩ := bind_eq_ok.1 h
  obtain ⟨_, -, h⟩ := bind_eq_ok.1 h
  obtain ⟨_, -, h⟩ := bind_eq_ok.1 h
  obtain ⟨_, -, h⟩ := bind_eq_ok.1 h
  cases h
  rfl

theorem single_of_kind? {type : String} {kind : Kind} (h : kind? type f.format = some kind) :
    f.single hint items values type = (f.constraints hint).map (.primitive kind) := by
  have harray : ¬(type = "array" ∨ type = "list") := by
    rintro (rfl | rfl) <;> cases h
  have hobject : ¬(type = "object" ∨ type = "dict") := by
    rintro (rfl | rfl) <;> cases h
  rw [single, if_neg harray, if_neg hobject, h]

theorem isListedLeaf_of_single (ha : f.allowed = some allowed) {type : String}
    (ht : (kind? type f.format).isSome = true) (h : f.single hint items values type = .ok s) :
    s.IsListedLeaf allowed := by
  obtain ⟨kind, hkind⟩ := Option.isSome_iff_exists.1 ht
  rw [single_of_kind? hkind] at h
  obtain ⟨c, hc, rfl⟩ := map_eq_ok.1 h
  exact ⟨kind, c, rfl, (allowed_of_constraints hc).trans ha⟩

def proper (f : Facets) : List String := f.typeNames.filter (· != "null")

theorem mem_proper {t : String} : t ∈ f.proper ↔ t ∈ f.typeNames ∧ t ≠ "null" := by
  rw [proper, List.mem_filter, bne_iff_ne]

theorem assemble_of_nil (h : f.typeNames = []) :
    f.assemble hint items values = .ok (.leaf .any) := by
  rw [assemble, h]

theorem assemble_of_ne_nil (h : f.typeNames ≠ []) :
    f.assemble hint items values =
      match f.proper with
      | [] => .ok (.leaf .null)
      | [type] => f.single hint items values type
      | several => (several.mapM (f.single hint items values)).map .union := by
  rw [assemble, proper]
  cases hnames : f.typeNames with
  | nil => exact absurd hnames h
  | cons first rest => rfl

theorem assemble_of_nulls (hne : f.typeNames ≠ []) (h : ∀ t ∈ f.typeNames, t = "null") :
    f.assemble hint items values = .ok (.leaf .null) := by
  have hproper : f.proper = [] :=
    List.eq_nil_iff_forall_not_mem.2 fun t ht => (mem_proper.1 ht).2 (h t (mem_proper.1 ht).1)
  rw [assemble_of_ne_nil hne, hproper]

/-- Primitive types keep the list of allowed values if one of them is not null. -/
theorem listed_of_assemble (ha : f.allowed = some allowed)
    (ht : ∀ t ∈ f.typeNames, (kind? t f.format).isSome = true)
    (hother : ∃ t ∈ f.typeNames, t ≠ "null") (h : f.assemble hint items values = .ok s) :
    s.Listed allowed := by
  have hleaf {t : String} {u : Schema} (hmem : t ∈ f.proper)
      (hu : f.single hint items values t = .ok u) : u.IsListedLeaf allowed :=
    isListedLeaf_of_single ha (ht t (mem_proper.1 hmem).1) hu
  obtain ⟨t, hmem, hne⟩ := hother
  rw [assemble_of_ne_nil (List.ne_nil_of_mem hmem)] at h
  match hproper : f.proper with
  | [] =>
    have hfound := mem_proper.2 ⟨hmem, hne⟩
    rw [hproper] at hfound
    cases hfound
  | [type] =>
    rw [hproper] at h hleaf
    exact .leaf (hleaf (.head _) h)
  | first :: second :: rest =>
    rw [hproper] at h hleaf
    obtain ⟨cs, hcs, rfl⟩ := map_eq_ok.1 h
    refine .union fun u hu => ?_
    obtain ⟨type, htype, hsingle⟩ := exists_of_mem_right (mapM_eq_ok.1 hcs) hu
    exact hleaf htype hsingle

end Facets

namespace IsListed
variable {d : Declaration} (hd : d.IsListed allowed)
include hd

theorem isComposite_eq : d.isComposite = false := by
  simp [isComposite, hd.properties, hd.required, hd.additional]

theorem toSchema_eq (hint : SchemaName) :
    d.toSchema hint =
      d.facets.assemble hint (optionalSchema hint d.items) (dictValues hint d.additional) := by
  have hcomposite := hd.isComposite_eq
  obtain ⟨facets, anyOf, items, properties, additional⟩ := d
  obtain ⟨-, -, hreference, rfl, -, -, -, -⟩ := hd
  have hnone : facets.reference = none := hreference
  simp only [toSchema, hnone, hcomposite, Bool.false_eq_true, if_false]

/-- The declaration becomes what its types become. -/
theorem toEntry_eq {text : String} (hname : d.facets.name = some text) :
    d.toEntry = SchemaName.make text >>= fun name =>
      (d.facets.assemble name (optionalSchema name d.items) (dictValues name d.additional)).map
        (name, ·) := by
  simp only [toEntry, hname, hd.isComposite_eq, hd.toSchema_eq]
  rfl

theorem exists_assemble (h : d.toEntry = .ok (name, s)) :
    ∃ items values, d.facets.assemble name items values = .ok s := by
  cases hname : d.facets.name with
  | none =>
    rw [toEntry, hname] at h
    cases h
  | some text =>
    rw [hd.toEntry_eq hname] at h
    obtain ⟨hint, -, h⟩ := bind_eq_ok.1 h
    obtain ⟨t, ht, hpair⟩ := map_eq_ok.1 h
    cases hpair
    exact ⟨_, _, ht⟩

end IsListed

/-- The list of allowed values is enforced if and only if a type other than null is named, or only
null is named and the list holds it. -/
theorem enforced_iff_typed {d : Declaration} {allowed : List Json} {name : SchemaName} {s : Schema}
    (hd : d.IsListed allowed) (h : d.toEntry = .ok (name, s)) :
    (∀ (v : Validator) raw i, v.validate s raw = .ok i → i.encode.OneOf allowed) ↔
      (∃ t ∈ d.facets.typeNames, t ≠ "null") ∨
        d.facets.typeNames ≠ [] ∧ Json.null.OneOf allowed := by
  obtain ⟨items, values, hs⟩ := hd.exists_assemble h
  by_cases hother : ∃ t ∈ d.facets.typeNames, t ≠ "null"
  · have hlisted := Facets.listed_of_assemble hd.allowed hd.types hother hs
    exact ⟨fun _ => .inl hother, fun _ v raw i => Validator.oneOf_of_listed hlisted⟩
  · have hnulls : ∀ t ∈ d.facets.typeNames, t = "null" :=
      fun t ht => by_contra fun hne => hother ⟨t, ht, hne⟩
    rw [or_iff_right hother]
    by_cases hnil : d.facets.typeNames = []
    · -- without a type there is no list, and some value is not in it
      cases (Facets.assemble_of_nil hnil).symm.trans hs
      refine ⟨fun hall => ?_, fun hlisted => absurd hnil hlisted.1⟩
      obtain ⟨v, hv⟩ := Json.exists_not_oneOf allowed
      exact absurd (hall (.new .empty) v _ (Validator.validate_any _ v)) hv
    · cases (Facets.assemble_of_nulls hnil hnulls).symm.trans hs
      refine ⟨fun hall => ⟨hnil, ?_⟩, fun hlisted v raw i hi => ?_⟩
      · exact hall (.new .empty) _ _ (Validator.validate_null _)
      · cases Validator.eq_null_of_validate hi
        exact hlisted.2

def colourList : List Json := [.string "red", .number (.ofInt 1)]

def colours (type : Option TypeNames) : Declaration where
  facets := { Facets.none with name := some "Colour", type := type, allowed := some colourList }
  anyOf := none
  items := none
  properties := none
  additional := none

def colourName : SchemaName := ⟨"Colour", by decide⟩

theorem colours_isListed {type : Option TypeNames}
    (ht : ∀ t ∈ (colours type).facets.typeNames, (kind? t none).isSome = true) :
    (colours type).IsListed colourList :=
  ⟨rfl, ht, rfl, rfl, rfl, rfl, rfl, rfl⟩

/-- Without a type the colours are listed in vain, and null is one. -/
theorem untyped_colours_not_enforced :
    (colours none).IsListed colourList ∧
      (colours none).toEntry = .ok (colourName, .leaf .any) ∧
      (Validator.new .empty).validate (.leaf .any) .null = .ok (.any .null) ∧
      ¬(Instance.any .null).encode.OneOf colourList := by
  have hlisted : (colours none).IsListed colourList := colours_isListed (by decide)
  refine ⟨hlisted, hlisted.toEntry_eq rfl, Validator.validate_any _ _, ?_⟩
  rintro ⟨w, hw, hsame⟩
  obtain rfl | rfl := List.mem_pair.1 hw <;> cases hsame

def typedColours : Declaration := colours (some (.several ["null", "string", "integer"]))

def typedColourSchema : Schema :=
  let c : Constraints := { Constraints.none with allowed := some colourList }
  .union [.primitive .string c, .primitive .integer c]

/-- With types the colours are enforced: red is one, green is none. -/
theorem typed_colours_enforced :
    typedColours.IsListed colourList ∧
      typedColours.toEntry = .ok (colourName, typedColourSchema) ∧
      Validator.validate ⟨.empty, 1⟩ typedColourSchema (.string "red") = .ok (.string "red") ∧
      Validator.validate ⟨.empty, 1⟩ typedColourSchema (.string "green") =
        .error (.here (.constraint "enum" "\"green\" is not one of [\"red\", 1]")) ∧
      ∀ (v : Validator) raw i, v.validate typedColourSchema raw = .ok i →
        i.encode.OneOf colourList := by
  have hlisted : typedColours.IsListed colourList := colours_isListed (by decide)
  have hentry : typedColours.toEntry = .ok (colourName, typedColourSchema) :=
    hlisted.toEntry_eq rfl
  refine ⟨hlisted, hentry, ?_, ?_, ?_⟩
  · cbv
  · cbv
  · exact (enforced_iff_typed hlisted hentry).2 (.inl ⟨"string", by decide, by decide⟩)

end Declaration
end PayloadSchema
