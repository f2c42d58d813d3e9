import Mathlib
import PayloadSchema.Proofs.Declaration.Composites

/-!
One declaration in two positions. At the top of a document and inside another declaration it has
the same schema, unless it is a composite that also refers to another schema or lists alternatives:
then the top drops these, and the inside drops the composite.
-/
namespace PayloadSchema.Declaration
open Outcome

/-- A composite with a reference or alternatives next to it. -/
def IsOverloaded (d : Declaration) : Prop :=
  (d.facets.reference ≠ none ∨ d.anyOf ≠ none) ∧
    (d.properties.isSome = true ∨
      d.facets.typeNames = ["object"] ∧ d.additional = some (.flag false))

def standalone (d : Declaration) : Declaration :=
  ⟨{ d.facets with reference := none }, none, d.items, d.properties, d.additional⟩

variable {d : Declaration} {name : SchemaName}

theorem isOverloaded_iff :
    d.IsOverloaded ↔ d.isComposite = true ∧ ¬(d.facets.reference = none ∧ d.anyOf = none) := by
  rw [isComposite_iff, IsOverloaded, not_and_or, and_comm]
  refine and_congr_left fun hfirst => ?_
  -- required fields make a composite only where nothing else is given
  have hrequired : ¬(d.facets.required ≠ [] ∧ d.facets.reference = none ∧ d.anyOf = none) :=
    fun h => not_and_or.2 hfirst h.2
  rw [or_iff_right hrequired]

theorem toEntry_eq (hname : d.facets.name = some name.text) :
    d.toEntry = (convert true name d).map (name, ·) := by
  rw [toEntry, hname]
  simp only [SchemaName.make_text, ok_bind, convert, true_and]
  split
  · cases d.assembleComposite name (tableFields name d.facets.required d.properties)
      (policy name d.additional) <;> rfl
  · cases d.toSchema name <;> rfl

theorem toSchema_of_isComposite (hd : d.isComposite = true) (href : d.facets.reference = none)
    (hany : d.anyOf = none) :
    d.toSchema name =
      (d.assembleComposite name (tableFields name d.facets.required d.properties)
        (policy name d.additional)).map .object := by
  obtain ⟨facets, anyOf, items, properties, additional⟩ := d
  cases hany
  rw [toSchema, href]
  exact if_pos hd

theorem convert_of_not_isOverloaded (h : ¬d.IsOverloaded) :
    convert true name d = d.toSchema name := by
  rw [convert]
  split
  · rename_i hd
    have hfirst : d.facets.reference = none ∧ d.anyOf = none :=
      not_not.1 fun hfirst => h (isOverloaded_iff.2 ⟨hd.2, hfirst⟩)
    rw [toSchema_of_isComposite hd.2 hfirst.1 hfirst.2]
  · rfl

theorem convert_of_isOverloaded (h : d.IsOverloaded) :
    convert true name d = d.standalone.toSchema name := by
  have hstandalone : d.standalone.isComposite = true :=
    isComposite_iff.2 (h.2.imp_right .inr)
  rw [convert, if_pos ⟨rfl, (isOverloaded_iff.1 h).1⟩,
    toSchema_of_isComposite hstandalone rfl rfl]
  rfl

/-- The top gives a composite, and the inside gives none. -/
theorem convert_ne_toSchema {s : Schema} (h : d.IsOverloaded) (htop : convert true name d = .ok s) :
    d.toSchema name ≠ .ok s := by
  obtain ⟨hd, hfirst⟩ := isOverloaded_iff.1 h
  rw [convert, if_pos ⟨rfl, hd⟩] at htop
  obtain ⟨c, -, rfl⟩ := map_eq_ok.1 htop
  intro hinside
  have hconversion : Conversion false name d (.object c) :=
    conversion_of_toSchema (fun hfalse => absurd hfalse (by decide)) hinside
  cases hconversion with
  | composite _ hnone _ => exact hfirst (hnone rfl)
  | typed hnot => cases hnot.symm.trans hd

/-- Both positions agree for all declarations that are not overloaded, and for the others only if
both fail in the same way. An overloaded one has at the top the schema that it would have without
its reference and its alternatives. -/
theorem toEntry_eq_toSchema_iff (hname : d.facets.name = some name.text) :
    (d.toEntry = (d.toSchema name).map (name, ·) ↔
      ¬d.IsOverloaded ∨ ∃ e, d.toEntry = .error e ∧ d.toSchema name = .error e) ∧
    (d.IsOverloaded → d.toEntry = (d.standalone.toSchema name).map (name, ·)) := by
  rw [toEntry_eq hname]
  refine ⟨⟨fun heq => ?_, ?_⟩, fun h => by rw [convert_of_isOverloaded h]⟩
  · by_cases h : d.IsOverloaded
    · cases htop : convert true name d with
      | ok s =>
        rw [htop] at heq
        obtain ⟨t, ht, hpair⟩ := map_eq_ok.1 heq.symm
        cases hpair
        exact absurd ht (convert_ne_toSchema h htop)
      | error e =>
        rw [htop] at heq
        exact .inr ⟨e, rfl, map_eq_error.1 heq.symm⟩
    · exact .inl h
  · rintro (h | ⟨e, htop, hinside⟩)
    · rw [convert_of_not_isOverloaded h]
    · rw [htop, hinside]
      rfl

def badgeName : SchemaName := ⟨"Badge", by decide⟩

def tokenName : SchemaName := ⟨"Token", by decide⟩

def badge : Declaration :=
  ⟨{ Facets.none with name := some "Badge", reference := some "Token" }, none, none, some [], none⟩

theorem badge_standalone_at_top :
    badge.facets.name = some badgeName.text ∧ badge.IsOverloaded ∧ ¬badge.standalone.IsOverloaded ∧
      badge.toEntry = (badge.standalone.toSchema badgeName).map (badgeName, ·) ∧
      badge.standalone.toEntry = (badge.standalone.toSchema badgeName).map (badgeName, ·) := by
  have hoverloaded : badge.IsOverloaded := ⟨.inl (by decide), .inl rfl⟩
  have hstandalone : ¬badge.standalone.IsOverloaded := by
    rintro ⟨hreference | hany, -⟩
    · exact hreference rfl
    · exact hany rfl
  exact ⟨rfl, hoverloaded, hstandalone, (toEntry_eq_toSchema_iff rfl).2 hoverloaded,
    (toEntry_eq_toSchema_iff rfl).1.2 (.inl hstandalone)⟩

/-- The reference is kept inside another declaration and lost at the top. -/
theorem badge_reference_lost_at_top :
    badge.toSchema badgeName = .ok (.ref tokenName) ∧
      badge.toEntry = .ok (badgeName, .object ⟨badgeName, none, [], .any⟩) ∧
      badge.toEntry ≠ (badge.toSchema badgeName).map (badgeName, ·) := by
  refine ⟨rfl, rfl, ?_⟩
  rintro ⟨⟩

end PayloadSchema.Declaration
