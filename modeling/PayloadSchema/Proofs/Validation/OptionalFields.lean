import Mathlib
import PayloadSchema.Proofs.Validation.Restoring

/-!
Declarations that grow. Optional fields that are put among the fields of a composite shift the
places of the fields after them; a payload that sends none of the new names is validated as before.
-/
namespace PayloadSchema
open Outcome

inductive Interleaved {α : Type} : List α → List α → List α → Prop
  | nil : Interleaved [] [] []
  | left {x : α} {xs ys zs : List α} (h : Interleaved xs ys zs) :
      Interleaved (x :: xs) ys (x :: zs)
  | right {y : α} {xs ys zs : List α} (h : Interleaved xs ys zs) :
      Interleaved xs (y :: ys) (y :: zs)

namespace Interleaved
variable {α β : Type} {xs ys zs : List α} {test : α → Bool}

theorem map (f : α → β) (h : Interleaved xs ys zs) :
    Interleaved (xs.map f) (ys.map f) (zs.map f) := by
  induction h with
  | nil => exact .nil
  | left _ ih => exact .left ih
  | right _ ih => exact .right ih

theorem append_left (h : Interleaved xs ys zs) (rest : List α) :
    Interleaved (xs ++ rest) ys (zs ++ rest) := by
  induction h with
  | nil =>
    induction rest with
    | nil => exact .nil
    | cons x rest ih => exact .left ih
  | left _ ih => exact .left ih
  | right _ ih => exact .right ih

theorem mem_iff (h : Interleaved xs ys zs) {z : α} : z ∈ zs ↔ z ∈ xs ∨ z ∈ ys := by
  induction h with
  | nil => simp
  | left _ ih => simp [ih, or_assoc]
  | right _ ih => simp [ih, or_left_comm]

/-- A test that the whole second list fails picks from the first list only. -/
theorem filter_eq (h : Interleaved xs ys zs) (hys : ∀ y ∈ ys, test y = false) :
    zs.filter test = xs.filter test := by
  induction h with
  | nil => rfl
  | left _ ih => rw [List.filter_cons, List.filter_cons, ih hys]
  | right _ ih =>
    rw [List.forall_mem_cons] at hys
    rw [List.filter_cons_of_neg (by simp [hys.1]), ih hys.2]

theorem find?_eq (h : Interleaved xs ys zs) (hys : ∀ y ∈ ys, test y = false) :
    zs.find? test = xs.find? test := by
  rw [← List.head?_filter, h.filter_eq hys, List.head?_filter]

end Interleaved

/-- A composite `d` that declares what `c` does and, at any places, the optional fields `added`,
under names that `c` does not declare. -/
structure Composite.GrownBy (c : Composite) (added : List Field) (d : Composite) : Prop where
  others : d = { c with fields := d.fields }
  fields : Interleaved c.fields added d.fields
  optional : ∀ f ∈ added, f.required = false
  fresh : ∀ f ∈ added, f.name ∉ c.fields.map (·.name)

namespace Composite.GrownBy
variable {c d : Composite} {added : List Field}

theorem additional_eq (h : c.GrownBy added d) : d.additional = c.additional := by
  rw [h.others]

theorem field?_eq (h : c.GrownBy added d) {name : String} (hname : name ∉ added.map (·.name)) :
    d.field? name = c.field? name := by
  refine h.fields.find?_eq fun f hf => beq_eq_false_iff_ne.2 ?_
  rintro rfl
  exact hname (List.mem_map.2 ⟨f, hf, rfl⟩)

theorem requiredNames_eq (h : c.GrownBy added d) : d.requiredNames = c.requiredNames := by
  rw [requiredNames, requiredNames, Field.requiredNames, Field.requiredNames,
    h.fields.filter_eq h.optional]

end Composite.GrownBy

/-- An object `p` that holds the entries of `o` in order and, in between, the fields `added`, all of
them unset; every reader finds the same in both. -/
structure ObjectInstance.GrownBy (o : ObjectInstance) (added : List Field) (p : ObjectInstance) :
    Prop where
  kept : p.entries.filter (fun e => e.1 ∉ added.map (·.name)) = o.entries
  held : ∀ f ∈ added, (f.name, .unset) ∈ p.entries
  unset : ∀ e ∈ p.entries, e.1 ∈ added.map (·.name) → e.2 = .unset
  additional : p.additional = o.additional
  field : ∀ name, p.field name = o.field name
  encode : p.encode = o.encode

namespace Validator
variable {c d : Composite} {added : List Field} {read : List (String × Presence Instance)}

theorem not_mem_names_of_lookup {α : Type} {entries : List (String × α)}
    (hnone : ∀ f ∈ added, entries.lookup f.name = none) {e : String × α} (he : e ∈ entries) :
    e.1 ∉ added.map (·.name) := by
  intro hmem
  obtain ⟨f, hf, hname⟩ := List.mem_map.1 hmem
  obtain ⟨a, ha⟩ := Members.exists_lookup_of_mem he
  have hnot := hnone f hf
  rw [hname, ha] at hnot
  cases hnot

theorem applyMember_grown {f : Schema → Json → Except ValidationError Instance}
    (h : c.GrownBy added d) {m : String × Json} (hm : m.1 ∉ added.map (·.name)) :
    applyMember f d m = applyMember f c m := by
  obtain ⟨name, raw⟩ := m
  simp only [applyMember, h.field?_eq hm, h.additional_eq]

/-- What was additional stays so, since none of it has a new name. -/
theorem additionalEntries_grown (h : c.GrownBy added d)
    (hread : ∀ f ∈ added, read.lookup f.name = none) :
    additionalEntries d read = additionalEntries c read := by
  refine List.filter_congr fun e he => ?_
  have hfield := h.field?_eq (not_mem_names_of_lookup hread he)
  simp only [hfield]

/-- The new fields stand among the declared entries. -/
theorem arrange_grown (h : c.GrownBy added d) (hread : ∀ f ∈ added, read.lookup f.name = none) :
    Interleaved (arrange c read) (added.map fun f => (f.name, .unset)) (arrange d read) := by
  have hunset : (added.map fun f => (f.name, (read.lookup f.name).getD .unset)) =
      added.map fun f => (f.name, .unset) :=
    List.map_congr_left fun f hf => by rw [hread f hf, Option.getD_none]
  have hdeclared : Interleaved (declaredEntries c read) (added.map fun f => (f.name, .unset))
      (declaredEntries d read) := by
    rw [← hunset]
    exact h.fields.map _
  rw [arrange_eq, arrange_eq, additionalEntries_grown h hread]
  exact hdeclared.append_left _

theorem not_mem_names_of_mem_arrange (h : c.GrownBy added d)
    (hread : ∀ f ∈ added, read.lookup f.name = none) {e : String × Presence Instance}
    (he : e ∈ arrange c read) : e.1 ∉ added.map (·.name) := by
  rw [arrange_eq, List.mem_append] at he
  obtain he | he := he
  · obtain ⟨g, hg, rfl⟩ := List.mem_map.1 he
    intro hmem
    obtain ⟨f, hf, hname⟩ := List.mem_map.1 hmem
    exact h.fresh f hf (List.mem_map.2 ⟨g, hg, hname.symm⟩)
  · exact not_mem_names_of_lookup hread (mem_additional.1 he).1

theorem grownBy_arrange (h : c.GrownBy added d) (hread : ∀ f ∈ added, read.lookup f.name = none) :
    ObjectInstance.GrownBy ⟨c, arrange c read⟩ added ⟨d, arrange d read⟩ := by
  have hentries := arrange_grown h hread
  have hold (e : String × Presence Instance) (he : e ∈ arrange c read) :
      e.1 ∉ added.map (·.name) :=
    not_mem_names_of_mem_arrange h hread he
  refine ⟨?kept, fun f hf => ?held, ?unset, ?additional, fun name => ?field, ?encode⟩
  case kept =>
    have hnew (e : String × Presence Instance) (he : e ∈ added.map fun f => (f.name, .unset)) :
        decide (e.1 ∉ added.map (·.name)) = false := by
      obtain ⟨f, hf, rfl⟩ := List.mem_map.1 he
      exact decide_eq_false (not_not.2 (List.mem_map.2 ⟨f, hf, rfl⟩))
    rw [hentries.filter_eq hnew, List.filter_eq_self]
    exact fun e he => decide_eq_true (hold e he)
  case held => exact hentries.mem_iff.2 (.inr (List.mem_map.2 ⟨f, hf, rfl⟩))
  case unset =>
    intro e he hnew
    obtain he | he := hentries.mem_iff.1 he
    · exact absurd hnew (hold e he)
    · obtain ⟨f, -, rfl⟩ := List.mem_map.1 he
      rfl
  case additional =>
    rw [arrange_eq, arrange_eq, additional_declared_append, additional_declared_append,
      additionalEntries_grown h hread]
  case field => rw [field_arrange, field_arrange]
  case encode =>
    have hset : (arrange d read).filter (·.2.isSet) = (arrange c read).filter (·.2.isSet) :=
      hentries.filter_eq (by simp [Presence.isSet])
    change Instance.encodeEntries (arrange d read) = Instance.encodeEntries (arrange c read)
    rw [Instance.encodeEntries_eq, Instance.encodeEntries_eq, hset]

/-- Optional fields under new names change nothing for a payload that does not send them: it is
valid as before, with the new fields unset and all else as it was, or it is refused with the same
error. -/
theorem validateComposite_grown (v : Validator) {c d : Composite} {added : List Field} {raw : Json}
    (h : c.GrownBy added d) (hraw : ∀ f ∈ added, raw.child? (.field f.name) = none) :
    (∃ o p, v.validateComposite c raw = .ok o ∧ v.validateComposite d raw = .ok p ∧
        o.GrownBy added p) ∨
      ∃ e, v.validateComposite c raw = .error e ∧ v.validateComposite d raw = .error e := by
  cases raw with
  | object members =>
    have hmembers (f : Schema → Json → Except ValidationError Instance) :
        members.mapM (applyMember f d) = members.mapM (applyMember f c) :=
      mapM_congr fun m hm => applyMember_grown h (not_mem_names_of_lookup hraw hm)
    -- up to here both runs are one; they part when the entries are arranged
    simp only [validateComposite, applyComposite, h.requiredNames_eq, hmembers]
    cases v.enter v.atRoot with
    | error e => exact .inr ⟨e, rfl, rfl⟩
    | ok f =>
      simp only [ok_bind]
      cases c.requiredNames.find? fun name => (members.lookup name).isNone with
      | some name => exact .inr ⟨_, rfl, rfl⟩
      | none =>
        cases hread : members.mapM (applyMember f c) with
        | error e => exact .inr ⟨e, rfl, rfl⟩
        | ok read =>
          refine .inl ⟨_, _, rfl, rfl, grownBy_arrange h fun g hg => ?_⟩
          rw [lookup_of_mapM hread, show members.lookup g.name = none from hraw g hg]
          rfl
  | _ => exact .inr ⟨_, rfl, rfl⟩

def taggedNoteSchema : Composite :=
  { noteSchema with
    fields :=
      [⟨"author", .leaf .string, false, false, none⟩, ⟨"text", .leaf .string, true, false, none⟩,
        ⟨"tags", .list (.leaf .string) none none, false, true, none⟩,
        ⟨"title", .leaf .string, false, false, none⟩] }

def noteAdditions : List Field :=
  [⟨"author", .leaf .string, false, false, none⟩,
    ⟨"tags", .list (.leaf .string) none none, false, true, none⟩]

theorem noteSchema_grownBy : noteSchema.GrownBy noteAdditions taggedNoteSchema where
  others := rfl
  fields := .right (.left (.right (.left .nil)))
  optional := by simp [noteAdditions]
  fresh := by simp [noteAdditions, noteSchema]

/-- A note from before is still valid, and one without its text is still refused. -/
theorem note_grown :
    noteSchema.GrownBy noteAdditions taggedNoteSchema ∧
      (∀ f ∈ noteAdditions, notePayload.child? (.field f.name) = none) ∧
      noteValidator.validateComposite noteSchema notePayload = .ok noteObject ∧
      (∃ p, noteValidator.validateComposite taggedNoteSchema notePayload = .ok p ∧
        noteObject.GrownBy noteAdditions p) ∧
      noteValidator.validateComposite noteSchema (.object []) =
        .error (.here (.missingField "text")) ∧
      noteValidator.validateComposite taggedNoteSchema (.object []) =
        .error (.here (.missingField "text")) := by
  have hnew : ∀ f ∈ noteAdditions, notePayload.child? (.field f.name) = none := by decide
  have hempty : ∀ f ∈ noteAdditions, (Json.object []).child? (.field f.name) = none :=
    fun _ _ => rfl
  have hmissing : noteValidator.validateComposite noteSchema (.object []) =
      .error (.here (.missingField "text")) := by
    cbv
  refine ⟨noteSchema_grownBy, hnew, noteValidator_note, ?_, hmissing, ?_⟩
  · obtain ⟨o, p, ho, hp, hgrown⟩ | ⟨e, he, -⟩ :=
      validateComposite_grown noteValidator noteSchema_grownBy hnew
    · cases noteValidator_note.symm.trans ho
      exact ⟨p, hp, hgrown⟩
    · cases noteValidator_note.symm.trans he
  · obtain ⟨o, p, ho, -⟩ | ⟨e, he, hagain⟩ :=
      validateComposite_grown noteValidator noteSchema_grownBy hempty
    · cases hmissing.symm.trans ho
    · cases hmissing.symm.trans he
      exact hagain

end Validator
end PayloadSchema
