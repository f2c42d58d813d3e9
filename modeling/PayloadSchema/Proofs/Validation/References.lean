import Mathlib
import PayloadSchema.Proofs.Validation.Stability

/-!
The names that a schema refers to, directly and through what is registered under them. Validation
looks up no other names, so that registries which agree on these give the same outcomes.
-/
namespace PayloadSchema
open Outcome

namespace Schema
variable {s t : Schema} {name : SchemaName}

theorem mem_listReferences {cs : List Schema} (hs : s ∈ cs) (h : name ∈ s.references) :
    name ∈ listReferences cs := by
  induction cs with
  | nil => cases hs
  | cons c cs ih =>
    rw [listReferences, List.mem_append]
    obtain rfl | hs := List.mem_cons.1 hs
    · exact .inl h
    · exact .inr (ih hs)

theorem mem_fieldReferences {fields : List Field} {f : Field} (hf : f ∈ fields)
    (h : name ∈ f.schema.references) : name ∈ fieldReferences fields := by
  induction fields with
  | nil => cases hf
  | cons g fields ih =>
    cases g
    rw [fieldReferences, List.mem_append]
    obtain rfl | hf := List.mem_cons.1 hf
    · exact .inl h
    · exact .inr (ih hf)

theorem references_object (c : Composite) :
    (Schema.object c).references = fieldReferences c.fields ++ policyReferences c.additional := by
  cases c
  rfl

/-- A schema refers to what its parts refer to. -/
theorem mem_references_of_part (hp : Part t s) (h : name ∈ t.references) : name ∈ s.references := by
  cases hp with
  | items => exact h
  | values => exact h
  | field hf =>
    rw [references_object, List.mem_append]
    exact .inl (mem_fieldReferences hf h)
  | additional ha =>
    rw [references_object, List.mem_append, ha]
    exact .inr h
  | candidate hs => exact mem_listReferences hs h

end Schema

namespace Registry
variable {r r' : Registry} {s t : Schema} {name : SchemaName}

/-- The names that a schema refers to, or that what is registered under such a name refers to. -/
inductive RefersTo (r : Registry) : Schema → SchemaName → Prop
  | written {s : Schema} {name : SchemaName} (h : name ∈ s.references) : RefersTo r s name
  | through {s t : Schema} {name other : SchemaName} (h : name ∈ s.references)
      (hr : r.get? name.text = some t) (ht : RefersTo r t other) : RefersTo r s other

theorem RefersTo.of_part (hp : Schema.Part t s) (h : r.RefersTo t name) : r.RefersTo s name := by
  cases h with
  | written h => exact .written (Schema.mem_references_of_part hp h)
  | through h hr ht => exact .through (Schema.mem_references_of_part hp h) hr ht

theorem RefersTo.of_get? {other : SchemaName} (hr : r.get? name.text = some t)
    (h : r.RefersTo t other) : r.RefersTo (.ref name) other :=
  .through (List.mem_singleton.2 rfl) hr h

theorem RefersTo.of_reaches (hreach : r.Reaches s t) (h : r.RefersTo t name) :
    r.RefersTo s name := by
  induction hreach with
  | refl s => exact h
  | part hp _ ih => exact .of_part hp (ih h)
  | ref hr _ ih => exact .of_get? hr (ih h)

/-- A list of names that holds what the schema refers to, and what the schemas registered under its
names refer to, holds all names. -/
theorem RefersTo.mem_of_closed {names : List SchemaName} (h : r.RefersTo s name)
    (hs : ∀ n ∈ s.references, n ∈ names)
    (hclosed : ∀ n ∈ names, ∀ t, r.get? n.text = some t → ∀ m ∈ t.references, m ∈ names) :
    name ∈ names := by
  induction h with
  | written h => exact hs _ h
  | through h hr _ ih => exact ih (hclosed _ (hs _ h) _ hr)

theorem resolveFrom_congr (start : String) (n : Nat)
    (h : ∀ name, r.RefersTo s name → r.get? name.text = r'.get? name.text) :
    r.resolveFrom start n s = r'.resolveFrom start n s := by
  induction n generalizing s with
  | zero => rfl
  | succ n ih =>
    cases s with
    | ref name =>
      have hname := h name (.written (List.mem_singleton.2 rfl))
      rw [resolveFrom, resolveFrom, ← hname]
      cases hget : r.get? name.text with
      | none => rfl
      | some t => exact ih fun other ht => h other (.of_get? hget ht)
    | _ => rfl

end Registry

namespace Validator

/-- Validation depends only on what is registered under the names that the schema refers to. -/
theorem validate_of_references {r r' : Registry} {s : Schema}
    (h : ∀ name, r.RefersTo s name → r.get? name.text = r'.get? name.text) (limit : Nat)
    (raw : Json) :
    Validator.validate ⟨r, limit⟩ s raw = Validator.validate ⟨r', limit⟩ s raw := by
  have hresolve : r.Throughout (ResolveAgree (fun _ => False) ⟨r, limit⟩ ⟨r', limit⟩) s := by
    intro t ht
    exact .inl (Registry.resolveFrom_congr _ _ fun name hname => h name (.of_reaches ht hname))
  have hrun : AgreesUnless (fun _ => False) (Validator.validate ⟨r, limit⟩ s raw)
      (Validator.validate ⟨r', limit⟩ s raw) :=
    apply_agrees hresolve (.even (by rfl) limit)
  obtain hsame | ⟨e, -, hfalse⟩ := hrun
  · exact hsame
  · exact hfalse.elim

def nestCountRegistry : Registry where
  entries := [(nestName, nestSchema), (textName, .leaf .integer)]
  sorted := by
    rw [List.pairwise_pair]
    decide

theorem nestText_refersTo {name : SchemaName}
    (h : nestTextRegistry.RefersTo (.ref nestName) name) : name = nestName := by
  have hclosed : ∀ n ∈ [nestName], ∀ t, nestTextRegistry.get? n.text = some t →
      ∀ m ∈ t.references, m ∈ [nestName] := by
    intro n hn t ht
    cases List.mem_singleton.1 hn
    cases ht
    decide
  exact List.mem_singleton.1 (h.mem_of_closed (by decide) hclosed)

/-- Nests refer to nests only, so that it does not matter what text is. -/
theorem nest_of_references :
    nestTextRegistry.get? "Text" = some (.leaf .string) ∧
      nestCountRegistry.get? "Text" = some (.leaf .integer) ∧
      (∀ name, nestTextRegistry.RefersTo (.ref nestName) name →
        nestTextRegistry.get? name.text = nestCountRegistry.get? name.text) ∧
      Validator.validate ⟨nestTextRegistry, 4⟩ (.ref nestName) nestPayload = .ok nestInstance ∧
      Validator.validate ⟨nestTextRegistry, 4⟩ (.ref nestName) nestPayload =
        Validator.validate ⟨nestCountRegistry, 4⟩ (.ref nestName) nestPayload := by
  have hnames : ∀ name, nestTextRegistry.RefersTo (.ref nestName) name →
      nestTextRegistry.get? name.text = nestCountRegistry.get? name.text := by
    intro name h
    rw [nestText_refersTo h]
    rfl
  have h : Validator.validate ⟨nestTextRegistry, 4⟩ (.ref nestName) nestPayload =
      .ok nestInstance := by
    cbv
  exact ⟨rfl, rfl, hnames, h, validate_of_references hnames 4 nestPayload⟩

end Validator
end PayloadSchema
