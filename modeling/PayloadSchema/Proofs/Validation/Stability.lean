import Mathlib
import PayloadSchema.Proofs.Registry
import PayloadSchema.Proofs.Validation.Shape

/-!
Outcomes that stay as they are: a greater limit on nesting changes only what the smaller one cut
off, and more registered schemas change only what was not found before.
-/
namespace PayloadSchema
open Outcome

namespace Validator

/-- Validation under a limit ends with an error about that limit, or as it ends under any greater
limit. -/
theorem validate_cut_or_same (r : Registry) {limit limit' : Nat} (hle : limit ≤ limit') (s : Schema)
    (raw : Json) :
    (∃ path, Validator.validate ⟨r, limit⟩ s raw = .error ⟨path, .depthExceeded limit⟩) ∨
      Validator.validate ⟨r, limit⟩ s raw = Validator.validate ⟨r, limit'⟩ s raw := by
  have hrun : AgreesUnless (· = .depthExceeded limit) (Validator.validate ⟨r, limit⟩ s raw)
      (Validator.validate ⟨r, limit'⟩ s raw) :=
    apply_agrees (fun _ _ => .refl _) (.less rfl hle)
  rcases hrun with h | ⟨e, h, hcause⟩
  · exact .inr h
  · refine .inl ⟨e.path, ?_⟩
    rw [← hcause]
    exact h

/-- Two levels do not hold the integer inside two lists, three do. -/
theorem nest_cut_or_same :
    2 ≤ 3 ∧
      Validator.validate ⟨nestRegistry, 2⟩ nestSchema nestPayload =
        .error ⟨[.index 0, .index 0], .depthExceeded 2⟩ ∧
      Validator.validate ⟨nestRegistry, 3⟩ nestSchema nestPayload = .ok nestInstance ∧
      ((∃ path, Validator.validate ⟨nestRegistry, 2⟩ nestSchema nestPayload =
          .error ⟨path, .depthExceeded 2⟩) ∨
        Validator.validate ⟨nestRegistry, 2⟩ nestSchema nestPayload =
          Validator.validate ⟨nestRegistry, 3⟩ nestSchema nestPayload) := by
  have h2 : Validator.validate ⟨nestRegistry, 2⟩ nestSchema nestPayload =
      .error ⟨[.index 0, .index 0], .depthExceeded 2⟩ := by
    cbv
  have h3 : Validator.validate ⟨nestRegistry, 3⟩ nestSchema nestPayload = .ok nestInstance := by
    cbv
  exact ⟨by decide, h2, h3, validate_cut_or_same nestRegistry (by decide) nestSchema nestPayload⟩

end Validator

def Cause.IsUnresolved (c : Cause) : Prop := ∃ name, c = .unresolvedReference name

namespace Registry
variable {r r' : Registry}

def Extends (r' r : Registry) : Prop := ∀ name s, r.get? name = some s → r'.get? name = some s

theorem extends_of_register {name : SchemaName} {s : Schema} (h : r.register name s = .ok r') :
    r'.Extends r := by
  unfold register at h
  split at h
  · cases h
  · cases h
    intro other t ht
    obtain ⟨⟨other, t⟩, hmem, rfl, rfl⟩ := mem_of_get? ht
    exact get?_of_mem (mem_place.2 (.inr hmem))

/-- A chain of references that can be followed is followed in the same way, link by link. -/
theorem resolveFrom_agrees (h : r'.Extends r) (start : String) (n : Nat) (s : Schema) :
    AgreesUnless Cause.IsUnresolved (r.resolveFrom start n s) (r'.resolveFrom start n s) := by
  induction n generalizing s with
  | zero => exact .refl _
  | succ n ih =>
    cases s with
    | ref name =>
      cases hget : r.get? name.text with
      | some t =>
        simp only [resolveFrom, hget, h _ _ hget]
        exact ih t
      | none =>
        simp only [resolveFrom, hget]
        exact .fails ⟨name.text, rfl⟩
    | _ => exact .refl _

end Registry

namespace Validator

/-- More registered schemas leave an outcome as it is, unless it was a reference that leads
nowhere. -/
theorem validate_of_extends {r r' : Registry} (hext : r'.Extends r) {limit : Nat} {s : Schema}
    {raw : Json}
    (hfound : ∀ e name, Validator.validate ⟨r, limit⟩ s raw = .error e →
      e.cause ≠ .unresolvedReference name) :
    Validator.validate ⟨r', limit⟩ s raw = Validator.validate ⟨r, limit⟩ s raw := by
  have hresolve (t : Schema) :
      ResolveAgree Cause.IsUnresolved ⟨r, limit⟩ ⟨r', limit⟩ t :=
    Registry.resolveFrom_agrees hext _ _ _
  have hrun : AgreesUnless Cause.IsUnresolved (Validator.validate ⟨r, limit⟩ s raw)
      (Validator.validate ⟨r', limit⟩ s raw) :=
    apply_agrees (fun t _ => hresolve t) (.even (by rfl) limit)
  rcases hrun with h | ⟨e, h, name, hcause⟩
  · exact h.symm
  · exact absurd hcause (hfound e name h)

def textName : SchemaName := ⟨"Text", by decide⟩

def nestTextRegistry : Registry where
  entries := [(nestName, nestSchema), (textName, .leaf .string)]
  sorted := by
    rw [List.pairwise_pair]
    decide

theorem nest_of_extends :
    nestTextRegistry.Extends nestRegistry ∧
      Validator.validate ⟨nestRegistry, 4⟩ (.ref nestName) nestPayload = .ok nestInstance ∧
      Validator.validate ⟨nestTextRegistry, 4⟩ (.ref nestName) nestPayload =
        Validator.validate ⟨nestRegistry, 4⟩ (.ref nestName) nestPayload := by
  have hregister : nestRegistry.register textName (.leaf .string) = .ok nestTextRegistry := by
    rfl
  have hext := Registry.extends_of_register hregister
  have h : Validator.validate ⟨nestRegistry, 4⟩ (.ref nestName) nestPayload =
      .ok nestInstance := by
    cbv
  refine ⟨hext, h, validate_of_extends hext fun e name he => ?_⟩
  cases h.symm.trans he

end Validator
end PayloadSchema
