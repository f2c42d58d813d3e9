import Mathlib
import PayloadSchema.Proofs.Validation.Recursion

/-!
What a union commits to. The shape check looks at a list or an object from the outside only, so what
such a value holds has no say in which alternative is taken; it only decides how that one ends.
-/
namespace PayloadSchema
open Outcome

inductive Json.SameContainer : Json → Json → Prop
  | lists (items items' : List Json) : SameContainer (.array items) (.array items')
  | objects (members members' : Members) : SameContainer (.object members) (.object members')

namespace Json.SameContainer
variable {raw raw' : Json}

/-- Kinds that read text or numbers refuse every container, and `any` takes every one. -/
theorem accepts_eq (h : raw.SameContainer raw') (kind : Kind) :
    kind.accepts raw = kind.accepts raw' := by
  cases h <;> cases kind <;> rfl

theorem shape_eq (h : raw.SameContainer raw') : raw.shape = raw'.shape := by
  cases h <;> rfl

end Json.SameContainer

namespace Validator
variable {v : Validator} {raw raw' : Json} {room : Nat} {s : Schema} {cs : List Schema}

/-- The check does not look into containers, nor does it through references and nested unions. -/
theorem acceptsShape_container (h : raw.SameContainer raw') :
    v.acceptsShape raw room s = v.acceptsShape raw' room s := by
  induction room generalizing s with
  | zero => rfl
  | succ room ih =>
    cases s with
    | primitive kind c => rw [acceptsShape, acceptsShape, h.accepts_eq]
    | ref name =>
      rw [acceptsShape, acceptsShape]
      cases v.registry.resolve (.ref name) with
      | error e => rfl
      | ok t => exact ih
    | union cs =>
      have hinner : v.acceptsShape raw room = v.acceptsShape raw' room := funext fun t => ih
      rw [acceptsShape, acceptsShape, hinner]
    | _ => cases h <;> rfl

/-- The place of the alternative that a union commits to: the first one that fits the shape. -/
def commit (v : Validator) (raw : Json) (room : Nat) (cs : List Schema) :
    Except ValidationError (Fin cs.length) := do
  match ← (List.finRange cs.length).findM? fun i => v.acceptsShape raw room (cs.get i) with
  | some i => pure i
  | none => .error (.here (.noAlternative (Schema.typeNames cs) raw.shape))

theorem choose_eq_commit (v : Validator) (raw : Json) (room : Nat) (cs : List Schema) :
    v.choose raw room cs = (v.commit raw room cs).map cs.get := by
  have hsearch : cs.findM? (v.acceptsShape raw room) =
      ((List.finRange cs.length).findM? fun i => v.acceptsShape raw room (cs.get i)).map
        (Option.map cs.get) := by
    rw [← findM?_map, List.map_get_finRange]
  rw [choose, commit, hsearch]
  cases (List.finRange cs.length).findM? fun i => v.acceptsShape raw room (cs.get i) with
  | error e => rfl
  | ok found => cases found <;> rfl

/-- From its commitment on, a union is the alternative at that place. -/
theorem apply_union_commit (v : Validator) (raw : Json) (room : Nat) (cs : List Schema) :
    v.apply room (.union cs) raw =
      v.commit raw room cs >>= fun i => v.apply room (cs.get i) raw := by
  rw [apply_union_eq, choose_eq_commit]
  cases v.commit raw room cs <;> rfl

theorem commit_container (h : raw.SameContainer raw') :
    v.commit raw room cs = v.commit raw' room cs := by
  have hshape (i : Fin cs.length) :
      v.acceptsShape raw room (cs.get i) = v.acceptsShape raw' room (cs.get i) :=
    acceptsShape_container h
  simp only [commit, hshape, h.shape_eq]

/-- Two lists, or two objects, make a union commit to the same alternative, whose result is then the
result of the union whatever stands after it; or they fail before it with the same error. -/
theorem union_ignores_contents (v : Validator) (room : Nat) (cs : List Schema) {raw raw' : Json}
    (h : raw.SameContainer raw') :
    (∃ i, v.commit raw room cs = .ok i ∧ v.commit raw' room cs = .ok i ∧
        v.apply room (.union cs) raw = v.apply room (cs.get i) raw ∧
        v.apply room (.union cs) raw' = v.apply room (cs.get i) raw') ∨
      ∃ e, v.commit raw room cs = .error e ∧ v.commit raw' room cs = .error e ∧
        v.apply room (.union cs) raw = .error e ∧ v.apply room (.union cs) raw' = .error e := by
  have hsame : v.commit raw room cs = v.commit raw' room cs := commit_container h
  rw [apply_union_commit, apply_union_commit, ← hsame]
  cases v.commit raw room cs with
  | ok i => exact .inl ⟨i, rfl, rfl, rfl, rfl⟩
  | error e => exact .inr ⟨e, rfl, rfl, rfl, rfl⟩

def looseNests : List Schema := [.ref nestName, .leaf .any]

/-- A list with too many nests is taken for a nest and refused, although anything would do. -/
theorem nest_ignores_contents :
    nestPayload.SameContainer widePayload ∧
      Validator.commit ⟨nestRegistry, 4⟩ nestPayload 4 looseNests = .ok ⟨0, by decide⟩ ∧
      Validator.commit ⟨nestRegistry, 4⟩ widePayload 4 looseNests = .ok ⟨0, by decide⟩ ∧
      Validator.apply ⟨nestRegistry, 4⟩ 4 (.union looseNests) nestPayload = .ok nestInstance ∧
      Validator.apply ⟨nestRegistry, 4⟩ 4 (.union looseNests) widePayload = .error wideError ∧
      Validator.apply ⟨nestRegistry, 4⟩ 4 (.leaf .any) widePayload = .ok (.any widePayload) := by
  have hlists : nestPayload.SameContainer widePayload := .lists _ _
  have hcommit : Validator.commit ⟨nestRegistry, 4⟩ nestPayload 4 looseNests =
      .ok ⟨0, by decide⟩ := by
    cbv
  have hnest : Validator.apply ⟨nestRegistry, 4⟩ 4 (.ref nestName) nestPayload =
      .ok nestInstance := by
    cbv
  have hwide : Validator.apply ⟨nestRegistry, 4⟩ 4 (.ref nestName) widePayload =
      .error wideError := by
    cbv
  obtain ⟨i, hi, hi', hfirst, hsecond⟩ | ⟨e, he, -⟩ :=
    union_ignores_contents ⟨nestRegistry, 4⟩ 4 looseNests hlists
  · cases hcommit.symm.trans hi
    exact ⟨hlists, hcommit, hi', hfirst.trans hnest, hsecond.trans hwide, rfl⟩
  · cases hcommit.symm.trans he

end Validator
end PayloadSchema
