import Mathlib
import PayloadSchema.Proofs.Validation.ErrorPath
import PayloadSchema.Proofs.Validation.Room

/-!
The shape check of unions against validation itself. A value that passes the check is refused only
for what it holds; a value that is valid passes the check, as far as the check has room to answer.
-/
namespace PayloadSchema
open Outcome

/-- A cause that lies in what a value holds: not in its shape, in a reference or in its depth. -/
def Cause.IsContent : Cause → Prop
  | .constraint _ _ => True
  | .missingField _ => True
  | .unexpectedField _ => True
  | _ => False

def ValidationError.PastShape (e : ValidationError) : Prop := e.path = [] → e.cause.IsContent

namespace Validator
variable {v : Validator} {raw : Json} {room : Nat} {s : Schema} {e : ValidationError}

section
variable {f : Schema → Json → Except ValidationError Instance}

theorem MemberRefuses.pastShape {c : Composite} {m : String × Json}
    (h : MemberRefuses (fun s raw d => f s raw = .error d) c m e) : e.PastShape := by
  cases h with
  | declared _ h =>
    intro hpath
    cases h <;> cases hpath
  | additional _ h =>
    generalize c.additional = policy at h
    cases h with
    | forbidden => exact fun _ => trivial
    | typed =>
      intro hpath
      cases hpath

/-- A value that fits the shape of a leaf or a container is refused for its content only. -/
theorem pastShape_of_applyHead (hs : s.IsHead) (ha : v.acceptsShape raw 1 s = .ok true)
    (h : v.applyHead (some f) s raw = .error e) : e.PastShape := by
  cases headRefuses_of_applyHead hs h with
  | constraint => exact fun _ => trivial
  | mismatch _ hnot => cases ha.symm.trans hnot
  | notAnObject hnot => cases ha.symm.trans hnot
  | deep hi => cases hi
  | item =>
    intro hpath
    cases hpath
  | entry =>
    intro hpath
    cases hpath
  | missing => exact fun _ => trivial
  | member _ _ hmember => exact hmember.pastShape

end

theorem acceptsShape_of_applyHead {inner : Inner} {i : Instance}
    (h : v.applyHead inner s raw = .ok i) : v.acceptsShape raw 1 s = .ok true := by
  rcases applyHead_eq_ok.1 h with ⟨kind, c, rfl, h⟩ | ⟨f, -, h⟩
  · exact congrArg Except.ok (Kind.accepts_of_convert (Kind.coerce_eq_ok.1 h).1)
  · cases h <;> rfl

/-- What passes the shape check is settled on a leaf or a container that passes it too: a nested
union finds the same alternative with more room as it did when it was checked with less. -/
theorem settle_of_acceptsShape {room' n : Nat} (hle : room ≤ room') (hn : room ≤ n)
    (h : v.acceptsShape raw room s = .ok true) :
    ∃ head, v.settle raw room' n s = .ok head ∧ head.IsHead ∧
      v.acceptsShape raw 1 head = .ok true := by
  induction room generalizing n s with
  | zero => cases h
  | succ room ih =>
    obtain ⟨k, rfl⟩ : ∃ k, n = k + 1 := ⟨n - 1, by omega⟩
    have hk : room ≤ k := by omega
    have hroom : room ≤ room' := by omega
    cases s with
    | ref name =>
      obtain ⟨t, ht, h⟩ := bind_eq_ok.1 h
      obtain ⟨head, hsettle, hhead⟩ := ih hroom hk h
      exact ⟨head, bind_eq_ok.2 ⟨t, ht, hsettle⟩, hhead⟩
    | union cs =>
      obtain ⟨t, hfound⟩ := anyM_eq_true.1 h
      have hchoose : v.choose raw room cs = .ok t := bind_eq_ok.2 ⟨some t, hfound, rfl⟩
      obtain ⟨head, hsettle, hhead⟩ := ih hroom hk (findM?_eq_ok_some hfound).2
      exact ⟨head, bind_eq_ok.2 ⟨t, choose_mono hroom hchoose, hsettle⟩, hhead⟩
    | _ => exact ⟨_, rfl, trivial, h⟩

/-- What is settled on a leaf or a container that passes the shape check passes it too, unless the
check runs out of room. -/
theorem acceptsShape_of_settle {room' n : Nat} {head : Schema} (hle : room ≤ room')
    (h : v.settle raw room' n s = .ok head) (ha : v.acceptsShape raw 1 head = .ok true) :
    AgreesUnless (· = .depthExceeded v.maxDepth) (v.acceptsShape raw room s) (.ok true) := by
  induction n generalizing room s with
  | zero => cases h
  | succ n ih =>
    cases room with
    | zero => exact .fails rfl
    | succ room =>
      have hroom : room ≤ room' := by omega
      cases s with
      | ref name =>
        obtain ⟨t, ht, h⟩ := bind_eq_ok.1 h
        rw [acceptsShape, ht]
        exact ih hroom h
      | union cs =>
        obtain ⟨t, ht, -⟩ := bind_eq_ok.1 h
        obtain ⟨found, hfound, ht⟩ := bind_eq_ok.1 ht
        cases found with
        | none => cases ht
        | some t =>
          rw [← anyM_eq_true.2 ⟨t, hfound⟩]
          exact .anyM fun u _ => acceptsShape_agrees (fun _ _ => .refl _) (.less rfl hroom)
      | _ =>
        cases h
        exact .inl ha

/-- The shape check and validation with the same room. A value that passes the check fails where it
stands only for a constraint, a missing field or an unexpected one. A value that is valid passes the
check or exceeds its depth. -/
theorem acceptsShape_matches_apply (v : Validator) (raw : Json) (room : Nat) (s : Schema) :
    (v.acceptsShape raw room s = .ok true →
        ∀ e, v.apply room s raw = .error e → e.path = [] → e.cause.IsContent) ∧
      ∀ i, v.apply room s raw = .ok i →
        v.acceptsShape raw room s = .ok true ∨ v.acceptsShape raw room s = .error v.tooDeep := by
  constructor
  · intro ha e h
    obtain ⟨head, hsettle, hs, hhead⟩ :=
      settle_of_acceptsShape (n := room + 2) (Nat.le_refl room) (by omega) ha
    rw [apply_eq, hsettle] at h
    cases room with
    | zero => cases ha
    | succ room => exact pastShape_of_applyHead hs hhead h
  · intro i h
    rw [apply_eq] at h
    obtain ⟨head, hsettle, h⟩ := bind_eq_ok.1 h
    rcases acceptsShape_of_settle (Nat.le_refl room) hsettle (acceptsShape_of_applyHead h) with
      ha | ⟨e, he, hcause⟩
    · exact .inl ha
    · rcases acceptsShape_eq_error he with ⟨name, rfl⟩ | rfl
      · cases hcause
      · exact .inr he

def nestName : SchemaName := ⟨"Nest", by decide⟩

def nestSchema : Schema := .union [.leaf .integer, .list (.ref nestName) none (some 2)]

def nestRegistry : Registry := ⟨[(nestName, nestSchema)], List.pairwise_singleton _ _⟩

def nestPayload : Json := .array [.array [.number (.ofInt 7)]]

def nestInstance : Instance := .list [.list [.integer 7]]

def widePayload : Json := .array [.null, .null, .null]

def wideError : ValidationError :=
  .here (.constraint "max_items" "3 items, at most 2 allowed")

/-- Too many nests have the right shape and are refused for their number. -/
theorem nest_acceptsShape :
    Validator.acceptsShape ⟨nestRegistry, 4⟩ widePayload 4 (.ref nestName) = .ok true ∧
      Validator.apply ⟨nestRegistry, 4⟩ 4 (.ref nestName) widePayload = .error wideError ∧
      wideError.path = [] ∧ wideError.cause.IsContent ∧
      Validator.apply ⟨nestRegistry, 4⟩ 4 (.ref nestName) nestPayload = .ok nestInstance ∧
      (Validator.acceptsShape ⟨nestRegistry, 4⟩ nestPayload 4 (.ref nestName) = .ok true ∨
        Validator.acceptsShape ⟨nestRegistry, 4⟩ nestPayload 4 (.ref nestName) =
          .error (Validator.tooDeep ⟨nestRegistry, 4⟩)) := by
  have ha : Validator.acceptsShape ⟨nestRegistry, 4⟩ widePayload 4 (.ref nestName) = .ok true := by
    cbv
  have hwide : Validator.apply ⟨nestRegistry, 4⟩ 4 (.ref nestName) widePayload =
      .error wideError := by
    cbv
  have hnest : Validator.apply ⟨nestRegistry, 4⟩ 4 (.ref nestName) nestPayload =
      .ok nestInstance := by
    cbv
  exact ⟨ha, hwide, rfl, (acceptsShape_matches_apply _ _ _ _).1 ha wideError hwide rfl, hnest,
    (acceptsShape_matches_apply _ _ _ _).2 nestInstance hnest⟩

end Validator
end PayloadSchema
