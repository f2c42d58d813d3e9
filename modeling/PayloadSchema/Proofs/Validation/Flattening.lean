import Mathlib
import PayloadSchema.Proofs.Validation.Recursion

/-!
Unions inside unions. The alternatives of a nested union are checked with one level less and chosen
among once more when the union is applied. Unless room runs out, this is the same as to write them
in the place of the nested union.
-/
namespace PayloadSchema
open Outcome

/-- Lists of alternatives of which the second one is the first with nested unions spliced: each is
replaced by its own alternatives, or kept, and in either case unions inside it may be spliced. -/
inductive Spliced : List Schema → List Schema → Prop
  | nil : Spliced [] []
  | keep {s : Schema} {cs ds : List Schema} (h : Spliced cs ds) : Spliced (s :: cs) (s :: ds)
  | within {inner inner' cs ds : List Schema} (hi : Spliced inner inner') (h : Spliced cs ds) :
      Spliced (.union inner :: cs) (.union inner' :: ds)
  | splice {inner inner' cs ds : List Schema} (hi : Spliced inner inner') (h : Spliced cs ds) :
      Spliced (.union inner :: cs) (inner' ++ ds)

theorem Spliced.refl (cs : List Schema) : Spliced cs cs := by
  induction cs with
  | nil => exact .nil
  | cons s cs ih => exact .keep ih

/-- One nested union that is spliced where it stands. -/
theorem Spliced.one (before inner after : List Schema) :
    Spliced (before ++ .union inner :: after) (before ++ (inner ++ after)) := by
  induction before with
  | nil =>
    rw [List.nil_append, List.nil_append]
    exact .splice (.refl inner) (.refl after)
  | cons s before ih => exact .keep ih

def goOn {ε α : Type} (rest : Except ε (Option α)) : Option α → Except ε (Option α)
  | some a => .ok (some a)
  | none => rest

theorem AgreesUnless.bind_goOn {α : Type} {p : Cause → Prop}
    {x y rest rest' : Except ValidationError (Option α)} (h : AgreesUnless p x y)
    (hrest : AgreesUnless p rest rest') :
    AgreesUnless p (x >>= goOn rest) (y >>= goOn rest') := by
  refine h.bind fun found _ => ?_
  cases found with
  | some a => exact .refl _
  | none => exact hrest

namespace Validator
variable {v : Validator} {raw : Json} {room r r' : Nat} {s : Schema} {cs ds inner : List Schema}

/-- What the first alternative that passes the shape check with room `r` makes of a raw value. -/
def attempt (v : Validator) (raw : Json) (room r : Nat) (cs : List Schema) :
    Except ValidationError (Option (Except ValidationError Instance)) :=
  (cs.findM? (v.acceptsShape raw r)).map (Option.map fun s => v.apply room s raw)

theorem attempt_cons :
    v.attempt raw room r (s :: cs) =
      v.acceptsShape raw r s >>= fun fits =>
        if fits then .ok (some (v.apply room s raw)) else v.attempt raw room r cs := by
  rw [attempt, List.findM?]
  cases v.acceptsShape raw r s with
  | error e => rfl
  | ok fits => cases fits <;> rfl

theorem attempt_append :
    v.attempt raw room r (cs ++ ds) =
      v.attempt raw room r cs >>= goOn (v.attempt raw room r ds) := by
  induction cs with
  | nil => rfl
  | cons s cs ih =>
    rw [List.cons_append, attempt_cons, attempt_cons, ih]
    cases v.acceptsShape raw r s with
    | error e => rfl
    | ok fits => cases fits <;> rfl

/-- A union makes of a raw value what its attempt makes of it. -/
theorem apply_union_attempt :
    v.apply room (.union cs) raw =
      v.attempt raw room room cs >>= fun found =>
        found.getD (.error (.here (.noAlternative (Schema.typeNames cs) raw.shape))) := by
  rw [apply_union_eq, choose, attempt]
  cases cs.findM? (v.acceptsShape raw room) with
  | error e => rfl
  | ok found => cases found <;> rfl

/-- A nested union is searched as its alternatives with one level less. The alternative it has been
accepted for is the one it takes when it is applied, where the full room is there again. -/
theorem attempt_union (hr : r ≤ room) :
    v.attempt raw room (r + 1) (.union inner :: cs) =
      v.attempt raw room r inner >>= goOn (v.attempt raw room (r + 1) cs) := by
  rw [attempt_cons, acceptsShape, anyM_eq_findM?]
  cases hfound : inner.findM? (v.acceptsShape raw r) with
  | error e =>
    simp only [attempt, hfound]
    rfl
  | ok found =>
    cases found with
    | none =>
      simp only [attempt, hfound]
      rfl
    | some t =>
      have hchoose : v.choose raw room inner = .ok t := choose_mono hr (choose_eq_ok.2 hfound)
      have happly : v.apply room (.union inner) raw = v.apply room t raw := by
        rw [apply_union_eq, hchoose, ok_bind]
      simp only [attempt, hfound]
      exact congrArg (fun x => Except.ok (some x)) happly

/-- Splicing changes nothing that an attempt finds, unless the first one runs out of room. -/
theorem attempt_spliced (h : Spliced cs ds) (hle : r ≤ r') (hroom : r' ≤ room) :
    AgreesUnless (· = .depthExceeded v.maxDepth) (v.attempt raw room r cs)
      (v.attempt raw room r' ds) := by
  induction h generalizing r r' with
  | nil => exact .refl _
  | @keep s cs ds _ ih =>
    have hshape : AgreesUnless (· = .depthExceeded v.maxDepth) (v.acceptsShape raw r s)
        (v.acceptsShape raw r' s) :=
      acceptsShape_agrees (fun _ _ => .refl _) (.less rfl hle)
    rw [attempt_cons, attempt_cons]
    refine hshape.bind fun fits _ => ?_
    cases fits with
    | true => exact .refl _
    | false => exact ih hle hroom
  | within _ _ ihi ih =>
    cases r with
    | zero => exact .fails rfl
    | succ k =>
      obtain ⟨k', rfl⟩ : ∃ k', r' = k' + 1 := ⟨r' - 1, by omega⟩
      rw [attempt_union (by omega), attempt_union (by omega)]
      exact (ihi (by omega) (by omega)).bind_goOn (ih hle hroom)
  | splice _ _ ihi ih =>
    cases r with
    | zero => exact .fails rfl
    | succ k =>
      -- on the left the inner alternatives have one level less, on the right as many as the others
      rw [attempt_union (by omega), attempt_append]
      exact (ihi (by omega) hroom).bind_goOn (ih hle hroom)

/-- A union and the union with nested ones spliced have the same outcome, where the first one does
not run out of room; if no alternative fits, both say so of the same shape. -/
theorem validate_spliced {v : Validator} {cs ds : List Schema} {raw : Json} (h : Spliced cs ds)
    (hd : ∀ e, v.validate (.union cs) raw = .error e → e.cause ≠ .depthExceeded v.maxDepth) :
    v.validate (.union cs) raw = v.validate (.union ds) raw ∨
      v.validate (.union cs) raw =
          .error (.here (.noAlternative (Schema.typeNames cs) raw.shape)) ∧
        v.validate (.union ds) raw =
          .error (.here (.noAlternative (Schema.typeNames ds) raw.shape)) := by
  rw [validate, apply_union_attempt] at hd ⊢
  rw [validate, apply_union_attempt]
  obtain hsame | ⟨e, he, hcause⟩ := attempt_spliced h (Nat.le_refl v.maxDepth) (Nat.le_refl _)
  · rw [hsame]
    cases v.attempt raw v.maxDepth v.maxDepth ds with
    | error e => exact .inl rfl
    | ok found =>
      cases found with
      | some x => exact .inl rfl
      | none => exact .inr ⟨rfl, rfl⟩
  · rw [he] at hd
    exact absurd hcause (hd e rfl)

def layeredAlternatives : List Schema :=
  [.leaf .boolean, .union [.leaf .null, .union [.leaf .integer, .leaf .uuid]], .leaf .string]

def flatAlternatives : List Schema :=
  [.leaf .boolean, .leaf .null, .leaf .integer, .leaf .uuid, .leaf .string]

theorem layered_spliced : Spliced layeredAlternatives flatAlternatives := by
  have hinner : Spliced [.leaf .null, .union [.leaf .integer, .leaf .uuid]]
      [.leaf .null, .leaf .integer, .leaf .uuid] :=
    .one [.leaf .null] [.leaf .integer, .leaf .uuid] []
  exact .keep (.splice hinner (.refl [.leaf .string]))

/-- Three levels are enough for the layers: a number is found in the innermost one, and a list in
none. -/
theorem layered_validate :
    Spliced layeredAlternatives flatAlternatives ∧
      Validator.validate ⟨.empty, 3⟩ (.union layeredAlternatives) (.number (.ofInt 7)) =
        .ok (.integer 7) ∧
      Validator.validate ⟨.empty, 3⟩ (.union flatAlternatives) (.number (.ofInt 7)) =
        .ok (.integer 7) ∧
      Validator.validate ⟨.empty, 3⟩ (.union layeredAlternatives) (.array []) =
        .error (.here (.noAlternative (Schema.typeNames layeredAlternatives) "list")) ∧
      Validator.validate ⟨.empty, 3⟩ (.union flatAlternatives) (.array []) =
        .error (.here (.noAlternative (Schema.typeNames flatAlternatives) "list")) := by
  have hseven : Validator.validate ⟨.empty, 3⟩ (.union layeredAlternatives) (.number (.ofInt 7)) =
      .ok (.integer 7) := by
    cbv
  have hlist : Validator.validate ⟨.empty, 3⟩ (.union layeredAlternatives) (.array []) =
      .error (.here (.noAlternative (Schema.typeNames layeredAlternatives) "list")) := by
    cbv
  refine ⟨layered_spliced, hseven, ?_, hlist, ?_⟩
  · have hd (e : ValidationError) (he : Validator.validate ⟨.empty, 3⟩ (.union layeredAlternatives)
        (.number (.ofInt 7)) = .error e) : e.cause ≠ .depthExceeded 3 := by
      cases hseven.symm.trans he
    obtain hsame | ⟨hnone, -⟩ := validate_spliced layered_spliced hd
    · exact hsame.symm.trans hseven
    · cases hseven.symm.trans hnone
  · have hd (e : ValidationError) (he : Validator.validate ⟨.empty, 3⟩ (.union layeredAlternatives)
        (.array []) = .error e) : e.cause ≠ .depthExceeded 3 := by
      cases hlist.symm.trans he
      rintro ⟨⟩
    obtain hsame | ⟨-, hnone⟩ := validate_spliced layered_spliced hd
    · cbv at hsame
    · exact hnone

end Validator
end PayloadSchema
