import Mathlib
import PayloadSchema.Proofs.Validation.Recursion
import PayloadSchema.Proofs.Validation.Unresolved
import PayloadSchema.Proofs.Validation.Update

/-!
Names that stand for other names. What is registered under a name is reached through a reference or
by the name itself, and an object also as a composite. All three follow the same chain of
references. A reference counts the look-up of its own name, the other two do not, and each reports
the name at which it started to count if the chain does not end.
-/
namespace PayloadSchema
open Outcome

namespace Registry
variable {r : Registry} {s : Schema} {n k : Nat}

theorem follow?_add (r : Registry) (m n : Nat) (s : Schema) :
    r.follow? (m + n) s = (r.follow? m s).bind (r.follow? n) := by
  induction m generalizing s with
  | zero => rw [Nat.zero_add, follow?, Option.bind_some]
  | succ m ih =>
    rw [Nat.add_right_comm]
    cases s with
    | ref name =>
      rw [follow?, follow?, Option.bind_assoc]
      exact Option.bind_congr fun t _ => ih t
    | _ => rfl

theorem isSome_follow?_of_le (h : (r.follow? n s).isSome = true) (hle : k ≤ n) :
    (r.follow? k s).isSome = true := by
  rw [← Nat.add_sub_of_le hle, follow?_add] at h
  exact Option.isSome_of_isSome_bind h

/-- A chain that comes back to where it started can be followed for ever. -/
theorem isSome_follow?_of_loop (h : r.follow? (k + 1) s = some s) (n : Nat) :
    (r.follow? n s).isSome = true := by
  have hround (m : Nat) : r.follow? ((k + 1) * m) s = some s := by
    induction m with
    | zero => rfl
    | succ m ih => rw [Nat.mul_succ, follow?_add, ih, Option.bind_some, h]
  refine isSome_follow?_of_le (n := (k + 1) * n) ?_ (Nat.le_mul_of_pos_left n k.succ_pos)
  rw [hround]
  rfl

def Loops (r : Registry) (name : SchemaName) : Prop :=
  ∃ k, r.follow? (k + 1) (.ref name) = some (.ref name)

theorem resolveFrom_of_isSome (h : (r.follow? n s).isSome = true) (start : String) :
    r.resolveFrom start n s = .error (.here (.unresolvedReference start)) := by
  induction n generalizing s with
  | zero => rfl
  | succ n ih =>
    cases s with
    | ref name =>
      rw [follow?] at h
      rw [resolveFrom]
      cases hget : r.get? name.text with
      | none =>
        rw [hget] at h
        cases h
      | some t =>
        rw [hget] at h
        exact ih h
    | _ => cases h

/-- Where a chain has ended, neither further look-ups matter nor the name that would have been
reported. -/
theorem resolveFrom_of_none (h : r.follow? n s = none) (hle : n ≤ k) (start start' : String) :
    r.resolveFrom start n s = r.resolveFrom start' k s := by
  induction n generalizing s k with
  | zero => cases h
  | succ n ih =>
    obtain ⟨k, rfl⟩ : ∃ m, k = m + 1 := ⟨k - 1, by omega⟩
    cases s with
    | ref name =>
      rw [follow?] at h
      rw [resolveFrom, resolveFrom]
      cases hget : r.get? name.text with
      | none => rfl
      | some t =>
        rw [hget] at h
        exact ih h (Nat.le_of_succ_le_succ hle)
    | _ => rfl

section
variable {name : SchemaName} (hget : r.get? name.text = some s)
include hget

theorem follow?_ref (n : Nat) : r.follow? (n + 1) (.ref name) = r.follow? n s := by
  rw [follow?, hget, Option.bind_some]

/-- A reference is resolved with one look-up less than what is registered under its name. -/
theorem resolve_ref : r.resolve (.ref name) = r.resolveFrom name.text (maxHops - 1) s := by
  simp only [resolve, maxHops, resolveFrom, hget, Schema.typeName]

theorem resolve_ref_of_short (h : ¬r.ChainTooLong name) : r.resolve (.ref name) = r.resolve s := by
  have hnone : r.follow? (maxHops - 1) s = none := by
    rw [← follow?_ref hget]
    exact Option.not_isSome_iff_eq_none.1 h
  rw [resolve_ref hget]
  exact resolveFrom_of_none hnone (Nat.sub_le _ _) _ _

end

theorem exists_target {name : SchemaName}
    (h : (r.follow? (n + 2) (.ref name)).isSome = true) :
    ∃ target, r.get? name.text = some (.ref target) ∧
      (r.follow? (n + 1) (.ref target)).isSome = true := by
  cases hget : r.get? name.text with
  | none =>
    rw [follow?, hget] at h
    cases h
  | some s =>
    rw [follow?_ref hget] at h
    cases s with
    | ref target => exact ⟨target, rfl, h⟩
    | _ => cases h

/-- The two loops that follow references stop at the same schema. -/
theorem compositeFrom_eq_some {c : Composite} (start : String) :
    r.compositeFrom n s = some c ↔ r.resolveFrom start n s = .ok (.object c) := by
  induction n generalizing s with
  | zero => simp [compositeFrom, resolveFrom]
  | succ n ih =>
    cases s with
    | ref name =>
      rw [compositeFrom, resolveFrom]
      cases r.get? name.text with
      | none => simp
      | some t => exact ih
    | _ => simp [compositeFrom, resolveFrom]

theorem composite?_eq_some {name : String} {c : Composite} :
    r.composite? name = some c ↔ ∃ s, r.get? name = some s ∧ r.resolve s = .ok (.object c) := by
  rw [composite?, Option.bind_eq_some_iff]
  exact exists_congr fun s => and_congr_right fun _ => compositeFrom_eq_some _

end Registry

namespace Validator
variable {v : Validator} {raw : Json}

/-- Any schema is validated as what it resolves to. -/
theorem apply_resolve (v : Validator) (room : Nat) (s : Schema) (raw : Json) :
    v.apply room s raw = v.registry.resolve s >>= fun t => v.apply room t raw := by
  cases s with
  | ref name => exact apply_ref_eq name
  | _ => rfl

theorem validateNamed_of_get? {name : String} {s : Schema} (h : v.registry.get? name = some s) :
    v.validateNamed name raw = v.validate s raw := by
  rw [validateNamed, h]

theorem validate_of_resolve_eq {s t : Schema} (h : v.registry.resolve s = v.registry.resolve t) :
    v.validate s raw = v.validate t raw := by
  rw [validate, apply_resolve, h, ← apply_resolve, validate]

theorem validate_of_resolve_error {s : Schema} {e : ValidationError}
    (h : v.registry.resolve s = .error e) : v.validate s raw = .error e := by
  rw [validate, apply_resolve, h]
  rfl

theorem validateNamed_of_composite? {name : String} {c : Composite}
    (h : v.registry.composite? name = some c) :
    v.validateNamed name raw = (v.validateObject name raw).map .object := by
  obtain ⟨s, hget, hresolve⟩ := Registry.composite?_eq_some.1 h
  calc v.validateNamed name raw
      = v.validate s raw := validateNamed_of_get? hget
    _ = v.validate (.object c) raw := validate_of_resolve_eq hresolve
    _ = (v.validateComposite c raw).map .object := validate_object c
    _ = (v.validateObject name raw).map .object := by rw [validateObject, h]

/-- A reference means what is registered under its name, unless the chain of references takes all
the look-ups that are allowed. One that takes more, or that comes back to the name, fails for both:
through the reference for the name itself, and by the name for the next one. -/
theorem ref_means_named (r : Registry) (name : SchemaName) (limit : Nat) (raw : Json) :
    (¬r.ChainTooLong name →
      Validator.validate ⟨r, limit⟩ (.ref name) raw =
        Validator.validateNamed ⟨r, limit⟩ name.text raw) ∧
      ((r.follow? (Registry.maxHops + 1) (.ref name)).isSome = true ∨ r.Loops name →
        ∃ target, r.get? name.text = some (.ref target) ∧
          Validator.validate ⟨r, limit⟩ (.ref name) raw =
            .error (.here (.unresolvedReference name.text)) ∧
          Validator.validateNamed ⟨r, limit⟩ name.text raw =
            .error (.here (.unresolvedReference target.text))) := by
  refine ⟨fun hshort => ?_, fun hlong => ?_⟩
  · cases hget : r.get? name.text with
    | none =>
      have hmissing : r.resolve (.ref name) = .error (.here (.unresolvedReference name.text)) := by
        simp only [Registry.resolve, Registry.maxHops, Registry.resolveFrom, hget]
      rw [validate_of_resolve_error hmissing, validateNamed, hget]
    | some s =>
      rw [validateNamed_of_get? hget]
      exact validate_of_resolve_eq (Registry.resolve_ref_of_short hget hshort)
  · have hfollow : (r.follow? (Registry.maxHops + 1) (.ref name)).isSome = true := by
      obtain hlong | ⟨k, hk⟩ := hlong
      · exact hlong
      · exact Registry.isSome_follow?_of_loop hk _
    obtain ⟨target, hget, htarget⟩ := Registry.exists_target hfollow
    rw [validateNamed_of_get? hget]
    have hname : r.resolve (.ref name) = .error (.here (.unresolvedReference name.text)) :=
      Registry.resolveFrom_of_isSome (Registry.isSome_follow?_of_le hfollow (Nat.le_succ _)) _
    exact ⟨target, hget, validate_of_resolve_error hname,
      validate_of_resolve_error (Registry.resolveFrom_of_isSome htarget _)⟩

def evenName : SchemaName := ⟨"Even", by decide⟩

def memoName : SchemaName := ⟨"Memo", by decide⟩

def oddName : SchemaName := ⟨"Odd", by decide⟩

def aliasRegistry : Registry where
  entries :=
    [(evenName, .ref oddName), (memoName, .ref noteSchema.name),
      (noteSchema.name, .object noteSchema), (oddName, .ref evenName),
      (textName, .leaf .string)]
  sorted := by
    decide

/-- Of two names that stand for each other, a reference to the first reports the first, and the
first itself reports the second. -/
theorem even_ref_differs :
    aliasRegistry.contains evenName.text = true ∧
      Validator.validate ⟨aliasRegistry, 4⟩ (.ref evenName) .null =
        .error (.here (.unresolvedReference "Even")) ∧
      Validator.validateNamed ⟨aliasRegistry, 4⟩ evenName.text .null =
        .error (.here (.unresolvedReference "Odd")) ∧
      Validator.validate ⟨aliasRegistry, 4⟩ (.ref evenName) .null ≠
        Validator.validateNamed ⟨aliasRegistry, 4⟩ evenName.text .null := by
  have href : Validator.validate ⟨aliasRegistry, 4⟩ (.ref evenName) .null =
      .error (.here (.unresolvedReference "Even")) := by
    cbv
  have hname : Validator.validateNamed ⟨aliasRegistry, 4⟩ evenName.text .null =
      .error (.here (.unresolvedReference "Odd")) := by
    cbv
  refine ⟨by decide, href, hname, ?_⟩
  rw [href, hname]
  exact fun h => absurd (Except.error.inj h) (by decide)

/-- A memo is a note whichever way it is reached; names that stand for each other are nothing. -/
theorem memo_ref_means_named :
    ¬aliasRegistry.ChainTooLong memoName ∧
      Validator.validateNamed ⟨aliasRegistry, 2⟩ "Memo" notePayload =
        .ok (.object noteObject) ∧
      Validator.validate ⟨aliasRegistry, 2⟩ (.ref memoName) notePayload =
        Validator.validateNamed ⟨aliasRegistry, 2⟩ "Memo" notePayload ∧
      aliasRegistry.Loops evenName ∧
      ∃ target, aliasRegistry.get? "Even" = some (.ref target) ∧
        Validator.validate ⟨aliasRegistry, 2⟩ (.ref evenName) .null =
          .error (.here (.unresolvedReference "Even")) ∧
        Validator.validateNamed ⟨aliasRegistry, 2⟩ "Even" .null =
          .error (.here (.unresolvedReference target.text)) := by
  have hshort : ¬aliasRegistry.ChainTooLong memoName := by
    decide
  have hloop : aliasRegistry.Loops evenName := ⟨1, rfl⟩
  have hmemo : Validator.validateNamed ⟨aliasRegistry, 2⟩ "Memo" notePayload =
      .ok (.object noteObject) := by
    cbv
  exact ⟨hshort, hmemo, (ref_means_named aliasRegistry memoName 2 _).1 hshort, hloop,
    (ref_means_named aliasRegistry evenName 2 .null).2 (.inr hloop)⟩

/-- Composites are found where resolution ends at an object. A payload is then validated alike as
an object and under the name; without a composite it is refused as an object whatever it is. -/
theorem named_entries_agree (r : Registry) (name : String) :
    (∀ c, r.composite? name = some c ↔
      ∃ s, r.get? name = some s ∧ r.resolve s = .ok (.object c)) ∧
      ∀ limit raw,
        (∀ c, r.composite? name = some c →
          (∀ o, Validator.validateObject ⟨r, limit⟩ name raw = .ok o ↔
            Validator.validateNamed ⟨r, limit⟩ name raw = .ok (.object o)) ∧
          ∀ e, Validator.validateObject ⟨r, limit⟩ name raw = .error e ↔
            Validator.validateNamed ⟨r, limit⟩ name raw = .error e) ∧
        (r.composite? name = none →
          Validator.validateObject ⟨r, limit⟩ name raw =
            .error (.here (.unresolvedReference name))) := by
  refine ⟨fun c => Registry.composite?_eq_some, fun limit raw => ⟨fun c hc => ?_, fun hc => ?_⟩⟩
  · rw [validateNamed_of_composite? hc]
    refine ⟨fun o => ?_, fun e => map_eq_error.symm⟩
    rw [map_eq_ok]
    constructor
    · intro h
      exact ⟨o, h, rfl⟩
    · rintro ⟨p, hp, hpo⟩
      rwa [← Instance.object.inj hpo]
  · rw [validateObject, hc]

/-- A memo is a note as an object too, with the same fault if its text is missing. Plain text is
no object. -/
theorem memo_entries_agree :
    aliasRegistry.composite? "Memo" = some noteSchema ∧
      Validator.validateObject ⟨aliasRegistry, 2⟩ "Memo" notePayload = .ok noteObject ∧
      Validator.validateNamed ⟨aliasRegistry, 2⟩ "Memo" notePayload = .ok (.object noteObject) ∧
      Validator.validateObject ⟨aliasRegistry, 2⟩ "Memo" (.object []) =
        .error (.here (.missingField "text")) ∧
      Validator.validateNamed ⟨aliasRegistry, 2⟩ "Memo" (.object []) =
        .error (.here (.missingField "text")) ∧
      aliasRegistry.composite? "Text" = none ∧
      Validator.validateObject ⟨aliasRegistry, 2⟩ "Text" (.string "a") =
        .error (.here (.unresolvedReference "Text")) := by
  obtain ⟨hfound, hmemo⟩ := named_entries_agree aliasRegistry "Memo"
  have hc : aliasRegistry.composite? "Memo" = some noteSchema := (hfound _).2 ⟨_, rfl, rfl⟩
  have hnote : Validator.validateObject ⟨aliasRegistry, 2⟩ "Memo" notePayload =
      .ok noteObject := by
    cbv
  have hempty : Validator.validateObject ⟨aliasRegistry, 2⟩ "Memo" (.object []) =
      .error (.here (.missingField "text")) := by
    cbv
  have htext : aliasRegistry.composite? "Text" = none := rfl
  exact ⟨hc, hnote, (((hmemo 2 _).1 _ hc).1 _).1 hnote, hempty,
    (((hmemo 2 _).1 _ hc).2 _).1 hempty, htext,
    ((named_entries_agree aliasRegistry "Text").2 2 _).2 htext⟩

end Validator
end PayloadSchema
