import Mathlib
import PayloadSchema.Proofs.Validation.References

/-!
References that lead nowhere. If validation fails for one, a reference that can be reached could not
be resolved: a name on the way is not registered and is listed as unresolved, or the chain of
references takes more look-ups than are allowed.
-/
namespace PayloadSchema
open Outcome

namespace Registry
variable {r : Registry} {s t : Schema} {cause : Cause}

/-- The schema that some look-ups lead to, each of a reference that the one before has found. -/
def follow? (r : Registry) : Nat → Schema → Option Schema
  | 0, s => some s
  | n + 1, .ref name => (r.get? name.text).bind (r.follow? n)
  | _ + 1, _ => none

/-- The chain of references from a name takes all look-ups that are allowed, or more. -/
def ChainTooLong (r : Registry) (start : SchemaName) : Prop :=
  (r.follow? maxHops (.ref start)).isSome = true

instance (r : Registry) (start : SchemaName) : Decidable (r.ChainTooLong start) :=
  inferInstanceAs (Decidable ((r.follow? maxHops (.ref start)).isSome = true))

theorem ChainTooLong.contains {start : SchemaName} (h : r.ChainTooLong start) :
    r.contains start.text = true := by
  rw [ChainTooLong, maxHops, follow?] at h
  cases hget : r.get? start.text with
  | none =>
    rw [hget] at h
    cases h
  | some t =>
    obtain ⟨e, he, hname, -⟩ := mem_of_get? hget
    exact contains_iff.2 ⟨e, he, hname⟩

/-- A reference is not resolved since a name on the way is missing, or since no look-up is left. -/
theorem resolveFrom_unresolved {start : String} {n : Nat} {e : ValidationError}
    (h : r.resolveFrom start n s = .error e) :
    (∃ name, r.Reaches s (.ref name) ∧ r.get? name.text = none ∧
        e = .here (.unresolvedReference name.text)) ∨
      e = .here (.unresolvedReference start) ∧ (r.follow? n s).isSome = true := by
  induction n generalizing s with
  | zero =>
    cases h
    exact .inr ⟨rfl, rfl⟩
  | succ n ih =>
    cases s with
    | ref name =>
      rw [resolveFrom] at h
      cases hget : r.get? name.text with
      | none =>
        rw [hget] at h
        cases h
        exact .inl ⟨name, .refl _, hget, rfl⟩
      | some t =>
        rw [hget] at h
        obtain ⟨other, hreach, hother⟩ | ⟨he, hfollow⟩ := ih h
        · exact .inl ⟨other, .ref hget hreach, hother⟩
        · refine .inr ⟨he, ?_⟩
          rw [follow?, hget]
          exact hfollow
    | _ => cases h

def Dangles (r : Registry) (s : Schema) (cause : Cause) : Prop :=
  ∃ name, r.Reaches s (.ref name) ∧ r.resolve (.ref name) = .error (.here cause)

theorem Dangles.of_reaches (hreach : r.Reaches s t) (h : r.Dangles t cause) :
    r.Dangles s cause := by
  obtain ⟨name, hname, herror⟩ := h
  exact ⟨name, hreach.trans hname, herror⟩

theorem dangles_of_resolve {name : SchemaName} {e : ValidationError}
    (h : r.resolve (.ref name) = .error e) : r.Dangles (.ref name) e.cause := by
  obtain ⟨other, rfl⟩ := resolveFrom_eq_error h
  exact ⟨name, .refl _, h⟩

theorem mem_unresolved {entry : SchemaName × SchemaName} :
    entry ∈ r.unresolved ↔
      ∃ s, (entry.1, s) ∈ r.entries ∧ entry.2 ∈ s.references ∧
        r.contains entry.2.text = false := by
  obtain ⟨referrer, target⟩ := entry
  simp only [unresolved, List.mem_flatMap, List.mem_map, List.mem_filter, Bool.not_eq_true']
  constructor
  · rintro ⟨⟨name, s⟩, hmem, other, ⟨href, hfree⟩, heq⟩
    cases heq
    exact ⟨s, hmem, href, hfree⟩
  · rintro ⟨s, hmem, href, hfree⟩
    exact ⟨(referrer, s), hmem, target, ⟨href, hfree⟩, rfl⟩

/-- What a registered schema refers to, some registered schema has been written with. -/
theorem RefersTo.exists_referrer {e : SchemaName × Schema} {name : SchemaName} (he : e ∈ r.entries)
    (h : r.RefersTo s name) (hs : e.2 = s) : ∃ d ∈ r.entries, name ∈ d.2.references := by
  induction h generalizing e with
  | written h => exact ⟨e, he, hs ▸ h⟩
  | through _ hr _ ih =>
    obtain ⟨d, hd, -, hschema⟩ := mem_of_get? hr
    exact ih hd hschema

end Registry

namespace Validator
variable {v : Validator} {raw : Json} {room : Nat} {s : Schema} {e : ValidationError}

theorem dangles_of_acceptsShape (h : v.acceptsShape raw room s = .error e)
    (hu : e.cause.IsUnresolved) : v.registry.Dangles s e.cause := by
  induction room generalizing s with
  | zero =>
    cases h
    obtain ⟨name, ⟨⟩⟩ := hu
  | succ room ih =>
    cases s with
    | primitive => cases h
    | ref name =>
      obtain h | ⟨t, ht, h⟩ := bind_eq_error.1 h
      · exact Registry.dangles_of_resolve h
      · exact .of_reaches (Registry.reaches_of_resolveFrom ht) (ih h)
    | union cs =>
      obtain ⟨t, ht, h⟩ := anyM_eq_error h
      exact .of_reaches (.part (.candidate ht) (.refl t)) (ih h)
    | _ => cases raw <;> cases h

theorem dangles_of_choose {cs : List Schema} (h : v.choose raw room cs = .error e)
    (hu : e.cause.IsUnresolved) : v.registry.Dangles (.union cs) e.cause := by
  obtain h | ⟨found, -, h⟩ := bind_eq_error.1 h
  · obtain ⟨t, ht, h⟩ := findM?_eq_error h
    exact .of_reaches (.part (.candidate ht) (.refl t)) (dangles_of_acceptsShape h hu)
  · cases found with
    | some t => cases h
    | none =>
      cases h
      obtain ⟨name, ⟨⟩⟩ := hu

theorem dangles_of_settle {n : Nat} (h : v.settle raw room n s = .error e)
    (hu : e.cause.IsUnresolved) : v.registry.Dangles s e.cause := by
  induction n generalizing s with
  | zero =>
    cases h
    obtain ⟨name, ⟨⟩⟩ := hu
  | succ n ih =>
    cases s with
    | ref name =>
      obtain h | ⟨t, ht, h⟩ := bind_eq_error.1 h
      · exact Registry.dangles_of_resolve h
      · exact .of_reaches (Registry.reaches_of_resolveFrom ht) (ih h)
    | union cs =>
      obtain h | ⟨t, ht, h⟩ := bind_eq_error.1 h
      · exact dangles_of_choose h hu
      · exact .of_reaches (.part (.candidate (choose_mem ht)) (.refl t)) (ih h)
    | _ => cases h

def FailsInPart (inner : Inner) (s : Schema) (cause : Cause) : Prop :=
  ∃ f t part d, inner = some f ∧ Schema.Part t s ∧ f t part = .error d ∧ d.cause = cause

theorem MemberRefuses.failsInPart {f : Schema → Json → Except ValidationError Instance}
    {c : Composite} {m : String × Json}
    (h : MemberRefuses (fun s raw d => f s raw = .error d) c m e) (hu : e.cause.IsUnresolved) :
    FailsInPart (some f) (.object c) e.cause := by
  cases h with
  | declared hfield h =>
    cases h with
    | null => obtain ⟨name, ⟨⟩⟩ := hu
    | value _ hd => exact ⟨f, _, _, _, rfl, .field (Composite.field?_mem hfield).1, hd, rfl⟩
  | additional _ h =>
    generalize hpolicy : c.additional = policy at h
    cases h with
    | forbidden => obtain ⟨name, ⟨⟩⟩ := hu
    | typed hd => exact ⟨f, _, _, _, rfl, .additional hpolicy, hd, rfl⟩

/-- A leaf or a container does not look up names itself. -/
theorem failsInPart_of_applyHead {inner : Inner} (hs : s.IsHead)
    (h : v.applyHead inner s raw = .error e) (hu : e.cause.IsUnresolved) :
    FailsInPart inner s e.cause := by
  cases headRefuses_of_applyHead hs h with
  | item hi _ hd => exact ⟨_, _, _, _, hi, .items, hd, rfl⟩
  | entry hi _ hd => exact ⟨_, _, _, _, hi, .values, hd, rfl⟩
  | member hi _ hmember =>
    rw [hi]
    exact hmember.failsInPart hu
  | _ => obtain ⟨name, ⟨⟩⟩ := hu

/-- Validation fails for a reference only if one that can be reached is not resolved. -/
theorem dangles_of_apply (h : v.apply room s raw = .error e) (hu : e.cause.IsUnresolved) :
    v.registry.Dangles s e.cause := by
  induction room using Nat.strong_induction_on generalizing s raw e with
  | _ room ih =>
    rw [apply_eq] at h
    obtain h | ⟨head, hsettle, h⟩ := bind_eq_error.1 h
    · exact dangles_of_settle h hu
    · obtain ⟨hreach, hs⟩ := settle_eq_ok hsettle
      obtain ⟨f, t, part, d, hf, ht, hd, hcause⟩ := failsInPart_of_applyHead hs h hu
      cases room with
      | zero => cases hf
      | succ room =>
        cases hf
        have hpart := ih room room.lt_succ_self hd (hcause ▸ hu)
        rw [hcause] at hpart
        exact .of_reaches (hreach.trans (.part ht (.refl t))) hpart

end Validator

namespace Registry

/-- A registered name under which validation fails for a reference: the name that is reported is not
registered and is listed, or it starts a chain that is too long. -/
theorem predicted_of_validateNamed {r : Registry} {name text : String} {limit : Nat} {raw : Json}
    {e : ValidationError} (hname : r.contains name = true)
    (h : Validator.validateNamed ⟨r, limit⟩ name raw = .error e)
    (hcause : e.cause = .unresolvedReference text) :
    (r.contains text = false ∧ ∃ entry ∈ r.unresolved, entry.2.text = text) ∨
      r.contains text = true ∧ ∃ start : SchemaName, start.text = text ∧ r.ChainTooLong start := by
  obtain ⟨entry, hentry, rfl⟩ := contains_iff.1 hname
  have hget : r.get? entry.1.text = some entry.2 := get?_of_mem hentry
  simp only [Validator.validateNamed, hget] at h
  obtain ⟨start, hreach, hresolve⟩ := Validator.dangles_of_apply h ⟨text, hcause⟩
  rw [hcause] at hresolve
  obtain ⟨missing, hmissing, hnone, heq⟩ | ⟨heq, hlong⟩ := resolveFrom_unresolved hresolve
  · cases heq
    have href : r.RefersTo entry.2 missing :=
      .of_reaches (hreach.trans hmissing) (.written (List.mem_singleton.2 rfl))
    obtain ⟨d, hd, hwritten⟩ := href.exists_referrer hentry rfl
    have hfree := get?_eq_none_iff.1 hnone
    exact .inl ⟨hfree, (d.1, missing), mem_unresolved.2 ⟨d.2, hd, hwritten, hfree⟩, rfl⟩
  · cases heq
    have hlong : r.ChainTooLong start := hlong
    exact .inr ⟨hlong.contains, start, rfl, hlong⟩

/-- Where validation fails for a reference, the name that it reports is missing and listed as
unresolved, or it starts a chain that is too long. So nothing fails for a reference where nothing is
listed and all chains are short enough. -/
theorem unresolved_is_predicted (r : Registry) :
    (∀ name limit raw e text, r.contains name = true →
      Validator.validateNamed ⟨r, limit⟩ name raw = .error e →
      e.cause = .unresolvedReference text →
        (r.contains text = false ∧ ∃ entry ∈ r.unresolved, entry.2.text = text) ∨
          r.contains text = true ∧
            ∃ start : SchemaName, start.text = text ∧ r.ChainTooLong start) ∧
      (r.unresolved = [] →
        (∀ start : SchemaName, r.contains start.text = true → ¬r.ChainTooLong start) →
        ∀ name limit raw e text, r.contains name = true →
          Validator.validateNamed ⟨r, limit⟩ name raw = .error e →
          e.cause ≠ .unresolvedReference text) := by
  refine ⟨fun name limit raw e text => predicted_of_validateNamed, ?_⟩
  intro hnone hshort name limit raw e text hname h hcause
  obtain ⟨-, entry, hentry, -⟩ | ⟨hstart, start, rfl, hlong⟩ :=
    predicted_of_validateNamed hname h hcause
  · rw [hnone] at hentry
    cases hentry
  · exact hshort start hstart hlong

def loopName : SchemaName := ⟨"Loop", by decide⟩

def rowName : SchemaName := ⟨"Row", by decide⟩

def looseRegistry : Registry where
  entries :=
    [(loopName, .ref loopName), (rowName, .list (.ref ⟨"Cell", by decide⟩) none none)]
  sorted := by
    rw [List.pairwise_pair]
    decide

theorem nest_chains_short (start : SchemaName)
    (h : Validator.nestRegistry.contains start.text = true) :
    ¬Validator.nestRegistry.ChainTooLong start := by
  obtain ⟨e, he, hname⟩ := contains_iff.1 h
  cases List.mem_singleton.1 he
  cases SchemaName.ext_text hname
  decide

/-- Cells are listed and loops are too long; nests are neither. -/
theorem loose_is_predicted :
    Validator.validateNamed ⟨looseRegistry, 4⟩ "Row" (.array [.null]) =
        .error ⟨[.index 0], .unresolvedReference "Cell"⟩ ∧
      (∃ entry ∈ looseRegistry.unresolved, entry.2.text = "Cell") ∧
      Validator.validateNamed ⟨looseRegistry, 4⟩ "Loop" .null =
        .error (.here (.unresolvedReference "Loop")) ∧
      (∃ start : SchemaName, start.text = "Loop" ∧ looseRegistry.ChainTooLong start) ∧
      Validator.nestRegistry.unresolved = [] ∧
      ∀ e text, Validator.validateNamed ⟨Validator.nestRegistry, 4⟩ "Nest"
          (.array [.string "x"]) = .error e →
        e.cause ≠ .unresolvedReference text := by
  have hrow : Validator.validateNamed ⟨looseRegistry, 4⟩ "Row" (.array [.null]) =
      .error ⟨[.index 0], .unresolvedReference "Cell"⟩ := by
    cbv
  have hloop : Validator.validateNamed ⟨looseRegistry, 4⟩ "Loop" .null =
      .error (.here (.unresolvedReference "Loop")) := by
    cbv
  have hnest : Validator.nestRegistry.unresolved = [] := by
    decide
  obtain ⟨hloose, -⟩ := unresolved_is_predicted looseRegistry
  obtain ⟨-, hnone⟩ := unresolved_is_predicted Validator.nestRegistry
  refine ⟨hrow, ?_, hloop, ?_, hnest, fun e text => ?_⟩
  · obtain ⟨-, hlisted⟩ | ⟨hbound, -⟩ := hloose "Row" 4 _ _ "Cell" (by decide) hrow rfl
    · exact hlisted
    · exact absurd hbound (by decide)
  · obtain ⟨hfree, -⟩ | ⟨-, hlong⟩ := hloose "Loop" 4 _ _ "Loop" (by decide) hloop rfl
    · exact absurd hfree (by decide)
    · exact hlong
  · exact hnone hnest nest_chains_short "Nest" 4 _ e text (by decide)

end Registry
end PayloadSchema
