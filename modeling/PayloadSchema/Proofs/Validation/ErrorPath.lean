import Mathlib
import PayloadSchema.Proofs.Validation.Failure

/-!
The paths of errors lead to the values at fault. References and unions add nothing to a path, every
container on the way adds one segment.
-/
namespace PayloadSchema
open Outcome

theorem Registry.resolveFrom_eq_error {r : Registry} {start : String} {n : Nat} {s : Schema}
    {e : ValidationError} (h : r.resolveFrom start n s = .error e) :
    ∃ name, e = .here (.unresolvedReference name) := by
  induction n generalizing s with
  | zero =>
    cases h
    exact ⟨start, rfl⟩
  | succ n ih =>
    cases s with
    | ref name =>
      rw [resolveFrom] at h
      cases hget : r.get? name.text with
      | some s =>
        rw [hget] at h
        exact ih h
      | none =>
        rw [hget] at h
        cases h
        exact ⟨name.text, rfl⟩
    | _ => cases h

namespace Validator
variable {v : Validator} {raw : Json} {e : ValidationError} {room : Nat}

theorem acceptsShape_eq_error {s : Schema} (h : v.acceptsShape raw room s = .error e) :
    (∃ name, e = .here (.unresolvedReference name)) ∨ e = v.tooDeep := by
  induction room generalizing s with
  | zero =>
    cases h
    exact .inr rfl
  | succ room ih =>
    cases s with
    | primitive => cases h
    | ref name =>
      rcases bind_eq_error.1 h with h | ⟨t, -, h⟩
      · exact .inl (Registry.resolveFrom_eq_error h)
      · exact ih h
    | union cs =>
      obtain ⟨s, -, h⟩ := anyM_eq_error h
      exact ih h
    | _ => cases raw <;> cases h

theorem choose_eq_error {cs : List Schema} (h : v.choose raw room cs = .error e) :
    ∃ cause, e = .here cause ∧ cause.Fits raw := by
  rcases bind_eq_error.1 h with h | ⟨found, -, h⟩
  · obtain ⟨s, -, h⟩ := findM?_eq_error h
    rcases acceptsShape_eq_error h with ⟨name, rfl⟩ | rfl
    · exact ⟨_, rfl, trivial⟩
    · exact ⟨_, rfl, trivial⟩
  · cases found with
    | some s => cases h
    | none =>
      cases h
      exact ⟨_, rfl, rfl⟩

theorem settle_eq_error {n : Nat} {s : Schema} (h : v.settle raw room n s = .error e) :
    ∃ cause, e = .here cause ∧ cause.Fits raw := by
  induction n generalizing s with
  | zero =>
    cases h
    exact ⟨_, rfl, trivial⟩
  | succ n ih =>
    cases s with
    | ref name =>
      rcases bind_eq_error.1 h with h | ⟨t, -, h⟩
      · obtain ⟨name, rfl⟩ := Registry.resolveFrom_eq_error h
        exact ⟨_, rfl, trivial⟩
      · exact ih h
    | union cs =>
      rcases bind_eq_error.1 h with h | ⟨t, -, h⟩
      · exact choose_eq_error h
      · exact ih h
    | _ => cases h

/-- Where there is no union, a reference is settled in two steps or not at all. -/
theorem settle_eq_error_of_unionFree {n : Nat} {s : Schema} (hu : v.registry.UnionFree s)
    (h : v.settle raw room (n + 2) s = .error e) :
    ∃ name, e = .here (.unresolvedReference name) := by
  cases s with
  | ref name =>
    rcases bind_eq_error.1 h with h | ⟨t, ht, h⟩
    · exact Registry.resolveFrom_eq_error h
    · cases t with
      | ref name' => exact absurd rfl (Registry.resolve_ne_ref ht name')
      | union cs => cases (hu.resolve ht).self
      | _ => cases h
  | union cs => cases hu.self
  | _ => cases h

/-- The path of an error leads to a value that the cause fits. Where no union is involved, the error
is about depth only if the path has used up all room and leads to a container. -/
def Located (v : Validator) (s : Schema) (room : Nat) (raw : Json) (e : ValidationError) : Prop :=
  ∃ w, raw.at? e.path = some w ∧ e.cause.Fits w ∧
    (v.registry.UnionFree s → ∀ limit, e.cause = .depthExceeded limit →
      limit = v.maxDepth ∧ e.path.length = room ∧ w.IsContainer)

variable {s : Schema}

theorem located_here (he : e.IsHere raw) : Located v s room raw e := by
  obtain ⟨cause, rfl, hfits, hne⟩ := he
  exact ⟨raw, rfl, hfits, fun _ limit hl => absurd hl (hne limit)⟩

theorem located_of_settle (h : v.settle raw room (room + 2) s = .error e) :
    Located v s room raw e := by
  obtain ⟨cause, rfl, hfits⟩ := settle_eq_error h
  refine ⟨raw, rfl, hfits, fun hu limit hl => ?_⟩
  obtain ⟨name, hname⟩ := settle_eq_error_of_unionFree hu h
  cases hname
  cases hl

theorem Located.of_reaches {head : Schema} (hr : v.registry.Reaches s head)
    (h : Located v head room raw e) : Located v s room raw e := by
  obtain ⟨w, hw, hfits, hdeep⟩ := h
  exact ⟨w, hw, hfits, fun hu => hdeep fun t ht => hu t (hr.trans ht)⟩

/-- A container adds its segment to the path and takes one level of room. -/
theorem Located.within {t : Schema} {segment : Segment} {part : Json} (ht : Schema.Part t s)
    (hp : raw.child? segment = some part) (h : Located v t room part e) :
    Located v s (room + 1) raw (e.within segment) := by
  obtain ⟨w, hw, hfits, hdeep⟩ := h
  refine ⟨w, ?_, hfits, fun hu limit hl => ?_⟩
  · rw [ValidationError.within, Json.at?, hp]
    exact hw
  · obtain ⟨hlimit, hlength, hc⟩ := hdeep (hu.part ht) limit hl
    exact ⟨hlimit, by rw [ValidationError.within, List.length_cons, hlength], hc⟩

theorem located_of_refuses (hd : raw.DistinctKeys) (h : Refuses v (v.parts room) s raw e)
    (ih : ∀ r < room, ∀ t part d, part.DistinctKeys → v.apply r t part = .error d →
      Located v t r part d) : Located v s room raw e := by
  cases h with
  | here he => exact located_here he
  | deep hi hc =>
    cases room with
    | zero =>
      refine ⟨raw, rfl, trivial, ?_⟩
      rintro - limit ⟨⟩
      exact ⟨rfl, rfl, hc⟩
    | succ r => cases hi
  | null hp =>
    refine ⟨.null, ?_, rfl, ?_⟩
    · rw [ValidationError.within, Json.at?, hp]
      rfl
    · rintro - limit ⟨⟩
  | part hi ht hp hpart =>
    cases room with
    | zero => cases hi
    | succ r =>
      cases hi
      exact (ih r r.lt_succ_self _ _ _ (hd.child hp) hpart).within ht hp

theorem located_of_apply (hd : raw.DistinctKeys) (h : v.apply room s raw = .error e) :
    Located v s room raw e := by
  induction room using Nat.strong_induction_on generalizing s raw e with
  | _ room ih =>
    rw [apply_eq] at h
    rcases bind_eq_error.1 h with h | ⟨head, hsettle, h⟩
    · exact located_of_settle h
    · obtain ⟨hr, hs⟩ := settle_eq_ok hsettle
      have hrefuses := refuses_of_applyHead hs hd h
      exact (located_of_refuses hd hrefuses fun r hr t part d hd h => ih r hr hd h).of_reaches hr

/-- Every error of validation is located. -/
theorem validate_error_located (raw : Payload) (h : v.validate s raw = .error e) :
    ∃ w, raw.1.at? e.path = some w ∧ e.cause.Fits w ∧
      (v.registry.UnionFree s → ∀ limit, e.cause = .depthExceeded limit →
        limit = v.maxDepth ∧ e.path.length = v.maxDepth ∧ w.IsContainer) :=
  located_of_apply raw.2 h

def sheetSchema : Composite where
  name := ⟨"Sheet", by decide⟩
  description := none
  fields := [⟨"rows", .dict (.list (.leaf .any) none none), true, false, none⟩]
  additional := .forbidden

def sheetValidator : Validator := ⟨.empty, 2⟩

def sheetPayload : Json := .object [("rows", .object [("a", .array []), ("b", .null)])]

def sheetError : ValidationError := ⟨[.field "rows", .key "a"], .depthExceeded 2⟩

theorem sheetPayload_distinctKeys : sheetPayload.DistinctKeys := by
  refine .object (by simp) fun m hm => ?_
  cases List.mem_singleton.1 hm
  refine .object (by simp) fun m hm => ?_
  simp only [List.mem_cons, List.not_mem_nil, or_false] at hm
  rcases hm with rfl | rfl
  · exact .array (by simp)
  · exact .null

/-- The row stands two levels deep, which is too deep for its cells. -/
theorem sheetError_located :
    sheetPayload.DistinctKeys ∧ sheetValidator.registry.UnionFree (.object sheetSchema) ∧
      sheetValidator.validate (.object sheetSchema) sheetPayload = .error sheetError ∧
      ∃ w, sheetPayload.at? sheetError.path = some w ∧ sheetError.cause.Fits w ∧
        (sheetValidator.registry.UnionFree (.object sheetSchema) →
          ∀ limit, sheetError.cause = .depthExceeded limit →
            limit = sheetValidator.maxDepth ∧ sheetError.path.length = sheetValidator.maxDepth ∧
              w.IsContainer) := by
  have hu : sheetValidator.registry.UnionFree (.object sheetSchema) :=
    Registry.unionFree_of_all (by decide) (by decide)
  have h : sheetValidator.validate (.object sheetSchema) sheetPayload = .error sheetError := by
    cbv
  exact ⟨sheetPayload_distinctKeys, hu, h, validate_error_located ⟨_, sheetPayload_distinctKeys⟩ h⟩

end Validator
end PayloadSchema
