import PayloadSchema.Proofs.Validation.Shape

/-!
The recursion of validation. References and alternatives are followed with the value and the room
that a schema has itself, so neither gets smaller on the way, and a registry may hold cycles. What
ends is the shape check: a union commits only to what has passed it, and from there every step is
one that the check has taken with less room. From this the recursion equations of references and
unions follow, and a bound on how deep calls can be nested.
-/
namespace PayloadSchema.Validator
open Outcome
variable {v : Validator} {raw : Json} {room n : Nat} {s t : Schema} {cs : List Schema}

theorem choose_eq_ok :
    v.choose raw room cs = .ok t ↔ cs.findM? (v.acceptsShape raw room) = .ok (some t) := by
  rw [choose, bind_eq_ok]
  constructor
  · rintro ⟨found, hfound, h⟩
    cases found with
    | none => cases h
    | some u =>
      cases h
      exact hfound
  · intro h
    exact ⟨some t, h, rfl⟩

theorem acceptsShape_of_choose (h : v.choose raw room cs = .ok t) :
    v.acceptsShape raw room t = .ok true :=
  (findM?_eq_ok_some (choose_eq_ok.1 h)).2

/-- What has passed the shape check is settled in as many steps as the check had room. -/
theorem settle_accepted (ha : v.acceptsShape raw room s = .ok true) (hn : room ≤ n) :
    v.settle raw room n s = v.settle raw room (room + 2) s := by
  obtain ⟨head, hhead, -⟩ := settle_of_acceptsShape (Nat.le_refl room) (Nat.le_refl room) ha
  have hless := settle_mono (Nat.le_refl room) hn hhead
  have hmore := settle_mono (Nat.le_refl room) (Nat.le_add_right room 2) hhead
  rw [hless, hmore]

theorem settle_union (hn : room + 1 ≤ n) :
    v.settle raw room n (.union cs) = v.settle raw room (room + 2) (.union cs) := by
  obtain ⟨k, rfl⟩ : ∃ k, n = k + 1 := ⟨n - 1, by omega⟩
  rw [settle, settle]
  cases hc : v.choose raw room cs with
  | error e => rfl
  | ok t =>
    have ha := acceptsShape_of_choose hc
    have hk := settle_accepted ha (n := k) (by omega)
    have hroom := settle_accepted ha (n := room + 1) (by omega)
    rw [ok_bind, ok_bind, hk, hroom]

/-- A schema that is no reference needs one step less. -/
theorem settle_resolved (hs : ∀ name, s ≠ .ref name) :
    v.settle raw room (room + 1) s = v.settle raw room (room + 2) s := by
  cases s with
  | ref name => exact absurd rfl (hs name)
  | union cs => exact settle_union (Nat.le_refl _)
  | _ => rfl

/-- A reference is validated as what it stands for. -/
theorem apply_ref_eq (name : SchemaName) :
    v.apply room (.ref name) raw =
      v.registry.resolve (.ref name) >>= fun t => v.apply room t raw := by
  rw [apply_eq, settle]
  cases hr : v.registry.resolve (.ref name) with
  | error e => rfl
  | ok t => rw [ok_bind, ok_bind, settle_resolved (Registry.resolve_ne_ref hr), apply_eq]

/-- A union is validated as the alternative that it commits to. -/
theorem apply_union_eq (cs : List Schema) :
    v.apply room (.union cs) raw = v.choose raw room cs >>= fun t => v.apply room t raw := by
  rw [apply_eq, settle]
  cases hc : v.choose raw room cs with
  | error e => rfl
  | ok t =>
    have ha := acceptsShape_of_choose hc
    rw [ok_bind, ok_bind, settle_accepted ha (Nat.le_succ room), apply_eq]

/-- Answers to the calls that validation makes of itself: to apply a schema or a union, to check the
shape of a value, and to follow a chain of references. -/
structure Calls where
  apply : Nat → Schema → Json → Except ValidationError Instance
  applyUnion : Nat → List Schema → Json → Except ValidationError Instance
  acceptsShape : Nat → Schema → Json → Except ValidationError Bool
  resolve : String → Nat → Schema → Except ValidationError Schema

namespace Calls

def parts (calls : Calls) : Nat → Inner
  | 0 => none
  | room + 1 => some (calls.apply room)

/-- One level of the recursion: what each function answers when the calls it makes are answered as
given. -/
def step (v : Validator) (calls : Calls) : Calls where
  apply room s raw :=
    match s with
    | .ref name => do
      let t ← calls.resolve name.text Registry.maxHops (.ref name)
      calls.apply room t raw
    | .union cs => calls.applyUnion room cs raw
    | s => v.applyHead (calls.parts room) s raw
  applyUnion room cs raw := do
    match ← cs.findM? fun s => calls.acceptsShape room s raw with
    | some s => calls.apply room s raw
    | none => .error (.here (.noAlternative (Schema.typeNames cs) raw.shape))
  acceptsShape room s raw :=
    match room, s with
    | 0, _ => .error v.tooDeep
    | room + 1, .ref name => do
      let t ← calls.resolve name.text Registry.maxHops (.ref name)
      calls.acceptsShape room t raw
    | room + 1, .union cs => cs.anyM fun s => calls.acceptsShape room s raw
    -- a leaf or a container is judged without a call
    | room + 1, s => v.acceptsShape raw (room + 1) s
  resolve start hops s :=
    match hops, s with
    | 0, _ => .error (.here (.unresolvedReference start))
    | hops + 1, .ref name =>
      match v.registry.get? name.text with
      | some t => calls.resolve start hops t
      | none => .error (.here (.unresolvedReference name.text))
    | _ + 1, s => .ok s

/-- The answers when calls may be nested `n` deep; those beyond are answered by `beyond`. -/
def within (v : Validator) (beyond : Calls) : Nat → Calls
  | 0 => beyond
  | n + 1 => step v (within v beyond n)

variable {beyond : Calls}

theorem resolve_within {start : String} {hops : Nat} (hn : hops < n) :
    (within v beyond n).resolve start hops s = v.registry.resolveFrom start hops s := by
  induction hops generalizing n s with
  | zero =>
    obtain ⟨k, rfl⟩ : ∃ k, n = k + 1 := ⟨n - 1, by omega⟩
    rfl
  | succ hops ih =>
    obtain ⟨k, rfl⟩ : ∃ k, n = k + 1 := ⟨n - 1, by omega⟩
    cases s with
    | ref name =>
      simp only [within, step, Registry.resolveFrom]
      cases v.registry.get? name.text with
      | none => rfl
      | some t => exact ih (by omega)
    | _ => rfl

def shapeBudget (room : Nat) : Nat := room + Registry.maxHops + 2

theorem resolve_ref_within {name : SchemaName} (hn : shapeBudget 0 ≤ n + 1) :
    (within v beyond n).resolve name.text Registry.maxHops (.ref name) =
      v.registry.resolve (.ref name) := by
  have hhops : Registry.maxHops < n := by
    unfold shapeBudget at hn
    omega
  exact resolve_within hhops

theorem acceptsShape_within (hn : shapeBudget room ≤ n) :
    (within v beyond n).acceptsShape room s raw = v.acceptsShape raw room s := by
  induction room generalizing n s with
  | zero =>
    obtain ⟨k, rfl⟩ : ∃ k, n = k + 1 := ⟨n - 1, by unfold shapeBudget at hn; omega⟩
    rfl
  | succ room ih =>
    obtain ⟨k, rfl⟩ : ∃ k, n = k + 1 := ⟨n - 1, by unfold shapeBudget at hn; omega⟩
    have hk : shapeBudget room ≤ k := by
      unfold shapeBudget at hn ⊢
      omega
    have hinner : (fun s => (within v beyond k).acceptsShape room s raw) =
        v.acceptsShape raw room := funext fun s => ih hk
    cases s with
    | ref name =>
      have hresolve : (within v beyond k).resolve name.text Registry.maxHops (.ref name) =
          v.registry.resolve (.ref name) :=
        resolve_ref_within (by unfold shapeBudget at hk ⊢; omega)
      simp only [within, step, Validator.acceptsShape, hresolve, ih hk]
    | union cs => simp only [within, step, Validator.acceptsShape, hinner]
    | _ => rfl

/-- A union that is given enough calls for its shape checks goes on with the alternative that it
commits to. -/
theorem applyUnion_within (hn : shapeBudget room ≤ n) :
    (within v beyond (n + 1)).applyUnion room cs raw =
      v.choose raw room cs >>= fun t => (within v beyond n).apply room t raw := by
  have hshape : (fun s => (within v beyond n).acceptsShape room s raw) =
      v.acceptsShape raw room := funext fun s => acceptsShape_within hn
  simp only [within, step, hshape, choose]
  cases cs.findM? (v.acceptsShape raw room) with
  | error e => rfl
  | ok found => cases found <;> rfl

section
variable {below : Nat} (hparts : ∀ k, below ≤ k → (within v beyond k).parts room = v.parts room)
include hparts

theorem apply_within_head (hs : s.IsHead) (hn : below < n) :
    (within v beyond n).apply room s raw = v.apply room s raw := by
  obtain ⟨k, rfl⟩ : ∃ k, n = k + 1 := ⟨n - 1, by omega⟩
  rw [apply_head hs, ← hparts k (by omega)]
  cases s with
  | ref name => exact hs.elim
  | union cs => exact hs.elim
  | _ => rfl

/-- The induction is on the room in which the shape check has passed, not on the room that is left:
the engine retraces the steps of the check. -/
theorem apply_within_accepted {r : Nat} (ha : v.acceptsShape raw r s = .ok true) (hr : r ≤ room)
    (hn : 2 * r + shapeBudget room + below ≤ n) :
    (within v beyond n).apply room s raw = v.apply room s raw := by
  have hbudget : shapeBudget 0 ≤ shapeBudget room := by
    unfold shapeBudget
    omega
  induction r generalizing n s with
  | zero => cases ha
  | succ r ih =>
    have hr' : r ≤ room := by omega
    cases s with
    | ref name =>
      obtain ⟨k, rfl⟩ : ∃ k, n = k + 1 := ⟨n - 1, by omega⟩
      obtain ⟨t, ht, ha⟩ := bind_eq_ok.1 ha
      have hresolve : (within v beyond k).resolve name.text Registry.maxHops (.ref name) =
          .ok t := (resolve_ref_within (by omega)).trans ht
      rw [apply_ref_eq, ht, ok_bind, ← ih ha hr' (n := k) (by omega)]
      simp only [within, step, hresolve, ok_bind]
    | union cs =>
      obtain ⟨k, rfl⟩ : ∃ k, n = k + 2 := ⟨n - 2, by omega⟩
      obtain ⟨t, hfound⟩ := anyM_eq_true.1 ha
      have hchoose := choose_mono hr' (choose_eq_ok.2 hfound)
      have hthere := ih (findM?_eq_ok_some hfound).2 hr' (n := k) (by omega)
      rw [apply_union_eq, hchoose, ok_bind, ← hthere]
      calc (within v beyond (k + 2)).apply room (.union cs) raw
          = (within v beyond (k + 1)).applyUnion room cs raw := rfl
        _ = v.choose raw room cs >>= fun t => (within v beyond k).apply room t raw :=
            applyUnion_within (by omega)
        _ = (within v beyond k).apply room t raw := by rw [hchoose, ok_bind]
    | _ => exact apply_within_head hparts trivial (by unfold shapeBudget at hn; omega)

theorem apply_within_resolved (hs : ∀ name, s ≠ .ref name)
    (hn : 2 * room + shapeBudget room + below + 2 ≤ n) :
    (within v beyond n).apply room s raw = v.apply room s raw := by
  cases s with
  | ref name => exact absurd rfl (hs name)
  | union cs =>
    obtain ⟨k, rfl⟩ : ∃ k, n = k + 2 := ⟨n - 2, by omega⟩
    calc (within v beyond (k + 2)).apply room (.union cs) raw
        = (within v beyond (k + 1)).applyUnion room cs raw := rfl
      _ = v.choose raw room cs >>= fun t => (within v beyond k).apply room t raw :=
          applyUnion_within (by omega)
      _ = v.choose raw room cs >>= fun t => v.apply room t raw := by
          cases hc : v.choose raw room cs with
          | error e => rfl
          | ok t =>
            have ha := acceptsShape_of_choose hc
            exact apply_within_accepted hparts ha (Nat.le_refl room) (by omega)
      _ = v.apply room (.union cs) raw := (apply_union_eq cs).symm
  | _ => exact apply_within_head hparts trivial (by omega)

/-- One level of containers: with enough calls for the parts, some more are enough for the whole. -/
theorem apply_within_level (hn : 2 * room + shapeBudget room + below + 3 ≤ n) :
    (within v beyond n).apply room s raw = v.apply room s raw := by
  cases s with
  | ref name =>
    obtain ⟨k, rfl⟩ : ∃ k, n = k + 1 := ⟨n - 1, by omega⟩
    have hresolve : (within v beyond k).resolve name.text Registry.maxHops (.ref name) =
        v.registry.resolve (.ref name) := resolve_ref_within (by unfold shapeBudget at *; omega)
    rw [apply_ref_eq]
    simp only [within, step, hresolve]
    cases hr : v.registry.resolve (.ref name) with
    | error e => rfl
    | ok t => exact apply_within_resolved hparts (Registry.resolve_ne_ref hr) (by omega)
  | _ => exact apply_within_resolved hparts (by simp) (by omega)

end

/-- The nesting of calls that is enough with some room. It depends on nothing else, so cycles in the
registry do not count. -/
def budget (room : Nat) : Nat := (room + 1) * (3 * room + Registry.maxHops + 5)

theorem budget_succ (room : Nat) :
    2 * (room + 1) + shapeBudget (room + 1) + budget room + 3 ≤ budget (room + 1) := by
  have hgrow : budget (room + 1) =
      budget room + (3 * room + Registry.maxHops + 5) + 3 * (room + 2) := by
    unfold budget
    ring
  unfold shapeBudget
  omega

theorem apply_within (hn : budget room ≤ n) :
    (within v beyond n).apply room s raw = v.apply room s raw := by
  induction room generalizing n s raw with
  | zero =>
    have hparts (k : Nat) (_ : 0 ≤ k) : (within v beyond k).parts 0 = v.parts 0 := rfl
    refine apply_within_level hparts ?_
    unfold budget at hn
    unfold shapeBudget
    omega
  | succ room ih =>
    have hparts (k : Nat) (hk : budget room ≤ k) :
        (within v beyond k).parts (room + 1) = v.parts (room + 1) := by
      have hsame : (within v beyond k).apply room = v.apply room :=
        funext fun s => funext fun raw => ih hk
      rw [parts, Validator.parts, hsame]
    exact apply_within_level hparts (Nat.le_trans (budget_succ room) hn)

end Calls

/-- Validation comes to an end, whatever cycles the registry holds: the limit on nesting alone gives
a budget of nested calls that is never used up. However calls beyond the budget would be answered,
and however much larger it is, the result is the same. -/
theorem validate_within (v : Validator) (s : Schema) (raw : Json) (beyond : Calls) (extra : Nat) :
    (Calls.within v beyond (Calls.budget v.maxDepth + extra)).apply v.maxDepth s raw =
      v.validate s raw :=
  Calls.apply_within (Nat.le_add_right _ _)

end PayloadSchema.Validator
