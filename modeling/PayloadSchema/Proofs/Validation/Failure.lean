import PayloadSchema.Proofs.Json.Keys
import PayloadSchema.Proofs.Validation.Leaf
import PayloadSchema.Proofs.Validation.Reach

/-!
What it says that a step of validation fails: which part of the value was at fault, and with which
cause.
-/
namespace PayloadSchema
open Outcome

def Cause.Fits : Cause → Json → Prop
  | .notAnObject actual, w => actual = w.shape
  | .typeMismatch _ actual, w => actual = w.shape
  | .noAlternative _ actual, w => actual = w.shape
  | .missingField name, w => ∃ members, w = .object members ∧ members.lookup name = none
  | .unexpectedField name, w =>
    ∃ members part, w = .object members ∧ members.lookup name = some part
  | _, _ => True

def Json.IsContainer : Json → Prop
  | .array _ => True
  | .object _ => True
  | _ => False

theorem Json.DistinctKeys.child {raw part : Json} {segment : Segment} (hd : raw.DistinctKeys)
    (h : raw.child? segment = some part) : part.DistinctKeys := by
  cases hd with
  | array hitems =>
    cases segment with
    | index i => exact hitems part (List.mem_of_getElem? h)
    | _ => cases h
  | object _ hmembers =>
    cases segment with
    | index i => cases h
    | _ => exact hmembers _ (Members.mem_of_lookup h)
  | _ => cases segment <;> cases h

namespace Constraints

def OnlyViolates {α : Type} (x : Except ValidationError α) : Prop :=
  ∀ e, x = .error e → ∃ name detail, e = .here (.constraint name detail)

theorem OnlyViolates.ok {α : Type} {a : α} : OnlyViolates (.ok a) := by
  intro e h
  cases h

theorem onlyViolates_violated {name detail : String} : OnlyViolates (violated name detail) := by
  rintro e ⟨⟩
  exact ⟨name, detail, rfl⟩

theorem OnlyViolates.bind {α β : Type} {x : Except ValidationError α}
    {f : α → Except ValidationError β} (hx : OnlyViolates x) (hf : ∀ a, OnlyViolates (f a)) :
    OnlyViolates (x >>= f) := by
  intro e h
  rcases bind_eq_error.1 h with h | ⟨a, -, h⟩
  · exact hx e h
  · exact hf a e h

theorem OnlyViolates.ite {p : Prop} [Decidable p] {x y : Except ValidationError Unit}
    (hx : OnlyViolates x) (hy : OnlyViolates y) : OnlyViolates (if p then x else y) := by
  split
  · exact hx
  · exact hy

theorem onlyViolates_between {n : Nat} {least most : Option Nat} {low high : String}
    {lowDetail highDetail : Nat → String} :
    OnlyViolates (do
      if let some l := least then
        if n < l then
          violated low (lowDetail l)
      if let some m := most then
        if m < n then
          violated high (highDetail m)) := by
  have hhigh : OnlyViolates (do
      if let some m := most then
        if m < n then
          violated high (highDetail m)) := by
    cases most with
    | none => exact .ok
    | some m => exact .ite onlyViolates_violated .ok
  cases least with
  | none => exact hhigh
  | some l => exact .ite (onlyViolates_violated.bind fun _ => hhigh) hhigh

theorem onlyViolates_checkLength (c : Constraints) (i : Instance) :
    OnlyViolates (c.checkLength i) := by
  unfold checkLength
  cases i.length? with
  | none => exact .ok
  | some n => exact onlyViolates_between

theorem onlyViolates_checkPattern (c : Constraints) (i : Instance) :
    OnlyViolates (c.checkPattern i) := by
  unfold checkPattern
  split
  · exact .ite .ok onlyViolates_violated
  · exact .ok

theorem onlyViolates_checkBound (i : Instance) (name : String) (bound : Option Decimal)
    (holds : Ordering → Bool) : OnlyViolates (checkBound i name bound holds) := by
  unfold checkBound
  split
  · exact .ok
  · split
    · exact .ite .ok onlyViolates_violated
    · exact .ok

theorem onlyViolates_checkAllowed (c : Constraints) (i : Instance) :
    OnlyViolates (c.checkAllowed i) := by
  unfold checkAllowed
  cases c.allowed with
  | none => exact .ok
  | some vs => exact .ite .ok onlyViolates_violated

theorem onlyViolates_check (c : Constraints) (i : Instance) : OnlyViolates (c.check i) := by
  have hbound := onlyViolates_checkBound i
  have hbounds : OnlyViolates (c.checkBounds i) :=
    (hbound _ _ _).bind fun _ => (hbound _ _ _).bind fun _ => (hbound _ _ _).bind fun _ =>
      hbound _ _ _
  exact (onlyViolates_checkLength c i).bind fun _ => (onlyViolates_checkPattern c i).bind fun _ =>
    hbounds.bind fun _ => onlyViolates_checkAllowed c i

end Constraints

/-- A failure that lies with the value itself, and not with its depth. -/
def ValidationError.IsHere (raw : Json) (e : ValidationError) : Prop :=
  ∃ cause, e = .here cause ∧ cause.Fits raw ∧ ∀ limit, cause ≠ .depthExceeded limit

/-- A leaf reports a constraint, or a value that it does not accept. -/
theorem Kind.coerce_eq_error {kind : Kind} {c : Constraints} {raw : Json} {e : ValidationError}
    (h : kind.coerce c raw = .error e) :
    (∃ name detail, e = .here (.constraint name detail)) ∨
      kind.accepts raw = false ∧ e = .here (.typeMismatch kind.name raw.shape) := by
  unfold coerce at h
  cases hconvert : kind.convert raw with
  | value i =>
    rw [hconvert] at h
    exact .inl ((Constraints.onlyViolates_check c i).bind (fun _ => .ok) e h)
  | outOfRange literal target =>
    rw [hconvert] at h
    cases h
    exact .inl ⟨_, _, rfl⟩
  | wrongShape =>
    rw [hconvert] at h
    cases h
    exact .inr ⟨by rw [accepts, hconvert]; rfl, rfl⟩

namespace Validator

theorem exists_of_applyItems_error {f : Json → Except ValidationError Instance} {n : Nat}
    {raws : List Json} {e : ValidationError} (h : applyItems f n raws = .error e) :
    ∃ k raw d, raws[k]? = some raw ∧ f raw = .error d ∧ e = d.within (.index (n + k)) := by
  induction raws generalizing n with
  | nil => cases h
  | cons raw raws ih =>
    rcases bind_eq_error.1 h with h | ⟨i, -, h⟩
    · obtain ⟨d, hd, rfl⟩ := mapError_eq_error.1 h
      exact ⟨0, raw, d, rfl, hd, rfl⟩
    · rcases bind_eq_error.1 h with h | ⟨is, -, h⟩
      · obtain ⟨k, raw, d, hk, hd, rfl⟩ := ih h
        refine ⟨k + 1, raw, d, hk, hd, ?_⟩
        rw [Nat.add_right_comm, Nat.add_assoc]
      · cases h

theorem exists_of_applyDict_error {f : Json → Except ValidationError Instance} {members : Members}
    {e : ValidationError} (h : applyDict f members = .error e) :
    ∃ k raw d, (k, raw) ∈ members ∧ f raw = .error d ∧ e = d.within (.key k) := by
  rcases bind_eq_error.1 h with h | ⟨entries, -, h⟩
  · obtain ⟨⟨k, raw⟩, hm, h⟩ := mapM_eq_error h
    rcases bind_eq_error.1 h with h | ⟨i, -, h⟩
    · obtain ⟨d, hd, rfl⟩ := mapError_eq_error.1 h
      exact ⟨k, raw, d, hm, hd, rfl⟩
    · cases h
  · cases h

/-- How a declared field refuses a raw value, where `P s raw d` says that `s` refuses `raw` with
`d`. -/
inductive FieldRefuses (P : Schema → Json → ValidationError → Prop) (f : Field) :
    Json → ValidationError → Prop
  | null (ha : f.acceptsNull = false) :
      FieldRefuses P f .null
        (.within (.field f.name) (.here (.typeMismatch f.schema.typeName "null")))
  | value {raw : Json} {d : ValidationError} (hn : raw.isNull = false) (hp : P f.schema raw d) :
      FieldRefuses P f raw (d.within (.field f.name))

inductive PolicyRefuses (P : Schema → Json → ValidationError → Prop) (name : String) :
    Policy → Json → ValidationError → Prop
  | forbidden {raw : Json} : PolicyRefuses P name .forbidden raw (.here (.unexpectedField name))
  | typed {s : Schema} {raw : Json} {d : ValidationError} (hp : P s raw d) :
      PolicyRefuses P name (.typed s) raw (d.within (.field name))

inductive MemberRefuses (P : Schema → Json → ValidationError → Prop) (c : Composite) :
    String × Json → ValidationError → Prop
  | declared {name : String} {f : Field} {raw : Json} {d : ValidationError}
      (hf : c.field? name = some f) (h : FieldRefuses P f raw d) :
      MemberRefuses P c (name, raw) d
  | additional {name : String} {raw : Json} {d : ValidationError}
      (hf : c.field? name = none) (h : PolicyRefuses P name c.additional raw d) :
      MemberRefuses P c (name, raw) d

section
variable {f : Schema → Json → Except ValidationError Instance} {raw : Json} {e : ValidationError}

theorem applyDeclared_eq_error {field : Field} :
    applyDeclared f field raw = .error e ↔
      FieldRefuses (fun s raw d => f s raw = .error d) field raw e := by
  constructor
  · intro h
    cases hn : raw.isNull with
    | true =>
      obtain rfl := Json.isNull_iff.1 hn
      cases ha : field.acceptsNull with
      | true =>
        simp only [applyDeclared, hn, ha] at h
        cases h
      | false =>
        simp only [applyDeclared, hn, ha] at h
        cases h
        exact .null ha
    | false =>
      simp only [applyDeclared, hn, Bool.not_false, if_true] at h
      obtain ⟨d, hd, rfl⟩ := mapError_eq_error.1 h
      exact .value hn (map_eq_error.1 hd)
  · intro h
    cases h with
    | null ha =>
      simp only [applyDeclared, Json.isNull, ha]
      rfl
    | value hn hp =>
      simp only [applyDeclared, hn, hp]
      rfl

theorem applyAdditional_eq_error {policy : Policy} {name : String} :
    applyAdditional f policy name raw = .error e ↔
      PolicyRefuses (fun s raw d => f s raw = .error d) name policy raw e := by
  constructor
  · intro h
    cases policy with
    | forbidden =>
      cases h
      exact .forbidden
    | any => cases h
    | typed s =>
      rcases bind_eq_error.1 h with h | ⟨i, -, h⟩
      · obtain ⟨d, hd, rfl⟩ := mapError_eq_error.1 h
        exact .typed hd
      · cases h
  · intro h
    cases h with
    | forbidden => rfl
    | typed hp => exact bind_eq_error.2 (.inl (mapError_eq_error.2 ⟨_, hp, rfl⟩))

theorem applyMember_eq_error {c : Composite} {m : String × Json} :
    applyMember f c m = .error e ↔
      MemberRefuses (fun s raw d => f s raw = .error d) c m e := by
  obtain ⟨name, raw⟩ := m
  constructor
  · intro h
    cases hf : c.field? name with
    | some field =>
      simp only [applyMember, hf] at h
      rcases bind_eq_error.1 h with h | ⟨p, -, h⟩
      · exact .declared hf (applyDeclared_eq_error.1 h)
      · cases h
    | none =>
      simp only [applyMember, hf] at h
      rcases bind_eq_error.1 h with h | ⟨p, -, h⟩
      · exact .additional hf (applyAdditional_eq_error.1 h)
      · cases h
  · intro h
    cases h with
    | declared hf h =>
      simp only [applyMember, hf]
      exact bind_eq_error.2 (.inl (applyDeclared_eq_error.2 h))
    | additional hf h =>
      simp only [applyMember, hf]
      exact bind_eq_error.2 (.inl (applyAdditional_eq_error.2 h))

end

inductive HeadRefuses (v : Validator) (inner : Inner) : Schema → Json → ValidationError → Prop
  | constraint {s : Schema} {raw : Json} (name detail : String) :
      HeadRefuses v inner s raw (.here (.constraint name detail))
  | mismatch {s : Schema} {raw : Json} (expected : String)
      (ha : v.acceptsShape raw 1 s = .ok false) :
      HeadRefuses v inner s raw (.here (.typeMismatch expected raw.shape))
  | notAnObject {s : Schema} {raw : Json} (ha : v.acceptsShape raw 1 s = .ok false) :
      HeadRefuses v inner s raw (.here (.notAnObject raw.shape))
  | deep {s : Schema} {raw : Json} (hi : inner = none) (hc : raw.IsContainer) :
      HeadRefuses v inner s raw v.tooDeep
  | item {f : Schema → Json → Except ValidationError Instance} {items : Schema}
      {least most : Option Nat} {raws : List Json} {k : Nat} {raw : Json} {d : ValidationError}
      (hi : inner = some f) (hk : raws[k]? = some raw) (hd : f items raw = .error d) :
      HeadRefuses v inner (.list items least most) (.array raws) (d.within (.index k))
  | entry {f : Schema → Json → Except ValidationError Instance} {values : Schema}
      {members : Members} {k : String} {raw : Json} {d : ValidationError}
      (hi : inner = some f) (hm : (k, raw) ∈ members) (hd : f values raw = .error d) :
      HeadRefuses v inner (.dict values) (.object members) (d.within (.key k))
  | missing {c : Composite} {members : Members} {name : String}
      (hn : members.lookup name = none) :
      HeadRefuses v inner (.object c) (.object members) (.here (.missingField name))
  | member {f : Schema → Json → Except ValidationError Instance} {c : Composite}
      {members : Members} {m : String × Json} {e : ValidationError} (hi : inner = some f)
      (hm : m ∈ members) (h : MemberRefuses (fun s raw d => f s raw = .error d) c m e) :
      HeadRefuses v inner (.object c) (.object members) e

section
variable {v : Validator} {inner : Inner} {s : Schema} {raw : Json} {e : ValidationError}

theorem headRefuses_of_enter (hc : raw.IsContainer) (h : v.enter inner = .error e) :
    HeadRefuses v inner s raw e := by
  cases inner with
  | none =>
    cases h
    exact .deep rfl hc
  | some f => cases h

theorem headRefuses_of_applyComposite {c : Composite}
    (h : v.applyComposite inner c raw = .error e) :
    HeadRefuses v inner (.object c) raw e := by
  cases raw with
  | object members =>
    obtain h | ⟨f, hf, h⟩ := bind_eq_error.1 h
    · exact headRefuses_of_enter trivial h
    · cases hmissing : c.requiredNames.find? fun name => (members.lookup name).isNone with
      | some name =>
        rw [hmissing] at h
        cases h
        have hnone := List.find?_some hmissing
        exact .missing (Option.isNone_iff_eq_none.1 hnone)
      | none =>
        rw [hmissing] at h
        obtain ⟨m, hm, h⟩ := mapM_eq_error (bind_pure_eq_error.1 h)
        exact .member (enter_eq_ok.1 hf) hm (applyMember_eq_error.1 h)
  | _ =>
    cases h
    exact .notAnObject rfl

theorem headRefuses_of_applyHead (hs : s.IsHead) (h : v.applyHead inner s raw = .error e) :
    HeadRefuses v inner s raw e := by
  cases s with
  | primitive kind c =>
    obtain ⟨name, detail, rfl⟩ | ⟨ha, rfl⟩ := Kind.coerce_eq_error h
    · exact .constraint name detail
    · exact .mismatch _ (congrArg Except.ok ha)
  | list items least most =>
    cases raw with
    | array raws =>
      obtain h | ⟨f, hf, h⟩ := bind_eq_error.1 h
      · exact headRefuses_of_enter trivial h
      · obtain h | ⟨_, -, h⟩ := bind_eq_error.1 h
        · obtain ⟨name, detail, rfl⟩ := Constraints.onlyViolates_between e h
          exact .constraint name detail
        · obtain ⟨k, raw, d, hk, hd, rfl⟩ := exists_of_applyItems_error (bind_pure_eq_error.1 h)
          rw [Nat.zero_add]
          exact .item (enter_eq_ok.1 hf) hk hd
    | _ =>
      cases h
      exact .mismatch _ rfl
  | dict values =>
    cases raw with
    | object members =>
      obtain h | ⟨f, hf, h⟩ := bind_eq_error.1 h
      · exact headRefuses_of_enter trivial h
      · obtain ⟨k, raw, d, hm, hd, rfl⟩ := exists_of_applyDict_error (bind_pure_eq_error.1 h)
        exact .entry (enter_eq_ok.1 hf) hm hd
    | _ =>
      cases h
      exact .mismatch _ rfl
  | object c => exact headRefuses_of_applyComposite (map_eq_error.1 h)
  | ref => exact hs.elim
  | union => exact hs.elim

end

/-- How a schema that is neither a reference nor a union refuses a value: for what it is, for
standing at the limit, for a null in one of its fields, or for a part that is refused in turn. -/
inductive Refuses (v : Validator) (inner : Inner) (s : Schema) (raw : Json) :
    ValidationError → Prop
  | here {e : ValidationError} (he : e.IsHere raw) : Refuses v inner s raw e
  | deep (hi : inner = none) (hc : raw.IsContainer) : Refuses v inner s raw v.tooDeep
  | null {name expected : String} (hp : raw.child? (.field name) = some .null) :
      Refuses v inner s raw (.within (.field name) (.here (.typeMismatch expected "null")))
  | part {f : Schema → Json → Except ValidationError Instance} {t : Schema} {segment : Segment}
      {part : Json} {d : ValidationError} (hi : inner = some f) (ht : Schema.Part t s)
      (hp : raw.child? segment = some part) (hd : f t part = .error d) :
      Refuses v inner s raw (d.within segment)

section
variable {v : Validator} {inner : Inner} {s : Schema} {raw : Json} {e : ValidationError}

theorem MemberRefuses.refuses {f : Schema → Json → Except ValidationError Instance}
    {c : Composite} {members : Members} {m : String × Json}
    (h : MemberRefuses (fun s raw d => f s raw = .error d) c m e)
    (hp : members.lookup m.1 = some m.2) :
    Refuses v (some f) (.object c) (.object members) e := by
  cases h with
  | declared hfield h =>
    obtain ⟨hmem, rfl⟩ := Composite.field?_mem hfield
    cases h with
    | null => exact .null hp
    | value _ hd => exact .part rfl (.field hmem) hp hd
  | additional _ h =>
    generalize hpolicy : c.additional = policy at h
    cases h with
    | forbidden => exact .here ⟨_, rfl, ⟨members, _, rfl, hp⟩, by simp⟩
    | typed hd => exact .part rfl (.additional hpolicy) hp hd

/-- The part that is refused is found by its segment, since no key stands twice. -/
theorem refuses_of_applyHead (hs : s.IsHead) (hd : raw.DistinctKeys)
    (h : v.applyHead inner s raw = .error e) : Refuses v inner s raw e := by
  cases headRefuses_of_applyHead hs h with
  | constraint => exact .here ⟨_, rfl, trivial, by simp⟩
  | mismatch => exact .here ⟨_, rfl, rfl, by simp⟩
  | notAnObject => exact .here ⟨_, rfl, rfl, by simp⟩
  | deep hi hc => exact .deep hi hc
  | item hi hk hpart => exact .part hi .items hk hpart
  | entry hi hm hpart =>
    cases hd with
    | object hkeys _ => exact .part hi .values (Members.lookup_of_mem hkeys hm) hpart
  | @missing c members name hn => exact .here ⟨_, rfl, ⟨members, rfl, hn⟩, by simp⟩
  | member hi hm hmember =>
    cases hd with
    | object hkeys _ =>
      rw [hi]
      exact hmember.refuses (Members.lookup_of_mem hkeys hm)

end

end Validator
end PayloadSchema
