import PayloadSchema.Proofs.Outcome
import PayloadSchema.Validation.Validator

/-!
Successful runs of validation. Each function of the validator is described by what it makes of its
input, and one induction over runs follows the schema: leaves, containers whose parts were
validated with less room, references and unions.
-/
namespace PayloadSchema
open Outcome

def Schema.IsHead : Schema → Prop
  | .ref _ => False
  | .union _ => False
  | _ => True

theorem Json.isNull_iff {v : Json} : v.isNull = true ↔ v = .null := by
  cases v <;> simp [Json.isNull]

namespace Registry

theorem resolveFrom_ne_ref {r : Registry} {start : String} {n : Nat} {s t : Schema}
    (h : r.resolveFrom start n s = .ok t) (name : SchemaName) : t ≠ .ref name := by
  induction n generalizing s with
  | zero => cases h
  | succ n ih =>
    cases s with
    | ref m =>
      simp only [resolveFrom] at h
      cases hm : r.get? m.text with
      | none => simp [hm] at h
      | some u => exact ih (by simpa [hm] using h)
    | _ =>
      cases h
      simp

theorem resolve_ne_ref {r : Registry} {s t : Schema} (h : r.resolve s = .ok t)
    (name : SchemaName) : t ≠ .ref name :=
  resolveFrom_ne_ref h name

end Registry

namespace Validator

theorem inside_eq_ok {α : Type} {segment : Segment} {r : Except ValidationError α} {a : α} :
    inside segment r = .ok a ↔ r = .ok a :=
  mapError_eq_ok

theorem enter_eq_ok {v : Validator} {inner : Inner}
    {f : Schema → Json → Except ValidationError Instance} :
    v.enter inner = .ok f ↔ inner = some f := by
  cases inner <;> simp [enter]

theorem applyItems_eq_ok {f : Json → Except ValidationError Instance} {n : Nat}
    {raws : List Json} {items : List Instance} :
    applyItems f n raws = .ok items ↔ List.Forall₂ (fun raw i => f raw = .ok i) raws items := by
  induction raws generalizing n items with
  | nil => cases items <;> simp [applyItems]
  | cons raw raws ih =>
    rw [applyItems, bind_eq_ok]
    constructor
    · rintro ⟨i, hi, h⟩
      obtain ⟨is, his, h⟩ := bind_eq_ok.1 h
      cases h
      exact .cons (inside_eq_ok.1 hi) (ih.1 his)
    · intro h
      cases h with
      | cons hi his => exact ⟨_, inside_eq_ok.2 hi, bind_eq_ok.2 ⟨_, ih.2 his, rfl⟩⟩

abbrev keyOrder (a b : String × Instance) : Bool := decide (a.1 ≤ b.1)

theorem keyOrder_trans (a b c : String × Instance) (hab : keyOrder a b = true)
    (hbc : keyOrder b c = true) : keyOrder a c = true := by
  simp only [keyOrder, decide_eq_true_eq] at *
  exact String.le_trans hab hbc

theorem keyOrder_total (a b : String × Instance) : (keyOrder a b || keyOrder b a) = true := by
  simp only [keyOrder, Bool.or_eq_true, decide_eq_true_eq]
  exact String.le_total a.1 b.1

theorem applyDict_eq_ok {f : Json → Except ValidationError Instance} {members : Members}
    {entries : List (String × Instance)} :
    applyDict f members = .ok entries ↔
      ∃ read : List (String × Instance),
        List.Forall₂ (fun m e => m.1 = e.1 ∧ f m.2 = .ok e.2) members read ∧
          read.mergeSort keyOrder = entries := by
  have hentry (m : String × Json) (e : String × Instance) :
      (∃ i, f m.2 = .ok i ∧ (m.1, i) = e) ↔ m.1 = e.1 ∧ f m.2 = .ok e.2 := by
    constructor
    · rintro ⟨i, hi, rfl⟩
      exact ⟨rfl, hi⟩
    · rintro ⟨hk, hi⟩
      exact ⟨e.2, hi, Prod.ext hk rfl⟩
  simp only [applyDict, bind_eq_ok, mapM_eq_ok, inside_eq_ok, pure, Except.pure,
    Except.ok.injEq, hentry]

/-- What a declared field makes of a raw value, where `P s raw i` says that `s` makes `i` of
`raw`. -/
inductive FieldYields (P : Schema → Json → Instance → Prop) (f : Field) :
    Json → Presence Instance → Prop
  | null (ha : f.acceptsNull = true) : FieldYields P f .null .null
  | value {raw : Json} {i : Instance} (hn : raw.isNull = false) (hp : P f.schema raw i) :
      FieldYields P f raw (.value i)

inductive PolicyYields (P : Schema → Json → Instance → Prop) :
    Policy → Json → Presence Instance → Prop
  | typedNull {s : Schema} {i : Instance} (hp : P s .null i) :
      PolicyYields P (.typed s) .null .null
  | typedValue {s : Schema} {raw : Json} {i : Instance} (hn : raw.isNull = false)
      (hp : P s raw i) : PolicyYields P (.typed s) raw (.value i)
  | anyNull : PolicyYields P .any .null .null
  | anyValue {raw : Json} (hn : raw.isNull = false) :
      PolicyYields P .any raw (.value (.any raw))

inductive MemberYields (P : Schema → Json → Instance → Prop) (c : Composite) :
    String × Json → String × Presence Instance → Prop
  | declared {name : String} {f : Field} {raw : Json} {p : Presence Instance}
      (hf : c.field? name = some f) (h : FieldYields P f raw p) :
      MemberYields P c (name, raw) (name, p)
  | additional {name : String} {raw : Json} {p : Presence Instance}
      (hf : c.field? name = none) (h : PolicyYields P c.additional raw p) :
      MemberYields P c (name, raw) (name, p)

section
variable {P Q : Schema → Json → Instance → Prop} {c : Composite} {f : Field} {policy : Policy}
  {raw : Json} {p : Presence Instance} {m : String × Json} {e : String × Presence Instance}

theorem FieldYields.mono (h : FieldYields P f raw p) (hpq : ∀ s raw i, P s raw i → Q s raw i) :
    FieldYields Q f raw p := by
  cases h with
  | null ha => exact .null ha
  | value hn hp => exact .value hn (hpq _ _ _ hp)

theorem PolicyYields.mono (h : PolicyYields P policy raw p)
    (hpq : ∀ s raw i, P s raw i → Q s raw i) : PolicyYields Q policy raw p := by
  cases h with
  | typedNull hp => exact .typedNull (hpq _ _ _ hp)
  | typedValue hn hp => exact .typedValue hn (hpq _ _ _ hp)
  | anyNull => exact .anyNull
  | anyValue hn => exact .anyValue hn

theorem MemberYields.mono (h : MemberYields P c m e)
    (hpq : ∀ s raw i, P s raw i → Q s raw i) : MemberYields Q c m e := by
  cases h with
  | declared hf h => exact .declared hf (h.mono hpq)
  | additional hf h => exact .additional hf (h.mono hpq)

theorem MemberYields.name_eq (h : MemberYields P c m e) : m.1 = e.1 := by
  cases h <;> rfl

theorem PolicyYields.isSet (h : PolicyYields P policy raw p) : p.isSet = true := by
  cases h <;> rfl

theorem MemberYields.isSet (h : MemberYields P c m e) : e.2.isSet = true := by
  cases h with
  | declared _ h => cases h <;> rfl
  | additional _ h => exact h.isSet

end

section
variable {f : Schema → Json → Except ValidationError Instance} {field : Field}
  {policy : Policy} {name : String} {raw : Json} {p : Presence Instance}

theorem applyDeclared_eq_ok :
    applyDeclared f field raw = .ok p ↔
      FieldYields (fun s raw i => f s raw = .ok i) field raw p := by
  constructor
  · intro h
    cases hn : raw.isNull with
    | true =>
      obtain rfl := Json.isNull_iff.1 hn
      cases ha : field.acceptsNull with
      | true =>
        simp only [applyDeclared, hn, ha] at h
        cases h
        exact .null ha
      | false =>
        simp only [applyDeclared, hn, ha] at h
        cases h
    | false =>
      simp only [applyDeclared, hn, Bool.not_false, if_true, inside_eq_ok, map_eq_ok] at h
      obtain ⟨i, hi, rfl⟩ := h
      exact .value hn hi
  · intro h
    cases h with
    | null ha => simp [applyDeclared, Json.isNull, ha]
    | value hn hp => simp [applyDeclared, hn, hp, inside_eq_ok, map_eq_ok]

theorem applyAdditional_eq_ok :
    applyAdditional f policy name raw = .ok p ↔
      PolicyYields (fun s raw i => f s raw = .ok i) policy raw p := by
  constructor
  · intro h
    cases policy with
    | forbidden => cases h
    | any =>
      cases hn : raw.isNull with
      | true =>
        obtain rfl := Json.isNull_iff.1 hn
        cases h
        exact .anyNull
      | false =>
        simp only [applyAdditional, hn] at h
        cases h
        exact .anyValue hn
    | typed s =>
      obtain ⟨i, hi, h⟩ := bind_eq_ok.1 h
      have hi := inside_eq_ok.1 hi
      cases hn : raw.isNull with
      | true =>
        obtain rfl := Json.isNull_iff.1 hn
        cases h
        exact .typedNull hi
      | false =>
        rw [hn] at h
        cases h
        exact .typedValue hn hi
  · intro h
    cases h with
    | typedNull hp => exact bind_eq_ok.2 ⟨_, inside_eq_ok.2 hp, rfl⟩
    | typedValue hn hp => exact bind_eq_ok.2 ⟨_, inside_eq_ok.2 hp, by rw [hn]; rfl⟩
    | anyNull => rfl
    | anyValue hn => simp [applyAdditional, hn]

theorem applyMember_eq_ok {c : Composite} {m : String × Json}
    {e : String × Presence Instance} :
    applyMember f c m = .ok e ↔ MemberYields (fun s raw i => f s raw = .ok i) c m e := by
  obtain ⟨name, raw⟩ := m
  constructor
  · intro h
    cases hf : c.field? name with
    | some field =>
      simp only [applyMember, hf] at h
      obtain ⟨p, hp, h⟩ := bind_eq_ok.1 h
      cases h
      exact .declared hf (applyDeclared_eq_ok.1 hp)
    | none =>
      simp only [applyMember, hf] at h
      obtain ⟨p, hp, h⟩ := bind_eq_ok.1 h
      cases h
      exact .additional hf (applyAdditional_eq_ok.1 hp)
  · intro h
    cases h with
    | declared hf h =>
      simp only [applyMember, hf]
      exact bind_eq_ok.2 ⟨_, applyDeclared_eq_ok.2 h, rfl⟩
    | additional hf h =>
      simp only [applyMember, hf]
      exact bind_eq_ok.2 ⟨_, applyAdditional_eq_ok.2 h, rfl⟩

end

theorem applyComposite_eq_ok {v : Validator} {inner : Inner} {c : Composite} {raw : Json}
    {o : ObjectInstance} :
    v.applyComposite inner c raw = .ok o ↔
      ∃ f members read, inner = some f ∧ raw = .object members ∧
        (∀ name ∈ c.requiredNames, (members.lookup name).isSome = true) ∧
        List.Forall₂ (MemberYields (fun s raw i => f s raw = .ok i) c) members read ∧
        o = ⟨c, arrange c read⟩ := by
  cases raw with
  | object members =>
    simp only [applyComposite, bind_eq_ok, enter_eq_ok]
    constructor
    · rintro ⟨f, hf, h⟩
      cases hm : c.requiredNames.find? fun name => (members.lookup name).isNone with
      | some name => simp [hm] at h
      | none =>
        simp only [hm, bind_eq_ok, mapM_eq_ok, applyMember_eq_ok] at h
        obtain ⟨read, hread, h⟩ := h
        cases h
        refine ⟨f, members, read, hf, rfl, fun name hname => ?_, hread, rfl⟩
        simpa using List.find?_eq_none.1 hm name hname
    · rintro ⟨f, members', read, hf, hraw, hreq, hread, rfl⟩
      cases hraw
      refine ⟨f, hf, ?_⟩
      have hm : (c.requiredNames.find? fun name => (members.lookup name).isNone) = none :=
        List.find?_eq_none.2 fun name hname => by simpa using hreq name hname
      simp only [hm, bind_eq_ok, mapM_eq_ok, applyMember_eq_ok]
      exact ⟨read, hread, rfl⟩
  | _ => simp [applyComposite]

/-- What a container becomes, where `P s raw i` says that `s` makes `i` of the part `raw`. -/
inductive Container (P : Schema → Json → Instance → Prop) : Schema → Json → Instance → Prop
  | list {s : Schema} {least most : Option Nat} {raws : List Json} {items : List Instance}
      (hsize : checkSize raws.length least most = .ok ())
      (hitems : List.Forall₂ (P s) raws items) :
      Container P (.list s least most) (.array raws) (.list items)
  | dict {s : Schema} {members : Members} {read : List (String × Instance)}
      (hread : List.Forall₂ (fun m e => m.1 = e.1 ∧ P s m.2 e.2) members read) :
      Container P (.dict s) (.object members) (.dict (read.mergeSort keyOrder))
  | object {c : Composite} {members : Members} {read : List (String × Presence Instance)}
      (hreq : ∀ name ∈ c.requiredNames, (members.lookup name).isSome = true)
      (hread : List.Forall₂ (MemberYields P c) members read) :
      Container P (.object c) (.object members) (.object ⟨c, arrange c read⟩)

theorem Container.mono {P Q : Schema → Json → Instance → Prop} {s : Schema} {raw : Json}
    {i : Instance} (h : Container P s raw i) (hpq : ∀ s raw i, P s raw i → Q s raw i) :
    Container Q s raw i := by
  cases h with
  | list hsize hitems => exact .list hsize (hitems.imp (hpq _))
  | dict hread => exact .dict (hread.imp fun m e h => ⟨h.1, hpq _ _ _ h.2⟩)
  | object hreq hread => exact .object hreq (hread.imp fun m e h => h.mono hpq)

/-- A schema that is neither a reference nor a union is a leaf or makes a container. -/
theorem applyHead_eq_ok {v : Validator} {inner : Inner} {s : Schema} {raw : Json}
    {i : Instance} :
    v.applyHead inner s raw = .ok i ↔
      (∃ kind c, s = .primitive kind c ∧ kind.coerce c raw = .ok i) ∨
        ∃ f, inner = some f ∧ Container (fun s raw i => f s raw = .ok i) s raw i := by
  constructor
  · intro h
    cases s with
    | primitive kind c => exact .inl ⟨kind, c, rfl, h⟩
    | list s least most =>
      cases raw with
      | array raws =>
        simp only [applyHead, bind_eq_ok, enter_eq_ok, applyItems_eq_ok] at h
        obtain ⟨f, hf, _, hsize, items, hitems, h⟩ := h
        cases h
        exact .inr ⟨f, hf, .list hsize hitems⟩
      | _ => simp [applyHead] at h
    | dict s =>
      cases raw with
      | object members =>
        simp only [applyHead, bind_eq_ok, enter_eq_ok, applyDict_eq_ok] at h
        obtain ⟨f, hf, entries, ⟨read, hread, rfl⟩, h⟩ := h
        cases h
        exact .inr ⟨f, hf, .dict hread⟩
      | _ => simp [applyHead] at h
    | object c =>
      simp only [applyHead, map_eq_ok, applyComposite_eq_ok] at h
      obtain ⟨o, ⟨f, members, read, hf, rfl, hreq, hread, rfl⟩, rfl⟩ := h
      exact .inr ⟨f, hf, .object hreq hread⟩
    | ref n => simp [applyHead] at h
    | union cs => simp [applyHead] at h
  · rintro (⟨kind, c, rfl, h⟩ | ⟨f, rfl, h⟩)
    · exact h
    · cases h with
      | list hsize hitems =>
        simp only [applyHead, bind_eq_ok, enter_eq_ok, applyItems_eq_ok]
        exact ⟨f, rfl, (), hsize, _, hitems, rfl⟩
      | dict hread =>
        simp only [applyHead, bind_eq_ok, enter_eq_ok, applyDict_eq_ok]
        exact ⟨f, rfl, _, ⟨_, hread, rfl⟩, rfl⟩
      | object hreq hread =>
        simp only [applyHead, map_eq_ok, applyComposite_eq_ok]
        exact ⟨_, ⟨f, _, _, rfl, rfl, hreq, hread, rfl⟩, rfl⟩

def parts (v : Validator) : Nat → Inner
  | 0 => none
  | room + 1 => some (v.apply room)

theorem apply_eq (v : Validator) (room : Nat) (s : Schema) (raw : Json) :
    v.apply room s raw =
      v.settle raw room (room + 2) s >>= fun head => v.applyHead (v.parts room) head raw := by
  cases room <;> rfl

theorem settle_head {v : Validator} {raw : Json} {room n : Nat} {s : Schema} (hs : s.IsHead) :
    v.settle raw room (n + 1) s = .ok s := by
  cases s with
  | ref name => exact hs.elim
  | union cs => exact hs.elim
  | _ => rfl

theorem choose_mem {v : Validator} {raw : Json} {room : Nat} {cs : List Schema} {s : Schema}
    (h : v.choose raw room cs = .ok s) : s ∈ cs := by
  obtain ⟨found, hfound, h⟩ := bind_eq_ok.1 h
  cases found with
  | none => cases h
  | some t =>
    cases h
    exact (findM?_eq_ok_some hfound).1

/-- Induction over successful runs, with one case for each way in which a schema is applied. -/
theorem apply_induction {v : Validator} {P : Nat → Schema → Json → Instance → Prop}
    (leaf : ∀ room kind c raw i, kind.coerce c raw = .ok i → P room (.primitive kind c) raw i)
    (container : ∀ room s raw i,
      Container (fun s raw i => v.apply room s raw = .ok i ∧ P room s raw i) s raw i →
      P (room + 1) s raw i)
    (ref : ∀ room name s raw i, v.registry.resolve (.ref name) = .ok s → P room s raw i →
      P room (.ref name) raw i)
    (union : ∀ room cs s raw i, v.choose raw room cs = .ok s → P room s raw i →
      P room (.union cs) raw i)
    {room : Nat} {s : Schema} {raw : Json} {i : Instance} (h : v.apply room s raw = .ok i) :
    P room s raw i := by
  induction room using Nat.strongRecOn generalizing s raw i with
  | ind room ih =>
    have hsettle (n : Nat) (s head : Schema) (hs : v.settle raw room n s = .ok head)
        (hp : P room head raw i) : P room s raw i := by
      induction n generalizing s with
      | zero => cases hs
      | succ n ihn =>
        cases s with
        | ref name =>
          obtain ⟨t, ht, hs⟩ := bind_eq_ok.1 hs
          exact ref room name t raw i ht (ihn t hs)
        | union cs =>
          obtain ⟨t, ht, hs⟩ := bind_eq_ok.1 hs
          exact union room cs t raw i ht (ihn t hs)
        | _ =>
          cases hs
          exact hp
    rw [apply_eq] at h
    obtain ⟨head, hs, h⟩ := bind_eq_ok.1 h
    apply hsettle _ s head hs
    rcases applyHead_eq_ok.1 h with ⟨kind, c, rfl, h⟩ | ⟨f, hf, h⟩
    · exact leaf room kind c raw i h
    · cases room with
      | zero => cases hf
      | succ room =>
        cases hf
        exact container room head raw i
          (h.mono fun s raw i h => ⟨h, ih room (Nat.lt_succ_self _) h⟩)

theorem apply_head {v : Validator} {room : Nat} {s : Schema} {raw : Json} (hs : s.IsHead) :
    v.apply room s raw = v.applyHead (v.parts room) s raw := by
  rw [apply_eq, settle_head hs]
  rfl

theorem apply_container {v : Validator} {room : Nat} {s : Schema} {raw : Json} {i : Instance}
    (h : Container (fun s raw i => v.apply room s raw = .ok i) s raw i) :
    v.apply (room + 1) s raw = .ok i := by
  have hs : s.IsHead := by cases h <;> trivial
  rw [apply_head hs]
  exact applyHead_eq_ok.2 (.inr ⟨_, rfl, h⟩)

theorem container_of_apply {v : Validator} {room : Nat} {s : Schema} {raw : Json} {i : Instance}
    (hs : s.IsHead) (hleaf : ∀ kind c, s ≠ .primitive kind c) (h : v.apply room s raw = .ok i) :
    ∃ r, room = r + 1 ∧ Container (fun s raw i => v.apply r s raw = .ok i) s raw i := by
  rw [apply_head hs] at h
  rcases applyHead_eq_ok.1 h with ⟨kind, c, rfl, -⟩ | ⟨f, hf, hc⟩
  · exact absurd rfl (hleaf kind c)
  · cases room with
    | zero => cases hf
    | succ r =>
      cases hf
      exact ⟨r, rfl, hc⟩

/-- A reference costs no room. -/
theorem apply_ref {v : Validator} {room : Nat} {name : SchemaName} {s : Schema} {raw : Json}
    (hr : v.registry.resolve (.ref name) = .ok s) (hs : s.IsHead) :
    v.apply room (.ref name) raw = v.apply room s raw := by
  have hstep : v.settle raw room (room + 2) (.ref name) = .ok s := by
    rw [settle, hr]
    exact settle_head hs
  rw [apply_eq, hstep, apply_head hs]
  rfl

end Validator
end PayloadSchema
