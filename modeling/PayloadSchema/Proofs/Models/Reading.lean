import PayloadSchema.Models.Model
import PayloadSchema.Proofs.Validation.Object
import PayloadSchema.Proofs.Validation.Room
import PayloadSchema.Proofs.Validation.Rule

/-!
Readings that never fail on what a schema yields. Each one comes with a mirror, which says what the
value that was read has to do with the raw value.
-/
namespace PayloadSchema
open Outcome

abbrev Mirror (α : Type) := Json → α → Prop

namespace Mirror
variable {α : Type}

def text : Mirror String := fun raw a => raw = .string a

def integer : Mirror Int := fun raw k => Kind.integer.convert raw = .value (.integer k)

def list (mirror : Mirror α) : Mirror (List α) := fun raw as =>
  ∃ raws, raw = .array raws ∧ List.Forall₂ mirror raws as

def object (mirror : Members → α → Prop) : Mirror α := fun raw a =>
  ∃ sent, raw = .object sent ∧ mirror sent a

def Required (mirror : Mirror α) (sent : Members) (name : String) (a : α) : Prop :=
  ∃ raw, sent.lookup name = some raw ∧ mirror raw a

/-- A field with its presence: unset if the payload lacks it, null if the payload holds a null
there, and a value otherwise. -/
structure Optional (mirror : Mirror α) (sent : Members) (name : String) (p : Presence α) :
    Prop where
  unset_iff : p = .unset ↔ sent.lookup name = none
  null_iff : p = .null ↔ sent.lookup name = some .null
  value : ∀ a, p = .value a → ∃ raw, sent.lookup name = some raw ∧ mirror raw a

end Mirror

namespace Validator
variable {α : Type} {v : Validator} {n : Nat}

def Reads (v : Validator) (n : Nat) (s : Schema) (read : Reading α) (mirror : Mirror α) : Prop :=
  ∀ room < n, ∀ raw i, v.apply room s raw = .ok i → ∃ a, read i = .ok a ∧ mirror raw a

theorem Reads.mono {s : Schema} {read : Reading α} {mirror : Mirror α} {k : Nat}
    (h : v.Reads n s read mirror) (hk : k ≤ n) : v.Reads k s read mirror :=
  fun room hroom => h room (Nat.lt_of_lt_of_le hroom hk)

theorem Reads.imp {β : Type} {s : Schema} {read : Reading α} {mirror : Mirror α}
    {read' : Reading β} {mirror' : Mirror β} (h : v.Reads n s read mirror)
    (himp : ∀ raw i a, read i = .ok a → mirror raw a → ∃ b, read' i = .ok b ∧ mirror' raw b) :
    v.Reads n s read' mirror' := by
  intro room hroom raw i hrun
  obtain ⟨a, ha, hmirror⟩ := h room hroom raw i hrun
  exact himp raw i a ha hmirror

theorem reads_leaf {kind : Kind} {c : Constraints} {read : Reading α} {mirror : Mirror α}
    (h : ∀ raw i, kind.convert raw = .value i → c.Satisfied i →
      ∃ a, read i = .ok a ∧ mirror raw a) :
    v.Reads n (.primitive kind c) read mirror := by
  intro room _ raw i hrun
  have hs : (Schema.primitive kind c).IsHead := trivial
  rw [apply_head hs] at hrun
  obtain ⟨hconvert, hcheck⟩ := Kind.coerce_eq_ok.1 hrun
  exact h raw i hconvert (Constraints.satisfied_of_check hcheck)

theorem reads_text (c : Constraints) :
    v.Reads n (.primitive .string c) Reading.string Mirror.text := by
  refine reads_leaf fun raw i hconvert _ => ?_
  cases raw <;> cases hconvert
  exact ⟨_, rfl, rfl⟩

theorem reads_integer (c : Constraints) :
    v.Reads n (.primitive .integer c) Reading.integer Mirror.integer := by
  refine reads_leaf fun raw i hconvert _ => ?_
  have hkind := (Kind.convert_eq_value hconvert).1
  cases i with
  | integer k => exact ⟨k, rfl, hconvert⟩
  | _ => cases hkind

theorem reads_items {s : Schema} {read : Reading α} {mirror : Mirror α} {room : Nat}
    (h : v.Reads n s read mirror) (hroom : room < n) {raws : List Json} {items : List Instance}
    (hitems : List.Forall₂ (fun raw i => v.apply room s raw = .ok i) raws items) (k : Nat) :
    ∃ as, Reading.items read k items = .ok as ∧ List.Forall₂ mirror raws as := by
  induction hitems generalizing k with
  | nil => exact ⟨[], rfl, .nil⟩
  | @cons raw i raws items hrun _ ih =>
    obtain ⟨a, ha, hmirror⟩ := h room hroom raw i hrun
    obtain ⟨as, has, hmirrors⟩ := ih (k + 1)
    refine ⟨a :: as, ?_, .cons hmirror hmirrors⟩
    rw [Reading.items, ha, has]
    rfl

theorem reads_list {s : Schema} {least most : Option Nat} {read : Reading α} {mirror : Mirror α}
    (h : v.Reads n s read mirror) :
    v.Reads (n + 1) (.list s least most) (Reading.list read) (Mirror.list mirror) := by
  intro room hroom raw i hrun
  have hs : (Schema.list s least most).IsHead := trivial
  obtain ⟨r, rfl, hc⟩ := container_of_apply hs (by simp) hrun
  cases hc with
  | list hsize hitems =>
    obtain ⟨as, has, hmirrors⟩ := reads_items h (by omega) hitems 0
    exact ⟨as, has, _, rfl, hmirrors⟩

theorem reads_ref {name : SchemaName} {s : Schema} {read : Reading α} {mirror : Mirror α}
    (hr : v.registry.resolve (.ref name) = .ok s) (h : v.Reads n s read mirror) :
    v.Reads n (.ref name) read mirror := by
  intro room hroom raw i hrun
  obtain ⟨t, ht, hrun⟩ := exists_of_apply_ref hrun
  cases hr.symm.trans ht
  exact h room hroom raw i hrun

theorem reads_union {cs : List Schema} {read : Reading α} {mirror : Mirror α}
    (h : ∀ s ∈ cs, v.Reads n s read mirror) : v.Reads n (.union cs) read mirror := by
  intro room hroom raw i hrun
  obtain ⟨s, hs, hrun⟩ := exists_of_apply_union hrun
  exact h s hs room hroom raw i hrun

/-- Members that a composite accepts with some room for their values, and the entries they give. -/
structure ObjectRun (v : Validator) (room : Nat) (c : Composite) (sent : Members)
    (read : List (String × Presence Instance)) : Prop where
  required : ∀ name ∈ c.requiredNames, (sent.lookup name).isSome = true
  members : List.Forall₂ (MemberYields (fun s raw i => v.apply room s raw = .ok i) c) sent read

def ReadsObject (v : Validator) (n : Nat) (c : Composite)
    (read : ObjectInstance → Except AccessError α) (mirror : Members → α → Prop) : Prop :=
  ∀ room < n, ∀ sent entries, v.ObjectRun room c sent entries →
    ∃ a, read ⟨c, arrange c entries⟩ = .ok a ∧ mirror sent a

theorem reads_object {c : Composite} {m : Model α} {mirror : Members → α → Prop}
    (h : v.ReadsObject n c m.read mirror) :
    v.Reads (n + 1) (.object c) m.reading (Mirror.object mirror) := by
  intro room hroom raw i hrun
  have hs : (Schema.object c).IsHead := trivial
  obtain ⟨r, rfl, hc⟩ := container_of_apply hs (by simp) hrun
  cases hc with
  | object hreq hread =>
    obtain ⟨a, ha, hmirror⟩ := h r (by omega) _ _ ⟨hreq, hread⟩
    exact ⟨a, ha, _, rfl, hmirror⟩

namespace ObjectRun
variable {room : Nat} {c : Composite} {sent : Members} {entries : List (String × Presence Instance)}
  {s : Schema} {read : Reading α} {mirror : Mirror α}

theorem get_required (run : v.ObjectRun room c sent entries) (name : String)
    (hf : c.field? name = some (Models.required name s)) :
    ∃ raw i, sent.lookup name = some raw ∧ v.apply room s raw = .ok i ∧
      (⟨c, arrange c entries⟩ : ObjectInstance).get name = .ok i := by
  have hname : name ∈ c.requiredNames :=
    List.mem_map.2 ⟨_, List.mem_filter.2 ⟨(Composite.field?_mem hf).1, rfl⟩, rfl⟩
  have hsent := run.required name hname
  have hentry := entryYields_lookup run.members hf
  have hget : (⟨c, arrange c entries⟩ : ObjectInstance).get name =
      ((entries.lookup name).getD .unset).get.mapError (·.forField name) := by
    rw [ObjectInstance.get, presence?_arrange hf]
  generalize (entries.lookup name).getD .unset = p at hentry hget
  generalize sent.lookup name = given at hsent hentry
  cases hentry with
  | absent => cases hsent
  | sent h =>
    cases h with
    | null hnull => cases hnull
    | value _ hrun => exact ⟨_, _, rfl, hrun, hget⟩

theorem required_eq_ok (run : v.ObjectRun room c sent entries) (hroom : room < n) (name : String)
    (hf : c.field? name = some (Models.required name s)) (h : v.Reads n s read mirror) :
    ∃ a, (⟨c, arrange c entries⟩ : ObjectInstance).required read name = .ok a ∧
      Mirror.Required mirror sent name a := by
  obtain ⟨raw, i, hraw, hrun, hget⟩ := run.get_required name hf
  obtain ⟨a, ha, hmirror⟩ := h room hroom raw i hrun
  refine ⟨a, ?_, raw, hraw, hmirror⟩
  rw [ObjectInstance.required, hget]
  exact mapError_eq_ok.2 ha

theorem optional_eq_ok (run : v.ObjectRun room c sent entries) (hroom : room < n) (name : String)
    (hf : c.field? name = some (Models.optional name s)) (h : v.Reads n s read mirror) :
    ∃ p, (⟨c, arrange c entries⟩ : ObjectInstance).optional read name = .ok p ∧
      Mirror.Optional mirror sent name p := by
  have hentry := entryYields_lookup run.members hf
  rw [ObjectInstance.optional, ObjectInstance.field, presence?_arrange hf, Option.getD_some]
  generalize (entries.lookup name).getD .unset = p at hentry ⊢
  cases hlookup : sent.lookup name with
  | none =>
    rw [hlookup] at hentry
    cases hentry
    exact ⟨.unset, rfl, by simp [hlookup], by simp [hlookup], by simp⟩
  | some raw =>
    rw [hlookup] at hentry
    cases hentry with
    | sent hfield =>
      cases hfield with
      | null => exact ⟨.null, rfl, by simp [hlookup], by simp [hlookup], by simp⟩
      | value hnull hrun =>
        obtain ⟨a, ha, hmirror⟩ := h room hroom raw _ hrun
        have hne : raw ≠ .null := fun heq => by simp [heq, Json.isNull] at hnull
        refine ⟨.value a, ?_, by simp [hlookup], by simp [hlookup, hne], ?_⟩
        · rw [Presence.tryMap, ha]
          rfl
        · rintro b ⟨⟩
          exact ⟨raw, hlookup, hmirror⟩

end ObjectRun

end Validator
end PayloadSchema
