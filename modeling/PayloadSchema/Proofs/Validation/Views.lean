import Mathlib
import PayloadSchema.Proofs.Validation.Lossless
import PayloadSchema.Proofs.Validation.Restoring

/-!
The views of an object: its fields by name, by place and as a list, its size and its JSON form. All
of them show the members that the object was made from, and nothing else.
-/
namespace PayloadSchema
open Outcome

namespace ObjectInstance
variable {o : ObjectInstance} {name : String}

/-- All views of an object show the members of a payload: those of declared fields in the order of
declaration, and then the others in the order of the payload. -/
structure Shows (o : ObjectInstance) (c : Composite) (members : Members) : Prop where
  contains (name : String) : o.contains name = true ↔ name ∈ members.map (·.1)
  null (name : String) : o.field name = .null ↔ members.lookup name = some .null
  names : o.present.map (·.1) =
    (c.fields.map (·.name)).filter (· ∈ members.map (·.1)) ++
      (members.map (·.1)).filter (· ∉ c.fields.map (·.name))
  once : (o.present.map (·.1)).Nodup
  place (i : Nat) (name : String) (p : Presence Instance) :
    o.at? i = some (name, p) → o.field name = p
  value (name : String) (i : Instance) : o.get name = .ok i ↔ o.field name = .value i
  undeclared (name other : String) : o.get name = .error (.undeclared other) ↔
    other = name ∧ name ∉ c.fields.map (·.name) ∧ name ∉ members.map (·.1)
  size : o.size = members.length
  encode : o.encode.map (·.1) = o.present.map (·.1)

theorem get_eq_ok {i : Instance} : o.get name = .ok i ↔ o.field name = .value i := by
  rw [get, field]
  cases o.presence? name with
  | none => simp
  | some p => cases p <;> simp [Presence.get, Except.mapError]

theorem get_eq_undeclared {other : String} :
    o.get name = .error (.undeclared other) ↔ other = name ∧ o.presence? name = none := by
  rw [get]
  cases o.presence? name with
  | none => simp [eq_comm]
  | some p => cases p <;> simp [Presence.get, Except.mapError, PresenceError.forField]

theorem keys_encode (o : ObjectInstance) : o.encode.map (·.1) = o.present.map (·.1) := by
  obtain ⟨c, entries⟩ := o
  rw [encode, Instance.encodeObject, Instance.encodeEntries_eq, List.map_map]
  rfl

end ObjectInstance

namespace Validator
variable {P : Schema → Json → Instance → Prop} {v : Validator} {c : Composite} {members : Members}
  {read : List (String × Presence Instance)} {name : String}

theorem PolicyYields.null_iff {policy : Policy} {raw : Json} {p : Presence Instance}
    (h : PolicyYields P policy raw p) : p = .null ↔ raw = .null := by
  cases h with
  | typedNull | anyNull => simp
  | typedValue hn | anyValue hn =>
    rw [← Json.isNull_iff, hn]
    simp

theorem MemberYields.null_iff {m : String × Json} {e : String × Presence Instance}
    (h : MemberYields P c m e) : e.2 = .null ↔ m.2 = .null := by
  cases h with
  | declared _ h =>
    cases h with
    | null => simp
    | value hn =>
      rw [← Json.isNull_iff, hn]
      simp
  | additional _ h => exact h.null_iff

/-- What was read under a name is set if and only if there is a member of that name. -/
theorem isSet_lookup (h : List.Forall₂ (MemberYields P c) members read) (name : String) :
    ((read.lookup name).getD .unset).isSet = true ↔ name ∈ members.map (·.1) := by
  rcases lookup_read h name with ⟨hm, hr⟩ | ⟨raw, p, hm, hr, hy⟩
  · rw [hr]
    refine iff_of_false (by simp [Presence.isSet]) fun hmem => ?_
    obtain ⟨⟨k, value⟩, hmember, rfl⟩ := List.mem_map.1 hmem
    obtain ⟨raw, hraw⟩ := Members.exists_lookup_of_mem hmember
    cases hm.symm.trans hraw
  · rw [hr]
    exact iff_of_true hy.isSet (List.mem_map.2 ⟨_, Members.mem_of_lookup hm, rfl⟩)

theorem null_lookup (h : List.Forall₂ (MemberYields P c) members read) (name : String) :
    (read.lookup name).getD .unset = .null ↔ members.lookup name = some .null := by
  rcases lookup_read h name with ⟨hm, hr⟩ | ⟨raw, p, hm, hr, hy⟩
  · simp [hm, hr]
  · simpa [hm, hr] using hy.null_iff

theorem names_setFields (h : List.Forall₂ (MemberYields P c) members read) (fields : List Field) :
    (setFields read fields).map (·.1) =
      (fields.map (·.name)).filter (· ∈ members.map (·.1)) := by
  rw [setFields, List.filter_map, List.map_map, List.filter_map]
  refine congrArg _ (List.filter_congr fun f _ => ?_)
  exact Bool.eq_iff_iff.2 ((isSet_lookup h f.name).trans decide_eq_true_iff.symm)

theorem names_additionalEntries (h : List.Forall₂ (MemberYields P c) members read) :
    (additionalEntries c read).map (·.1) =
      (members.map (·.1)).filter (· ∉ c.fields.map (·.name)) := by
  rw [← map_name_read h, List.filter_map, additionalEntries]
  refine congrArg _ (List.filter_congr fun e _ => ?_)
  have hnone : (c.field? e.1).isNone = true ↔ e.1 ∉ c.fields.map (·.name) := by
    rw [Option.isNone_iff_eq_none, Composite.field?_eq_none]
  exact Bool.eq_iff_iff.2 (hnone.trans decide_eq_true_iff.symm)

theorem presence?_eq_none (h : List.Forall₂ (MemberYields P c) members read) :
    ObjectInstance.presence? ⟨c, arrange c read⟩ name = none ↔
      name ∉ c.fields.map (·.name) ∧ name ∉ members.map (·.1) := by
  rw [← Composite.field?_eq_none]
  cases hf : c.field? name with
  | some f => simp [presence?_arrange hf]
  | none =>
    rw [presence?_arrange_undeclared hf, ← isSet_lookup h name]
    rcases lookup_read h name with ⟨-, hr⟩ | ⟨raw, p, -, hr, hy⟩
    · simp [hr, Presence.isSet]
    · simpa [hr] using hy.isSet

/-- An object shows the members of the payload that it was made from, in all its views. -/
theorem validateComposite_shows (c : Composite.Built) (members : Members.Distinct)
    {o : ObjectInstance} (h : v.validateComposite c (.object members) = .ok o) :
    o.Shows c members := by
  obtain ⟨c, hc⟩ := c
  obtain ⟨members, hk⟩ := members
  obtain ⟨f, members', read, -, hmembers, -, hread, rfl⟩ := applyComposite_eq_ok.1 h
  cases hmembers
  have hn := (Composite.fieldFault?_eq_none hc).1
  have hkeys : (read.map (·.1)).Nodup := map_name_read hread ▸ hk
  have hset : ∀ e ∈ read, e.2.isSet = true := by
    intro e he
    obtain ⟨m, -, hm⟩ := exists_of_mem_right hread he
    exact hm.isSet
  constructor
  · intro name
    rw [ObjectInstance.contains, field_arrange]
    exact isSet_lookup hread name
  · intro name
    rw [field_arrange]
    exact null_lookup hread name
  · calc (presentEntries c read).map (·.1)
      _ = (setFields read c.fields).map (·.1) ++ (additionalEntries c read).map (·.1) := by
        rw [presentEntries_eq hset, List.map_append]
      _ = _ := by rw [names_setFields hread, names_additionalEntries hread]
  · exact nodup_presentEntries hn hkeys
  · intro i name p hi
    have hmem : (name, p) ∈ presentEntries c read := List.mem_of_getElem? hi
    rw [field_arrange, Members.lookup_of_mem hkeys (mem_of_mem_presentEntries hmem)]
    rfl
  · intro name i
    exact ObjectInstance.get_eq_ok
  · intro name other
    rw [ObjectInstance.get_eq_undeclared, presence?_eq_none hread]
  · calc (presentEntries c read).length
      _ = read.length := (presentEntries_perm hn hkeys hset).length_eq
      _ = members.length := hread.length_eq.symm
  · exact ObjectInstance.keys_encode _

/-- A note shows its text first, then what else was sent, and no title. -/
theorem noteObject_shows :
    Composite.fieldFault? [] noteSchema.fields = none ∧
      noteValidator.validateComposite noteSchema notePayload = .ok noteObject ∧
      noteObject.present.map (·.1) = ["text", "pinned", "colour"] ∧
      noteObject.get "title" = .error (.unset (some "title")) ∧
      noteObject.Shows noteSchema
        [("pinned", .bool true), ("text", .string "a"), ("colour", .null)] := by
  have hc : Composite.fieldFault? [] noteSchema.fields = none := by decide
  refine ⟨hc, noteValidator_note, rfl, rfl, ?_⟩
  exact validateComposite_shows ⟨_, hc⟩ ⟨_, by decide⟩ noteValidator_note

end Validator
end PayloadSchema
