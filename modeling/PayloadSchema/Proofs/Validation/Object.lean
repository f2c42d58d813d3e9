import PayloadSchema.Proofs.Json.Keys
import PayloadSchema.Proofs.Validation.Reach

/-!
Objects as validation arranges them: the declared fields in order and then the others. What was
read for a name can be found again by that name.
-/
namespace PayloadSchema

namespace Composite
variable {c : Composite}

theorem field?_of_mem (hn : (c.fields.map (·.name)).Nodup) {f : Field} (hf : f ∈ c.fields) :
    c.field? f.name = some f := by
  unfold field?
  generalize c.fields = fields at hn hf
  induction fields with
  | nil => cases hf
  | cons g rest ih =>
    obtain ⟨hnot, hrest⟩ := List.nodup_cons.1 hn
    rcases List.mem_cons.1 hf with rfl | hf
    · simp
    · have hne : (g.name == f.name) = false := by
        rw [beq_eq_false_iff_ne]
        intro heq
        exact hnot (List.mem_map.2 ⟨f, hf, heq.symm⟩)
      rw [List.find?_cons, hne]
      exact ih hrest hf

theorem field?_eq_none {name : String} :
    c.field? name = none ↔ name ∉ c.fields.map (·.name) := by
  simp [field?]

/-- A declared field is found by its place. -/
theorem lookup?_declared {α : Type} {name : String} {f : Field} (hf : c.field? name = some f)
    (g : String → α) (rest : List (String × α)) :
    c.lookup? ((c.fields.map fun f => (f.name, g f.name)) ++ rest) name = some (g name) := by
  obtain ⟨i, hi⟩ : ∃ i, c.position? name = some i := by
    obtain ⟨hmem, hname⟩ := field?_mem hf
    rw [← Option.isSome_iff_exists, position?, List.findIdx?_isSome, List.any_eq_true]
    exact ⟨f, hmem, beq_iff_eq.2 hname⟩
  obtain ⟨hlt, hname, -⟩ := List.findIdx?_eq_some_iff_getElem.1 hi
  have hget : ((c.fields.map fun f => (f.name, g f.name)) ++ rest)[i]? = some (name, g name) := by
    rw [List.getElem?_append_left (by simpa using hlt), List.getElem?_map,
      List.getElem?_eq_getElem hlt, Option.map_some, beq_iff_eq.1 hname]
  rw [lookup?, hi]
  simp only [hget, Option.map_some]

end Composite

namespace Validator
variable {P : Schema → Json → Instance → Prop} {c : Composite} {members : Members}
  {read : List (String × Presence Instance)}

theorem lookup_read (h : List.Forall₂ (MemberYields P c) members read) (name : String) :
    (members.lookup name = none ∧ read.lookup name = none) ∨
      ∃ raw p, members.lookup name = some raw ∧ read.lookup name = some p ∧
        MemberYields P c (name, raw) (name, p) := by
  induction h with
  | nil => exact .inl ⟨rfl, rfl⟩
  | @cons m e members read hm _ ih =>
    obtain ⟨k, raw⟩ := m
    obtain ⟨k', p⟩ := e
    obtain rfl : k = k' := hm.name_eq
    by_cases hk : name = k
    · subst hk
      exact .inr ⟨raw, p, List.lookup_cons_self, List.lookup_cons_self, hm⟩
    · have hb : (name == k) = false := beq_eq_false_iff_ne.2 hk
      simpa [List.lookup_cons, hb] using ih

/-- What becomes of a declared field: unset if there is no member of its name, else what the field
makes of that member. -/
inductive EntryYields (P : Schema → Json → Instance → Prop) (f : Field) :
    Option Json → Presence Instance → Prop
  | absent : EntryYields P f none .unset
  | sent {raw : Json} {p : Presence Instance} (h : FieldYields P f raw p) :
      EntryYields P f (some raw) p

theorem entryYields_lookup (h : List.Forall₂ (MemberYields P c) members read) {name : String}
    {f : Field} (hf : c.field? name = some f) :
    EntryYields P f (members.lookup name) ((read.lookup name).getD .unset) := by
  rcases lookup_read h name with ⟨hm, hr⟩ | ⟨raw, p, hm, hr, hy⟩
  · rw [hm, hr]
    exact .absent
  · rw [hm, hr]
    cases hy with
    | declared hg hy =>
      cases hf.symm.trans hg
      exact .sent hy
    | additional hg => cases hf.symm.trans hg

/-- A declared field of an object as it was read. -/
theorem presence?_arrange {name : String} {f : Field} (hf : c.field? name = some f) :
    ObjectInstance.presence? ⟨c, arrange c read⟩ name =
      some ((read.lookup name).getD .unset) :=
  Composite.lookup?_declared hf (fun name => (read.lookup name).getD .unset) _

theorem map_name_read (h : List.Forall₂ (MemberYields P c) members read) :
    read.map (·.1) = members.map (·.1) := by
  induction h with
  | nil => rfl
  | cons hm _ ih => rw [List.map_cons, List.map_cons, ih, hm.name_eq]

def declaredEntries (c : Composite) (read : List (String × Presence Instance)) :
    List (String × Presence Instance) :=
  c.fields.map fun field => (field.name, (read.lookup field.name).getD .unset)

def additionalEntries (c : Composite) (read : List (String × Presence Instance)) :
    List (String × Presence Instance) :=
  read.filter fun (name, _) => (c.field? name).isNone

theorem arrange_eq (c : Composite) (read : List (String × Presence Instance)) :
    arrange c read = declaredEntries c read ++ additionalEntries c read := rfl

theorem mem_zip_declared {f : Field} {p : Presence Instance}
    (hn : (c.fields.map (·.name)).Nodup) (h : List.Forall₂ (MemberYields P c) members read)
    (hz : (f, p) ∈ c.fields.zip ((declaredEntries c read).map (·.2))) :
    f ∈ c.fields ∧ EntryYields P f (members.lookup f.name) p := by
  have hfp : f ∈ c.fields ∧ p = (read.lookup f.name).getD .unset := by
    rw [declaredEntries, List.map_map] at hz
    generalize c.fields = fields at hz
    induction fields with
    | nil => cases hz
    | cons g rest ih =>
      rcases List.mem_cons.1 hz with hz | hz
      · cases hz
        exact ⟨.head _, rfl⟩
      · exact ⟨.tail _ (ih hz).1, (ih hz).2⟩
  obtain ⟨hf, rfl⟩ := hfp
  exact ⟨hf, entryYields_lookup h (Composite.field?_of_mem hn hf)⟩

theorem mem_additional {e : String × Presence Instance} :
    e ∈ additionalEntries c read ↔ e ∈ read ∧ c.field? e.1 = none := by
  simp [additionalEntries]

theorem policyYields_of_mem (h : List.Forall₂ (MemberYields P c) members read)
    {name : String} {p : Presence Instance} (he : (name, p) ∈ additionalEntries c read) :
    ∃ raw, (name, raw) ∈ members ∧ PolicyYields P c.additional raw p := by
  obtain ⟨hmem, hnone⟩ := mem_additional.1 he
  induction h with
  | nil => cases hmem
  | @cons m e members read hm hrest ih =>
    rcases List.mem_cons.1 hmem with rfl | hmem
    · cases hm with
      | declared hg => cases hnone.symm.trans hg
      | additional _ hy => exact ⟨_, .head _, hy⟩
    · obtain ⟨raw, hraw, hy⟩ := ih (mem_additional.2 ⟨hmem, hnone⟩) hmem
      exact ⟨raw, .tail _ hraw, hy⟩

end Validator
end PayloadSchema
