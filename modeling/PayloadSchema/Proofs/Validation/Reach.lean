import PayloadSchema.Proofs.Validation.Run

/-! What a schema is made of, directly and through registered references. -/
namespace PayloadSchema
open Outcome

inductive Schema.Part : Schema → Schema → Prop
  | items {s : Schema} {least most : Option Nat} : Part s (.list s least most)
  | values {s : Schema} : Part s (.dict s)
  | field {c : Composite} {f : Field} (hf : f ∈ c.fields) : Part f.schema (.object c)
  | additional {c : Composite} {s : Schema} (ha : c.additional = .typed s) : Part s (.object c)
  | candidate {cs : List Schema} {s : Schema} (hs : s ∈ cs) : Part s (.union cs)

namespace Schema

mutual

/-- A test that a schema and everything inside it passes; references are not followed. -/
def all (p : Schema → Bool) : Schema → Bool
  | .list items least most => p (.list items least most) && all p items
  | .dict values => p (.dict values) && all p values
  | .object c => p (.object c) && allComposite p c
  | .union candidates => p (.union candidates) && allCandidates p candidates
  | s => p s

def allCandidates (p : Schema → Bool) : List Schema → Bool
  | [] => true
  | s :: rest => all p s && allCandidates p rest

def allComposite (p : Schema → Bool) : Composite → Bool
  | ⟨_, _, fields, additional⟩ => allFields p fields && allPolicy p additional

def allFields (p : Schema → Bool) : List Field → Bool
  | [] => true
  | ⟨_, schema, _, _, _⟩ :: rest => all p schema && allFields p rest

def allPolicy (p : Schema → Bool) : Policy → Bool
  | .typed schema => all p schema
  | _ => true

end

variable {p : Schema → Bool} {s t : Schema}

theorem self_of_all (h : s.all p = true) : p s = true := by
  cases s <;> simp_all [all]

theorem allCandidates_iff {cs : List Schema} :
    allCandidates p cs = true ↔ ∀ s ∈ cs, s.all p = true := by
  induction cs with
  | nil => simp [allCandidates]
  | cons c rest ih => simp [allCandidates, ih]

theorem allFields_iff {fields : List Field} :
    allFields p fields = true ↔ ∀ f ∈ fields, f.schema.all p = true := by
  induction fields with
  | nil => simp [allFields]
  | cons f rest ih =>
    cases f
    simp [allFields, ih]

theorem allComposite_eq (p : Schema → Bool) (c : Composite) :
    allComposite p c = (allFields p c.fields && allPolicy p c.additional) := by
  cases c
  rfl

theorem all_part (h : s.all p = true) (hp : Part t s) : t.all p = true := by
  cases hp with
  | items => exact (Bool.and_eq_true_iff.1 h).2
  | values => exact (Bool.and_eq_true_iff.1 h).2
  | field hf =>
    have hc := (Bool.and_eq_true_iff.1 h).2
    rw [allComposite_eq] at hc
    exact allFields_iff.1 (Bool.and_eq_true_iff.1 hc).1 _ hf
  | additional ha =>
    have hc := (Bool.and_eq_true_iff.1 h).2
    rw [allComposite_eq, ha] at hc
    exact (Bool.and_eq_true_iff.1 hc).2
  | candidate hs => exact allCandidates_iff.1 (Bool.and_eq_true_iff.1 h).2 _ hs

theorem all_of_parts (hs : p s = true) (h : ∀ t, Part t s → t.all p = true) :
    s.all p = true := by
  cases s with
  | primitive | ref => exact hs
  | list => exact Bool.and_eq_true_iff.2 ⟨hs, h _ .items⟩
  | dict => exact Bool.and_eq_true_iff.2 ⟨hs, h _ .values⟩
  | union => exact Bool.and_eq_true_iff.2 ⟨hs, allCandidates_iff.2 fun t ht => h t (.candidate ht)⟩
  | object c =>
    have hfields := allFields_iff.2 fun f hf => h f.schema (.field hf)
    have hpolicy : allPolicy p c.additional = true := by
      cases ha : c.additional with
      | typed t => exact h t (.additional ha)
      | _ => rfl
    rw [all, allComposite_eq, hs, hfields, hpolicy]
    rfl

end Schema

theorem Composite.field?_mem {c : Composite} {name : String} {f : Field}
    (h : c.field? name = some f) : f ∈ c.fields ∧ f.name = name :=
  ⟨List.mem_of_find?_eq_some h, by simpa using List.find?_some h⟩

def Schema.isUnion : Schema → Bool
  | .union _ => true
  | _ => false

/-- A composite as it is built, apart from what its fields hold. -/
abbrev Composite.Built := { c : Composite // Composite.fieldFault? [] c.fields = none }

/-- A composite has the field names that `Composite.build` asks for. -/
def Schema.isWellNamed : Schema → Bool
  | .object c => (Composite.fieldFault? [] c.fields).isNone
  | _ => true

def Schema.IsNamed (s : Schema) : Prop := s.all isWellNamed = true

namespace Registry

/-- The schemas that a schema leads to through its parts and through registered references. -/
inductive Reaches (r : Registry) : Schema → Schema → Prop
  | refl (s : Schema) : Reaches r s s
  | part {s t u : Schema} (hp : Schema.Part t s) (h : Reaches r t u) : Reaches r s u
  | ref {name : SchemaName} {t u : Schema} (hr : r.get? name.text = some t)
      (h : Reaches r t u) : Reaches r (.ref name) u

theorem reaches_of_resolveFrom {r : Registry} {start : String} {n : Nat} {s t : Schema}
    (h : r.resolveFrom start n s = .ok t) : r.Reaches s t := by
  induction n generalizing s with
  | zero => cases h
  | succ n ih =>
    cases s with
    | ref name =>
      simp only [resolveFrom] at h
      cases hm : r.get? name.text with
      | none => simp [hm] at h
      | some u => exact .ref hm (ih (by simpa [hm] using h))
    | _ =>
      cases h
      exact .refl _

theorem Reaches.trans {r : Registry} {s t u : Schema} (hst : r.Reaches s t)
    (htu : r.Reaches t u) : r.Reaches s u := by
  induction hst with
  | refl s => exact htu
  | part hp _ ih => exact .part hp (ih htu)
  | ref hr _ ih => exact .ref hr (ih htu)

def Throughout (r : Registry) (p : Schema → Prop) (s : Schema) : Prop :=
  ∀ t, r.Reaches s t → p t

namespace Throughout
variable {r : Registry} {p : Schema → Prop} {s t : Schema}

theorem self (h : r.Throughout p s) : p s := h s (.refl s)

theorem part (h : r.Throughout p s) (hp : Schema.Part t s) : r.Throughout p t :=
  fun u hu => h u (.part hp hu)

theorem resolve (h : r.Throughout p s) (hr : r.resolve s = .ok t) : r.Throughout p t :=
  fun u hu => h u ((reaches_of_resolveFrom hr).trans hu)

theorem field {c : Composite} {name : String} {f : Field} (h : r.Throughout p (.object c))
    (hf : c.field? name = some f) : r.Throughout p f.schema :=
  h.part (.field (Composite.field?_mem hf).1)

end Throughout

theorem mem_of_get? {r : Registry} {name : String} {s : Schema} (h : r.get? name = some s) :
    ∃ e ∈ r.entries, e.1.text = name ∧ e.2 = s := by
  obtain ⟨e, he, hs⟩ := Option.map_eq_some_iff.1 h
  exact ⟨e, List.mem_of_find?_eq_some he, by simpa using List.find?_some he, hs⟩

/-- A test that a schema and all registered ones pass holds of all that the schema leads to. -/
theorem throughout_of_all {r : Registry} {p : Schema → Bool} {s : Schema}
    (hs : s.all p = true) (hr : ∀ e ∈ r.entries, e.2.all p = true) :
    r.Throughout (fun t => p t = true) s := by
  intro t ht
  induction ht with
  | refl s => exact Schema.self_of_all hs
  | part hp _ ih => exact ih (Schema.all_part hs hp)
  | ref hget _ ih =>
    obtain ⟨e, he, _, rfl⟩ := mem_of_get? hget
    exact ih (hr e he)

def UnionFree (r : Registry) : Schema → Prop := r.Throughout fun s => s.isUnion = false

theorem unionFree_of_all {r : Registry} {s : Schema} (hs : s.all (fun t => !t.isUnion) = true)
    (hr : ∀ e ∈ r.entries, e.2.all (fun t => !t.isUnion) = true) : r.UnionFree s := by
  intro t ht
  simpa using throughout_of_all hs hr t ht

def WellNamed (r : Registry) : Schema → Prop := r.Throughout fun s => s.isWellNamed = true

/-- A schema that leads to composites as they are built, and to no others. -/
abbrev NamedSchema (r : Registry) := { s : Schema // r.WellNamed s }

abbrev NamedComposite (r : Registry) := { c : Composite // r.WellNamed (.object c) }

def IsNamed (r : Registry) : Prop := ∀ e ∈ r.entries, e.2.IsNamed

theorem IsNamed.wellNamed {r : Registry} {s : Schema} (hr : r.IsNamed) (hs : s.IsNamed) :
    r.WellNamed s :=
  throughout_of_all hs hr

end Registry

namespace Validator

/-- What a schema is settled on can be reached from it. -/
theorem settle_eq_ok {v : Validator} {raw : Json} {room n : Nat} {s head : Schema}
    (h : v.settle raw room n s = .ok head) : v.registry.Reaches s head ∧ head.IsHead := by
  induction n generalizing s with
  | zero => cases h
  | succ n ih =>
    cases s with
    | ref name =>
      obtain ⟨t, ht, h⟩ := bind_eq_ok.1 h
      exact ⟨(Registry.reaches_of_resolveFrom ht).trans (ih h).1, (ih h).2⟩
    | union cs =>
      obtain ⟨t, ht, h⟩ := bind_eq_ok.1 h
      exact ⟨.part (.candidate (choose_mem ht)) (ih h).1, (ih h).2⟩
    | _ =>
      cases h
      exact ⟨.refl _, trivial⟩

end Validator

theorem Composite.fieldFault?_eq_none {seen : List String} {fields : List Field}
    (h : fieldFault? seen fields = none) :
    (fields.map (·.name)).Nodup ∧ ∀ f ∈ fields, f.name ≠ "" ∧ f.name ∉ seen := by
  induction fields generalizing seen with
  | nil => simp
  | cons f rest ih =>
    simp only [fieldFault?] at h
    split at h
    · cases h
    · rename_i hempty
      split at h
      · cases h
      · rename_i hseen
        obtain ⟨hnodup, hrest⟩ := ih h
        have hne : f.name ≠ "" := by simpa [String.isEmpty_iff] using hempty
        have hfresh : f.name ∉ seen := by simpa using hseen
        refine ⟨List.nodup_cons.2 ⟨fun hmem => ?_, hnodup⟩, fun g hg => ?_⟩
        · obtain ⟨g, hg, hname⟩ := List.mem_map.1 hmem
          exact (hrest g hg).2 (by simp [hname])
        · rcases List.mem_cons.1 hg with rfl | hg
          · exact ⟨hne, hfresh⟩
          · exact ⟨(hrest g hg).1, fun hmem => (hrest g hg).2 (by simp [hmem])⟩

theorem Registry.WellNamed.nodup {r : Registry} {c : Composite} (h : r.WellNamed (.object c)) :
    (c.fields.map (·.name)).Nodup :=
  (Composite.fieldFault?_eq_none (Option.isNone_iff_eq_none.1 h.self)).1

end PayloadSchema
