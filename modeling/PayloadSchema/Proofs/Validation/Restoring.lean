import Mathlib
import PayloadSchema.Proofs.Validation.Update

/-!
A field that is set and removed again. All fields come back as they were, but the last additional
field comes to stand before the others, since it takes the place that the removed member leaves.
-/
namespace PayloadSchema
open Outcome

theorem Instance.keys_of_sameEntries {as bs : List (String × Presence Instance)}
    (h : sameEntries as bs = true) : as.map (·.1) = bs.map (·.1) := by
  induction as generalizing bs with
  | nil =>
    cases bs with
    | nil => rfl
    | cons => simp [sameEntries] at h
  | cons a as ih =>
    obtain ⟨k, p⟩ := a
    cases bs with
    | nil => cases p <;> simp [sameEntries] at h
    | cons b bs =>
      obtain ⟨l, q⟩ := b
      have hrest : k = l ∧ sameEntries as bs = true := by
        cases p <;> cases q <;> simp_all [sameEntries]
      rw [List.map_cons, List.map_cons, ih hrest.2, hrest.1]

theorem ObjectInstance.keys_of_same {o o' : ObjectInstance} (h : o.same o' = true) :
    o.entries.map (·.1) = o'.entries.map (·.1) := by
  obtain ⟨c, as⟩ := o
  obtain ⟨d, bs⟩ := o'
  simp only [same, Instance.sameObject, Bool.and_eq_true] at h
  exact Instance.keys_of_sameEntries h.2

theorem lastFirst_ne {α : Type} {xs : List α} (hn : xs.Nodup) (h : 1 < xs.length) :
    lastFirst xs ≠ xs := by
  rcases List.eq_nil_or_concat' xs with rfl | ⟨ys, last, rfl⟩
  · simp at h
  · cases ys with
    | nil => simp at h
    | cons y ys =>
      rw [lastFirst_append_singleton, List.cons_append]
      intro heq
      have hlast : last = y := (List.cons.inj heq).1
      rw [List.cons_append, List.nodup_cons] at hn
      exact hn.1 (by simp [hlast])

namespace Validator
variable {v : Validator} {room : Nat} {c : Composite} {o : ObjectInstance} {name : String}
  {field : Field} {value : Json} {p : Presence Instance}
  {entries : List (String × Presence Instance)}

def setFields (entries : List (String × Presence Instance)) (fields : List Field) :
    List (String × Presence Instance) :=
  (fields.map fun f => (f.name, (entries.lookup f.name).getD .unset)).filter (·.2.isSet)

theorem presentEntries_eq (hset : ∀ e ∈ entries, e.2.isSet = true) :
    presentEntries c entries = setFields entries c.fields ++ additionalEntries c entries := by
  rw [presentEntries, arrange_eq, List.filter_append]
  congr 1
  exact List.filter_eq_self.2 fun e he => hset e (mem_additional.1 he).1

theorem setFields_append (entries : List (String × Presence Instance)) (fs gs : List Field) :
    setFields entries (fs ++ gs) = setFields entries fs ++ setFields entries gs := by
  simp [setFields]

theorem name_mem_of_mem_setFields {fs : List Field} {e : String × Presence Instance}
    (h : e ∈ setFields entries fs) : e.1 ∈ fs.map (·.name) := by
  obtain ⟨f, hf, rfl⟩ := List.mem_map.1 (List.mem_filter.1 h).1
  exact List.mem_map.2 ⟨f, hf, rfl⟩

theorem declared_of_mem_setFields {fs : List Field} {e : String × Presence Instance}
    (hfs : ∀ f ∈ fs, f ∈ c.fields) (h : e ∈ setFields entries fs) :
    (c.field? e.1).isNone = false := by
  obtain ⟨f, hf, hname⟩ := List.mem_map.1 (name_mem_of_mem_setFields h)
  rw [Option.isNone_eq_false_iff, Option.isSome_iff_ne_none]
  exact fun hnone => Composite.field?_eq_none.1 hnone (List.mem_map.2 ⟨f, hfs f hf, hname⟩)

theorem setFields_append_entry {fs : List Field} (h : name ∉ fs.map (·.name)) :
    setFields (entries ++ [(name, p)]) fs = setFields entries fs := by
  refine congrArg (List.filter _) (List.map_congr_left fun f hf => ?_)
  have hne : f.name ≠ name := by
    rintro rfl
    exact h (List.mem_map.2 ⟨f, hf, rfl⟩)
  rw [List.lookup_append, Members.lookup_cons_ite, if_neg hne, List.lookup_nil, Option.or_none]

theorem isSet_append (hset : ∀ e ∈ entries, e.2.isSet = true) (hp : p.isSet = true) :
    ∀ e ∈ entries ++ [(name, p)], e.2.isSet = true := by
  intro e he
  rcases List.mem_append.1 he with he | he
  · exact hset e he
  · rw [List.mem_singleton.1 he]
    exact hp

/-- A declared field that is set stands among the other entries at one place; what is written
before and after it stays the same. -/
theorem exists_place (hn : (c.fields.map (·.name)).Nodup) (hf : c.field? name = some field)
    (hset : ∀ e ∈ entries, e.2.isSet = true) (hnot : name ∉ entries.map (·.1))
    (hp : p.isSet = true) :
    ∃ front back, name ∉ front.map (·.1) ∧
      (∀ e ∈ front ++ back, (c.field? e.1).isNone = false) ∧
      presentEntries c entries = front ++ (back ++ additionalEntries c entries) ∧
      presentEntries c (entries ++ [(name, p)]) =
        front ++ (name, p) :: (back ++ additionalEntries c entries) := by
  obtain ⟨hmem, rfl⟩ := Composite.field?_mem hf
  obtain ⟨before, after, hfields⟩ := List.append_of_mem hmem
  have hsplit : c.fields = before ++ ([field] ++ after) := hfields
  have hnames : field.name ∉ (before ++ after).map (·.name) := by
    rw [hfields, List.map_append, List.map_cons, List.nodup_middle, ← List.map_append] at hn
    exact (List.nodup_cons.1 hn).1
  rw [List.map_append, List.mem_append, not_or] at hnames
  have hnone : entries.lookup field.name = none := Members.lookup_eq_none hnot
  have habsent : setFields entries [field] = [] := by
    simp [setFields, hnone, Presence.isSet]
  have hplaced : setFields (entries ++ [(field.name, p)]) [field] = [(field.name, p)] := by
    simp [setFields, List.lookup_append, hnone, hp]
  have hadditional : additionalEntries c (entries ++ [(field.name, p)]) =
      additionalEntries c entries := by
    simp [additionalEntries, List.filter_append, hf]
  refine ⟨setFields entries before, setFields entries after, fun h => ?_, fun e he => ?_, ?_, ?_⟩
  · obtain ⟨e, he, heq⟩ := List.mem_map.1 h
    exact hnames.1 (heq ▸ name_mem_of_mem_setFields he)
  · rw [← setFields_append] at he
    refine declared_of_mem_setFields (fun f hf => ?_) he
    rw [hfields]
    exact ((List.sublist_cons_self field after).append_left before).subset hf
  · rw [presentEntries_eq hset, hsplit, setFields_append, setFields_append, habsent,
      List.nil_append, List.append_assoc]
  · rw [presentEntries_eq (isSet_append hset hp), hadditional, hsplit, setFields_append,
      setFields_append, setFields_append_entry hnames.1, setFields_append_entry hnames.2, hplaced,
      List.singleton_append, List.append_assoc, List.cons_append]

theorem TakenBack.isSet (ht : TakenBack v room c entries o) :
    ∀ e ∈ entries, e.2.isSet = true :=
  fun e he => (applyMember_eq_ok.1 (ht.yields e he)).isSet

theorem TakenBack.not_mem_of_unset (ht : TakenBack v room c entries o)
    (h : o.field name = .unset) : name ∉ entries.map (·.1) := by
  intro hmem
  obtain ⟨⟨_, q⟩, hq, rfl⟩ := List.mem_map.1 hmem
  obtain ⟨p, hp⟩ := Members.exists_lookup_of_mem hq
  have hset := ht.isSet _ (Members.mem_of_lookup hp)
  rw [ht.object, field_arrange, hp, Option.getD_some] at h
  rw [h] at hset
  cases hset

theorem isSet_of_atField (hroom : v.maxDepth = room + 1) (h : v.atField c name value = .ok p) :
    applyMember (v.apply room) c (name, value) = .ok (name, p) ∧ p.isSet = true := by
  have hmember : applyMember (v.apply room) c (name, value) = .ok (name, p) := by
    rw [applyMember_eq, keepKey, ← atField_eq hroom, h]
    rfl
  exact ⟨hmember, (applyMember_eq_ok.1 hmember).isSet⟩

/-- A name that is new is read last. -/
theorem TakenBack.withField_of_not_mem (ht : TakenBack v room c entries o)
    (hnot : name ∉ entries.map (·.1)) (h : v.atField c name value = .ok p) :
    v.withField o name value = .ok ⟨c, arrange c (entries ++ [(name, p)])⟩ := by
  have hmember := (isSet_of_atField ht.limit h).1
  have hread : (o.encode ++ [(name, value)]).mapM (applyMember (v.apply room) c) =
      .ok (entries ++ [(name, p)]) :=
    mapM_eq_ok.2 (List.rel_append (mapM_eq_ok.1 ht.mapM_encode) (.cons hmember .nil))
  rw [ht.withField_eq, Members.insert_of_not_mem (ht.keys ▸ hnot), hread]
  rfl

/-- The entries of an object in an order in which an additional field has moved. -/
theorem arrange_lastFirst {front back : List (String × Presence Instance)}
    (hn : (c.fields.map (·.name)).Nodup) (hk : (entries.map (·.1)).Nodup)
    (hset : ∀ e ∈ entries, e.2.isSet = true)
    (hdeclared : ∀ e ∈ front ++ back, (c.field? e.1).isNone = false)
    (hpresent : presentEntries c entries = front ++ (back ++ additionalEntries c entries)) :
    arrange c (front ++ lastFirst (back ++ additionalEntries c entries)) =
      declaredEntries c entries ++ lastFirst (additionalEntries c entries) := by
  have hperm : (front ++ lastFirst (back ++ additionalEntries c entries)).Perm
      (presentEntries c entries) :=
    hpresent ▸ (lastFirst_perm _).append_left front
  have hdistinct := nodup_presentEntries hn hk
  rw [arrange_eq]
  congr 1
  · refine List.map_congr_left fun f hf => ?_
    rw [← Members.lookup_perm hdistinct hperm.symm,
      lookup_presentEntries hset (List.mem_map.2 ⟨f, hf, rfl⟩)]
  · have hfront : front.filter (fun e => (c.field? e.1).isNone) = [] :=
      List.filter_eq_nil_iff.2 fun e he => by simp [hdeclared e (List.mem_append_left _ he)]
    rw [additionalEntries, List.filter_append, hfront, List.nil_append, ← additionalEntries]
    exact filter_lastFirst_append (fun e he => hdeclared e (List.mem_append_right _ he))
      fun e he => Option.isNone_iff_eq_none.2 (mem_additional.1 he).2

/-- The members that are left are read as their entries, in the order that the removal makes. -/
theorem TakenBack.withoutField_of_place (ht : TakenBack v room c entries o)
    {front back : List (String × Presence Instance)} (hfront : name ∉ front.map (·.1))
    (hpresent : presentEntries c entries = front ++ back) (hname : name ∉ c.requiredNames)
    {o₁ : ObjectInstance} (hw : Written c (front ++ (name, p) :: back) o₁) :
    v.withoutField o₁ name = .ok ⟨c, arrange c (front ++ lastFirst back)⟩ := by
  have hkeys : name ∉ (front.map written).map (·.1) := by
    rw [List.map_map]
    exact hfront
  have hmembers : o₁.encode.remove name = (front ++ lastFirst back).map written := by
    rw [hw.encode, List.map_append, List.map_cons, written, Members.remove_split hkeys,
      List.map_append, map_lastFirst]
  have hread : (o₁.encode.remove name).mapM (applyMember (v.apply room) c) =
      .ok (front ++ lastFirst back) := by
    rw [hmembers, mapM_eq_ok, List.forall₂_map_left_iff, List.forall₂_same]
    intro e he
    have hmem : e ∈ presentEntries c entries :=
      hpresent ▸ ((lastFirst_perm back).append_left front).mem_iff.1 he
    exact ht.yields e (mem_of_mem_presentEntries hmem)
  rw [withoutField_eq hw ht.limit hname, hread]
  rfl

theorem not_mem_requiredNames (hn : (c.fields.map (·.name)).Nodup) (hf : c.field? name = some field)
    (h : field.required = false) : name ∉ c.requiredNames := by
  intro hmem
  obtain ⟨g, hg, rfl⟩ := List.mem_map.1 hmem
  obtain ⟨hg, hrequired⟩ := List.mem_filter.1 hg
  cases hf.symm.trans (Composite.field?_of_mem hn hg)
  cases h.symm.trans hrequired

theorem TakenBack.written_append (ht : TakenBack v room c entries o)
    (hn : (c.fields.map (·.name)).Nodup) (hnot : name ∉ entries.map (·.1))
    (hp : p.isSet = true) :
    Written c (presentEntries c (entries ++ [(name, p)]))
      ⟨c, arrange c (entries ++ [(name, p)])⟩ := by
  refine written_presentEntries hn ?_ (isSet_append ht.isSet hp) fun other hother => ?_
  · rw [List.map_append, List.nodup_append]
    refine ⟨ht.distinct, List.nodup_singleton _, ?_⟩
    rintro k hk _ hmem rfl
    cases List.mem_singleton.1 hmem
    exact hnot hk
  · rw [List.map_append]
    exact List.mem_append_left _ (ht.required other hother)

/-- A field that is set and then removed leaves the entries that there were, in another order. -/
theorem TakenBack.exists_withoutField (ht : TakenBack v room c entries o)
    (hn : (c.fields.map (·.name)).Nodup) (hf : c.field? name = some field)
    (hoptional : field.required = false) (hnot : name ∉ entries.map (·.1))
    (hp : p.isSet = true) :
    ∃ read : List (String × Presence Instance), read.Perm (presentEntries c entries) ∧
      arrange c read = declaredEntries c entries ++ lastFirst (additionalEntries c entries) ∧
      v.withoutField ⟨c, arrange c (entries ++ [(name, p)])⟩ name = .ok ⟨c, arrange c read⟩ := by
  obtain ⟨front, back, hfront, hdeclared, hpresent, hplaced⟩ := exists_place hn hf ht.isSet hnot hp
  have hwritten := ht.written_append hn hnot hp
  rw [hplaced] at hwritten
  exact ⟨_, hpresent ▸ (lastFirst_perm _).append_left front,
    arrange_lastFirst hn ht.distinct ht.isSet hdeclared hpresent,
    ht.withoutField_of_place hfront hpresent (not_mem_requiredNames hn hf hoptional) hwritten⟩

theorem TakenBack.field_of_perm (ht : TakenBack v room c entries o)
    (hn : (c.fields.map (·.name)).Nodup) {read : List (String × Presence Instance)}
    (h : read.Perm (presentEntries c entries)) (other : String) :
    ObjectInstance.field ⟨c, arrange c read⟩ other = o.field other := by
  rw [ht.object, ← arrange_presentEntries ht.isSet, field_arrange, field_arrange,
    ← Members.lookup_perm (nodup_presentEntries hn ht.distinct) h.symm]

theorem additional_declared_append (c : Composite)
    (entries extra : List (String × Presence Instance)) :
    ObjectInstance.additional ⟨c, declaredEntries c entries ++ extra⟩ = extra := by
  rw [ObjectInstance.additional, List.drop_left' (by simp [declaredEntries])]

theorem same_lastFirst {declared extra : List (String × Presence Instance)}
    (hk : (extra.map (·.1)).Nodup) (h : 1 < extra.length) :
    ObjectInstance.same ⟨c, declared ++ lastFirst extra⟩ ⟨c, declared ++ extra⟩ = false := by
  rw [← Bool.not_eq_true]
  intro hsame
  have hkeys := ObjectInstance.keys_of_same hsame
  rw [List.map_append, List.map_append, map_lastFirst] at hkeys
  exact lastFirst_ne hk (by simpa using h) (List.append_cancel_left hkeys)

/-- Setting a field that is unset and removing it again gives back every field, and moves the last
additional field before the others. So the object is restored if it has at most one of them. -/
theorem withField_withoutField {v : Validator} (c : v.registry.NamedComposite) (raw : Payload)
    {o : ObjectInstance} {name : String} {field : Field} {value : Json} {p : Presence Instance}
    (hu : v.registry.UnionFree (.object c)) (hd : (Instance.object o).DecimalsReadBack)
    (h : v.validateComposite c raw = .ok o) (hf : c.1.field? name = some field)
    (hoptional : field.required = false) (hunset : o.field name = .unset)
    (hp : v.atField c name value = .ok p) :
    ∃ o₁ o₂, v.withField o name value = .ok o₁ ∧ v.withoutField o₁ name = .ok o₂ ∧
      (∀ other, o₂.field other = o.field other) ∧ o₂.additional = lastFirst o.additional ∧
      (o.additional.length ≤ 1 → o₂ = o) ∧ (1 < o.additional.length → o₂.same o = false) := by
  obtain ⟨room, entries, hroom, hwritten, hyields⟩ := exists_written c.2 raw.2 h
  have ht : TakenBack v room c entries o := ⟨hwritten, hroom, hyields hu hd⟩
  have hnot := ht.not_mem_of_unset hunset
  obtain ⟨read, hperm, harrange, hremoved⟩ :=
    ht.exists_withoutField c.2.nodup hf hoptional hnot (isSet_of_atField hroom hp).2
  have hobject : o = ⟨c, declaredEntries c entries ++ additionalEntries c entries⟩ := ht.object
  have hadditional : o.additional = additionalEntries c entries := by
    rw [hobject, additional_declared_append]
  refine ⟨_, _, ht.withField_of_not_mem hnot hp, hremoved, ht.field_of_perm c.2.nodup hperm, ?_,
    fun hle => ?_, fun hlt => ?_⟩
  · rw [harrange, additional_declared_append, hadditional]
  · rw [hadditional] at hle
    rw [harrange, lastFirst_of_length_le_one hle, hobject]
  · rw [hadditional] at hlt
    rw [harrange, hobject]
    exact same_lastFirst (ht.distinct.sublist (List.filter_sublist.map _)) hlt

/-- Two additional fields change places when a title is set and removed. -/
theorem note_title_not_restored :
    ∃ o₁ o₂, noteValidator.withField noteObject "title" (.string "b") = .ok o₁ ∧
      noteValidator.withoutField o₁ "title" = .ok o₂ ∧ o₂.same noteObject = false :=
  ⟨⟨noteSchema,
      [("text", .value (.string "a")), ("title", .value (.string "b")),
        ("pinned", .value (.any (.bool true))), ("colour", .null)]⟩,
    ⟨noteSchema,
      [("text", .value (.string "a")), ("title", .unset), ("colour", .null),
        ("pinned", .value (.any (.bool true)))]⟩,
    by cbv, by cbv, by cbv⟩

theorem note_withField_withoutField :
    noteSchema.field? "title" = some ⟨"title", .leaf .string, false, false, none⟩ ∧
      noteObject.field "title" = .unset ∧
      noteValidator.atField noteSchema "title" (.string "b") = .ok (.value (.string "b")) ∧
      ∃ o₁ o₂, noteValidator.withField noteObject "title" (.string "b") = .ok o₁ ∧
        noteValidator.withoutField o₁ "title" = .ok o₂ ∧
        (∀ other, o₂.field other = noteObject.field other) ∧
        o₂.additional = [("colour", .null), ("pinned", .value (.any (.bool true)))] := by
  have hf : noteSchema.field? "title" = some ⟨"title", .leaf .string, false, false, none⟩ := by
    cbv
  have hunset : noteObject.field "title" = .unset := by cbv
  have hp : noteValidator.atField noteSchema "title" (.string "b") =
      .ok (.value (.string "b")) := by
    cbv
  obtain ⟨o₁, o₂, hset, hremoved, hfields, hadditional, -⟩ :=
    withField_withoutField ⟨_, noteValidator_wellNamed⟩ ⟨_, notePayload_distinctKeys⟩
      noteValidator_unionFree noteObject_decimals noteValidator_note hf rfl hunset hp
  exact ⟨hf, hunset, hp, o₁, o₂, hset, hremoved, hfields, hadditional⟩

end Validator
end PayloadSchema
