import Mathlib
import PayloadSchema.Proofs.Json.Edit
import PayloadSchema.Proofs.Validation.KeptChoice
import PayloadSchema.Proofs.Validation.KeyOrder

/-!
Objects that are updated. An update writes the object as JSON, edits one member and validates the
whole again; where no union is reachable, all other fields come back as they were.
-/
namespace PayloadSchema
open Outcome

namespace Validator
variable {v : Validator} {room : Nat} {c : Composite} {raw : Json} {o : ObjectInstance}
  {members : Members} {entries read : List (String × Presence Instance)}

/-- A field that is not declared, as it was read. -/
theorem presence?_arrange_undeclared {name : String} (hf : c.field? name = none) :
    ObjectInstance.presence? ⟨c, arrange c read⟩ name = read.lookup name := by
  have hposition : c.position? name = none := by
    rw [Composite.position?, List.findIdx?_eq_none_iff]
    simpa [Composite.field?] using hf
  have hdrop : (arrange c read).drop c.fields.length = additionalEntries c read := by
    rw [arrange_eq, List.drop_left' (by simp [declaredEntries])]
  have hlookup : (additionalEntries c read).lookup name = read.lookup name :=
    Members.lookup_filter (fun k => (c.field? k).isNone) read (by rw [hf]; rfl)
  rw [ObjectInstance.presence?, Composite.lookup?, hposition]
  simp only [hdrop, hlookup]

/-- A field of an object is what was read under its name. -/
theorem field_arrange (c : Composite) (read : List (String × Presence Instance)) (name : String) :
    ObjectInstance.field ⟨c, arrange c read⟩ name = (read.lookup name).getD .unset := by
  rw [ObjectInstance.field]
  cases hf : c.field? name with
  | some f => rw [presence?_arrange hf, Option.getD_some]
  | none => rw [presence?_arrange_undeclared hf]

theorem atRoot_eq (hroom : v.maxDepth = room + 1) : v.atRoot = some (v.apply room) := by
  rw [atRoot, hroom]

/-- An object is validated as the schema that it is. -/
theorem validate_object (c : Composite) :
    v.validate (.object c) raw = (v.validateComposite c raw).map .object := by
  have hroot : v.atRoot = v.parts v.maxDepth := by
    unfold atRoot parts
    cases v.maxDepth <;> rfl
  have hs : (Schema.object c).IsHead := trivial
  rw [validate, apply_head hs, validateComposite, hroot, applyHead]

theorem validateComposite_eq_ok :
    v.validateComposite c raw = .ok o ↔ v.validate (.object c) raw = .ok (.object o) := by
  rw [validate_object, map_eq_ok]
  simp only [Instance.object.injEq, exists_eq_right]

def written (e : String × Presence Instance) : String × Json :=
  (e.1, Instance.encodePresence e.2)

structure Written (c : Composite) (entries : List (String × Presence Instance))
    (o : ObjectInstance) : Prop where
  object : o = ⟨c, arrange c entries⟩
  encode : o.encode = entries.map written
  distinct : (entries.map (·.1)).Nodup
  required : ∀ name ∈ c.requiredNames, name ∈ entries.map (·.1)

namespace Written

theorem keys (hw : Written c entries o) : o.encode.map (·.1) = entries.map (·.1) := by
  rw [hw.encode, List.map_map]
  rfl

theorem isSome_lookup (hw : Written c entries o) {name : String} (h : name ∈ c.requiredNames) :
    (o.encode.lookup name).isSome = true := by
  have hmem := hw.required name h
  rw [← hw.keys] at hmem
  obtain ⟨⟨k, a⟩, hm, rfl⟩ := List.mem_map.1 hmem
  exact Option.isSome_iff_exists.2 (Members.exists_lookup_of_mem hm)

theorem nodup_keys (hw : Written c entries o) : (o.encode.map (·.1)).Nodup := by
  rw [hw.keys]
  exact hw.distinct

end Written

theorem nodup_presentEntries (hn : (c.fields.map (·.name)).Nodup)
    (hk : (read.map (·.1)).Nodup) : ((presentEntries c read).map (·.1)).Nodup := by
  refine List.Nodup.sublist (List.filter_sublist.map _) ?_
  rw [arrange_eq, List.map_append, List.nodup_append]
  have hdeclared : (declaredEntries c read).map (·.1) = c.fields.map (·.name) := by
    simp [declaredEntries]
  refine ⟨hdeclared ▸ hn, hk.sublist (List.filter_sublist.map _), ?_⟩
  rintro name hname _ hother rfl
  obtain ⟨e, he, rfl⟩ := List.mem_map.1 hother
  rw [hdeclared] at hname
  exact Composite.field?_eq_none.1 (mem_additional.1 he).2 hname

/-- Entries that are set and have names of their own are written as they were read. -/
theorem written_presentEntries (hn : (c.fields.map (·.name)).Nodup)
    (hk : (read.map (·.1)).Nodup) (hset : ∀ e ∈ read, e.2.isSet = true)
    (hreq : ∀ name ∈ c.requiredNames, name ∈ read.map (·.1)) :
    Written c (presentEntries c read) ⟨c, arrange c read⟩ := by
  refine ⟨by rw [arrange_presentEntries hset], Instance.encodeEntries_eq _,
    nodup_presentEntries hn hk, fun name hname => ?_⟩
  obtain ⟨f, hf, rfl⟩ := List.mem_map.1 hname
  have hdeclared : f.name ∈ c.fields.map (·.name) :=
    List.mem_map.2 ⟨f, (List.mem_filter.1 hf).1, rfl⟩
  obtain ⟨⟨_, q⟩, hq, rfl⟩ := List.mem_map.1 (hreq f.name hname)
  obtain ⟨p, hp⟩ := Members.exists_lookup_of_mem hq
  have hpresent := (lookup_presentEntries hset hdeclared).trans hp
  exact List.mem_map.2 ⟨_, Members.mem_of_lookup hpresent, rfl⟩

/-- What is left of the payload of an object: the entries that are written, which validation takes
back one by one where no union is reachable. -/
theorem exists_written (hw : v.registry.WellNamed (.object c)) (hk : raw.DistinctKeys)
    (h : v.validateComposite c raw = .ok o) :
    ∃ room entries, v.maxDepth = room + 1 ∧ Written c entries o ∧
      (v.registry.UnionFree (.object c) → (Instance.object o).DecimalsReadBack →
        ∀ e ∈ entries, applyMember (v.apply room) c (written e) = .ok e) := by
  have hs : (Schema.object c).IsHead := trivial
  obtain ⟨room, hroom, hc⟩ := container_of_apply hs (by simp) (validateComposite_eq_ok.1 h)
  cases hc with
  | @object _ members read hreq hread =>
    have hset : ∀ e ∈ read, e.2.isSet = true := by
      intro e he
      obtain ⟨m, -, hm⟩ := exists_of_mem_right hread he
      exact hm.isSet
    have hkeys : (read.map (·.1)).Nodup := by
      cases hk with
      | object hk => exact map_name_read hread ▸ hk
    have hnames : ∀ name ∈ c.requiredNames, name ∈ read.map (·.1) := by
      intro name hname
      obtain ⟨value, hvalue⟩ := Option.isSome_iff_exists.1 (hreq name hname)
      rw [map_name_read hread]
      exact List.mem_map.2 ⟨_, Members.mem_of_lookup hvalue, rfl⟩
    refine ⟨room, presentEntries c read, hroom,
      written_presentEntries hw.nodup hkeys hset hnames, fun hu hd e he => ?_⟩
    obtain ⟨m, -, hm⟩ := exists_of_mem_right hread (mem_of_mem_presentEntries he)
    have hrun := hm.mono fun s raw i hi => reencodingRun_of_apply hi
    refine applyMember_eq_ok.2 (hrun.reencode (keepsChoice_of_unionFree hu) fun i hi => ?_)
    have hmem : (e.1, Presence.value i) ∈ arrange c read := hi ▸ (List.mem_filter.1 he).1
    exact hd.field hmem

/-- Once all required fields are there, an object is what its members are read as. -/
theorem validateComposite_of_required (hroom : v.maxDepth = room + 1)
    (hreq : ∀ name ∈ c.requiredNames, (members.lookup name).isSome = true) :
    v.validateComposite c (.object members) =
      (members.mapM (applyMember (v.apply room) c)).map fun read => ⟨c, arrange c read⟩ := by
  have hfind : (c.requiredNames.find? fun name => (members.lookup name).isNone) = none :=
    List.find?_eq_none.2 fun name hname => by simpa using hreq name hname
  simp only [validateComposite, applyComposite, atRoot_eq hroom, enter, ok_bind, hfind]
  cases members.mapM (applyMember (v.apply room) c) <;> rfl

/-- What is read under a name is decided by the member of that name. -/
theorem lookup_of_mapM {f : Schema → Json → Except ValidationError Instance}
    (h : members.mapM (applyMember f c) = .ok read) (name : String) :
    read.lookup name =
      (members.lookup name).bind fun value => (memberPresence f c name value).toOption := by
  have hread := (mapM_eq_ok.1 h).imp fun _ _ => applyMember_eq_ok.1
  rcases lookup_read hread name with ⟨hm, hr⟩ | ⟨value, p, hm, hr, hy⟩
  · rw [hm, hr]
    rfl
  · have happly := applyMember_eq_ok.2 hy
    rw [applyMember_eq] at happly
    obtain ⟨q, hq, heq⟩ := bind_eq_ok.1 happly
    cases heq
    have hq : memberPresence f c name value = .ok p := hq
    rw [hm, hr, Option.bind_some, hq]
    rfl

/-- What the validator makes of a value at a field of an object: the rule of the field if it is
declared, and else the policy on other fields. -/
def atField (v : Validator) (c : Composite) (name : String) (value : Json) :
    Except ValidationError (Presence Instance) := do
  let f ← v.enter v.atRoot
  memberPresence f c name value

structure UpdatedAt (name : String) (p : Presence Instance) (o o' : ObjectInstance) : Prop where
  schema : o'.schema = o.schema
  field : o'.field name = p
  others : ∀ other, other ≠ name → o'.field other = o.field other

section
variable {name : String} {value : Json} {p : Presence Instance} {e : ValidationError}

theorem atField_eq (hroom : v.maxDepth = room + 1) (c : Composite) (name : String) (value : Json) :
    v.atField c name value = memberPresence (v.apply room) c name value := by
  rw [atField, atRoot_eq hroom]
  rfl

/-- A field that is not required can be missing. -/
theorem withoutField_eq (hw : Written c entries o) (hroom : v.maxDepth = room + 1)
    (hname : name ∉ c.requiredNames) :
    v.withoutField o name =
      ((o.encode.remove name).mapM (applyMember (v.apply room) c)).map
        fun read => ⟨c, arrange c read⟩ := by
  rw [withoutField, show o.schema = c by rw [hw.object]]
  refine validateComposite_of_required hroom fun other hother => ?_
  rw [Members.lookup_remove hw.nodup_keys, if_neg]
  · exact hw.isSome_lookup hother
  · rintro rfl
    exact hname hother

/-- An object whose written members are read as the entries they were written from. -/
structure TakenBack (v : Validator) (room : Nat) (c : Composite)
    (entries : List (String × Presence Instance)) (o : ObjectInstance) : Prop
    extends Written c entries o where
  limit : v.maxDepth = room + 1
  yields : ∀ e ∈ entries, applyMember (v.apply room) c (written e) = .ok e

namespace TakenBack

theorem mapM_encode (ht : TakenBack v room c entries o) :
    o.encode.mapM (applyMember (v.apply room) c) = .ok entries := by
  rw [ht.encode, mapM_eq_ok, List.forall₂_map_left_iff, List.forall₂_same]
  exact ht.yields

theorem member_eq_ok (ht : TakenBack v room c entries o) {m : String × Json} (hm : m ∈ o.encode) :
    ∃ e, applyMember (v.apply room) c m = .ok e := by
  rw [ht.encode] at hm
  obtain ⟨e, he, rfl⟩ := List.mem_map.1 hm
  exact ⟨e, ht.yields e he⟩

/-- Members that agree with those of an object, but for one name, make an object that agrees with
it but for that name. -/
theorem updatedAt (ht : TakenBack v room c entries o)
    (hread : members.mapM (applyMember (v.apply room) c) = .ok read)
    (hp : (read.lookup name).getD .unset = p)
    (hother : ∀ other, other ≠ name → members.lookup other = o.encode.lookup other) :
    UpdatedAt name p o ⟨c, arrange c read⟩ := by
  have hobject := ht.object
  refine ⟨by rw [hobject], by rw [field_arrange, hp], fun other hne => ?_⟩
  rw [hobject, field_arrange, field_arrange, lookup_of_mapM hread, lookup_of_mapM ht.mapM_encode,
    hother other hne]

theorem withField_eq (ht : TakenBack v room c entries o) (name : String) (value : Json) :
    v.withField o name value =
      ((o.encode.insert name value).mapM (applyMember (v.apply room) c)).map
        fun read => ⟨c, arrange c read⟩ := by
  rw [withField, show o.schema = c by rw [ht.object]]
  refine validateComposite_of_required ht.limit fun other hother => ?_
  rw [Members.lookup_insert]
  split
  · rfl
  · exact ht.isSome_lookup hother

theorem withField_of_ok (ht : TakenBack v room c entries o) (h : v.atField c name value = .ok p) :
    ∃ o', v.withField o name value = .ok o' ∧ UpdatedAt name p o o' := by
  rw [atField_eq ht.limit] at h
  have hmember : applyMember (v.apply room) c (name, value) = .ok (name, p) := by
    rw [applyMember_eq, keepKey, h]
    rfl
  have hall : ∀ m ∈ o.encode.insert name value, ∃ e, applyMember (v.apply room) c m = .ok e := by
    intro m hm
    rcases Members.mem_insert hm with rfl | hm
    · exact ⟨_, hmember⟩
    · exact ht.member_eq_ok hm
  cases hread : (o.encode.insert name value).mapM (applyMember (v.apply room) c) with
  | error e =>
    obtain ⟨m, hm, he⟩ := mapM_eq_error hread
    obtain ⟨_, hok⟩ := hall m hm
    cases he.symm.trans hok
  | ok read =>
    refine ⟨⟨c, arrange c read⟩, by rw [ht.withField_eq, hread]; rfl, ht.updatedAt hread ?_ ?_⟩
    · rw [lookup_of_mapM hread, Members.lookup_insert, if_pos rfl, Option.bind_some, h]
      rfl
    · intro other hne
      rw [Members.lookup_insert, if_neg hne]

theorem withField_of_error (ht : TakenBack v room c entries o)
    (h : v.atField c name value = .error e) : v.withField o name value = .error e := by
  rw [atField_eq ht.limit] at h
  have hmember : applyMember (v.apply room) c (name, value) = .error e := by
    rw [applyMember_eq, keepKey, h]
    rfl
  cases hread : (o.encode.insert name value).mapM (applyMember (v.apply room) c) with
  | ok read =>
    have hread := (mapM_eq_ok.1 hread).flip
    obtain ⟨_, -, hok⟩ := exists_of_mem_right hread (Members.mem_insert_self _ name value)
    cases hmember.symm.trans hok
  | error d =>
    obtain ⟨m, hm, hd⟩ := mapM_eq_error hread
    rcases Members.mem_insert hm with rfl | hm
    · cases hmember.symm.trans hd
      rw [ht.withField_eq, hread]
      rfl
    · obtain ⟨_, hok⟩ := ht.member_eq_ok hm
      cases hd.symm.trans hok

theorem withoutField_of_optional (ht : TakenBack v room c entries o)
    (hname : name ∉ c.requiredNames) :
    ∃ o', v.withoutField o name = .ok o' ∧ UpdatedAt name .unset o o' := by
  cases hread : (o.encode.remove name).mapM (applyMember (v.apply room) c) with
  | error e =>
    obtain ⟨m, hm, he⟩ := mapM_eq_error hread
    obtain ⟨_, hok⟩ := ht.member_eq_ok (Members.mem_of_mem_remove hm)
    cases he.symm.trans hok
  | ok read =>
    refine ⟨⟨c, arrange c read⟩, by rw [withoutField_eq ht.toWritten ht.limit hname, hread]; rfl,
      ht.updatedAt hread ?_ ?_⟩
    · rw [lookup_of_mapM hread, Members.lookup_remove ht.nodup_keys, if_pos rfl]
      rfl
    · intro other hne
      rw [Members.lookup_remove ht.nodup_keys, if_neg hne]

end TakenBack

/-- Nothing is validated once a required field is gone. -/
theorem withoutField_of_required (hw : Written c entries o) (hroom : v.maxDepth = room + 1)
    (hname : name ∈ c.requiredNames) :
    v.withoutField o name = .error (.here (.missingField name)) := by
  have hlookup (other : String) := Members.lookup_remove hw.nodup_keys name other
  have hfind : (c.requiredNames.find? fun other => ((o.encode.remove name).lookup other).isNone) =
      some name := by
    cases hfound : c.requiredNames.find?
        fun other => ((o.encode.remove name).lookup other).isNone with
    | none =>
      have hnot := List.find?_eq_none.1 hfound name hname
      simp [hlookup] at hnot
    | some other =>
      have hnone := List.find?_some hfound
      have hpresent := hw.isSome_lookup (List.mem_of_find?_eq_some hfound)
      by_contra hne
      have hne : other ≠ name := fun heq => hne (by rw [heq])
      rw [hlookup, if_neg hne, Option.isNone_iff_eq_none] at hnone
      rw [hnone] at hpresent
      cases hpresent
  rw [withoutField, show o.schema = c by rw [hw.object]]
  simp only [validateComposite, applyComposite, atRoot_eq hroom, enter, ok_bind, hfind]

end

/-- An update touches one field only. Setting a field succeeds if and only if its value is accepted
there, and otherwise reports what is wrong with that value; removing a field succeeds unless it is
required. -/
theorem updates_touch_one_field {v : Validator} (c : v.registry.NamedComposite) (raw : Payload)
    {o : ObjectInstance} (h : v.validateComposite c raw = .ok o) :
    (v.registry.UnionFree (.object c) → (Instance.object o).DecimalsReadBack →
      (∀ name value,
        (∀ p, v.atField c name value = .ok p →
          ∃ o', v.withField o name value = .ok o' ∧ UpdatedAt name p o o') ∧
        ∀ e, v.atField c name value = .error e → v.withField o name value = .error e) ∧
      ∀ name, name ∉ c.1.requiredNames →
        ∃ o', v.withoutField o name = .ok o' ∧ UpdatedAt name .unset o o') ∧
    ∀ name ∈ c.1.requiredNames, v.withoutField o name = .error (.here (.missingField name)) := by
  obtain ⟨room, entries, hroom, hwritten, hyields⟩ := exists_written c.2 raw.2 h
  refine ⟨fun hu hd => ?_, fun name hname => withoutField_of_required hwritten hroom hname⟩
  have ht : TakenBack v room c entries o := ⟨hwritten, hroom, hyields hu hd⟩
  refine ⟨fun name value => ⟨fun p hp => ?_, fun e he => ?_⟩, fun name hname => ?_⟩
  · exact ht.withField_of_ok hp
  · exact ht.withField_of_error he
  · exact ht.withoutField_of_optional hname

def noteSchema : Composite where
  name := ⟨"Note", by decide⟩
  description := none
  fields :=
    [⟨"text", .leaf .string, true, false, none⟩, ⟨"title", .leaf .string, false, false, none⟩]
  additional := .any

def noteValidator : Validator := ⟨Registry.empty, 2⟩

def notePayload : Json :=
  .object [("pinned", .bool true), ("text", .string "a"), ("colour", .null)]

def noteObject : ObjectInstance :=
  ⟨noteSchema,
    [("text", .value (.string "a")), ("title", .unset), ("pinned", .value (.any (.bool true))),
      ("colour", .null)]⟩

theorem notePayload_distinctKeys : notePayload.DistinctKeys := by
  refine .object (by decide) ?_
  simp only [List.forall_mem_cons]
  exact ⟨.bool true, .string "a", .null, by simp⟩

theorem noteObject_decimals : (Instance.object noteObject).DecimalsReadBack := by
  intro d hd
  cases hd with
  | field hi h =>
    simp only [noteObject, List.mem_cons, Prod.mk.injEq, Presence.value.injEq, reduceCtorEq,
      and_false, List.not_mem_nil, or_false, false_or] at hi
    rcases hi with ⟨-, rfl⟩ | ⟨-, rfl⟩ <;> cases h

theorem noteValidator_note :
    noteValidator.validateComposite noteSchema notePayload = .ok noteObject := by
  cbv

theorem noteValidator_wellNamed : noteValidator.registry.WellNamed (.object noteSchema) :=
  Registry.throughout_of_all (by decide) (by decide)

theorem noteValidator_unionFree : noteValidator.registry.UnionFree (.object noteSchema) :=
  Registry.unionFree_of_all (by decide) (by decide)

theorem note_updates :
    noteValidator.registry.WellNamed (.object noteSchema) ∧ notePayload.DistinctKeys ∧
      noteValidator.validateComposite noteSchema notePayload = .ok noteObject ∧
      noteValidator.registry.UnionFree (.object noteSchema) ∧
      (Instance.object noteObject).DecimalsReadBack ∧
      (∃ o', noteValidator.withField noteObject "title" (.string "b") = .ok o' ∧
        UpdatedAt "title" (.value (.string "b")) noteObject o') ∧
      noteValidator.withField noteObject "title" (.bool true) =
        .error ⟨[.field "title"], .typeMismatch "string" "boolean"⟩ ∧
      (∃ o', noteValidator.withoutField noteObject "pinned" = .ok o' ∧
        UpdatedAt "pinned" .unset noteObject o') ∧
      noteValidator.withoutField noteObject "text" = .error (.here (.missingField "text")) := by
  obtain ⟨hfree, hrequired⟩ := updates_touch_one_field
    ⟨_, noteValidator_wellNamed⟩ ⟨_, notePayload_distinctKeys⟩ noteValidator_note
  obtain ⟨hset, hcleared⟩ := hfree noteValidator_unionFree noteObject_decimals
  have htitle : noteValidator.atField noteSchema "title" (.string "b") =
      .ok (.value (.string "b")) := by
    cbv
  have hwrong : noteValidator.atField noteSchema "title" (.bool true) =
      .error ⟨[.field "title"], .typeMismatch "string" "boolean"⟩ := by
    cbv
  exact ⟨noteValidator_wellNamed, notePayload_distinctKeys, noteValidator_note,
    noteValidator_unionFree, noteObject_decimals, (hset "title" _).1 _ htitle,
    (hset "title" _).2 _ hwrong, hcleared "pinned" (by decide), hrequired "text" (by decide)⟩

end Validator
end PayloadSchema
