import Mathlib
import PayloadSchema.Access
import PayloadSchema.Wrapper
import PayloadSchema.Proofs.Validation.Update

/-!
What wrappers read. A wrapper takes each of its fields out of an object with the accessor and the
type that its source names, and the field of another schema with the wrapper of that schema. Reading
a validated object never fails if all the wrappers that it takes are there.
-/
namespace PayloadSchema

/-- The reference that a schema comes down to through lists and dicts. -/
def Schema.reference? : Schema → Option SchemaName
  | .ref name => some name
  | .list items _ _ => reference? items
  | .dict values => reference? values
  | _ => none

namespace Wrapper
open Outcome

mutual

inductive Value where
  | string (s : String)
  | integer (n : Int)
  | float (x : Binary64)
  | decimal (d : Decimal)
  | boolean (b : Bool)
  | bytes (bs : List UInt8)
  | date (d : Date)
  | dateTime (t : DateTime)
  | uuid (u : Uuid)
  | json (v : Json)
  | list (items : List Value)
  | dict (entries : List (String × Value))
  | object (o : ObjectInstance)
  | wrapper (slots : List (String × Slot))
  | anything (i : Instance)

inductive Slot where
  | required (a : Value)
  | nullable (a : Option Value)
  | optional (a : Presence Value)

end

/-- How a value of a type is read, where `wrappers` tells how other schemas are. -/
def FieldType.reading (wrappers : SchemaName → Reading Value) : FieldType → Reading Value
  | .string => fun i => (Reading.string i).map .string
  | .integer => fun i => (Reading.integer i).map .integer
  | .float => fun i => (Reading.float i).map .float
  | .decimal => fun i => (Reading.decimal i).map .decimal
  | .boolean => fun i => (Reading.boolean i).map .boolean
  | .bytes => fun i => (Reading.bytes i).map .bytes
  | .date => fun i => (Reading.date i).map .date
  | .dateTime => fun i => (Reading.dateTime i).map .dateTime
  | .uuid => fun i => (Reading.uuid i).map .uuid
  | .json => fun i => (Reading.json i).map .json
  | .list items => fun i => (Reading.list (items.reading wrappers) i).map .list
  | .dict values => fun i => (Reading.dict (values.reading wrappers) i).map .dict
  | .object => fun i => (Reading.object i).map .object
  | .wrapper name => wrappers name
  | .anything => fun i => (Reading.anything i).map .anything

def Accessor.read (read : Reading Value) (o : ObjectInstance) (name : String) :
    Accessor → Except AccessError Slot
  | .required => (o.required read name).map .required
  | .nullable => (o.nullable read name).map .nullable
  | .optional => (o.optional read name).map .optional

def readSlot (wrappers : SchemaName → Reading Value) (o : ObjectInstance) (f : Field) :
    Except AccessError Slot :=
  (Accessor.ofField f).read ((FieldType.ofSchema f.schema).reading wrappers) o f.name

def read (wrappers : SchemaName → Reading Value) (c : Composite) : Reading Value := fun i => do
  let o ← Reading.object i
  let slots ← c.fields.mapM fun f => do
    let slot ← readSlot wrappers o f
    pure (fieldIdent f.name, slot)
  pure (.wrapper slots)

/-- The wrappers of all registered composites, each of which may read with the others. -/
structure Generated (r : Registry) where
  readNamed : SchemaName → Reading Value
  readNamed_eq {name : SchemaName} {c : Composite} (h : r.resolve (.ref name) = .ok (.object c)) :
    readNamed name = read readNamed c

inductive Takes (r : Registry) : Composite → Composite → Prop
  | refl (c : Composite) : Takes r c c
  | field {c d e : Composite} {f : Field} {name : SchemaName} (hf : f ∈ c.fields)
      (hname : f.schema.reference? = some name) (hr : r.resolve (.ref name) = .ok (.object d))
      (h : Takes r d e) : Takes r c e

/-- All references in the fields of those composites are to composites. -/
def Complete (r : Registry) (c : Composite) : Prop :=
  ∀ d, Takes r c d → ∀ f ∈ d.fields, ∀ name, f.schema.reference? = some name →
    ∃ e, r.resolve (.ref name) = .ok (.object e)

section
variable {α : Type} {w w' : SchemaName → Reading Value} {o : ObjectInstance} {name : String}

theorem items_congr {read read' : Reading α} {is : List Instance}
    (h : ∀ i ∈ is, read i = read' i) (n : Nat) :
    Reading.items read n is = Reading.items read' n is := by
  induction is generalizing n with
  | nil => rfl
  | cons i is ih =>
    rw [List.forall_mem_cons] at h
    rw [Reading.items, Reading.items, h.1, ih h.2]

/-- A reading looks at wrappers only for the value itself and for what is inside it. -/
theorem reading_congr (t : FieldType) {i : Instance}
    (h : ∀ name j, sizeOf j ≤ sizeOf i → w name j = w' name j) :
    t.reading w i = t.reading w' i := by
  induction t generalizing i with
  | list items ih =>
    cases i with
    | list is =>
      have hitems : ∀ j ∈ is, items.reading w j = items.reading w' j := by
        intro j hj
        have hsize := List.sizeOf_lt_of_mem hj
        refine ih fun name k hk => h name k ?_
        simp only [Instance.list.sizeOf_spec]
        omega
      simp only [FieldType.reading, Reading.list, items_congr hitems]
    | _ => rfl
  | dict values ih =>
    cases i with
    | dict es =>
      have hvalues : ∀ e ∈ es, values.reading w e.2 = values.reading w' e.2 := by
        intro e he
        have hsize := List.sizeOf_lt_of_mem he
        refine ih fun name k hk => h name k ?_
        obtain ⟨key, j⟩ := e
        simp only [Instance.dict.sizeOf_spec, Prod.mk.sizeOf_spec] at hsize hk ⊢
        omega
      simp only [FieldType.reading, Reading.dict]
      rw [mapM_congr fun e he => by rw [hvalues e he]]
    | _ => rfl
  | wrapper name => exact h name i le_rfl
  | _ => rfl

theorem sizeOf_of_presence? {i : Instance} (h : o.presence? name = some (.value i)) :
    sizeOf i < sizeOf o := by
  obtain ⟨k, hk⟩ : ∃ k, (k, Presence.value i) ∈ o.entries := by
    rw [ObjectInstance.presence?, Composite.lookup?] at h
    split at h
    · obtain ⟨⟨k, p⟩, he, rfl⟩ := Option.map_eq_some_iff.1 h
      exact ⟨k, List.mem_of_getElem? he⟩
    · exact ⟨name, List.mem_of_mem_drop (Members.mem_of_lookup h)⟩
  have hsize := List.sizeOf_lt_of_mem hk
  obtain ⟨c, entries⟩ := o
  simp only [Prod.mk.sizeOf_spec, Presence.value.sizeOf_spec, ObjectInstance.mk.sizeOf_spec]
    at hsize ⊢
  omega

theorem required_congr {read read' : Reading α}
    (h : ∀ i, o.presence? name = some (.value i) → read i = read' i) :
    o.required read name = o.required read' name := by
  rw [ObjectInstance.required, ObjectInstance.required, ObjectInstance.get]
  cases he : o.presence? name with
  | none => rfl
  | some p =>
    cases p with
    | value i =>
      have hread := h i he
      simp only [Presence.get, Except.mapError, Outcome.ok_bind, hread]
    | _ => rfl

theorem optional_congr {read read' : Reading α}
    (h : ∀ i, o.presence? name = some (.value i) → read i = read' i) :
    o.optional read name = o.optional read' name := by
  rw [ObjectInstance.optional, ObjectInstance.optional, ObjectInstance.field]
  cases he : o.presence? name with
  | none => rfl
  | some p =>
    cases p with
    | value i => rw [Option.getD_some, Presence.tryMap, Presence.tryMap, h i he]
    | _ => rfl

theorem read_congr (c : Composite) {i : Instance}
    (h : ∀ name j, sizeOf j < sizeOf i → w name j = w' name j) : read w c i = read w' c i := by
  cases i with
  | object o =>
    have hslot : ∀ f ∈ c.fields, readSlot w o f = readSlot w' o f := by
      intro f _
      have hread (i : Instance) (he : o.presence? f.name = some (.value i)) :
          (FieldType.ofSchema f.schema).reading w i =
            (FieldType.ofSchema f.schema).reading w' i := by
        have hsize := sizeOf_of_presence? he
        refine reading_congr _ fun name j hj => h name j ?_
        simp only [Instance.object.sizeOf_spec]
        omega
      rw [readSlot, readSlot]
      cases Accessor.ofField f with
      | required => rw [Accessor.read, Accessor.read, required_congr hread]
      | nullable =>
        rw [Accessor.read, Accessor.read, ObjectInstance.nullable, ObjectInstance.nullable,
          optional_congr hread]
      | optional => rw [Accessor.read, Accessor.read, optional_congr hread]
    simp only [read, Reading.object, ok_bind]
    rw [mapM_congr fun f hf => by rw [hslot f hf]]
  | _ => rfl

end

/-- Wrappers inside at most `n` others; what has no wrapper is left as it is. -/
def readWithin (r : Registry) : Nat → SchemaName → Reading Value
  | 0, _ => fun i => .ok (.anything i)
  | n + 1, name => fun i =>
    match r.resolve (.ref name) with
    | .ok (.object c) => read (readWithin r n) c i
    | _ => .ok (.anything i)

/-- A value holds no more objects inside each other than its size says. -/
theorem readWithin_eq (r : Registry) {m n : Nat} {i : Instance} (hm : sizeOf i < m)
    (hn : sizeOf i < n) (name : SchemaName) : readWithin r m name i = readWithin r n name i := by
  induction m generalizing n i name with
  | zero => omega
  | succ m ih =>
    cases n with
    | zero => omega
    | succ n =>
      simp only [readWithin]
      split
      · exact read_congr _ fun name j hj => ih (by omega) (by omega) name
      · rfl

noncomputable def generated (r : Registry) : Generated r where
  readNamed name := fun i => readWithin r (sizeOf i + 1) name i
  readNamed_eq {name c} h := by
    funext i
    simp only [readWithin, h]
    exact read_congr c fun name j hj => readWithin_eq r hj (Nat.lt_succ_self _) name

section
variable {w : SchemaName → Reading Value} {c : Composite} {f : Field}

theorem exists_reading_leaf {kind : Kind} {i : Instance} (h : i.kind? = some kind) :
    ∃ a, (FieldType.ofKind kind).reading w i = .ok a := by
  cases i <;> cases h <;> exact ⟨_, rfl⟩

theorem exists_items {α : Type} {read : Reading α} {is : List Instance}
    (h : ∀ i ∈ is, ∃ a, read i = .ok a) (n : Nat) : ∃ as, Reading.items read n is = .ok as := by
  induction is generalizing n with
  | nil => exact ⟨[], rfl⟩
  | cons i is ih =>
    rw [List.forall_mem_cons] at h
    obtain ⟨a, ha⟩ := h.1
    obtain ⟨as, has⟩ := ih h.2 (n + 1)
    exact ⟨a :: as, by rw [Reading.items, ha, has]; rfl⟩

theorem exists_reading_list {t : FieldType} {is : List Instance}
    (h : ∀ i ∈ is, ∃ a, t.reading w i = .ok a) :
    ∃ a, (FieldType.list t).reading w (.list is) = .ok a := by
  obtain ⟨as, has⟩ := exists_items h 0
  exact ⟨.list as, map_eq_ok.2 ⟨as, has, rfl⟩⟩

theorem exists_reading_dict {t : FieldType} {es : List (String × Instance)}
    (h : ∀ e ∈ es, ∃ a, t.reading w e.2 = .ok a) :
    ∃ a, (FieldType.dict t).reading w (.dict es) = .ok a := by
  have hentry : ∀ e ∈ es, ∃ b, (do
      let a ← (t.reading w e.2).mapError (·.inField e.1)
      pure (e.1, a)) = (.ok b : Except AccessError (String × Value)) := by
    intro e he
    obtain ⟨a, ha⟩ := h e he
    exact ⟨_, bind_eq_ok.2 ⟨a, mapError_eq_ok.2 ha, rfl⟩⟩
  obtain ⟨as, has⟩ := exists_mapM_eq_ok hentry
  exact ⟨.dict as, map_eq_ok.2 ⟨as, has, rfl⟩⟩

theorem exists_optional {o : ObjectInstance} {read : Reading Value} {name : String}
    (h : ∀ i, o.field name = .value i → ∃ a, read i = .ok a) :
    ∃ p, o.optional read name = .ok p := by
  rw [ObjectInstance.optional]
  cases hp : o.field name with
  | unset => exact ⟨.unset, rfl⟩
  | null => exact ⟨.null, rfl⟩
  | value i =>
    obtain ⟨a, ha⟩ := h i hp
    exact ⟨.value a, by rw [Presence.tryMap, ha]; rfl⟩

/-- A field is read if its type reads the value, and a field that has to have a value has one. -/
theorem exists_readSlot {o : ObjectInstance}
    (h : ∀ i, o.field f.name = .value i →
      ∃ a, (FieldType.ofSchema f.schema).reading w i = .ok a)
    (hvalue : f.acceptsNull = false → ∃ i, o.presence? f.name = some (.value i)) :
    ∃ slot, readSlot w o f = .ok slot := by
  obtain ⟨p, hp⟩ := exists_optional h
  rw [readSlot, Accessor.ofField]
  split
  · exact ⟨_, map_eq_ok.2 ⟨p, hp, rfl⟩⟩
  · rename_i hrequired
    split
    · exact ⟨_, map_eq_ok.2 ⟨_, map_eq_ok.2 ⟨p, hp, rfl⟩, rfl⟩⟩
    · rename_i hnullable
      obtain ⟨i, hi⟩ := hvalue (by simp_all [Field.acceptsNull])
      obtain ⟨a, ha⟩ := h i (by rw [ObjectInstance.field, hi]; rfl)
      have hget : o.get f.name = .ok i := by
        rw [ObjectInstance.get, hi]
        rfl
      refine ⟨.required a, map_eq_ok.2 ⟨a, ?_, rfl⟩⟩
      rw [ObjectInstance.required, hget]
      exact mapError_eq_ok.2 ha

theorem exists_read {o : ObjectInstance} (h : ∀ f ∈ c.fields, ∃ slot, readSlot w o f = .ok slot) :
    ∃ a, read w c (.object o) = .ok a := by
  have hslot : ∀ f ∈ c.fields, ∃ b, (do
      let slot ← readSlot w o f
      pure (fieldIdent f.name, slot)) = (.ok b : Except AccessError (String × Slot)) := by
    intro f hf
    obtain ⟨slot, hs⟩ := h f hf
    exact ⟨_, bind_eq_ok.2 ⟨slot, hs, rfl⟩⟩
  obtain ⟨slots, hslots⟩ := exists_mapM_eq_ok hslot
  exact ⟨.wrapper slots, bind_eq_ok.2 ⟨o, rfl, bind_eq_ok.2 ⟨slots, hslots, rfl⟩⟩⟩

/-- The slots of an object, where `P s raw i` says that `s` makes `i` of `raw`. -/
theorem exists_readSlot_arrange {P : Schema → Json → Instance → Prop} {members : Members}
    {entries : List (String × Presence Instance)} (hf : c.field? f.name = some f)
    (hreq : ∀ name ∈ c.requiredNames, (members.lookup name).isSome = true)
    (hread : List.Forall₂ (Validator.MemberYields P c) members entries)
    (h : ∀ raw i, P f.schema raw i →
      ∃ a, (FieldType.ofSchema f.schema).reading w i = .ok a) :
    ∃ slot, readSlot w ⟨c, Validator.arrange c entries⟩ f = .ok slot := by
  have hentry := Validator.entryYields_lookup hread hf
  have hfound : ObjectInstance.presence? ⟨c, Validator.arrange c entries⟩ f.name =
      some ((entries.lookup f.name).getD .unset) := Validator.presence?_arrange hf
  generalize (entries.lookup f.name).getD .unset = p at hentry hfound
  apply exists_readSlot
  · intro i hi
    rw [ObjectInstance.field, hfound, Option.getD_some] at hi
    subst hi
    generalize members.lookup f.name = given at hentry
    cases hentry with
    | sent hy =>
      cases hy with
      | value _ hp => exact h _ _ hp
  · intro hnull
    have hname : f.name ∈ c.requiredNames := by
      refine List.mem_map.2 ⟨f, List.mem_filter.2 ⟨(Composite.field?_mem hf).1, ?_⟩, rfl⟩
      cases hrequired : f.required with
      | true => rfl
      | false => simp [Field.acceptsNull, hrequired] at hnull
    have hsent := hreq f.name hname
    generalize members.lookup f.name = given at hentry hsent
    cases hentry with
    | absent => cases hsent
    | sent hy =>
      cases hy with
      | null ha => cases hnull.symm.trans ha
      | value => exact ⟨_, hfound⟩

end

def Served (r : Registry) (s : Schema) : Prop :=
  ∀ name, s.reference? = some name → ∃ c, r.resolve (.ref name) = .ok (.object c) ∧ Complete r c

theorem Complete.served {r : Registry} {c : Composite} {f : Field} (h : Complete r c)
    (hf : f ∈ c.fields) : Served r f.schema := by
  intro name hname
  obtain ⟨d, hd⟩ := h c (.refl c) f hf name hname
  exact ⟨d, hd, fun e he => h e (.field hf hname hd he)⟩

/-- The induction over runs: what a schema yields is read at the type of the schema, and what a
composite yields is read by its wrapper. -/
theorem exists_reading_of_apply {v : Validator} (W : Generated v.registry) {room : Nat} {s : Schema}
    {raw : Json} {i : Instance} (h : v.apply room s raw = .ok i) (hw : v.registry.WellNamed s) :
    (Served v.registry s → ∃ a, (FieldType.ofSchema s).reading W.readNamed i = .ok a) ∧
      ∀ c, s = .object c → Complete v.registry c → ∃ a, read W.readNamed c i = .ok a := by
  revert hw
  refine Validator.apply_induction (v := v)
    (P := fun _ s _ i => v.registry.WellNamed s →
      (Served v.registry s → ∃ a, (FieldType.ofSchema s).reading W.readNamed i = .ok a) ∧
        ∀ c, s = .object c → Complete v.registry c → ∃ a, read W.readNamed c i = .ok a)
    ?_ ?_ ?_ ?_ h
  · intro room kind c raw i hrun _
    refine ⟨fun _ => ?_, by simp⟩
    exact exists_reading_leaf (Kind.convert_eq_value (Kind.coerce_eq_ok.1 hrun).1).1
  · intro room s raw i hc hw
    cases hc with
    | list hsize hitems =>
      refine ⟨fun hs => exists_reading_list fun i hi => ?_, by simp⟩
      obtain ⟨raw, -, -, hread⟩ := exists_of_mem_right hitems hi
      exact (hread (hw.part .items)).1 hs
    | dict hread =>
      refine ⟨fun hs => exists_reading_dict fun e he => ?_, by simp⟩
      obtain ⟨m, -, -, -, hread⟩ := exists_of_mem_right hread (List.mem_mergeSort.1 he)
      exact (hread (hw.part .values)).1 hs
    | @object c members entries hreq hread =>
      refine ⟨fun _ => ⟨_, rfl⟩, ?_⟩
      rintro _ ⟨rfl⟩ hcomplete
      refine exists_read fun f hf => ?_
      refine exists_readSlot_arrange (Composite.field?_of_mem hw.nodup hf) hreq hread ?_
      intro raw i hp
      exact (hp.2 (hw.part (.field hf))).1 (hcomplete.served hf)
  · intro room name s raw i hr ih hw
    -- The type of a reference is the wrapper of its composite, so the second half is what it takes.
    refine ⟨fun hs => ?_, by simp⟩
    obtain ⟨c, hc, hcomplete⟩ := hs name rfl
    cases hr.symm.trans hc
    obtain ⟨a, ha⟩ := (ih (hw.resolve hr)).2 c rfl hcomplete
    exact ⟨a, by rw [FieldType.ofSchema, FieldType.reading, W.readNamed_eq hc, ha]⟩
  · intro room cs s raw i _ _ _
    exact ⟨fun _ => ⟨_, rfl⟩, by simp⟩

theorem exists_readSlot_of_read {w : SchemaName → Reading Value} {c : Composite}
    {o : ObjectInstance} {a : Value} (h : read w c (.object o) = .ok a) :
    ∀ f ∈ c.fields, ∃ slot, readSlot w o f = .ok slot := by
  intro f hf
  obtain ⟨o', ho, h⟩ := bind_eq_ok.1 h
  cases ho
  obtain ⟨slots, hslots, -⟩ := bind_eq_ok.1 h
  obtain ⟨b, -, hb⟩ := exists_of_mem_right (mapM_eq_ok.1 hslots).flip hf
  obtain ⟨slot, hslot, -⟩ := bind_eq_ok.1 hb
  exact ⟨slot, hslot⟩

/-- A wrapper reads every object that is valid for its composite, and so does each of its fields. -/
theorem wrapper_reads_validated {v : Validator} (W : Generated v.registry)
    (c : v.registry.NamedComposite) {raw : Json} {o : ObjectInstance} (hc : Complete v.registry c)
    (h : v.validateComposite c raw = .ok o) :
    (∀ f ∈ c.1.fields, ∃ slot, readSlot W.readNamed o f = .ok slot) ∧
      ∃ a, read W.readNamed c (.object o) = .ok a := by
  have hrun := Validator.validateComposite_eq_ok.1 h
  obtain ⟨a, ha⟩ := (exists_reading_of_apply W hrun c.2).2 c rfl hc
  exact ⟨exists_readSlot_of_read ha, a, ha⟩

def outlineSchema : Composite where
  name := ⟨"Outline", by decide⟩
  description := none
  fields :=
    [⟨"title", .leaf .string, true, false, none⟩, ⟨"done", .leaf .boolean, true, true, none⟩,
      ⟨"sections", .list (.ref ⟨"Outline", by decide⟩) none none, false, false, none⟩,
      ⟨"appendices", .dict (.ref ⟨"Outline", by decide⟩), false, true, none⟩]
  additional := .forbidden

def outlineValidator : Validator :=
  ⟨⟨[(outlineSchema.name, .object outlineSchema)], List.pairwise_singleton _ _⟩, 3⟩

def outlinePayload : Json :=
  .object [("title", .string "a"), ("done", .null),
    ("sections", .array [.object [("title", .string "b"), ("done", .bool true)]])]

def outlineObject : ObjectInstance :=
  ⟨outlineSchema,
    [("title", .value (.string "a")), ("done", .null),
      ("sections", .value (.list [.object ⟨outlineSchema,
        [("title", .value (.string "b")), ("done", .value (.boolean true)), ("sections", .unset),
          ("appendices", .unset)]⟩])),
      ("appendices", .unset)]⟩

theorem outlineSchema_complete : Complete outlineValidator.registry outlineSchema := by
  have hname : ∀ f ∈ outlineSchema.fields, ∀ name, f.schema.reference? = some name →
      outlineValidator.registry.resolve (.ref name) = .ok (.object outlineSchema) := by
    have hresolve : outlineValidator.registry.resolve (.ref outlineSchema.name) =
        .ok (.object outlineSchema) := by
      cbv
    simpa [outlineSchema, Schema.reference?, Schema.leaf] using hresolve
  have htakes {c d : Composite} (h : Takes outlineValidator.registry c d)
      (hc : c = outlineSchema) : d = outlineSchema := by
    induction h with
    | refl => exact hc
    | field hf href hr _ ih =>
      subst hc
      cases (hname _ hf _ href).symm.trans hr
      exact ih rfl
  intro d hd f hf name href
  obtain rfl := htakes hd rfl
  exact ⟨_, hname f hf name href⟩

theorem outlineObject_read :
    outlineValidator.registry.WellNamed (.object outlineSchema) ∧
      Complete outlineValidator.registry outlineSchema ∧
      outlineValidator.validateComposite outlineSchema outlinePayload = .ok outlineObject ∧
      (∀ f ∈ outlineSchema.fields, ∃ slot,
        readSlot (generated outlineValidator.registry).readNamed outlineObject f = .ok slot) ∧
      ∃ a, read (generated outlineValidator.registry).readNamed outlineSchema
        (.object outlineObject) = .ok a := by
  have hw : outlineValidator.registry.WellNamed (.object outlineSchema) :=
    Registry.throughout_of_all (by decide) (by decide)
  have hvalid : outlineValidator.validateComposite outlineSchema outlinePayload =
      .ok outlineObject := by
    cbv
  exact ⟨hw, outlineSchema_complete, hvalid,
    wrapper_reads_validated (generated _) ⟨_, hw⟩ outlineSchema_complete hvalid⟩

end Wrapper
end PayloadSchema
