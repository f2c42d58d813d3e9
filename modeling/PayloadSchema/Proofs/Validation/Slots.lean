import Mathlib
import PayloadSchema.Validation.Slots
import PayloadSchema.Proofs.Schema.Index
import PayloadSchema.Proofs.Validation.Object

/-!
Objects that are read into slots by an index. The index of a composite that has been built gives
only places that exist, so that no slot is missed, and the object is the one that is read by names.
-/
namespace PayloadSchema
open Outcome Validator

namespace Slots
variable {c : Composite} {read : List (String × Presence Instance)} {name : String}
  {p : Presence Instance}

/-- What has been read under a name; where it came twice the last member counts. -/
def lastRead (read : List (String × Presence Instance)) (name : String) : Presence Instance :=
  (read.reverse.lookup name).getD .unset

theorem lastRead_append_self : lastRead (read ++ [(name, p)]) name = p := by
  simp [lastRead]

theorem lastRead_append_of_ne {other : String} (h : other ≠ name) :
    lastRead (read ++ [(name, p)]) other = lastRead read other := by
  simp [lastRead, List.lookup_cons, beq_eq_false_iff_ne.2 h]

/-- With distinct names the first member is the last one. -/
theorem lastRead_eq (hk : (read.map (·.1)).Nodup) (name : String) :
    lastRead read name = (read.lookup name).getD .unset := by
  have hreverse : (read.reverse.map (·.1)).Nodup := by
    rw [List.map_reverse]
    exact List.nodup_reverse.2 hk
  have hlookup : read.reverse.lookup name = read.lookup name := by
    refine Option.ext fun p => ⟨fun h => ?_, fun h => ?_⟩
    · exact Members.lookup_of_mem hk (List.mem_reverse.1 (Members.mem_of_lookup h))
    · exact Members.lookup_of_mem hreverse (List.mem_reverse.2 (Members.mem_of_lookup h))
  rw [lastRead, hlookup]

def after (c : Composite) (read : List (String × Presence Instance)) : Slots where
  declared := c.fields.map fun field => (field.name, lastRead read field.name)
  additional := additionalEntries c read

theorem after_nil (c : Composite) : after c [] = start c := rfl

theorem entries_after (hk : (read.map (·.1)).Nodup) :
    (after c read).entries = arrange c read := by
  simp only [entries, after, lastRead_eq hk]
  rfl

/-- A declared member fills its slot and leaves the others as they are. -/
theorem declared_after_append (h : DistinctlyNamed c.fields) {field : Field} {i : Nat}
    (hf : c.fields[i]? = some field) :
    (after c (read ++ [(field.name, p)])).declared =
      (after c read).declared.set i (field.name, p) := by
  refine List.ext_getElem? fun j => ?_
  obtain ⟨hlt, -⟩ := List.getElem?_eq_some_iff.1 hf
  rw [List.getElem?_set, after, after, List.getElem?_map, List.getElem?_map]
  split
  · rename_i hij
    subst hij
    rw [hf, Option.map_some, lastRead_append_self, List.length_map, if_pos hlt]
  · rename_i hij
    cases hg : c.fields[j]? with
    | none => rfl
    | some g =>
      have hne : g.name ≠ field.name := fun hname =>
        hij (h.place_unique (congrArg (Option.map (·.name)) hf) (by simp [hg, hname]))
      simp [lastRead_append_of_ne hne]

theorem after_append_declared (h : DistinctlyNamed c.fields) {field : Field} {i : Nat}
    (hf : c.fields[i]? = some field) :
    after c (read ++ [(field.name, p)]) =
      ⟨(after c read).declared.set i (field.name, p), (after c read).additional⟩ := by
  have hadditional :
      additionalEntries c (read ++ [(field.name, p)]) = additionalEntries c read := by
    simp [additionalEntries, Composite.field?_of_mem h.2 (List.mem_of_getElem? hf)]
  rw [← declared_after_append h hf]
  simp only [after, hadditional]

theorem after_append_additional (hf : c.field? name = none) :
    after c (read ++ [(name, p)]) =
      ⟨(after c read).declared, (after c read).additional ++ [(name, p)]⟩ := by
  have hne : ∀ field ∈ c.fields, field.name ≠ name := fun field hmem hname =>
    Composite.field?_eq_none.1 hf (List.mem_map.2 ⟨field, hmem, hname⟩)
  have hdeclared : (after c (read ++ [(name, p)])).declared = (after c read).declared :=
    List.map_congr_left fun field hmem => by rw [lastRead_append_of_ne (hne field hmem)]
  have hadditional : additionalEntries c (read ++ [(name, p)]) =
      additionalEntries c read ++ [(name, p)] := by
    simp [additionalEntries, hf]
  rw [← hdeclared]
  simp only [after, hadditional]

variable {c : IndexedComposite} {f : Schema → Json → Except ValidationError Instance}

/-- One member: its place exists, and it is read as by its name. -/
theorem readMember_after (h : c.index.Indexes c.composite.fields) (m : String × Json) :
    readMember f c (after c.composite read) m =
      ((applyMember f c.composite m).map fun e => after c.composite (read ++ [e])).mapError
        .refused := by
  obtain ⟨name, raw⟩ := m
  rcases IndexedComposite.position?_cases h name with
    ⟨i, field, hposition, hi, rfl, hfield⟩ | ⟨hposition, hfield⟩
  · have hslot : (after c.composite read).declared[i]? =
        some (field.name, lastRead read field.name) := by
      rw [after, List.getElem?_map, hi, Option.map_some]
    simp only [readMember, hposition, elementAt, hi, hslot, Except.mapError, ok_bind, applyMember,
      hfield]
    cases applyDeclared f field raw with
    | error e => rfl
    | ok p => exact congrArg Except.ok (after_append_declared h.distinct hi).symm
  · simp only [readMember, hposition, applyMember, hfield]
    cases applyAdditional f c.composite.additional name raw with
    | error e => rfl
    | ok p => exact congrArg Except.ok (after_append_additional hfield).symm

/-- All members, one after the other. -/
theorem foldlM_readMember (h : c.index.Indexes c.composite.fields) (members : Members) :
    members.foldlM (readMember f c) (after c.composite read) =
      ((members.mapM (applyMember f c.composite)).map fun es =>
        after c.composite (read ++ es)).mapError .refused := by
  -- what has been read so far is carried along, and the step lemma says what the slots hold then
  induction members generalizing read with
  | nil => simp [pure, Except.pure, Except.map, Except.mapError]
  | cons m members ih =>
    rw [List.foldlM_cons, readMember_after h, List.mapM_cons]
    cases applyMember f c.composite m with
    | error e => rfl
    | ok e =>
      simp only [Except.map, Except.mapError, ok_bind, ih]
      cases members.mapM (applyMember f c.composite) with
      | error e => rfl
      | ok es => simp [pure, Except.pure, bind, Except.bind]

end Slots

namespace IndexedComposite
variable {c : IndexedComposite}

/-- Reading into slots ends in an object or in a refusal. If no key comes twice it is the object or
the refusal of reading by names. -/
theorem exists_readObject_eq (h : c.index.Indexes c.composite.fields) (v : Validator)
    (inner : Inner) (raw : Json) :
    ∃ r, c.readObject v inner raw = r.mapError .refused ∧
      (raw.DistinctKeys → r = v.applyComposite inner c.composite raw) := by
  cases raw with
  | object members =>
    cases inner with
    | none => exact ⟨.error v.tooDeep, rfl, fun _ => rfl⟩
    | some f =>
      simp only [readObject, applyComposite, enter, Except.mapError, ok_bind]
      cases c.composite.requiredNames.find? fun name => (members.lookup name).isNone with
      | some name => exact ⟨.error (.here (.missingField name)), rfl, fun _ => rfl⟩
      | none =>
        simp only [← Slots.after_nil, Slots.foldlM_readMember h]
        cases hread : members.mapM (applyMember f c.composite) with
        | error e => exact ⟨.error e, rfl, fun _ => rfl⟩
        | ok read =>
          refine ⟨.ok ⟨c.composite, (Slots.after c.composite read).entries⟩, rfl, fun hraw => ?_⟩
          cases hraw with
          | object hk =>
            have hyields := (mapM_eq_ok.1 hread).imp fun m e => applyMember_eq_ok.1
            rw [Slots.entries_after (map_name_read hyields ▸ hk)]
            rfl
  | _ => exact ⟨.error (.here (.notAnObject _)), rfl, fun _ => rfl⟩

structure Faithful (c : IndexedComposite) : Prop where
  /-- A name has the place where it stands and where no other field of that name does. -/
  position (name : String) (i : Nat) : c.position? name = some i ↔
    ∀ j, c.composite.fields[j]?.map (·.name) = some name ↔ j = i
  position_eq (name : String) : c.position? name = c.composite.position? name
  /-- The field at that place is found, and the place exists. -/
  field (name : String) : c.field? name = .ok (c.composite.field? name)
  field_place (name : String) (f : Field) : c.composite.field? name = some f ↔
    ∃ i, c.position? name = some i ∧ c.composite.fields[i]? = some f
  required (name : String) : name ∈ c.index.required ↔
    ∃ f ∈ c.composite.fields, f.required = true ∧ f.name = name
  required_eq : c.index.required =
    c.composite.requiredNames.mergeSort fun a b => decide (a ≤ b)
  /-- No payload leads to a place that does not exist, neither among the fields nor the slots. -/
  inRange (v : Validator) (inner : Inner) (raw : Json) (e : OutOfRange) :
    c.readObject v inner raw ≠ .error (.outOfRange e)
  slots (v : Validator) (inner : Inner) (raw : Payload) :
    c.readObject v inner raw = (v.applyComposite inner c.composite raw).mapError .refused

theorem faithful_of_indexes (h : c.index.Indexes c.composite.fields) : c.Faithful where
  position name i := position?_eq_some h
  position_eq name := position?_eq h
  field name := field?_eq h
  field_place name f := field?_eq_some h
  required := h.mem_required
  required_eq := h.required_eq
  inRange v inner raw e he := by
    obtain ⟨r, hr, -⟩ := exists_readObject_eq h v inner raw
    rw [hr] at he
    obtain ⟨d, -, hd⟩ := mapError_eq_error.1 he
    cases hd
  slots v inner raw := by
    obtain ⟨r, hr, hsame⟩ := exists_readObject_eq h v inner raw
    rw [hr, hsame raw.2]

end IndexedComposite

namespace Draft

/-- A draft can be finished if and only if it has a valid name and all fields that were declared
have names of their own. If not, the name is reported, or else the first field that is at fault. If
so, the index is faithful, and the composite is the one that is built without an index. -/
theorem build_faithful (name : String) (calls : List Call) :
    ((∃ c, (ofCalls name calls).build = .ok c) ↔
        SchemaName.IsName name ∧ (∀ f ∈ declared calls, f.name ≠ "") ∧
          ((declared calls).map (·.name)).Nodup) ∧
      (∀ e, (ofCalls name calls).build = .error e ↔
        (∃ reason, SchemaName.fault? name.toList = some reason ∧ e = .invalidName name reason) ∨
          SchemaName.IsName name ∧
            ∃ reason, FirstDefect (declared calls) reason ∧ e = .invalidDeclaration name reason) ∧
      (∀ c, (ofCalls name calls).build = .ok c →
        c.composite.name.text = name ∧ c.composite.fields = declared calls ∧ c.Faithful) ∧
      (ofCalls name calls).build.map (·.composite) =
        Composite.build name (ofCalls name calls).description (declared calls)
          (ofCalls name calls).additional := by
  rw [← fields_ofCalls name calls]
  have hname := name_ofCalls name calls
  generalize ofCalls name calls = d at hname ⊢
  subst hname
  refine ⟨exists_build_eq_ok, fun e => build_eq_error, fun c hc => ?_, map_build d⟩
  obtain ⟨name, index, hmake, hindex, rfl⟩ := build_eq_ok.1 hc
  have hindexes := Index.indexes_of_addAll hindex
  exact ⟨SchemaName.text_of_make hmake, rfl, IndexedComposite.faithful_of_indexes hindexes⟩

def parcelCalls : List Call :=
  [.describe "A parcel on its way.", .required "sender" (.leaf .string), .additional .any,
    .optional "weight" (.leaf .decimal), .requiredNullable "due" (.leaf .date), .forbidAdditional]

def parcel : IndexedComposite where
  composite :=
    { name := ⟨"Parcel", by decide⟩
      description := some "A parcel on its way."
      fields := declared parcelCalls
      additional := .forbidden }
  index := ⟨[("due", 2), ("weight", 1), ("sender", 0)], ["due", "sender"]⟩

def senderTwice : List Call :=
  parcelCalls ++ [.optional "sender" (.leaf .string), .optional "" (.leaf .string)]

theorem parcel_faithful :
    (ofCalls "Parcel" parcelCalls).build = .ok parcel ∧ parcel.Faithful ∧
      parcel.position? "due" = some 2 ∧
      (ofCalls "Parcel" senderTwice).build =
        .error (.invalidDeclaration "Parcel" "field 'sender' is declared twice") ∧
      FirstDefect (declared senderTwice) "field 'sender' is declared twice" := by
  have hbuild : (ofCalls "Parcel" parcelCalls).build = .ok parcel := rfl
  have hrefused : (ofCalls "Parcel" senderTwice).build =
      .error (.invalidDeclaration "Parcel" "field 'sender' is declared twice") := rfl
  obtain ⟨-, -, hbuilt, -⟩ := build_faithful "Parcel" parcelCalls
  obtain ⟨-, herror, -⟩ := build_faithful "Parcel" senderTwice
  refine ⟨hbuild, (hbuilt _ hbuild).2.2, rfl, hrefused, ?_⟩
  rcases (herror _).1 hrefused with ⟨reason, -, h⟩ | ⟨-, reason, hfirst, h⟩
  · cases h
  · cases h
    exact hfirst

end Draft
end PayloadSchema
