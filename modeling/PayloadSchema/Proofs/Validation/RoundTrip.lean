import Mathlib
import PayloadSchema.Proofs.Validation.Encoding
import PayloadSchema.Proofs.Validation.Object
import PayloadSchema.Proofs.Validation.Recursion

/-!
A valid value survives being written as JSON and validated again, where all unions that can be
reached keep their choice: the second validation yields the same value. Not all of them do, since an
earlier alternative may fit the JSON form of a value that it did not fit as it was sent.
-/
namespace PayloadSchema.Validator
open Outcome

section
variable {c : Composite} {read : List (String × Presence Instance)}

def presentEntries (c : Composite) (read : List (String × Presence Instance)) :
    List (String × Presence Instance) :=
  (arrange c read).filter (·.2.isSet)

theorem mem_of_mem_presentEntries {e : String × Presence Instance}
    (h : e ∈ presentEntries c read) : e ∈ read := by
  obtain ⟨hmem, hset⟩ := List.mem_filter.1 h
  rw [arrange_eq, List.mem_append] at hmem
  rcases hmem with hmem | hmem
  · obtain ⟨f, -, rfl⟩ := List.mem_map.1 hmem
    cases hlookup : read.lookup f.name with
    | none => simp [hlookup, Presence.isSet] at hset
    | some p => exact Members.mem_of_lookup hlookup
  · exact (mem_additional.1 hmem).1

theorem declared_of_mem_arrange {name : String} {p : Presence Instance}
    (hname : name ∈ c.fields.map (·.name)) (h : (name, p) ∈ arrange c read) :
    p = (read.lookup name).getD .unset := by
  rw [arrange_eq, List.mem_append] at h
  rcases h with h | h
  · obtain ⟨f, -, heq⟩ := List.mem_map.1 h
    cases heq
    rfl
  · exact absurd hname (Composite.field?_eq_none.1 (mem_additional.1 h).2)

theorem lookup_presentEntries (hset : ∀ e ∈ read, e.2.isSet = true) {name : String}
    (hname : name ∈ c.fields.map (·.name)) :
    (presentEntries c read).lookup name = read.lookup name := by
  cases hread : read.lookup name with
  | none =>
    cases hpresent : (presentEntries c read).lookup name with
    | none => rfl
    | some p =>
      have hmem := mem_of_mem_presentEntries (Members.mem_of_lookup hpresent)
      obtain ⟨q, hq⟩ := Members.exists_lookup_of_mem hmem
      cases hread.symm.trans hq
  | some p =>
    have hmem : (name, p) ∈ presentEntries c read := by
      obtain ⟨f, hf, rfl⟩ := List.mem_map.1 hname
      refine List.mem_filter.2 ⟨?_, hset _ (Members.mem_of_lookup hread)⟩
      rw [arrange_eq]
      exact List.mem_append_left _ (List.mem_map.2 ⟨f, hf, by rw [hread]; rfl⟩)
    obtain ⟨q, hq⟩ := Members.exists_lookup_of_mem hmem
    have harranged := (List.mem_filter.1 (Members.mem_of_lookup hq)).1
    rw [hq, declared_of_mem_arrange hname harranged, hread]
    rfl

/-- Arranging the entries that are set gives the same object. -/
theorem arrange_presentEntries (hset : ∀ e ∈ read, e.2.isSet = true) :
    arrange c (presentEntries c read) = arrange c read := by
  have hdeclared : declaredEntries c (presentEntries c read) = declaredEntries c read := by
    refine List.map_congr_left fun f hf => ?_
    rw [lookup_presentEntries hset (List.mem_map.2 ⟨f, hf, rfl⟩)]
  have hadditional : additionalEntries c (presentEntries c read) = additionalEntries c read := by
    rw [additionalEntries, presentEntries, arrange_eq, List.filter_append, List.filter_append]
    have hnone : ((declaredEntries c read).filter (·.2.isSet)).filter
        (fun e => (c.field? e.1).isNone) = [] := by
      rw [List.filter_eq_nil_iff]
      rintro e he
      obtain ⟨f, hf, rfl⟩ := List.mem_map.1 (List.mem_filter.1 he).1
      rw [Option.isNone_iff_eq_none, Composite.field?_eq_none]
      exact fun hnot => hnot (List.mem_map.2 ⟨f, hf, rfl⟩)
    have hall : ((additionalEntries c read).filter (·.2.isSet)).filter
        (fun e => (c.field? e.1).isNone) = additionalEntries c read := by
      rw [List.filter_eq_self.2 fun e he => hset e (mem_additional.1 he).1,
        List.filter_eq_self.2 fun e he => Option.isNone_iff_eq_none.2 (mem_additional.1 he).2]
    rw [hnone, hall, List.nil_append]
  rw [arrange_eq, arrange_eq, hdeclared, hadditional]

end

/-- A schema is no union, or one that chooses the same alternative for what it has made. -/
def KeepsChoice (v : Validator) (s : Schema) : Prop :=
  ∀ cs, s = .union cs → ∀ room raw t i, v.choose raw room cs = .ok t → v.apply room t raw = .ok i →
    v.choose i.encode room cs = .ok t

/-- What the second validation makes of a value that the first one made of a raw value. -/
def Reencodes (v : Validator) (room : Nat) (s : Schema) (raw : Json) (i : Instance) : Prop :=
  v.registry.Throughout (KeepsChoice v) s → i.DecimalsReadBack →
    v.apply room s i.encode = .ok i ∧ i.encode.isNull = raw.isNull

abbrev ReencodingRun (v : Validator) (room : Nat) (s : Schema) (raw : Json) (i : Instance) : Prop :=
  v.apply room s raw = .ok i ∧ Reencodes v room s raw i

abbrev Runs (v : Validator) (room : Nat) (s : Schema) (raw : Json) (i : Instance) : Prop :=
  v.apply room s raw = .ok i

section
variable {v : Validator} {room : Nat} {raw : Json} {i : Instance} {s t : Schema}

theorem FieldYields.reencode {f : Field} {raw : Json} {p : Presence Instance}
    (h : FieldYields (ReencodingRun v room) f raw p)
    (hu : v.registry.Throughout (KeepsChoice v) f.schema)
    (hd : ∀ i, p = .value i → i.DecimalsReadBack) :
    FieldYields (Runs v room) f (Instance.encodePresence p) p := by
  cases h with
  | null ha => exact .null ha
  | value hn hp =>
    obtain ⟨hrun, hnull⟩ := hp.2 hu (hd _ rfl)
    exact .value (hnull.trans hn) hrun

theorem PolicyYields.reencode {policy : Policy} {raw : Json} {p : Presence Instance}
    (h : PolicyYields (ReencodingRun v room) policy raw p)
    (hu : ∀ s, policy = .typed s → v.registry.Throughout (KeepsChoice v) s)
    (hd : ∀ i, p = .value i → i.DecimalsReadBack) :
    PolicyYields (Runs v room) policy (Instance.encodePresence p) p := by
  cases h with
  | typedNull hp => exact .typedNull hp.1
  | typedValue hn hp =>
    obtain ⟨hrun, hnull⟩ := hp.2 (hu _ rfl) (hd _ rfl)
    exact .typedValue (hnull.trans hn) hrun
  | anyNull => exact .anyNull
  | anyValue hn => exact .anyValue hn

theorem MemberYields.reencode {c : Composite} {m : String × Json} {e : String × Presence Instance}
    (h : MemberYields (ReencodingRun v room) c m e)
    (hu : v.registry.Throughout (KeepsChoice v) (.object c))
    (hd : ∀ i, e.2 = .value i → i.DecimalsReadBack) :
    MemberYields (Runs v room) c (e.1, Instance.encodePresence e.2) e := by
  cases h with
  | declared hf h => exact .declared hf (h.reencode (hu.field hf) hd)
  | additional hf h => exact .additional hf (h.reencode (fun s hs => hu.part (.additional hs)) hd)

theorem reencode_list {s : Schema} {least most : Option Nat} {raws : List Json}
    {items : List Instance} (hsize : checkSize raws.length least most = .ok ())
    (hitems : List.Forall₂ (ReencodingRun v room s) raws items)
    (hu : v.registry.Throughout (KeepsChoice v) (.list s least most))
    (hd : (Instance.list items).DecimalsReadBack) :
    Container (Runs v room) (.list s least most) (Instance.list items).encode (.list items) := by
  rw [Instance.encode, Instance.encodeItems_eq]
  refine .list ?_ ?_
  · rwa [List.length_map, ← hitems.length_eq]
  · rw [List.forall₂_map_left_iff, List.forall₂_same]
    intro i hi
    obtain ⟨raw, -, hrun⟩ := exists_of_mem_right hitems hi
    exact (hrun.2 (hu.part .items) (hd.item hi)).1

theorem reencode_dict {s : Schema} {members : Members} {read : List (String × Instance)}
    (hread : List.Forall₂ (fun m e => m.1 = e.1 ∧ ReencodingRun v room s m.2 e.2) members
      read)
    (hu : v.registry.Throughout (KeepsChoice v) (.dict s))
    (hd : (Instance.dict (read.mergeSort keyOrder)).DecimalsReadBack) :
    Container (Runs v room) (.dict s) (Instance.dict (read.mergeSort keyOrder)).encode
      (.dict (read.mergeSort keyOrder)) := by
  have hsorted : (read.mergeSort keyOrder).mergeSort keyOrder = read.mergeSort keyOrder :=
    List.mergeSort_of_pairwise (List.pairwise_mergeSort keyOrder_trans keyOrder_total read)
  rw [Instance.encode, Instance.encodeDict_eq]
  nth_rewrite 2 [← hsorted]
  refine .dict ?_
  rw [List.forall₂_map_left_iff, List.forall₂_same]
  intro e he
  obtain ⟨m, -, -, hrun⟩ := exists_of_mem_right hread (List.mem_mergeSort.1 he)
  exact ⟨rfl, (hrun.2 (hu.part .values) (hd.entry he)).1⟩

theorem reencode_object {c : Composite} {members : Members}
    {read : List (String × Presence Instance)}
    (hreq : ∀ name ∈ c.requiredNames, (members.lookup name).isSome = true)
    (hread : List.Forall₂ (MemberYields (ReencodingRun v room) c) members read)
    (hu : v.registry.Throughout (KeepsChoice v) (.object c))
    (hd : (Instance.object ⟨c, arrange c read⟩).DecimalsReadBack) :
    Container (Runs v room) (.object c) (Instance.object ⟨c, arrange c read⟩).encode
      (.object ⟨c, arrange c read⟩) := by
  have hset : ∀ e ∈ read, e.2.isSet = true := by
    intro e he
    obtain ⟨m, -, hm⟩ := exists_of_mem_right hread he
    exact hm.isSet
  have hmembers : List.Forall₂ (MemberYields (Runs v room) c)
      ((presentEntries c read).map fun e => (e.1, Instance.encodePresence e.2))
      (presentEntries c read) := by
    rw [List.forall₂_map_left_iff, List.forall₂_same]
    intro e he
    obtain ⟨m, -, hm⟩ := exists_of_mem_right hread (mem_of_mem_presentEntries he)
    refine hm.reencode hu fun i hi => ?_
    have hmem : (e.1, Presence.value i) ∈ arrange c read := hi ▸ (List.mem_filter.1 he).1
    exact hd.field hmem
  rw [Instance.encode, Instance.encodeObject, Instance.encodeEntries_eq]
  nth_rewrite 2 [← arrange_presentEntries hset]
  refine .object (fun name hname => ?_) hmembers
  have hdeclared : name ∈ c.fields.map (·.name) := by
    obtain ⟨f, hf, rfl⟩ := List.mem_map.1 hname
    exact List.mem_map.2 ⟨f, (List.mem_filter.1 hf).1, rfl⟩
  rcases lookup_read hread name with ⟨hm, -⟩ | ⟨raw, p, -, hp, -⟩
  · have hsent := hreq name hname
    rw [hm] at hsent
    cases hsent
  · have hpresent := (lookup_presentEntries hset hdeclared).trans hp
    have hmem : (name, Instance.encodePresence p) ∈
        (presentEntries c read).map fun e => (e.1, Instance.encodePresence e.2) :=
      List.mem_map.2 ⟨(name, p), Members.mem_of_lookup hpresent, rfl⟩
    exact Option.isSome_iff_exists.2 (Members.exists_lookup_of_mem hmem)

theorem reencodingRun_container (h : Container (ReencodingRun v room) s raw i) :
    ReencodingRun v (room + 1) s raw i := by
  refine ⟨apply_container (h.mono fun _ _ _ hrun => hrun.1), fun hu hd => ?_⟩
  cases h with
  | list hsize hitems => exact ⟨apply_container (reencode_list hsize hitems hu hd), rfl⟩
  | dict hread => exact ⟨apply_container (reencode_dict hread hu hd), rfl⟩
  | object hreq hread => exact ⟨apply_container (reencode_object hreq hread hu hd), rfl⟩

theorem reencodingRun_leaf {kind : Kind} {c : Constraints} (h : kind.coerce c raw = .ok i) :
    ReencodingRun v room (.primitive kind c) raw i := by
  obtain ⟨hconvert, hcheck⟩ := Kind.coerce_eq_ok.1 h
  obtain ⟨hkind, hi⟩ := Kind.convert_eq_value hconvert
  have hrun (part : Json) : v.apply room (.primitive kind c) part = kind.coerce c part := by
    have hs : (Schema.primitive kind c).IsHead := trivial
    rw [apply_head hs, applyHead]
  refine ⟨(hrun raw).trans h, fun _ hd => ⟨?_, Kind.isNull_encode hconvert⟩⟩
  rw [hrun]
  exact Kind.coerce_eq_ok.2 ⟨Kind.convert_encode hkind hi hd, hcheck⟩

theorem reencodingRun_ref {name : SchemaName} (hr : v.registry.resolve (.ref name) = .ok t)
    (h : ReencodingRun v room t raw i) : ReencodingRun v room (.ref name) raw i := by
  have hstep (part : Json) : v.apply room (.ref name) part = v.apply room t part := by
    rw [apply_ref_eq, hr, ok_bind]
  refine ⟨(hstep raw).trans h.1, fun hs hd => ?_⟩
  rw [hstep]
  exact h.2 (hs.resolve hr) hd

theorem reencodingRun_union {cs : List Schema} (hc : v.choose raw room cs = .ok t)
    (h : ReencodingRun v room t raw i) : ReencodingRun v room (.union cs) raw i := by
  constructor
  · rw [apply_union_eq, hc]
    exact h.1
  · intro hs hd
    have hkept : v.choose i.encode room cs = .ok t := hs.self cs rfl room raw t i hc h.1
    rw [apply_union_eq, hkept]
    exact h.2 (hs.part (.candidate (choose_mem hc))) hd

/-- Every run, with what the second validation makes of its value. -/
theorem reencodingRun_of_apply (h : v.apply room s raw = .ok i) :
    ReencodingRun v room s raw i := by
  refine apply_induction (P := ReencodingRun v) ?leaf ?container ?ref ?union h
  case leaf => exact fun room kind c raw i h => reencodingRun_leaf h
  case container =>
    exact fun room s raw i h => reencodingRun_container (h.mono fun _ _ _ hrun => hrun.2)
  case ref => exact fun room name t raw i hr h => reencodingRun_ref hr h
  case union => exact fun room cs t raw i hc h => reencodingRun_union hc h

/-- Where all unions keep their choice, what validation yields is yielded again from its JSON
form. -/
theorem apply_encode (hs : v.registry.Throughout (KeepsChoice v) s) (hd : i.DecimalsReadBack)
    (h : v.apply room s raw = .ok i) : v.apply room s i.encode = .ok i :=
  ((reencodingRun_of_apply h).2 hs hd).1

theorem keepsChoice_of_unionFree (hs : v.registry.UnionFree s) :
    v.registry.Throughout (KeepsChoice v) s := by
  intro t ht cs hcs
  have hnone := hs t ht
  rw [hcs] at hnone
  cases hnone

end

/-- A value that validation yields is yielded again from its own JSON form, provided that no union
can be reached from the schema and that the decimal numbers in the value read back from their text
(only a zero with a minus sign does not). -/
theorem validate_encode {v : Validator} {s : Schema} {raw : Json} {i : Instance}
    (hu : v.registry.UnionFree s) (hd : i.DecimalsReadBack) (h : v.validate s raw = .ok i) :
    v.validate s i.encode = .ok i :=
  apply_encode (keepsChoice_of_unionFree hu) hd h

def accountSchema : Composite where
  name := ⟨"Account", by decide⟩
  description := none
  fields :=
    [⟨"amount", .leaf .decimal, true, false, none⟩,
      ⟨"opened", .leaf .date, false, false, none⟩,
      ⟨"parts", .list (.ref ⟨"Account", by decide⟩) none none, false, false, none⟩]
  additional := .any

def accountValidator : Validator :=
  ⟨⟨[(accountSchema.name, .object accountSchema)], List.pairwise_singleton _ _⟩, 4⟩

def accountPayload : Json :=
  .object
    [("note", .array [.bool true]), ("opened", .string "2024-2-9"),
      ("parts", .array [.object [("amount", .number (.ofInt 7)), ("opened", .null)]]),
      ("amount", .string " 1.50 ")]

def accountInstance : Instance :=
  .object ⟨accountSchema,
    [("amount", .value (.decimal ⟨false, 150, 2, by decide⟩)),
      ("opened", .value (.date ⟨2024, 2, 9, by decide⟩)),
      ("parts", .value (.list [.object ⟨accountSchema,
        [("amount", .value (.decimal ⟨false, 7, 0, by decide⟩)), ("opened", .null),
          ("parts", .unset)]⟩])),
      ("note", .value (.any (.array [.bool true])))]⟩

theorem accountInstance_decimals : accountInstance.DecimalsReadBack := by
  intro d hd
  rw [Decimal.readsBack_iff]
  cases hd with
  | field hi h =>
    simp only [List.mem_cons, Prod.mk.injEq, Presence.value.injEq, List.not_mem_nil,
      or_false] at hi
    rcases hi with ⟨-, rfl⟩ | ⟨-, rfl⟩ | ⟨-, rfl⟩ | ⟨-, rfl⟩
    · cases h
      decide
    · cases h
    · cases h with
      | item hi h =>
        cases List.mem_singleton.1 hi
        cases h with
        | field hi h =>
          simp only [List.mem_cons, Prod.mk.injEq, Presence.value.injEq, List.not_mem_nil,
            or_false, reduceCtorEq, and_false] at hi
          cases hi.2
          cases h
          decide
    · cases h

theorem accountInstance_encode :
    accountValidator.registry.UnionFree (.ref accountSchema.name) ∧
      accountInstance.DecimalsReadBack ∧
      accountValidator.validate (.ref accountSchema.name) accountPayload = .ok accountInstance ∧
      accountValidator.validate (.ref accountSchema.name) accountInstance.encode =
        .ok accountInstance := by
  have hu : accountValidator.registry.UnionFree (.ref accountSchema.name) :=
    Registry.unionFree_of_all (by decide) (by decide)
  have h : accountValidator.validate (.ref accountSchema.name) accountPayload =
      .ok accountInstance := by
    cbv
  exact ⟨hu, accountInstance_decimals, h, validate_encode hu accountInstance_decimals h⟩

end PayloadSchema.Validator
