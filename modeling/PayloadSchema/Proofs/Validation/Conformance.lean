import Mathlib
import PayloadSchema.Proofs.Validation.Object
import PayloadSchema.Proofs.Validation.Room
import PayloadSchema.Proofs.Validation.Rule

/-!
Conformance: what an instance has to look like for a schema, at every level. Every instance that
validation makes conforms to its schema, where a float may lie past a bound by what is rounded away.
-/
namespace PayloadSchema
open Outcome

def Validator.AcceptsNull (v : Validator) (s : Schema) : Prop := ∃ i, v.validate s .null = .ok i

/-- An instance conforms to a schema. The entries of an object are those of its declared fields, in
order, and then those of additional fields. -/
inductive Conforms (v : Validator) : Schema → Instance → Prop
  | primitive {kind : Kind} {c : Constraints} {i : Instance} (hk : i.kind? = some kind)
      (hc : c.Satisfied i) : Conforms v (.primitive kind c) i
  | list {s : Schema} {least most : Option Nat} {items : List Instance}
      (hleast : ∀ n, least = some n → n ≤ items.length)
      (hmost : ∀ n, most = some n → items.length ≤ n) (hitems : ∀ i ∈ items, Conforms v s i) :
      Conforms v (.list s least most) (.list items)
  | dict {s : Schema} {entries : List (String × Instance)}
      (hvalues : ∀ e ∈ entries, Conforms v s e.2) : Conforms v (.dict s) (.dict entries)
  | ref {name : SchemaName} {s : Schema} {i : Instance}
      (hr : v.registry.resolve (.ref name) = .ok s) (hi : Conforms v s i) :
      Conforms v (.ref name) i
  | union {cs : List Schema} {s : Schema} {i : Instance} (hs : s ∈ cs) (hi : Conforms v s i) :
      Conforms v (.union cs) i
  | object {c : Composite} {declared extra : List (String × Presence Instance)}
      (hnames : declared.map (·.1) = c.fields.map (·.name))
      (hrequired : ∀ f p, (f, p) ∈ c.fields.zip (declared.map (·.2)) → f.required = true →
        p ≠ .unset)
      (hnull : ∀ f, (f, .null) ∈ c.fields.zip (declared.map (·.2)) → f.acceptsNull = true)
      (hvalue : ∀ f i, (f, .value i) ∈ c.fields.zip (declared.map (·.2)) →
        Conforms v f.schema i)
      (hdistinct : (extra.map (·.1)).Nodup)
      (hundeclared : ∀ e ∈ extra, e.1 ∉ c.fields.map (·.name))
      (hset : ∀ e ∈ extra, e.2 ≠ .unset)
      (hforbidden : c.additional = .forbidden → extra = [])
      (htypedNull : ∀ s name, c.additional = .typed s → (name, .null) ∈ extra → v.AcceptsNull s)
      (htypedValue : ∀ s name i, c.additional = .typed s → (name, .value i) ∈ extra →
        Conforms v s i)
      (hany : ∀ name i, c.additional = .any → (name, .value i) ∈ extra →
        ∃ raw, i = .any raw ∧ raw.isNull = false) :
      Conforms v (.object c) (.object ⟨c, declared ++ extra⟩)

namespace Validator
variable {v : Validator} {room : Nat}

def RunConforms (v : Validator) (room : Nat) (s : Schema) (raw : Json) (i : Instance) : Prop :=
  room ≤ v.maxDepth → v.registry.WellNamed s → raw.DistinctKeys → Conforms v s i

theorem runConforms_leaf {kind : Kind} {c : Constraints} {raw : Json} {i : Instance}
    (h : kind.coerce c raw = .ok i) : RunConforms v room (.primitive kind c) raw i := by
  intro _ _ _
  obtain ⟨hconv, hcheck⟩ := Kind.coerce_eq_ok.1 h
  exact .primitive (Kind.convert_eq_value hconv).1 (Constraints.satisfied_of_check hcheck)

theorem checkSize_eq_ok {n : Nat} {least most : Option Nat} :
    checkSize n least most = .ok () ↔
      (∀ l, least = some l → l ≤ n) ∧ ∀ m, most = some m → n ≤ m := by
  have hmost : checkSize n none most = .ok () ↔ ∀ m, most = some m → n ≤ m := by
    cases most with
    | none => simp [checkSize, pure, Except.pure]
    | some m =>
      by_cases h : m < n <;>
        simp [checkSize, h, Constraints.violated, pure, Except.pure, Nat.le_of_not_lt]
  cases least with
  | none => simpa using hmost
  | some l =>
    by_cases h : n < l
    · have hl : ¬l ≤ n := Nat.not_le.2 h
      simp [checkSize, h, hl, Constraints.violated, bind, Except.bind]
    · have hrest : checkSize n (some l) most = checkSize n none most := by
        simp [checkSize, h]
      simpa [hrest, Nat.le_of_not_lt h] using hmost

def ConformingRun (v : Validator) (room : Nat) (s : Schema) (raw : Json) (i : Instance) : Prop :=
  v.apply room s raw = .ok i ∧ RunConforms v room s raw i

theorem runConforms_object {c : Composite} {members : Members}
    {read : List (String × Presence Instance)}
    (hreq : ∀ name ∈ c.requiredNames, (members.lookup name).isSome = true)
    (hread : List.Forall₂ (MemberYields (ConformingRun v room) c) members read) :
    RunConforms v (room + 1) (.object c) (.object members) (.object ⟨c, arrange c read⟩) := by
  intro hroom hw hd
  have hle : room ≤ v.maxDepth := by omega
  cases hd with
  | object hk hmembers =>
    rw [arrange_eq]
    refine .object ?_ ?_ ?_ ?_ ?_ ?_ ?_ ?_ ?_ ?_ ?_
    · simp [declaredEntries]
    · rintro f p hz hfr rfl
      obtain ⟨hf, hy⟩ := mem_zip_declared hw.nodup hread hz
      have hname : f.name ∈ c.requiredNames :=
        List.mem_map.2 ⟨f, List.mem_filter.2 ⟨hf, hfr⟩, rfl⟩
      have hsome := hreq _ hname
      generalize members.lookup f.name = m at hy hsome
      cases hy with
      | absent => cases hsome
      | sent hy => cases hy
    · intro f hz
      obtain ⟨_, hy⟩ := mem_zip_declared hw.nodup hread hz
      generalize members.lookup f.name = m at hy
      cases hy with
      | sent hy =>
        cases hy with
        | null ha => exact ha
    · intro f i hz
      obtain ⟨hf, hy⟩ := mem_zip_declared hw.nodup hread hz
      generalize hm : members.lookup f.name = m at hy
      cases hy with
      | sent hy =>
        cases hy with
        | value hn hp =>
          exact hp.2 hle (hw.part (.field hf)) (hmembers _ (Members.mem_of_lookup hm))
    · rw [← map_name_read hread] at hk
      exact hk.sublist (List.filter_sublist.map _)
    · intro e he
      exact Composite.field?_eq_none.1 (mem_additional.1 he).2
    · rintro ⟨name, p⟩ he rfl
      obtain ⟨raw, _, hy⟩ := policyYields_of_mem hread he
      cases hy.isSet
    · intro ha
      rw [List.eq_nil_iff_forall_not_mem]
      rintro ⟨name, p⟩ he
      obtain ⟨raw, _, hy⟩ := policyYields_of_mem hread he
      rw [ha] at hy
      cases hy
    · intro s name ha he
      obtain ⟨raw, _, hy⟩ := policyYields_of_mem hread he
      rw [ha] at hy
      cases hy with
      | typedNull hp => exact ⟨_, apply_mono hle hp.1⟩
    · intro s name i ha he
      obtain ⟨raw, hmem, hy⟩ := policyYields_of_mem hread he
      rw [ha] at hy
      cases hy with
      | typedValue hn hp => exact hp.2 hle (hw.part (.additional ha)) (hmembers _ hmem)
    · intro name i ha he
      obtain ⟨raw, hmem, hy⟩ := policyYields_of_mem hread he
      rw [ha] at hy
      cases hy with
      | anyValue hn => exact ⟨raw, rfl, hn⟩

theorem runConforms_container {s : Schema} {raw : Json} {i : Instance}
    (h : Container (ConformingRun v room) s raw i) : RunConforms v (room + 1) s raw i := by
  cases h with
  | @list s least most raws items hsize hitems =>
    intro hroom hw hd
    cases hd with
    | array hd =>
      obtain ⟨hleast, hmost⟩ := checkSize_eq_ok.1 hsize
      rw [hitems.length_eq] at hleast hmost
      refine .list hleast hmost fun i hi => ?_
      obtain ⟨raw, hraw, hrun⟩ := Outcome.exists_of_mem_right hitems hi
      exact hrun.2 (by omega) (hw.part .items) (hd raw hraw)
  | @dict s members read hread =>
    intro hroom hw hd
    cases hd with
    | object hk hd =>
      refine .dict fun e he => ?_
      obtain ⟨m, hm, _, hrun⟩ := Outcome.exists_of_mem_right hread (List.mem_mergeSort.1 he)
      exact hrun.2 (by omega) (hw.part .values) (hd m hm)
  | object hreq hread => exact runConforms_object hreq hread

theorem runConforms_of_apply {v : Validator} {room : Nat} {s : Schema} {raw : Json} {i : Instance}
    (h : v.apply room s raw = .ok i) : RunConforms v room s raw i := by
  refine apply_induction (P := RunConforms v) ?_ ?_ ?_ ?_ h
  · intro room kind c raw i h
    exact runConforms_leaf h
  · intro room s raw i h
    exact runConforms_container h
  · intro room name s raw i hr ih hroom hw hd
    exact .ref hr (ih hroom (hw.resolve hr) hd)
  · intro room cs s raw i hc ih hroom hw hd
    have hmem := choose_mem hc
    exact .union hmem (ih hroom (hw.part (.candidate hmem)) hd)

/-- Every instance that validation makes conforms to its schema. -/
theorem validate_conforms {v : Validator} (s : v.registry.NamedSchema) (raw : Payload)
    {i : Instance} (h : v.validate s raw = .ok i) : Conforms v s i :=
  runConforms_of_apply h (Nat.le_refl _) s.2 raw.2

def treeSchema : Composite where
  name := ⟨"Tree", by decide⟩
  description := none
  fields :=
    [⟨"label", .primitive .string { Constraints.none with minLength := some 1 }, true, false,
        none⟩,
      ⟨"parts", .list (.ref ⟨"Tree", by decide⟩) none (some 2), false, false, none⟩]
  additional := .typed (.union [.leaf .integer, .leaf .null])

def treeValidator : Validator :=
  ⟨⟨[(treeSchema.name, .object treeSchema)], List.pairwise_singleton _ _⟩, 4⟩

def treePayload : Json :=
  .object
    [("rank", .number (.ofInt 7)), ("label", .string "a"),
      ("parts", .array [.object [("label", .string "b"), ("parts", .null), ("note", .null)]])]

def treeInstance : Instance :=
  .object ⟨treeSchema,
    [("label", .value (.string "a")),
      ("parts", .value (.list [.object ⟨treeSchema,
        [("label", .value (.string "b")), ("parts", .null), ("note", .null)]⟩])),
      ("rank", .value (.integer 7))]⟩

def treeText : String :=
  "\x7b\"rank\":7,\"label\":\"a\"," ++
    "\"parts\":[\x7b\"label\":\"b\",\"parts\":null,\"note\":null\x7d]\x7d"

theorem treePayload_distinctKeys : treePayload.DistinctKeys := by
  have h : Json.parse? treeText = some treePayload := by cbv
  exact Json.distinctKeys_of_parse? h

theorem treeInstance_conforms :
    treeValidator.registry.WellNamed (.ref treeSchema.name) ∧ treePayload.DistinctKeys ∧
      treeValidator.validate (.ref treeSchema.name) treePayload = .ok treeInstance ∧
      Conforms treeValidator (.ref treeSchema.name) treeInstance := by
  have hw : treeValidator.registry.WellNamed (.ref treeSchema.name) :=
    Registry.throughout_of_all (by decide) (by decide)
  have h : treeValidator.validate (.ref treeSchema.name) treePayload = .ok treeInstance := by cbv
  exact ⟨hw, treePayload_distinctKeys, h, validate_conforms ⟨_, hw⟩ ⟨_, treePayload_distinctKeys⟩ h⟩

def oneAtMost : Constraints :=
  { Constraints.none with maximum := some ⟨false, 1, 0, by decide⟩ }

def aboveOne : Binary64 := ⟨false, 4503599627370497, -52, by decide⟩

/-- The last digit of a float is rounded away before it is compared, so that a number above the
maximum passes. -/
theorem aboveOne_passes :
    aboveOne.toNumeral.text = "1.0000000000000002" ∧
      treeValidator.validate (.primitive .float oneAtMost) (.number aboveOne.toNumeral) =
        .ok (.float aboveOne) ∧
      ¬Constraints.Rule.maximum.Holds oneAtMost (.float aboveOne) := by
  refine ⟨by decide +kernel, ?_, fun h => ?_⟩
  · have hdecimal : Decimal.ofBinary64? aboveOne = some ⟨false, 1, 0, by decide⟩ := by
      decide +kernel
    have hcompare : (Instance.float aboveOne).compare? ⟨false, 1, 0, by decide⟩ = some .eq := by
      rw [Instance.compare?, hdecimal]
      rfl
    have hconvert : Kind.float.convert (.number aboveOne.toNumeral) = .value (.float aboveOne) := by
      rw [Kind.convert, Binary64.toBinary64?_toNumeral]
      rfl
    have hcheck : oneAtMost.check (.float aboveOne) = .ok () := by
      simp [Constraints.check, Constraints.checkLength, Constraints.checkPattern,
        Constraints.checkBounds, Constraints.checkBound, Constraints.checkAllowed, oneAtMost,
        Constraints.none, Instance.length?, hcompare, bind, Except.bind]
    exact Kind.coerce_eq_ok.2 ⟨hconvert, hcheck⟩
  · have hle := h _ rfl _ rfl
    norm_num [Binary64.toRat, Binary64.signed, aboveOne, Decimal.toRat, Decimal.signed] at hle

end Validator
end PayloadSchema
