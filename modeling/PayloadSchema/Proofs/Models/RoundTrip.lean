import PayloadSchema.Proofs.Models.Records
import PayloadSchema.Proofs.Validation.KeptChoice
import PayloadSchema.Proofs.Validation.Stability

/-!
The built-in schemas survive a round trip: a valid payload, written as JSON and validated again,
yields the same value. Their two unions keep their choice, and no leaf is a decimal number.
-/
namespace PayloadSchema
open Outcome

def Schema.isDecimal : Schema → Bool
  | .primitive .decimal _ => true
  | _ => false

namespace Validator
variable {v : Validator} {room : Nat}

def RunsWithoutDecimals (v : Validator) (_ : Nat) (s : Schema) (_ : Json) (i : Instance) : Prop :=
  v.registry.Throughout (fun t => t.isDecimal = false) s → ∀ d, ¬i.Contains (.decimal d)

theorem withoutDecimals_leaf {kind : Kind} {c : Constraints} {raw : Json} {i : Instance}
    (h : kind.coerce c raw = .ok i) : RunsWithoutDecimals v room (.primitive kind c) raw i := by
  intro hs d hd
  have hkind := (Kind.convert_eq_value (Kind.coerce_eq_ok.1 h).1).1
  cases hd with
  | self =>
    cases hkind
    cases hs.self
  | item | entry | field => cases hkind

theorem withoutDecimals_object {c : Composite} {members : Members}
    {read : List (String × Presence Instance)}
    (hread : List.Forall₂ (MemberYields (RunsWithoutDecimals v room) c) members read) :
    RunsWithoutDecimals v (room + 1) (.object c) (.object members)
      (.object ⟨c, arrange c read⟩) := by
  intro hs d hd
  cases hd with
  | field hi hd =>
    have hmem := mem_of_mem_presentEntries (List.mem_filter.2 ⟨hi, rfl⟩)
    obtain ⟨m, -, hm⟩ := exists_of_mem_right hread hmem
    cases hm with
    | declared hf hy =>
      cases hy with
      | value _ hp => exact hp (hs.field hf) d hd
    | additional _ hy =>
      generalize hpolicy : c.additional = policy at hy
      cases hy with
      | typedValue _ hp => exact hp (hs.part (.additional hpolicy)) d hd
      | anyValue => cases hd

theorem withoutDecimals_container {s : Schema} {raw : Json} {i : Instance}
    (h : Container (RunsWithoutDecimals v room) s raw i) :
    RunsWithoutDecimals v (room + 1) s raw i := by
  cases h with
  | list _ hitems =>
    intro hs d hd
    cases hd with
    | item hi hd =>
      obtain ⟨_, -, hp⟩ := exists_of_mem_right hitems hi
      exact hp (hs.part .items) d hd
  | dict hread =>
    intro hs d hd
    cases hd with
    | entry hi hd =>
      obtain ⟨_, -, -, hp⟩ := exists_of_mem_right hread (List.mem_mergeSort.1 hi)
      exact hp (hs.part .values) d hd
  | object _ hread => exact withoutDecimals_object hread

theorem decimalsReadBack_of_apply {s : Schema} {raw : Json} {i : Instance}
    (hs : v.registry.Throughout (fun t => t.isDecimal = false) s)
    (h : v.apply room s raw = .ok i) : i.DecimalsReadBack := by
  have hrun : RunsWithoutDecimals v room s raw i := by
    refine apply_induction (P := RunsWithoutDecimals v) ?leaf ?container ?ref ?union h
    case leaf => exact fun room kind c raw i h => withoutDecimals_leaf h
    case container =>
      exact fun room s raw i h => withoutDecimals_container (h.mono fun _ _ _ hp => hp.2)
    case ref => exact fun room name t raw i hr h hs => h (hs.resolve hr)
    case union => exact fun room cs t raw i hc h hs => h (hs.part (.candidate (choose_mem hc)))
  exact fun d hd => absurd hd (hrun hs d)

end Validator

namespace Models
variable {depth : Nat}

/-- The unions of the built-in schemas: a text or a number, and a type of attributes in full or by
its name. Other schemas are none. -/
def isKnownUnion : Schema → Bool
  | .union [.primitive .string _, .primitive .integer _] => true
  | .union [.ref name, .primitive .string _] => name == attributeTypeName
  | .union _ => false
  | _ => true

/-- An integer is written as a number, which is no text. -/
theorem keepsChoice_version (c d : Constraints) :
    (validator depth).KeepsChoice (.union [.primitive .string c, .primitive .integer d]) := by
  have hlate : [(Kind.string, c), (Kind.integer, d)].Pairwise
      fun a b => ∀ raw, a.1.mayTakeOver b.1 raw = false := by
    simp [Kind.mayTakeOver]
  exact Validator.keepsChoice_primitives hlate

/-- An object is written as an object and a text as a text. -/
theorem keepsChoice_attributeType (c : Constraints) :
    (validator depth).KeepsChoice (.union [.ref attributeTypeName, .primitive .string c]) := by
  have hhead : (Schema.object attributeTypeNameSchema).IsHead := trivial
  have hmem : attributeTypeNameSchema ∈ composites := by simp [composites]
  have hresolve := resolve_ref hhead (get?_composite hmem)
  refine Validator.keepsChoice_of_form fun t ht => ?_
  rcases List.mem_pair.1 ht with rfl | rfl
  · exact .ref hresolve .object
  · exact .leaf rfl

theorem keepsChoice_of_isKnownUnion {s : Schema} (h : isKnownUnion s = true) :
    (validator depth).KeepsChoice s := by
  unfold isKnownUnion at h
  split at h
  · exact keepsChoice_version _ _
  · obtain rfl := beq_iff_eq.1 h
    exact keepsChoice_attributeType _
  · cases h
  · rename_i hnot
    exact fun cs hcs => absurd hcs (hnot cs)

theorem throughout_of_entries {test : Schema → Bool} {name : String} {s : Schema}
    (h : ∀ e ∈ entries, e.2.all test = true) (hget : registry.get? name = some s) :
    registry.Throughout (fun t => test t = true) s := by
  have hall : ∀ e ∈ registry.entries, e.2.all test = true :=
    fun e he => h e ((registerAll_entries.2 e).1 he)
  obtain ⟨e, he, -, rfl⟩ := Registry.mem_of_get? hget
  exact Registry.throughout_of_all (hall e he) hall

/-- What a built-in schema makes of a payload, it makes again of the JSON form. -/
theorem validateNamed_encode {name : String} {raw : Json} {i : Instance}
    (h : (validator depth).validateNamed name raw = .ok i) :
    (validator depth).validateNamed name i.encode = .ok i := by
  unfold Validator.validateNamed at h ⊢
  cases hget : registry.get? name with
  | none => simp [hget] at h
  | some s =>
    simp only [hget] at h ⊢
    have hunions : registry.Throughout (validator depth).KeepsChoice s := fun t ht =>
      keepsChoice_of_isKnownUnion (throughout_of_entries (by decide) hget t ht)
    have hplain : registry.Throughout (fun t => (!t.isDecimal) = true) s :=
      throughout_of_entries (by decide) hget
    have hdecimals : registry.Throughout (fun t => t.isDecimal = false) s :=
      fun t ht => by simpa using hplain t ht
    exact Validator.apply_encode hunions (Validator.decimalsReadBack_of_apply hdecimals h) h

def catalogComposites : List Composite :=
  [attributeTypeNameSchema, catalogSchema, columnSchema, columnAttributeSchema, engineSchema]

def catalogRegistry : Registry where
  entries := catalogComposites.map fun c => (c.name, .object c)
  sorted := by decide

theorem extends_catalogRegistry : registry.Extends catalogRegistry := by
  have hsubset : catalogComposites ⊆ composites := by simp [catalogComposites, composites]
  intro name s hget
  obtain ⟨e, he, rfl, rfl⟩ := Registry.mem_of_get? hget
  obtain ⟨c, hc, rfl⟩ := List.mem_map.1 he
  exact get?_composite (hsubset hc)

/-- What these composites make of a payload, the whole registry makes of it. -/
theorem validateNamed_of_catalogRegistry {name : String} {raw : Json} {i : Instance}
    (h : Validator.validateNamed ⟨catalogRegistry, depth⟩ name raw = .ok i) :
    (validator depth).validateNamed name raw = .ok i := by
  unfold Validator.validateNamed at h ⊢
  cases hget : catalogRegistry.get? name with
  | none => simp [hget] at h
  | some s =>
    simp only [hget] at h
    simp only [extends_catalogRegistry name s hget]
    have hresolve (t : Schema) : Validator.ResolveAgree Cause.IsUnresolved
        ⟨catalogRegistry, depth⟩ (validator depth) t :=
      Registry.resolveFrom_agrees extends_catalogRegistry _ _ _
    exact (Validator.apply_agrees (fun t _ => hresolve t) (.even (by rfl) depth)).of_ok h

def catalogPayload : Json :=
  .object
    [("owner", .object [("team", .null)]), ("name", .string "lake"),
      ("engines", .array
        [.object [("name", .string "spark"), ("version", .string "3"), ("uri", .null)],
          .object [("version", .number (.ofInt 3)), ("name", .string "trino")]])]

def catalogInstance : Instance :=
  .object ⟨catalogSchema,
    [("name", .value (.string "lake")),
      ("engines", .value (.list
        [.object ⟨engineSchema,
            [("name", .value (.string "spark")), ("version", .value (.string "3")),
              ("uri", .null), ("dialect", .unset)]⟩,
          .object ⟨engineSchema,
            [("name", .value (.string "trino")), ("version", .value (.integer 3)),
              ("uri", .unset), ("dialect", .unset)]⟩])),
      ("owner", .value (.any (.object [("team", .null)])))]⟩

def columnPayload : Json :=
  .object
    [("attributes", .array
        [.object [("attribute_type", .string "dimension")],
          .object [("attribute_type",
            .object [("name", .string "key"), ("namespace", .string "system")])]]),
      ("id", .string " 7 "), ("type", .string "int"), ("name", .string "a")]

def columnInstance : Instance :=
  .object ⟨columnSchema,
    [("name", .value (.string "a")), ("type", .value (.string "int")), ("id", .value (.integer 7)),
      ("dimension_id", .unset), ("dimension_column", .unset),
      ("attributes", .value (.list
        [.object ⟨columnAttributeSchema, [("attribute_type", .value (.string "dimension"))]⟩,
          .object ⟨columnAttributeSchema,
            [("attribute_type", .value (.object ⟨attributeTypeNameSchema,
              [("namespace", .value (.string "system")), ("name", .value (.string "key"))]⟩))]⟩]))]⟩

/-- Versions as text and as a number, attributes in full and by name. -/
theorem catalogInstance_encode :
    (validator 5).validateNamed "Catalog" catalogPayload = .ok catalogInstance ∧
      (validator 5).validateNamed "Catalog" catalogInstance.encode = .ok catalogInstance ∧
      (validator 5).validateNamed "Column" columnPayload = .ok columnInstance ∧
      (validator 5).validateNamed "Column" columnInstance.encode = .ok columnInstance := by
  have hcatalog : (validator 5).validateNamed "Catalog" catalogPayload = .ok catalogInstance :=
    validateNamed_of_catalogRegistry (by cbv)
  have hcolumn : (validator 5).validateNamed "Column" columnPayload = .ok columnInstance :=
    validateNamed_of_catalogRegistry (by cbv)
  exact ⟨hcatalog, validateNamed_encode hcatalog, hcolumn, validateNamed_encode hcolumn⟩

end Models
end PayloadSchema
