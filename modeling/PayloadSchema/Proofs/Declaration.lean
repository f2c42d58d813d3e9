import PayloadSchema.Declaration.Schema
import PayloadSchema.Proofs.Validation.Reach

/-!
What comes of reading a declaration. A schema that is read has distinct field names at every level,
since all its composites are built. A failure is never that a name is taken, since no registry is
looked at.
-/
namespace PayloadSchema
open Outcome

/-- A result with some property, or a failure other than that a name is taken. -/
inductive Delivers {α : Type} (P : α → Prop) : Except SchemaError α → Prop
  | ok {a : α} (h : P a) : Delivers P (.ok a)
  | error {e : SchemaError} (h : ∀ name, e ≠ .duplicate name) : Delivers P (.error e)

namespace Delivers
variable {α β : Type} {P : α → Prop} {Q : β → Prop} {x : Except SchemaError α}

theorem bind {f : α → Except SchemaError β} (hx : Delivers P x)
    (hf : ∀ a, P a → Delivers Q (f a)) : Delivers Q (x >>= f) := by
  cases hx with
  | ok h => exact hf _ h
  | error h => exact .error h

theorem map {f : α → β} (hx : Delivers P x) (hf : ∀ a, P a → Q (f a)) : Delivers Q (x.map f) := by
  cases hx with
  | ok h => exact .ok (hf _ h)
  | error h => exact .error h

theorem mono {R : α → Prop} (hx : Delivers P x) (h : ∀ a, P a → R a) : Delivers R x := by
  cases hx with
  | ok ha => exact .ok (h _ ha)
  | error he => exact .error he

theorem mapM {f : α → Except SchemaError β} {xs : List α} (hf : ∀ a, Delivers Q (f a)) :
    Delivers (fun ys => ∀ y ∈ ys, Q y) (xs.mapM f) := by
  induction xs with
  | nil => exact .ok (by simp)
  | cons a xs ih =>
    rw [List.mapM_cons]
    refine (hf a).bind fun y hy => ih.bind fun ys hys => .ok ?_
    exact List.forall_mem_cons.2 ⟨hy, hys⟩

theorem result {a : α} (h : Delivers P (.ok a)) : P a := by
  cases h with
  | ok h => exact h

theorem ne_duplicate {name : String} (h : Delivers P x) : x ≠ .error (.duplicate name) := by
  rintro rfl
  cases h with
  | error h => exact h name rfl

end Delivers

theorem SchemaName.delivers_make (text : String) :
    Delivers (fun _ => True) (SchemaName.make text) := by
  unfold make
  split
  · exact .ok trivial
  · exact .error (by simp)

theorem Composite.delivers_build (name : String) (description : Option String)
    (fields : List Field) (additional : Policy) :
    Delivers (fun c => c.fields = fields ∧ c.additional = additional ∧
      fieldFault? [] c.fields = none) (Composite.build name description fields additional) := by
  refine (SchemaName.delivers_make name).bind fun name _ => ?_
  split
  · exact .error (by simp)
  · rename_i hfault
    exact .ok ⟨rfl, rfl, hfault⟩

namespace Declaration

theorem isNamed_union {ss : List Schema} (h : ∀ s ∈ ss, s.IsNamed) : (Schema.union ss).IsNamed := by
  refine Schema.all_of_parts rfl fun t ht => ?_
  cases ht with
  | candidate ht => exact h t ht

theorem Facets.delivers_bound (n : Option Numeral) (owner : SchemaName) :
    Delivers (fun _ => True) (Facets.bound n owner) := by
  unfold bound
  split
  · exact .ok trivial
  · split
    · exact .ok trivial
    · exact .error (by simp)

theorem Facets.delivers_patternOf (source : Option String) :
    Delivers (fun _ => True) (Facets.patternOf source) := by
  unfold patternOf
  split
  · exact .ok trivial
  · split
    · exact .ok trivial
    · exact .error (by simp)

theorem Facets.delivers_constraints (f : Facets) (owner : SchemaName) :
    Delivers (fun _ => True) (f.constraints owner) := by
  refine (delivers_patternOf _).bind fun _ _ => ?_
  refine (delivers_bound _ owner).bind fun _ _ => ?_
  refine (delivers_bound _ owner).bind fun _ _ => ?_
  refine (delivers_bound _ owner).bind fun _ _ => ?_
  exact (delivers_bound _ owner).bind fun _ _ => .ok trivial

section
variable {items values : Except SchemaError Schema} (hitems : Delivers Schema.IsNamed items)
  (hvalues : Delivers Schema.IsNamed values)
include hitems hvalues

theorem Facets.delivers_single (f : Facets) (hint : SchemaName) (type : String) :
    Delivers Schema.IsNamed (f.single hint items values type) := by
  unfold single
  split
  · refine hitems.map fun s hs => Schema.all_of_parts rfl fun t ht => ?_
    cases ht
    exact hs
  · split
    · refine hvalues.map fun s hs => Schema.all_of_parts rfl fun t ht => ?_
      cases ht
      exact hs
    · split
      · exact (f.delivers_constraints hint).map fun _ _ => rfl
      · exact .error (by simp)

theorem Facets.delivers_assemble (f : Facets) (hint : SchemaName) :
    Delivers Schema.IsNamed (f.assemble hint items values) := by
  have hsingle := f.delivers_single hitems hvalues hint
  unfold assemble
  split
  · exact .ok rfl
  · split
    · exact .ok rfl
    · exact hsingle _
    · exact (Delivers.mapM hsingle).map fun ss hss => isNamed_union hss

end

theorem delivers_assembleComposite (d : Declaration) (name : SchemaName)
    {fields : Except SchemaError (List Field)} {additional : Except SchemaError Policy}
    (hfields : Delivers (fun fs => ∀ f ∈ fs, f.schema.IsNamed) fields)
    (hadditional : Delivers (fun p => ∀ s, p = .typed s → s.IsNamed) additional) :
    Delivers (fun c => (Schema.object c).IsNamed) (d.assembleComposite name fields additional) := by
  unfold assembleComposite
  dsimp only
  split
  · exact .error (by simp)
  · refine hfields.bind fun fs hfs => hadditional.bind fun p hp => ?_
    refine (Composite.delivers_build _ _ fs p).mono ?_
    rintro c ⟨rfl, rfl, hfault⟩
    refine Schema.all_of_parts (by rw [Schema.isWellNamed, hfault]; rfl) fun t ht => ?_
    cases ht with
    | field hf => exact hfs _ hf
    | additional ha => exact hp t ha

/-- One level of a declaration, given its parts. -/
theorem delivers_level {hint : SchemaName} {facets : Facets} {anyOf : Option (List Declaration)}
    {items : Option Declaration} {properties : Option (List (String × Declaration))}
    {additional : Option AdditionalProperties}
    (halternatives : ∀ ds, anyOf = some ds →
      Delivers (fun ss => ∀ s ∈ ss, s.IsNamed) (toSchemas hint ds))
    (hitems : Delivers Schema.IsNamed (optionalSchema hint items))
    (hfields : Delivers (fun fs => ∀ f ∈ fs, f.schema.IsNamed)
      (tableFields hint facets.required properties))
    (hpolicy : Delivers (fun p => ∀ s, p = .typed s → s.IsNamed) (policy hint additional))
    (hvalues : Delivers Schema.IsNamed (dictValues hint additional)) :
    Delivers Schema.IsNamed (toSchema hint ⟨facets, anyOf, items, properties, additional⟩) := by
  unfold toSchema
  split
  · exact (SchemaName.delivers_make _).map fun _ _ => rfl
  · split
    · exact (halternatives _ rfl).map fun ss hss => isNamed_union hss
    · dsimp only
      split
      · exact (delivers_assembleComposite _ hint hfields hpolicy).map fun _ hc => hc
      · exact facets.delivers_assemble hitems hvalues hint

mutual

theorem delivers_toSchema (hint : SchemaName) :
    (d : Declaration) → Delivers Schema.IsNamed (toSchema hint d)
  | ⟨facets, anyOf, items, properties, additional⟩ =>
    delivers_level (delivers_alternatives hint anyOf)
      (delivers_optionalSchema hint items)
      (delivers_tableFields hint facets.required properties)
      (delivers_policy hint additional) (delivers_dictValues hint additional)

theorem delivers_alternatives (hint : SchemaName) :
    (anyOf : Option (List Declaration)) → ∀ ds, anyOf = some ds →
      Delivers (fun ss => ∀ s ∈ ss, s.IsNamed) (toSchemas hint ds)
  | none => fun _ h => by cases h
  | some ds => fun _ h => Option.some.inj h ▸ delivers_toSchemas hint ds

theorem delivers_toSchemas (hint : SchemaName) :
    (ds : List Declaration) → Delivers (fun ss => ∀ s ∈ ss, s.IsNamed) (toSchemas hint ds)
  | [] => .ok (by simp)
  | d :: rest =>
    (delivers_toSchema hint d).bind fun _ hs =>
      (delivers_toSchemas hint rest).bind fun _ hss => .ok (List.forall_mem_cons.2 ⟨hs, hss⟩)

theorem delivers_optionalSchema (hint : SchemaName) :
    (d : Option Declaration) → Delivers Schema.IsNamed (optionalSchema hint d)
  | none => .ok rfl
  | some d => delivers_toSchema hint d

theorem delivers_dictValues (hint : SchemaName) :
    (a : Option AdditionalProperties) → Delivers Schema.IsNamed (dictValues hint a)
  | some (.declared d) => delivers_toSchema hint d
  | some (.flag _) => .ok rfl
  | none => .ok rfl

theorem delivers_policy (hint : SchemaName) :
    (a : Option AdditionalProperties) →
      Delivers (fun p => ∀ s, p = .typed s → s.IsNamed) (policy hint a)
  | none => .ok (by simp)
  | some (.flag true) => .ok (by simp)
  | some (.flag false) => .ok (by simp)
  | some (.declared d) =>
    (delivers_toSchema (fieldHint hint "additional") d).map fun _ hs _ h => Policy.typed.inj h ▸ hs

theorem delivers_tableFields (hint : SchemaName) (required : List String) :
    (table : Option (List (String × Declaration))) →
      Delivers (fun fs => ∀ f ∈ fs, f.schema.IsNamed) (tableFields hint required table)
  | none => .ok (by simp)
  | some table => delivers_toFields hint required table

theorem delivers_toFields (hint : SchemaName) (required : List String) :
    (table : List (String × Declaration)) →
      Delivers (fun fs => ∀ f ∈ fs, f.schema.IsNamed) (toFields hint required table)
  | [] => .ok (by simp)
  | (name, d) :: rest =>
    (delivers_toSchema (fieldHint hint name) d).bind fun _ hs =>
      (delivers_toFields hint required rest).bind fun _ hfs =>
        .ok (List.forall_mem_cons.2 ⟨hs, hfs⟩)

end

theorem delivers_toEntry (d : Declaration) : Delivers (fun e => e.2.IsNamed) d.toEntry := by
  unfold toEntry
  split
  · exact .error (by simp)
  · refine (SchemaName.delivers_make _).bind fun name _ => ?_
    split
    · refine Delivers.bind ?_ fun _ hc => .ok hc
      exact delivers_assembleComposite _ name (delivers_tableFields name _ _)
        (delivers_policy name _)
    · exact (delivers_toSchema name d).bind fun _ hs => .ok hs

/-- A document declares schemas with distinct field names, or it cannot be read for another reason
than a name that is taken. -/
theorem delivers_parse (document : Json) (source : String) :
    Delivers (fun es => ∀ e ∈ es, e.2.IsNamed) (parse document source) := by
  unfold parse
  split
  · exact .mapM delivers_toEntry
  · exact .error (by simp)

end Declaration
end PayloadSchema
