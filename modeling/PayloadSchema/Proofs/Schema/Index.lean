import Mathlib
import PayloadSchema.Schema.Index
import PayloadSchema.Proofs.Declaration.Composites
import PayloadSchema.Proofs.Validation.Object

/-!
The index of a composite. One pass over the fields makes it, or stops at the first field that has no
name or the name of a field before it. The index that results has the place of every name and of no
other one.
-/
namespace PayloadSchema
open Outcome

namespace SchemaName

/-- A letter or an underscore, and then letters, digits, underscores, dots and hyphens. -/
def IsName (text : String) : Prop :=
  ∃ c rest, text.toList = c :: rest ∧ isStart c = true ∧ ∀ d ∈ rest, isRest d = true

theorem fault?_eq_none_iff {text : String} : fault? text.toList = none ↔ IsName text := by
  rw [IsName]
  cases text.toList with
  | nil => simp [fault?]
  | cons c rest =>
    rw [fault?]
    cases hstart : isStart c with
    | false => simp [hstart]
    | true =>
      cases hfind : rest.find? fun d => !isRest d with
      | none => simpa [hstart] using List.find?_eq_none.1 hfind
      | some d =>
        have hmem := List.mem_of_find?_eq_some hfind
        have hrest : isRest d = false := by simpa using List.find?_some hfind
        simp only [Bool.not_true, Bool.false_eq_true, if_false, reduceCtorEq, false_iff]
        rintro ⟨_, _, h, -, hall⟩
        cases h
        cases hrest.symm.trans (hall d hmem)

theorem make_eq_error {text : String} {e : SchemaError} :
    make text = .error e ↔
      ∃ reason, fault? text.toList = some reason ∧ e = .invalidName text reason := by
  rw [make]
  split
  · rename_i hnone
    simp [hnone]
  · rename_i reason hsome
    simp [hsome, eq_comm]

theorem exists_make_eq_ok {text : String} : (∃ name, make text = .ok name) ↔ IsName text := by
  rw [← fault?_eq_none_iff]
  constructor
  · rintro ⟨name, h⟩
    rw [← text_of_make h]
    exact name.valid
  · exact fun h => ⟨⟨text, h⟩, make_text ⟨text, h⟩⟩

end SchemaName

namespace Draft

theorem fields_after (d : Draft) (call : Call) :
    (d.after call).fields = d.fields ++ call.field?.toList := by
  cases call <;> simp [after, Call.field?]

theorem name_after (d : Draft) (call : Call) : (d.after call).name = d.name := by
  cases call <;> rfl

def declared (calls : List Call) : List Field := calls.filterMap Call.field?

theorem fields_ofCalls (name : String) (calls : List Call) :
    (ofCalls name calls).fields = declared calls := by
  have hrun : ∀ d : Draft, (calls.foldl after d).fields = d.fields ++ declared calls := by
    induction calls with
    | nil => simp [declared]
    | cons call calls ih =>
      intro d
      rw [List.foldl_cons, ih, fields_after, List.append_assoc]
      cases hcall : call.field? <;> simp [declared, hcall]
  exact hrun (start name)

theorem name_ofCalls (name : String) (calls : List Call) : (ofCalls name calls).name = name := by
  have hrun : ∀ d : Draft, (calls.foldl after d).name = d.name := by
    induction calls with
    | nil => exact fun _ => rfl
    | cons call calls ih => exact fun d => (ih (d.after call)).trans (name_after d call)
  exact hrun (start name)

end Draft

/-- What is wrong with the field at a place: it has no name, or that of a field before it. -/
inductive Defect (fields : List Field) (place : Nat) : String → Prop
  | unnamed {f : Field} (hf : fields[place]? = some f) (hname : f.name = "") :
      Defect fields place ("field #" ++ natText place ++ " has an empty name")
  | repeated {f g : Field} {earlier : Nat} (hf : fields[place]? = some f) (hname : f.name ≠ "")
      (hlt : earlier < place) (hg : fields[earlier]? = some g) (hsame : g.name = f.name) :
      Defect fields place ("field '" ++ f.name ++ "' is declared twice")

def FirstDefect (fields : List Field) (reason : String) : Prop :=
  ∃ place, Defect fields place reason ∧ ∀ earlier < place, ∀ r, ¬Defect fields earlier r

theorem Defect.unique {fields : List Field} {place : Nat} {r s : String}
    (hr : Defect fields place r) (hs : Defect fields place s) : r = s := by
  cases hr with
  | unnamed hf hname =>
    cases hs with
    | unnamed => rfl
    | repeated hg hne =>
      cases hf.symm.trans hg
      exact absurd hname hne
  | repeated hf hne =>
    cases hs with
    | unnamed hg hname =>
      cases hf.symm.trans hg
      exact absurd hname hne
    | repeated hg =>
      cases hf.symm.trans hg
      rfl

theorem FirstDefect.unique {fields : List Field} {r s : String} (hr : FirstDefect fields r)
    (hs : FirstDefect fields s) : r = s := by
  obtain ⟨i, hi, hbefore⟩ := hr
  obtain ⟨j, hj, hbefore'⟩ := hs
  rcases lt_trichotomy i j with hlt | rfl | hlt
  · exact absurd hi (hbefore' i hlt r)
  · exact hi.unique hj
  · exact absurd hj (hbefore j hlt s)

def DistinctlyNamed (fields : List Field) : Prop :=
  (∀ f ∈ fields, f.name ≠ "") ∧ (fields.map (·.name)).Nodup

theorem DistinctlyNamed.place_unique {fields : List Field} (h : DistinctlyNamed fields) {i j : Nat}
    {name : String} (hi : fields[i]?.map (·.name) = some name)
    (hj : fields[j]?.map (·.name) = some name) : i = j := by
  rw [← List.getElem?_map] at hi hj
  have hlt := (List.getElem?_eq_some_iff.1 hi).1
  exact (List.getElem?_inj hlt h.2).1 (hi.trans hj.symm)

/-- The fields up to a place decide whether something is wrong there. -/
theorem DistinctlyNamed.not_defect {before rest : List Field} (h : DistinctlyNamed before)
    {place : Nat} (hlt : place < before.length) {r : String} :
    ¬Defect (before ++ rest) place r := by
  intro hd
  cases hd with
  | unnamed hf hname =>
    rw [List.getElem?_append_left hlt] at hf
    exact h.1 _ (List.mem_of_getElem? hf) hname
  | @repeated f g earlier hf _ hearlier hg hsame =>
    rw [List.getElem?_append_left hlt] at hf
    rw [List.getElem?_append_left (hearlier.trans hlt)] at hg
    have hplaces : earlier = place := h.place_unique (by rw [hg, Option.map_some, hsame])
      (by rw [hf, Option.map_some])
    exact hearlier.ne hplaces

theorem FirstDefect.not_distinct {fields : List Field} {reason : String}
    (h : FirstDefect fields reason) : ¬DistinctlyNamed fields := by
  obtain ⟨place, hd, -⟩ := h
  intro hdistinct
  have hlt : place < fields.length := by
    cases hd with
    | unnamed hf | repeated hf => exact (List.getElem?_eq_some_iff.1 hf).1
  have hnone : ¬Defect (fields ++ []) place reason := hdistinct.not_defect hlt
  exact hnone (by simpa using hd)

namespace Index

structure Indexes (index : Index) (fields : List Field) : Prop where
  distinct : DistinctlyNamed fields
  place (name : String) (i : Nat) :
    index.places.lookup name = some i ↔ fields[i]?.map (·.name) = some name
  required : index.required.Perm (Field.requiredNames fields)
  ordered : index.required.Pairwise (· ≤ ·)

theorem indexes_empty : empty.Indexes [] where
  distinct := ⟨by simp, by simp⟩
  place name i := by simp [empty]
  required := .refl _
  ordered := .nil

theorem insertName_perm {name : String} {names : List String} (h : name ∉ names) :
    (insertName name names).Perm (name :: names) := by
  induction names with
  | nil => exact .refl _
  | cons other rest ih =>
    rw [List.mem_cons, not_or] at h
    rw [insertName, if_neg h.1]
    split
    · exact .refl _
    · exact ((ih h.2).cons other).trans (.swap ..)

theorem insertName_ordered {name : String} {names : List String} (hnew : name ∉ names)
    (h : names.Pairwise (· ≤ ·)) : (insertName name names).Pairwise (· ≤ ·) := by
  induction names with
  | nil => simp [insertName]
  | cons other rest ih =>
    rw [List.mem_cons, not_or] at hnew
    obtain ⟨hother, hrest⟩ := List.pairwise_cons.1 h
    rw [insertName, if_neg hnew.1]
    split
    · rename_i hle
      exact List.pairwise_cons.2
        ⟨List.forall_mem_cons.2 ⟨hle, fun x hx => hle.trans (hother x hx)⟩, h⟩
    · rename_i hle
      refine List.pairwise_cons.2 ⟨fun x hx => ?_, ih hnew.2 hrest⟩
      rcases List.mem_cons.1 ((insertName_perm hnew.2).mem_iff.1 hx) with rfl | hx
      · exact (String.le_total _ _).resolve_left hle
      · exact hother x hx

theorem name_append {before : List Field} {f : Field} {name : String} {i : Nat} :
    (before ++ [f])[i]?.map (·.name) = some name ↔
      before[i]?.map (·.name) = some name ∨ i = before.length ∧ f.name = name := by
  rcases lt_trichotomy i before.length with hlt | rfl | hlt
  · rw [List.getElem?_append_left hlt]
    simp [hlt.ne]
  · simp
  · simp [List.getElem?_append_right hlt.le, hlt.ne', hlt.le,
      show i - before.length ≠ 0 by omega]

theorem requiredNames_append (before : List Field) (f : Field) :
    Field.requiredNames (before ++ [f]) =
      Field.requiredNames before ++ if f.required then [f.name] else [] := by
  cases hf : f.required <;> simp [Field.requiredNames, hf]

theorem requiredNames_subset (fields : List Field) :
    Field.requiredNames fields ⊆ fields.map (·.name) :=
  List.map_subset _ (List.filter_subset_self _)

namespace Indexes
variable {index : Index} {before : List Field} {f : Field}

theorem taken_iff (h : index.Indexes before) (name : String) :
    (index.places.lookup name).isSome = true ↔ name ∈ before.map (·.name) := by
  rw [Option.isSome_iff_exists, List.mem_iff_getElem?]
  exact exists_congr fun i => by rw [h.place, List.getElem?_map]

theorem not_mem_required (h : index.Indexes before) (hnew : f.name ∉ before.map (·.name)) :
    f.name ∉ index.required :=
  fun hmem => hnew (requiredNames_subset _ (h.required.mem_iff.1 hmem))

theorem place_add (h : index.Indexes before) (hnew : f.name ∉ before.map (·.name)) (name : String)
    (i : Nat) : ((f.name, before.length) :: index.places).lookup name = some i ↔
      (before ++ [f])[i]?.map (·.name) = some name := by
  rw [name_append, ← h.place, List.lookup_cons]
  by_cases hsame : name = f.name
  · subst hsame
    have hnone : index.places.lookup f.name = none :=
      Option.not_isSome_iff_eq_none.1 (mt (h.taken_iff _).1 hnew)
    simp [hnone, eq_comm]
  · simp [beq_eq_false_iff_ne.2 hsame, Ne.symm hsame]

theorem required_add (h : index.Indexes before) (hnew : f.name ∉ before.map (·.name)) :
    (if f.required then insertName f.name index.required else index.required).Perm
      (Field.requiredNames (before ++ [f])) := by
  rw [requiredNames_append]
  cases f.required with
  | false => simpa using h.required
  | true =>
    have hinsert := insertName_perm (h.not_mem_required hnew)
    exact hinsert.trans ((h.required.cons _).trans (List.perm_append_singleton ..).symm)

/-- One step of the pass: a field with a name of its own is entered at the next place. -/
theorem add (h : index.Indexes before) (hname : f.name ≠ "")
    (hnew : f.name ∉ before.map (·.name)) :
    ∃ next, index.add before.length f = .ok next ∧ next.Indexes (before ++ [f]) := by
  have hempty : ¬f.name.isEmpty = true := by simpa [String.isEmpty_iff] using hname
  have htaken : ¬(index.places.lookup f.name).isSome = true := mt (h.taken_iff _).1 hnew
  refine ⟨_, by rw [Index.add, if_neg hempty, if_neg htaken], ?_⟩
  constructor
  · refine ⟨List.forall_mem_append.2 ⟨h.distinct.1, by simpa using hname⟩, ?_⟩
    rw [List.map_append, List.nodup_append_comm]
    exact List.nodup_cons.2 ⟨hnew, h.distinct.2⟩
  · exact h.place_add hnew
  · exact h.required_add hnew
  · dsimp only
    split
    · exact insertName_ordered (h.not_mem_required hnew) h.ordered
    · exact h.ordered

/-- Any other field is refused, and it is the first one that something is wrong with. -/
theorem add_refused (h : index.Indexes before) (rest : List Field)
    (hbad : f.name = "" ∨ f.name ∈ before.map (·.name)) :
    ∃ reason, index.add before.length f = .error reason ∧
      FirstDefect (before ++ f :: rest) reason := by
  have hf : (before ++ f :: rest)[before.length]? = some f := by simp
  have hpassed : ∀ earlier < before.length, ∀ r, ¬Defect (before ++ f :: rest) earlier r :=
    fun earlier hlt r => h.distinct.not_defect hlt
  by_cases hname : f.name = ""
  · exact ⟨_, if_pos (by simp [hname]), before.length, .unnamed hf hname, hpassed⟩
  · have hempty : ¬f.name.isEmpty = true := by simpa [String.isEmpty_iff] using hname
    have hmem := hbad.resolve_left hname
    obtain ⟨g, hg, hsame⟩ := List.mem_map.1 hmem
    obtain ⟨earlier, hlt, rfl⟩ := List.mem_iff_getElem.1 hg
    refine ⟨_, by rw [Index.add, if_neg hempty, if_pos ((h.taken_iff _).2 hmem)],
      before.length, .repeated hf hname hlt ?_ hsame, hpassed⟩
    rw [List.getElem?_append_left hlt, List.getElem?_eq_getElem hlt]

/-- The whole pass, from a place on: it enters all fields or reports the first defect. -/
theorem addAll (h : index.Indexes before) (rest : List Field) :
    (∃ done, index.addAll before.length rest = .ok done ∧ done.Indexes (before ++ rest)) ∨
      ∃ reason, index.addAll before.length rest = .error reason ∧
        FirstDefect (before ++ rest) reason := by
  -- the induction is on the fields that are left; that the index is one of those before is kept
  induction rest generalizing index before with
  | nil => exact .inl ⟨index, rfl, by simpa using h⟩
  | cons f rest ih =>
    by_cases hbad : f.name = "" ∨ f.name ∈ before.map (·.name)
    · obtain ⟨reason, hadd, hfirst⟩ := h.add_refused rest hbad
      exact .inr ⟨reason, by rw [Index.addAll, hadd]; rfl, hfirst⟩
    · rw [not_or] at hbad
      obtain ⟨next, hadd, hnext⟩ := h.add hbad.1 hbad.2
      have hrest := ih hnext
      rw [List.length_append, List.append_assoc] at hrest
      rw [Index.addAll, hadd]
      exact hrest

end Indexes

/-- The pass over a whole list. -/
theorem addAll_cases (fields : List Field) :
    (∃ index, empty.addAll 0 fields = .ok index ∧ index.Indexes fields) ∨
      ∃ reason, empty.addAll 0 fields = .error reason ∧ FirstDefect fields reason :=
  indexes_empty.addAll fields

theorem indexes_of_addAll {fields : List Field} {index : Index}
    (h : empty.addAll 0 fields = .ok index) : index.Indexes fields := by
  rcases addAll_cases fields with ⟨done, hdone, hindexes⟩ | ⟨reason, hreason, -⟩
  · cases h.symm.trans hdone
    exact hindexes
  · cases h.symm.trans hreason

theorem Indexes.required_eq {index : Index} {fields : List Field} (h : index.Indexes fields) :
    index.required = (Field.requiredNames fields).mergeSort fun a b => decide (a ≤ b) :=
  List.Perm.eq_of_pairwise' h.ordered (List.pairwise_mergeSort' (· ≤ ·) _)
    (h.required.trans (List.mergeSort_perm ..).symm)

theorem Indexes.mem_required {index : Index} {fields : List Field} (h : index.Indexes fields)
    (name : String) :
    name ∈ index.required ↔ ∃ f ∈ fields, f.required = true ∧ f.name = name := by
  rw [h.required.mem_iff, Field.requiredNames]
  simp [and_assoc]

theorem exists_addAll_eq_ok {fields : List Field} :
    (∃ index, empty.addAll 0 fields = .ok index) ↔ DistinctlyNamed fields := by
  constructor
  · rintro ⟨index, h⟩
    exact (indexes_of_addAll h).distinct
  · intro hdistinct
    rcases addAll_cases fields with ⟨index, h, -⟩ | ⟨reason, -, hfirst⟩
    · exact ⟨index, h⟩
    · exact absurd hdistinct hfirst.not_distinct

theorem addAll_eq_error {fields : List Field} {reason : String} :
    empty.addAll 0 fields = .error reason ↔ FirstDefect fields reason := by
  rcases addAll_cases fields with ⟨index, h, hindexes⟩ | ⟨r, h, hfirst⟩
  · rw [h]
    exact iff_of_false (by simp) fun hfirst => hfirst.not_distinct hindexes.distinct
  · rw [h, Except.error.injEq]
    exact ⟨fun heq => heq ▸ hfirst, hfirst.unique⟩

/-- A search for faults alone stops at the same field. -/
theorem Indexes.fieldFault?_eq_some {index : Index} {before rest : List Field} {reason : String}
    (h : index.Indexes before) :
    Composite.fieldFault? (before.map (·.name)) rest = some reason ↔
      index.addAll before.length rest = .error reason := by
  induction rest generalizing index before with
  | nil => simp [Composite.fieldFault?, Index.addAll]
  | cons f rest ih =>
    rw [Composite.fieldFault?, Index.addAll]
    by_cases hempty : f.name.isEmpty = true
    · rw [if_pos hempty, Index.add, if_pos hempty, List.length_map]
      simp [bind, Except.bind]
    · rw [if_neg hempty]
      by_cases hmem : f.name ∈ before.map (·.name)
      · rw [if_pos (List.contains_iff_mem.2 hmem), Index.add, if_neg hempty,
          if_pos ((h.taken_iff _).2 hmem)]
        simp [bind, Except.bind]
      · obtain ⟨next, hadd, hnext⟩ := h.add (by simpa [String.isEmpty_iff] using hempty) hmem
        have hrest := ih hnext
        rw [List.map_append, List.length_append] at hrest
        rw [if_neg (mt List.contains_iff_mem.1 hmem), hadd]
        exact hrest

end Index

namespace Draft
variable {d : Draft} {c : IndexedComposite} {e : SchemaError}

theorem build_eq_ok :
    d.build = .ok c ↔ ∃ name index, SchemaName.make d.name = .ok name ∧
      Index.empty.addAll 0 d.fields = .ok index ∧
      c = ⟨⟨name, d.description, d.fields, d.additional⟩, index⟩ := by
  rw [build, bind_eq_ok]
  refine exists_congr fun name => ?_
  cases Index.empty.addAll 0 d.fields <;> simp [eq_comm]

theorem exists_build_eq_ok :
    (∃ c, d.build = .ok c) ↔ SchemaName.IsName d.name ∧ DistinctlyNamed d.fields := by
  rw [← SchemaName.exists_make_eq_ok, ← Index.exists_addAll_eq_ok]
  simp only [build_eq_ok]
  constructor
  · rintro ⟨c, name, index, hname, hindex, -⟩
    exact ⟨⟨name, hname⟩, index, hindex⟩
  · rintro ⟨⟨name, hname⟩, index, hindex⟩
    exact ⟨_, name, index, hname, hindex, rfl⟩

/-- The name is reported first, and then the first field that something is wrong with. -/
theorem build_eq_error :
    d.build = .error e ↔
      (∃ reason, SchemaName.fault? d.name.toList = some reason ∧ e = .invalidName d.name reason) ∨
        SchemaName.IsName d.name ∧
          ∃ reason, FirstDefect d.fields reason ∧ e = .invalidDeclaration d.name reason := by
  rw [build, bind_eq_error, SchemaName.make_eq_error, ← SchemaName.exists_make_eq_ok,
    exists_and_right.symm]
  refine or_congr_right (exists_congr fun name => and_congr_right fun hname => ?_)
  simp only [← Index.addAll_eq_error, ← SchemaName.text_of_make hname]
  cases Index.empty.addAll 0 d.fields <;> simp [eq_comm]

end Draft

/-- Finishing a draft with an index and without one comes to the same composite or failure. -/
theorem Draft.map_build (d : Draft) :
    d.build.map (·.composite) = Composite.build d.name d.description d.fields d.additional := by
  rw [build, Composite.build]
  cases SchemaName.make d.name with
  | error e => rfl
  | ok name =>
    have hfault (reason : String) : Composite.fieldFault? [] d.fields = some reason ↔
        Index.empty.addAll 0 d.fields = .error reason :=
      Index.indexes_empty.fieldFault?_eq_some
    simp only [ok_bind]
    cases hadd : Index.empty.addAll 0 d.fields with
    | error reason =>
      rw [(hfault reason).2 hadd]
      rfl
    | ok index =>
      have hnone : Composite.fieldFault? [] d.fields = none :=
        Option.eq_none_iff_forall_ne_some.2 fun reason hreason => by
          cases hadd.symm.trans ((hfault reason).1 hreason)
      rw [hnone]
      rfl

theorem Composite.position?_eq_some {c : Composite} (h : DistinctlyNamed c.fields) {name : String}
    {i : Nat} : c.position? name = some i ↔ c.fields[i]?.map (·.name) = some name := by
  rw [position?, List.findIdx?_eq_some_iff_getElem]
  constructor
  · rintro ⟨hlt, hname, -⟩
    simpa [List.getElem?_eq_getElem hlt] using hname
  · intro hi
    obtain ⟨f, hf, hname⟩ := Option.map_eq_some_iff.1 hi
    obtain ⟨hlt, rfl⟩ := List.getElem?_eq_some_iff.1 hf
    refine ⟨hlt, by simpa using hname, fun j hj hsame => ?_⟩
    have hj' : c.fields[j]?.map (·.name) = some name := by
      rw [List.getElem?_eq_getElem (hj.trans hlt), Option.map_some]
      exact congrArg some (beq_iff_eq.1 hsame)
    exact hj.ne (h.place_unique hj' hi)

namespace IndexedComposite
variable {c : IndexedComposite} {name : String} {i : Nat}

theorem position?_eq (h : c.index.Indexes c.composite.fields) :
    c.position? name = c.composite.position? name :=
  Option.ext fun i => (h.place name i).trans (Composite.position?_eq_some h.distinct).symm

/-- The index has a place for a name if and only if it is the one place where the name stands. -/
theorem position?_eq_some (h : c.index.Indexes c.composite.fields) :
    c.position? name = some i ↔
      ∀ j, c.composite.fields[j]?.map (·.name) = some name ↔ j = i := by
  rw [position?, h.place]
  constructor
  · intro hi j
    exact ⟨fun hj => h.distinct.place_unique hj hi, fun hj => hj ▸ hi⟩
  · exact fun hall => (hall i).2 rfl

/-- A name is declared and has its place, or the index does not have it. -/
theorem position?_cases (h : c.index.Indexes c.composite.fields) (name : String) :
    (∃ i field, c.position? name = some i ∧ c.composite.fields[i]? = some field ∧
        field.name = name ∧ c.composite.field? name = some field) ∨
      c.position? name = none ∧ c.composite.field? name = none := by
  cases hposition : c.position? name with
  | some i =>
    obtain ⟨field, hi, rfl⟩ := Option.map_eq_some_iff.1 ((h.place name i).1 hposition)
    have hfield := Composite.field?_of_mem h.distinct.2 (List.mem_of_getElem? hi)
    exact .inl ⟨i, field, rfl, hi, rfl, hfield⟩
  | none =>
    refine .inr ⟨rfl, ?_⟩
    rw [Composite.field?_eq_none, ← h.taken_iff, ← position?, hposition]
    simp

/-- Taking a field from its place never fails, and finds what a search by name finds. -/
theorem field?_eq (h : c.index.Indexes c.composite.fields) :
    c.field? name = .ok (c.composite.field? name) := by
  rw [field?]
  rcases position?_cases h name with ⟨i, field, hposition, hi, -, hfield⟩ | ⟨hposition, hfield⟩
  · simp only [hposition, elementAt, hi, hfield]
    rfl
  · simp only [hposition, hfield]

theorem field?_eq_some (h : c.index.Indexes c.composite.fields) {f : Field} :
    c.composite.field? name = some f ↔
      ∃ i, c.position? name = some i ∧ c.composite.fields[i]? = some f := by
  rcases position?_cases h name with ⟨i, field, hposition, hi, -, hfield⟩ | ⟨hposition, hfield⟩
  · simp [hposition, hfield, hi]
  · simp [hposition, hfield]

end IndexedComposite
end PayloadSchema
