import Mathlib
import PayloadSchema.Proofs.Alike
import PayloadSchema.Proofs.Validation.Conformance
import PayloadSchema.Proofs.Validation.Failure

/-!
Validation stops at the first fault. A list or a dict reports its first element that fails. An
object reports its first required field that is absent and, if there is none, its first member that
is refused. What stands behind the fault has no influence on the report.
-/
namespace PayloadSchema
open Outcome

structure First {α : Type} (p : α → Prop) (xs before : List α) (x : α) : Prop where
  starts : before ++ [x] <+: xs
  passed : ∀ y ∈ before, ¬p y
  holds : p x

namespace First
variable {α : Type} {p q : α → Prop} {xs ys before : List α} {x : α}

theorem of_mem (hx : x ∈ xs) (hp : p x) : ∃ before y, First p xs before y := by
  induction xs with
  | nil => cases hx
  | cons z zs ih =>
    by_cases hz : p z
    · exact ⟨[], z, ⟨zs, rfl⟩, by simp, hz⟩
    · have hmem : x ∈ zs := by
        refine (List.mem_cons.1 hx).resolve_left ?_
        rintro rfl
        exact hz hp
      obtain ⟨before, y, hstarts, hpassed, hy⟩ := ih hmem
      exact ⟨z :: before, y, (List.cons_prefix_cons).2 ⟨rfl, hstarts⟩,
        List.forall_mem_cons.2 ⟨hz, hpassed⟩, hy⟩

/-- Only the elements up to the first one count. -/
theorem of_prefix (h : First p xs before x) (hys : before ++ [x] <+: ys) : First p ys before x :=
  ⟨hys, h.passed, h.holds⟩

theorem congr (h : First p xs before x) (hpq : ∀ y, p y ↔ q y) : First q xs before x :=
  ⟨h.starts, fun y hy hq => h.passed y hy ((hpq y).2 hq), (hpq x).1 h.holds⟩

end First

theorem Outcome.exists_of_not_error {ε α : Type} {x : Except ε α} (h : ¬∃ e, x = .error e) :
    ∃ a, x = .ok a := by
  cases x with
  | error e => exact absurd ⟨e, rfl⟩ h
  | ok a => exact ⟨a, rfl⟩

theorem Outcome.mapM_of_first {ε α β : Type} {f : α → Except ε β} {xs before : List α} {x : α}
    {e : ε} (h : First (fun y => ∃ d, f y = .error d) xs before x) (he : f x = .error e) :
    xs.mapM f = .error e := by
  obtain ⟨⟨rest, rfl⟩, hpassed, -⟩ := h
  induction before with
  | nil =>
    rw [List.nil_append, List.singleton_append, List.mapM_cons, he]
    rfl
  | cons y before ih =>
    obtain ⟨hy, hpassed⟩ := List.forall_mem_cons.1 hpassed
    obtain ⟨b, hb⟩ := exists_of_not_error hy
    rw [List.cons_append, List.cons_append, List.mapM_cons, hb, ok_bind, ih hpassed]
    rfl

theorem keepKey_eq_error {ε α β : Type} {f : String → α → Except ε β} {m : String × α} {e : ε} :
    keepKey f m = .error e ↔ f m.1 m.2 = .error e :=
  bind_pure_eq_error

/-- What is made of a list that is let in fails if and only if one of its elements does. It reports
the first such element, and no change of what follows that element changes the report. -/
structure ReportsFirst {α β : Type} (LetIn : List α → Prop) (Fails : α → ValidationError → Prop)
    (report : List α → α → ValidationError → ValidationError)
    (run : List α → Except ValidationError β) : Prop where
  fails_iff : ∀ xs, LetIn xs → ((∃ e, run xs = .error e) ↔ ∃ x ∈ xs, ∃ d, Fails x d)
  reports : ∀ xs before x d, LetIn xs → First (fun y => ∃ d, Fails y d) xs before x → Fails x d →
    run xs = .error (report before x d)
  unchanged : ∀ xs ys before x, LetIn xs → LetIn ys →
    First (fun y => ∃ d, Fails y d) xs before x → before ++ [x] <+: ys → run ys = run xs
  succeeds : ∀ xs, LetIn xs → (∀ x ∈ xs, ¬∃ d, Fails x d) → ∃ b, run xs = .ok b

theorem ReportsFirst.of_reports {α β : Type} {LetIn : List α → Prop}
    {Fails : α → ValidationError → Prop}
    {report : List α → α → ValidationError → ValidationError}
    {run : List α → Except ValidationError β}
    (hreports : ∀ xs before x d, LetIn xs → First (fun y => ∃ d, Fails y d) xs before x →
      Fails x d → run xs = .error (report before x d))
    (hfails : ∀ xs e, LetIn xs → run xs = .error e → ∃ x ∈ xs, ∃ d, Fails x d) :
    ReportsFirst LetIn Fails report run where
  fails_iff xs hxs := by
    constructor
    · rintro ⟨e, he⟩
      exact hfails xs e hxs he
    · rintro ⟨x, hx, hfail⟩
      obtain ⟨before, y, hfirst⟩ := First.of_mem (p := fun y => ∃ d, Fails y d) hx hfail
      obtain ⟨d, hd⟩ := hfirst.holds
      exact ⟨_, hreports xs before y d hxs hfirst hd⟩
  reports := hreports
  unchanged xs ys before x hxs hys hfirst hprefix := by
    obtain ⟨d, hd⟩ := hfirst.holds
    rw [hreports xs before x d hxs hfirst hd,
      hreports ys before x d hys (hfirst.of_prefix hprefix) hd]
  succeeds xs hxs hnone := by
    refine exists_of_not_error ?_
    rintro ⟨e, he⟩
    obtain ⟨x, hx, hfail⟩ := hfails xs e hxs he
    exact hnone x hx hfail

def Field.Absent (members : Members) (f : Field) : Prop :=
  f.required = true ∧ members.lookup f.name = none

namespace Composite
variable {c : Composite} {members : Members}

theorem find?_requiredNames {before : List Field} {f : Field}
    (h : First (Field.Absent members) c.fields before f) :
    (c.requiredNames.find? fun name => (members.lookup name).isNone) = some f.name := by
  obtain ⟨⟨rest, hfields⟩, hpassed, hrequired, habsent⟩ := h
  have hfind : (c.fields.find? fun g =>
      decide (g.required = true ∧ (members.lookup g.name).isNone = true)) = some f := by
    rw [List.find?_eq_some_iff_append]
    refine ⟨by simp [hrequired, habsent], before, rest, by simp [← hfields], fun g hg => ?_⟩
    have hnot := hpassed g hg
    rw [Field.Absent, ← Option.isNone_iff_eq_none] at hnot
    simpa only [Bool.not_eq_true', decide_eq_false_iff_not] using hnot
  rw [requiredNames, Field.requiredNames, List.find?_map, List.find?_filter]
  exact congrArg (Option.map (·.name)) hfind

theorem find?_requiredNames_eq_none (h : ∀ f ∈ c.fields, ¬f.Absent members) :
    (c.requiredNames.find? fun name => (members.lookup name).isNone) = none := by
  rw [List.find?_eq_none]
  intro name hname hnone
  obtain ⟨f, hf, rfl⟩ := List.mem_map.1 hname
  obtain ⟨hmem, hrequired⟩ := List.mem_filter.1 hf
  exact h f hmem ⟨hrequired, Option.isNone_iff_eq_none.1 hnone⟩

end Composite

namespace Validator
variable {v : Validator} {room : Nat}

theorem applyItems_of_first {f : Json → Except ValidationError Instance} {n : Nat}
    {raws before : List Json} {raw : Json} {d : ValidationError}
    (h : First (fun raw => ∃ d, f raw = .error d) raws before raw) (hd : f raw = .error d) :
    applyItems f n raws = .error (d.within (.index (n + before.length))) := by
  obtain ⟨⟨rest, rfl⟩, hpassed, -⟩ := h
  induction before generalizing n with
  | nil =>
    rw [List.nil_append, List.singleton_append, applyItems, hd]
    rfl
  | cons y before ih =>
    obtain ⟨hy, hpassed⟩ := List.forall_mem_cons.1 hpassed
    obtain ⟨i, hi⟩ := exists_of_not_error hy
    rw [List.cons_append, List.cons_append, applyItems, hi, ih hpassed, List.length_cons,
      Nat.add_right_comm, Nat.add_assoc]
    rfl

theorem apply_list {items : Schema} {least most : Option Nat} {raws : List Json}
    (hsize : checkSize raws.length least most = .ok ()) :
    v.apply (room + 1) (.list items least most) (.array raws) =
      (applyItems (v.apply room items) 0 raws).map .list := by
  have hs : (Schema.list items least most).IsHead := trivial
  rw [apply_head hs]
  simp only [applyHead, parts, enter, ok_bind, hsize]
  rfl

theorem apply_dict {values : Schema} {members : Members} :
    v.apply (room + 1) (.dict values) (.object members) =
      (applyDict (v.apply room values) members).map .dict := by
  have hs : (Schema.dict values).IsHead := trivial
  rw [apply_head hs]
  rfl

theorem apply_object {c : Composite} {raw : Json} :
    v.apply (room + 1) (.object c) raw =
      (v.applyComposite (some (v.apply room)) c raw).map .object := by
  have hs : (Schema.object c).IsHead := trivial
  rw [apply_head hs]
  rfl

/-- A list whose length is within its bounds. -/
theorem list_reportsFirst (v : Validator) (room : Nat) (items : Schema) (least most : Option Nat) :
    ReportsFirst
      (fun raws => (∀ n, least = some n → n ≤ raws.length) ∧ ∀ n, most = some n → raws.length ≤ n)
      (fun raw d => v.apply room items raw = .error d)
      (fun before _ d => d.within (.index before.length))
      fun raws => v.apply (room + 1) (.list items least most) (.array raws) := by
  refine .of_reports (fun raws before raw d hsize hfirst hd => ?_) fun raws e hsize he => ?_
  · rw [apply_list (checkSize_eq_ok.2 hsize), applyItems_of_first hfirst hd, Nat.zero_add]
    rfl
  · rw [apply_list (checkSize_eq_ok.2 hsize)] at he
    obtain ⟨k, raw, d, hk, hd, -⟩ := exists_of_applyItems_error (map_eq_error.1 he)
    exact ⟨raw, List.mem_of_getElem? hk, d, hd⟩

theorem applyDict_of_first {f : Json → Except ValidationError Instance} {members before : Members}
    {m : String × Json} {d : ValidationError}
    (h : First (fun m => ∃ d, f m.2 = .error d) members before m) (hd : f m.2 = .error d) :
    applyDict f members = .error (d.within (.key m.1)) := by
  have hstep (m : String × Json) (e : ValidationError) :
      keepKey (fun k raw => inside (.key k) (f raw)) m = .error e ↔
        ∃ d, f m.2 = .error d ∧ d.within (.key m.1) = e :=
    keepKey_eq_error.trans mapError_eq_error
  have hfirst := h.congr (q := fun m => ∃ e, keepKey (fun k raw => inside (.key k) (f raw)) m =
      .error e) fun m => by
    constructor
    · rintro ⟨d, hd⟩
      exact ⟨_, (hstep m _).2 ⟨d, hd, rfl⟩⟩
    · rintro ⟨e, he⟩
      obtain ⟨d, hd, -⟩ := (hstep m e).1 he
      exact ⟨d, hd⟩
  have hread := mapM_of_first hfirst ((hstep m _).2 ⟨d, hd, rfl⟩)
  exact bind_eq_error.2 (.inl hread)

theorem dict_reportsFirst (v : Validator) (room : Nat) (values : Schema) :
    ReportsFirst (fun _ => True) (fun m d => v.apply room values m.2 = .error d)
      (fun _ m d => d.within (.key m.1))
      fun members => v.apply (room + 1) (.dict values) (.object members) := by
  refine .of_reports (fun members before m d _ hfirst hd => ?_) fun members e _ he => ?_
  · rw [apply_dict, applyDict_of_first hfirst hd]
    rfl
  · rw [apply_dict] at he
    obtain ⟨k, raw, d, hm, hd, -⟩ := exists_of_applyDict_error (map_eq_error.1 he)
    exact ⟨(k, raw), hm, d, hd⟩

/-- Once all required fields are there, the members alone decide whether an object fails. -/
theorem apply_object_eq_error {c : Composite} {members : Members} {e : ValidationError}
    (h : ∀ f ∈ c.fields, ¬f.Absent members) :
    v.apply (room + 1) (.object c) (.object members) = .error e ↔
      members.mapM (applyMember (v.apply room) c) = .error e := by
  rw [apply_object, map_eq_error]
  simp only [applyComposite, enter, ok_bind, Composite.find?_requiredNames_eq_none h]
  exact bind_pure_eq_error

/-- The first required field that is absent is reported, whatever the members are. -/
theorem apply_object_of_absent {c : Composite} {members : Members} {before : List Field}
    {f : Field} (h : First (Field.Absent members) c.fields before f) :
    v.apply (room + 1) (.object c) (.object members) = .error (.here (.missingField f.name)) := by
  rw [apply_object, map_eq_error]
  simp only [applyComposite, enter, ok_bind, Composite.find?_requiredNames h]

theorem object_reportsFirst (v : Validator) (room : Nat) (c : Composite) :
    ReportsFirst (fun members => ∀ f ∈ c.fields, ¬f.Absent members)
      (MemberRefuses (fun s raw d => v.apply room s raw = .error d) c) (fun _ _ d => d)
      fun members => v.apply (room + 1) (.object c) (.object members) := by
  refine .of_reports (fun members before m d hall hfirst hd => ?_) fun members e hall he => ?_
  · rw [apply_object_eq_error hall]
    have hmember := hfirst.congr fun m => exists_congr fun d => applyMember_eq_error.symm
    exact mapM_of_first hmember (applyMember_eq_error.2 hd)
  · rw [apply_object_eq_error hall] at he
    obtain ⟨m, hm, he⟩ := mapM_eq_error he
    exact ⟨m, hm, e, applyMember_eq_error.1 he⟩

/-- Validation of a container below the limit stops at the first fault. A list within its bounds
and a dict report the first element that fails. An object reports the first required field that is
absent, in order of declaration, and else the first member, in the order in which they came, whose
value or name is refused. -/
theorem apply_reports_first (v : Validator) (room : Nat) :
    (∀ items least most,
      ReportsFirst
        (fun raws =>
          (∀ n, least = some n → n ≤ raws.length) ∧ ∀ n, most = some n → raws.length ≤ n)
        (fun raw d => v.apply room items raw = .error d)
        (fun before _ d => d.within (.index before.length))
        fun raws => v.apply (room + 1) (.list items least most) (.array raws)) ∧
      (∀ values,
        ReportsFirst (fun _ => True) (fun m d => v.apply room values m.2 = .error d)
          (fun _ m d => d.within (.key m.1))
          fun members => v.apply (room + 1) (.dict values) (.object members)) ∧
      ∀ c : Composite,
        (∀ members before f, First (Field.Absent members) c.fields before f →
          v.apply (room + 1) (.object c) (.object members) =
            .error (.here (.missingField f.name))) ∧
          ReportsFirst (fun members => ∀ f ∈ c.fields, ¬f.Absent members)
            (MemberRefuses (fun s raw d => v.apply room s raw = .error d) c) (fun _ _ d => d)
            fun members => v.apply (room + 1) (.object c) (.object members) :=
  ⟨list_reportsFirst v room, dict_reportsFirst v room,
    fun c => ⟨fun _ _ _ => apply_object_of_absent, object_reportsFirst v room c⟩⟩

def unlabelledMembers : Members := [("rank", .string "x"), ("note", .null)]

def labelField : Field :=
  ⟨"label", .primitive .string { Constraints.none with minLength := some 1 }, true, false, none⟩

def rankMember : String × Json := ("rank", .string "x")

def membersBehindRank (rest : Members) : Members := ("label", .string "a") :: rankMember :: rest

def rankError : ValidationError :=
  ⟨[.field "rank"], .noAlternative ["integer", "null"] "string"⟩

theorem membersBehindRank_labelled (rest : Members) :
    ∀ f ∈ treeSchema.fields, ¬f.Absent (membersBehindRank rest) := by
  simp [treeSchema, Field.Absent, membersBehindRank]

theorem rankMember_eq_error :
    applyMember (treeValidator.apply 3) treeSchema rankMember = .error rankError := by
  cbv

theorem rankMember_first (rest : Members) :
    First
      (fun m => ∃ d, MemberRefuses (fun s raw d => treeValidator.apply 3 s raw = .error d)
        treeSchema m d)
      (membersBehindRank rest) [("label", .string "a")] rankMember := by
  have hlabel : applyMember (treeValidator.apply 3) treeSchema ("label", .string "a") =
      .ok ("label", .value (.string "a")) := by
    cbv
  refine ⟨⟨rest, rfl⟩, ?_, rankError, applyMember_eq_error.1 rankMember_eq_error⟩
  simp only [List.mem_singleton]
  rintro _ rfl ⟨d, hd⟩
  cases hlabel.symm.trans (applyMember_eq_error.2 hd)

/-- A label that is absent is missed before the rank is looked at; behind the rank nothing
counts. -/
theorem tree_reports_first :
    First (Field.Absent unlabelledMembers) treeSchema.fields [] labelField ∧
      treeValidator.apply 4 (.object treeSchema) (.object unlabelledMembers) =
        .error (.here (.missingField "label")) ∧
      treeValidator.apply 4 (.object treeSchema)
          (.object (membersBehindRank [("parts", .bool true), ("size", .string "y")])) =
        .error rankError ∧
      treeValidator.apply 4 (.object treeSchema) (.object (membersBehindRank [("note", .null)])) =
        treeValidator.apply 4 (.object treeSchema)
          (.object (membersBehindRank [("parts", .bool true), ("size", .string "y")])) := by
  obtain ⟨-, -, hobject⟩ := apply_reports_first treeValidator 3
  obtain ⟨habsent, hreports⟩ := hobject treeSchema
  have hlabel : First (Field.Absent unlabelledMembers) treeSchema.fields [] labelField :=
    ⟨⟨_, rfl⟩, by simp, rfl, rfl⟩
  have hlabelled := membersBehindRank_labelled
  have hrank : MemberRefuses (fun s raw d => treeValidator.apply 3 s raw = .error d) treeSchema
      rankMember rankError :=
    applyMember_eq_error.1 rankMember_eq_error
  refine ⟨hlabel, habsent _ _ _ hlabel, ?_, ?_⟩
  · exact hreports.reports _ _ _ _ (hlabelled _) (rankMember_first _) hrank
  · exact hreports.unchanged _ _ _ _ (hlabelled _) (hlabelled _) (rankMember_first _) ⟨_, rfl⟩

end Validator
end PayloadSchema
