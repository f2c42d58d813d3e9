import Mathlib
import PayloadSchema.Proofs.Alike
import PayloadSchema.Proofs.Validation.Conformance

/-!
The order of keys in a payload. Payloads that differ only in that order are both valid or both
invalid, and their instances differ only in the order of additional fields. Which of several faults
is reported may depend on it.
-/
namespace PayloadSchema
open Outcome

inductive Presence.Rel {α β : Type} (R : α → β → Prop) : Presence α → Presence β → Prop
  | unset : Rel R .unset .unset
  | null : Rel R .null .null
  | value {a : α} {b : β} (h : R a b) : Rel R (.value a) (.value b)

theorem Presence.Rel.getD_unset {α β : Type} {R : α → β → Prop} {x : Option (Presence α)}
    {y : Option (Presence β)} (h : Option.Rel (Rel R) x y) :
    Rel R (x.getD .unset) (y.getD .unset) := by
  cases h with
  | none => exact .unset
  | some h => exact h

namespace Instance

/-- Instances that are equal up to the order of the additional fields of their objects. JSON values
that are kept as such are equal as JSON values. -/
inductive SameUpToOrder : Instance → Instance → Prop
  | leaf {i : Instance} (hk : i.kind?.isSome = true) : SameUpToOrder i i
  | any {v w : Json} (h : v.same w = true) : SameUpToOrder (.any v) (.any w)
  | list {as bs : List Instance} (h : List.Forall₂ SameUpToOrder as bs) :
      SameUpToOrder (.list as) (.list bs)
  | dict {as bs : List (String × Instance)} (h : Keyed SameUpToOrder as bs) :
      SameUpToOrder (.dict as) (.dict bs)
  | object {c : Composite} {declared declared' extra mid extra' : List (String × Presence Instance)}
      (hlength : declared.length = c.fields.length)
      (hdeclared : Keyed (Presence.Rel SameUpToOrder) declared declared')
      (hdistinct : (extra.map (·.1)).Nodup)
      (hextra : Keyed (Presence.Rel SameUpToOrder) extra mid) (hp : mid.Perm extra') :
      SameUpToOrder (.object ⟨c, declared ++ extra⟩) (.object ⟨c, declared' ++ extra'⟩)

def child? : Instance → Segment → Option (Presence Instance)
  | object o, .field name => o.presence? name
  | list items, .index i => items[i]?.map .value
  | dict entries, .key k => (entries.lookup k).map .value
  | _, _ => none

theorem child?_eq_none {i : Instance} (hk : i.kind?.isSome = true) (s : Segment) :
    i.child? s = none := by
  cases i with
  | list => cases hk
  | dict => cases hk
  | object => cases hk
  | _ => rfl

def at? (i : Instance) : Path → Option (Presence Instance)
  | [] => some (.value i)
  | s :: rest =>
    match i.child? s with
    | some (.value j) => j.at? rest
    | other => if rest.isEmpty then other else none

namespace SameUpToOrder
variable {i j : Instance}

theorem value {x y : Option Instance} (h : Option.Rel SameUpToOrder x y) :
    Option.Rel (Presence.Rel SameUpToOrder) (x.map .value) (y.map .value) := by
  cases h with
  | none => exact .none
  | some h => exact .some (.value h)

/-- Every name finds the same field, whether it is declared or not. -/
theorem entry {o o' : ObjectInstance} (h : SameUpToOrder (.object o) (.object o'))
    (name : String) :
    Option.Rel (Presence.Rel SameUpToOrder) (o.presence? name) (o'.presence? name) := by
  cases h with
  | leaf hk => cases hk
  | @object c declared declared' extra mid extra' hlength hdeclared hdistinct hextra hp =>
    have hlength' : declared'.length = c.fields.length := hdeclared.length_eq ▸ hlength
    -- A declared field is found by its place, where the order is fixed, any other one by its name.
    simp only [ObjectInstance.presence?, Composite.lookup?]
    cases hpos : c.position? name with
    | some n =>
      have hn : n < c.fields.length := (List.findIdx?_eq_some_iff_getElem.1 hpos).1
      simp only [List.getElem?_append_left (hlength ▸ hn),
        List.getElem?_append_left (hlength' ▸ hn)]
      exact hdeclared.getElem? n
    | none =>
      have hshuffled : Shuffled (Presence.Rel SameUpToOrder) extra extra' := ⟨mid, hextra, hp⟩
      simp only [List.drop_left' hlength, List.drop_left' hlength']
      exact hshuffled.lookup hdistinct name

theorem child (h : i.SameUpToOrder j) (s : Segment) :
    Option.Rel (Presence.Rel SameUpToOrder) (i.child? s) (j.child? s) := by
  cases h with
  | leaf hk =>
    rw [child?_eq_none hk]
    exact .none
  | any h => exact .none
  | list h =>
    cases s with
    | index n => exact value (rel_getElem? h n)
    | _ => exact .none
  | dict h =>
    cases s with
    | key k => exact value (h.lookup k)
    | _ => exact .none
  | object hlength hdeclared hdistinct hextra hp =>
    cases s with
    | field name => exact entry (.object hlength hdeclared hdistinct hextra hp) name
    | _ => exact .none

/-- Every path leads to the same part. -/
theorem along (h : i.SameUpToOrder j) (path : Path) :
    Option.Rel (Presence.Rel SameUpToOrder) (i.at? path) (j.at? path) := by
  induction path generalizing i j with
  | nil => exact .some (.value h)
  | cons s rest ih =>
    have hchild := h.child s
    rw [at?, at?]
    generalize i.child? s = x at hchild
    generalize j.child? s = y at hchild
    cases hchild with
    | none => cases rest <;> exact .none
    | some hp =>
      cases hp with
      | value h => exact ih h
      | unset =>
        cases rest with
        | nil => exact .some .unset
        | cons => exact .none
      | null =>
        cases rest with
        | nil => exact .some .null
        | cons => exact .none

end SameUpToOrder
end Instance

open Instance (SameUpToOrder)

namespace Kind
variable {kind : Kind} {raw raw' : Json}

theorem convert_reordered (hk : kind ≠ .any) (h : raw.Reordered raw') :
    kind.convert raw = kind.convert raw' := by
  cases h with
  | array =>
    cases kind with
    | any => exact absurd rfl hk
    | _ => rfl
  | object =>
    cases kind with
    | any => exact absurd rfl hk
    | _ => rfl
  | _ => rfl

theorem accepts_reordered (h : raw.Reordered raw') : kind.accepts raw = kind.accepts raw' := by
  by_cases hk : kind = .any
  · subst hk
    rfl
  · rw [accepts, accepts, convert_reordered hk h]

/-- Only allowed values are asked of a value that may be anything, and they do not tell the orders
of its keys apart. -/
theorem satisfied_any {c : Constraints} (hsame : ∀ v : Json, v.same raw = v.same raw')
    (hc : c.Satisfied (.any raw)) : c.Satisfied (.any raw') := by
  intro r
  cases r with
  | allowed =>
    intro vs hvs
    obtain ⟨v, hv, hallowed⟩ := hc .allowed vs hvs
    exact ⟨v, hv, hsame v ▸ hallowed⟩
  | _ => simp [Constraints.Rule.Within, Instance.number?]

theorem coerce_alike {c : Constraints} (h : raw.Reordered raw') :
    Alike SameUpToOrder (kind.coerce c raw) (kind.coerce c raw') := by
  by_cases hk : kind = .any
  · subst hk
    have hsame (v : Json) : v.same raw = v.same raw' := Json.same_congr v raw raw' h
    have hcheck : c.check (.any raw) = .ok () ↔ c.check (.any raw') = .ok () := by
      rw [Constraints.check_eq_ok rfl, Constraints.check_eq_ok rfl]
      exact ⟨satisfied_any hsame, satisfied_any fun v => (hsame v).symm⟩
    exact (Alike.of_iff hcheck).bind fun _ _ _ => .ok (.any (Json.same_of_reordered _ _ h))
  · have heq : kind.coerce c raw = kind.coerce c raw' := by
      rw [coerce, coerce, convert_reordered hk h, h.shape_eq]
    rw [heq]
    cases hi : kind.coerce c raw' with
    | error e => exact .error
    | ok i =>
      have hkind := (convert_eq_value (coerce_eq_ok.1 hi).1).1
      exact .ok (.leaf (by rw [hkind, Option.isSome_some]))

end Kind

namespace Validator
variable {v : Validator} {raw raw' : Json} {room : Nat}

theorem acceptsShape_reordered (h : raw.Reordered raw') (room : Nat) (s : Schema) :
    v.acceptsShape raw room s = v.acceptsShape raw' room s := by
  induction room generalizing s with
  | zero => rfl
  | succ room ih =>
    cases s with
    | primitive kind c => simp only [acceptsShape, Kind.accepts_reordered h]
    | ref name => simp only [acceptsShape, ih]
    | union cs => simp only [acceptsShape, funext ih]
    | _ => cases h <;> rfl

theorem choose_reordered (h : raw.Reordered raw') (cs : List Schema) :
    v.choose raw room cs = v.choose raw' room cs := by
  rw [choose, choose, funext (acceptsShape_reordered h room), h.shape_eq]

theorem settle_reordered (h : raw.Reordered raw') (n : Nat) (s : Schema) :
    v.settle raw room n s = v.settle raw' room n s := by
  induction n generalizing s with
  | zero => rfl
  | succ n ih =>
    cases s with
    | ref name => simp only [settle, ih]
    | union cs => simp only [settle, choose_reordered h, ih]
    | _ => rfl

def IgnoresKeyOrder (f : Json → Except ValidationError Instance) : Prop :=
  ∀ raw raw', raw.Reordered raw' → Alike SameUpToOrder (f raw) (f raw')

theorem applyItems_alike {f : Json → Except ValidationError Instance} (hf : IgnoresKeyOrder f)
    {raws raws' : List Json} (h : List.Forall₂ Json.Reordered raws raws') (n : Nat) :
    Alike (List.Forall₂ SameUpToOrder) (applyItems f n raws) (applyItems f n raws') := by
  induction h generalizing n with
  | nil => exact .ok .nil
  | cons hraw _ ih =>
    refine (hf _ _ hraw).inside.bind fun i j hij => ?_
    exact (ih (n + 1)).bind fun is js hrest => .ok (.cons hij hrest)

/-- The order of the entries of a dict does not depend on the order in which they were read. -/
theorem keyed_mergeSort {as bs : List (String × Instance)} (hk : (as.map (·.1)).Nodup)
    (h : Shuffled SameUpToOrder as bs) :
    Keyed SameUpToOrder (as.mergeSort keyOrder) (bs.mergeSort keyOrder) := by
  have hsorted (cs : List (String × Instance)) :
      ((cs.mergeSort keyOrder).map (·.1)).Pairwise (· ≤ ·) := by
    rw [List.pairwise_map]
    refine (List.pairwise_mergeSort keyOrder_trans keyOrder_total cs).imp ?_
    exact fun hle => of_decide_eq_true hle
  have hnodup : ((as.mergeSort keyOrder).map (·.1)).Nodup :=
    ((List.mergeSort_perm as keyOrder).map _).nodup_iff.2 hk
  have hperm : ((as.mergeSort keyOrder).map (·.1)).Perm ((bs.mergeSort keyOrder).map (·.1)) := by
    have hpa := (List.mergeSort_perm as keyOrder).map (·.1)
    have hpb := (List.mergeSort_perm bs keyOrder).map (·.1)
    exact (hpa.trans h.perm_keys).trans hpb.symm
  -- The keys are distinct, so that there is only one order in which they are sorted.
  refine .of_lookup (hperm.eq_of_pairwise' (hsorted as) (hsorted bs)) hnodup fun k => ?_
  rw [Members.lookup_perm hnodup (List.mergeSort_perm as keyOrder),
    Members.lookup_perm (hperm.nodup_iff.1 hnodup) (List.mergeSort_perm bs keyOrder)]
  exact h.lookup hk k

theorem applyDict_alike {f : Json → Except ValidationError Instance} (hf : IgnoresKeyOrder f)
    {members members' : Members} (hk : (members.map (·.1)).Nodup)
    (h : Shuffled Json.Reordered members members') :
    Alike (Keyed SameUpToOrder) (applyDict f members) (applyDict f members') := by
  have hread : Alike (fun cs ds => (cs.map (·.1)).Nodup ∧ Shuffled SameUpToOrder cs ds)
      (members.mapM (keepKey fun k raw => inside (.key k) (f raw)))
      (members'.mapM (keepKey fun k raw => inside (.key k) (f raw))) :=
    .mapM_shuffled hk h fun _ raw raw' hraw => (hf raw raw' hraw).inside
  exact hread.bind fun cs ds hcd => .ok (keyed_mergeSort hcd.1 hcd.2)

section
variable {f : Schema → Json → Except ValidationError Instance}

theorem applyDeclared_alike (hf : ∀ s, IgnoresKeyOrder (f s)) (field : Field)
    (h : raw.Reordered raw') :
    Alike (Presence.Rel SameUpToOrder) (applyDeclared f field raw)
      (applyDeclared f field raw') := by
  rw [applyDeclared, applyDeclared, ← h.isNull_eq]
  split
  · exact ((hf field.schema raw raw' h).map fun _ _ hij => .value hij).inside
  · split
    · exact .ok .null
    · exact .error

theorem applyAdditional_alike (hf : ∀ s, IgnoresKeyOrder (f s)) (policy : Policy) (name : String)
    (h : raw.Reordered raw') :
    Alike (Presence.Rel SameUpToOrder) (applyAdditional f policy name raw)
      (applyAdditional f policy name raw') := by
  cases policy with
  | forbidden => exact .error
  | typed s =>
    refine (hf s raw raw' h).inside.bind fun i j hij => ?_
    rw [← h.isNull_eq]
    split
    · exact .ok .null
    · exact .ok (.value hij)
  | any =>
    rw [applyAdditional, applyAdditional, ← h.isNull_eq]
    split
    · exact .ok .null
    · exact .ok (.value (.any (Json.same_of_reordered raw raw' h)))

def memberPresence (f : Schema → Json → Except ValidationError Instance) (c : Composite)
    (name : String) (raw : Json) : Except ValidationError (Presence Instance) :=
  match c.field? name with
  | some field => applyDeclared f field raw
  | none => applyAdditional f c.additional name raw

theorem applyMember_eq (c : Composite) : applyMember f c = keepKey (memberPresence f c) := by
  funext ⟨name, raw⟩
  simp only [applyMember, keepKey, memberPresence]
  cases c.field? name <;> rfl

theorem memberPresence_alike (hf : ∀ s, IgnoresKeyOrder (f s)) (c : Composite) (name : String)
    (h : raw.Reordered raw') :
    Alike (Presence.Rel SameUpToOrder) (memberPresence f c name raw)
      (memberPresence f c name raw') := by
  unfold memberPresence
  cases c.field? name with
  | some field => exact applyDeclared_alike hf field h
  | none => exact applyAdditional_alike hf c.additional name h

theorem arrange_alike {c : Composite} {read read' : List (String × Presence Instance)}
    (hk : (read.map (·.1)).Nodup) (h : Shuffled (Presence.Rel SameUpToOrder) read read') :
    SameUpToOrder (.object ⟨c, arrange c read⟩) (.object ⟨c, arrange c read'⟩) := by
  have hdeclared : Keyed (Presence.Rel SameUpToOrder) (declaredEntries c read)
      (declaredEntries c read') := by
    unfold declaredEntries
    induction c.fields with
    | nil => exact .nil
    | cons field fields ih => exact .cons (.getD_unset (h.lookup hk field.name)) ih
  obtain ⟨mid, hextra, hp⟩ := h.filter fun name => (c.field? name).isNone
  rw [arrange_eq, arrange_eq]
  refine .object ?_ hdeclared ?_ hextra hp
  · rw [declaredEntries, List.length_map]
  · exact hk.sublist (List.filter_sublist.map _)

theorem applyComposite_alike (hf : ∀ s, IgnoresKeyOrder (f s)) (c : Composite)
    (h : raw.Reordered raw') :
    Alike (fun o o' => SameUpToOrder (.object o) (.object o')) (v.applyComposite (some f) c raw)
      (v.applyComposite (some f) c raw') := by
  cases h with
  | @object members mid members' hk h hp =>
    have h : Shuffled Json.Reordered members members' := ⟨mid, h, hp⟩
    have hmissing : (fun name => (members.lookup name).isNone) =
        fun name => (members'.lookup name).isNone := by
      funext name
      have hname := h.lookup hk name
      generalize members.lookup name = x at hname
      generalize members'.lookup name = y at hname
      cases hname <;> rfl
    have hread : Alike
        (fun cs ds => (cs.map (·.1)).Nodup ∧ Shuffled (Presence.Rel SameUpToOrder) cs ds)
        (members.mapM (applyMember f c)) (members'.mapM (applyMember f c)) := by
      rw [applyMember_eq]
      exact .mapM_shuffled hk h fun name _ _ hraw => memberPresence_alike hf c name hraw
    -- Required names are looked up before any member is read, so that both miss the same one.
    simp only [applyComposite, enter, ok_bind, hmissing]
    split
    · exact .error
    · exact hread.bind fun cs ds hcd => .ok (arrange_alike hcd.1 hcd.2)
  | _ => exact .error

theorem applyHead_alike {inner : Inner} (hf : ∀ f, inner = some f → ∀ s, IgnoresKeyOrder (f s))
    (s : Schema) (h : raw.Reordered raw') :
    Alike SameUpToOrder (v.applyHead inner s raw) (v.applyHead inner s raw') := by
  cases s with
  | primitive kind c => exact Kind.coerce_alike h
  | list items least most =>
    cases h with
    | @array raws raws' h =>
      cases inner with
      | none => exact .error
      | some f =>
        simp only [applyHead, enter, ok_bind, h.length_eq]
        cases checkSize raws'.length least most with
        | error => exact .error
        | ok =>
          exact (applyItems_alike (hf f rfl items) h 0).bind fun _ _ hij => .ok (.list hij)
    | _ => exact .error
  | dict values =>
    cases h with
    | @object members mid members' hk h hp =>
      cases inner with
      | none => exact .error
      | some f =>
        have hdict := applyDict_alike (hf f rfl values) hk ⟨mid, h, hp⟩
        exact hdict.bind fun _ _ hij => .ok (.dict hij)
    | _ => exact .error
  | object c =>
    cases inner with
    | none => cases h <;> exact .error
    | some f => exact (applyComposite_alike (hf f rfl) c h).map fun _ _ ho => ho
  | ref name => exact .error
  | union cs => exact .error

end

/-- References and unions are settled as before, so that only the parts of a container matter. -/
theorem apply_alike_of_parts (hparts : ∀ f, v.parts room = some f → ∀ s, IgnoresKeyOrder (f s))
    (s : Schema) : IgnoresKeyOrder (v.apply room s) := by
  intro raw raw' h
  rw [apply_eq, apply_eq, settle_reordered h]
  cases v.settle raw' room (room + 2) s with
  | error => exact .error
  | ok head => exact applyHead_alike hparts head h

theorem apply_alike (v : Validator) (room : Nat) (s : Schema) :
    IgnoresKeyOrder (v.apply room s) := by
  induction room generalizing s with
  | zero =>
    refine apply_alike_of_parts (fun f hf => ?_) s
    cases hf
  | succ room ih =>
    refine apply_alike_of_parts (fun f hf => ?_) s
    cases hf
    exact ih

/-- Payloads that differ only in the order of keys are both valid or both invalid. Their instances
are equal up to the order of additional fields, and so is what every path finds in them. -/
theorem validate_reordered {v : Validator} {s : Schema} {raw raw' : Json}
    (h : raw.Reordered raw') :
    ((∃ i, v.validate s raw = .ok i) ↔ ∃ j, v.validate s raw' = .ok j) ∧
      ∀ i j, v.validate s raw = .ok i → v.validate s raw' = .ok j →
        i.SameUpToOrder j ∧
          ∀ path, Option.Rel (Presence.Rel SameUpToOrder) (i.at? path) (j.at? path) := by
  have hrun : Alike SameUpToOrder (v.validate s raw) (v.validate s raw') :=
    apply_alike v v.maxDepth s raw raw' h
  refine ⟨hrun.exists_iff, fun i j hi hj => ?_⟩
  have hij : i.SameUpToOrder j := hrun.of_ok hi hj
  exact ⟨hij, hij.along⟩

def branchPayload : Json :=
  .object
    [("rank", .number (.ofInt 1)), ("label", .string "a"),
      ("parts", .array [.object [("label", .string "b"), ("note", .null)]]),
      ("size", .number (.ofInt 2))]

def turnedPayload : Json :=
  .object
    [("size", .number (.ofInt 2)),
      ("parts", .array [.object [("note", .null), ("label", .string "b")]]),
      ("label", .string "a"), ("rank", .number (.ofInt 1))]

def branchInstanceWith (extra : List (String × Presence Instance)) : Instance :=
  .object ⟨treeSchema,
    [("label", .value (.string "a")),
      ("parts", .value (.list [.object ⟨treeSchema,
        [("label", .value (.string "b")), ("parts", .unset), ("note", .null)]⟩]))] ++ extra⟩

def branchInstance : Instance :=
  branchInstanceWith [("rank", .value (.integer 1)), ("size", .value (.integer 2))]

def turnedInstance : Instance :=
  branchInstanceWith [("size", .value (.integer 2)), ("rank", .value (.integer 1))]

theorem branch_reordered :
    branchPayload.Reordered turnedPayload ∧
      treeValidator.validate (.ref treeSchema.name) branchPayload = .ok branchInstance ∧
      treeValidator.validate (.ref treeSchema.name) turnedPayload = .ok turnedInstance ∧
      branchInstance.SameUpToOrder turnedInstance ∧
      ∀ path, Option.Rel (Presence.Rel SameUpToOrder) (branchInstance.at? path)
        (turnedInstance.at? path) := by
  have hpart : Json.Reordered (.object [("label", .string "b"), ("note", .null)])
      (.object [("note", .null), ("label", .string "b")]) :=
    .object (by decide) (.cons (.string _) (.cons .null .nil)) (.swap _ _ _)
  have h : branchPayload.Reordered turnedPayload := by
    refine .object (by decide) ?_ (List.reverse_perm _)
    exact .cons (.number _) (.cons (.string _) (.cons (.array (.cons hpart .nil))
      (.cons (.number _) .nil)))
  have hbranch : treeValidator.validate (.ref treeSchema.name) branchPayload =
      .ok branchInstance := by
    cbv
  have hturned : treeValidator.validate (.ref treeSchema.name) turnedPayload =
      .ok turnedInstance := by
    cbv
  exact ⟨h, hbranch, hturned, (validate_reordered h).2 _ _ hbranch hturned⟩

end Validator
end PayloadSchema
