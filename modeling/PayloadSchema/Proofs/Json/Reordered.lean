import Mathlib.Data.List.Forall2
import Mathlib.Data.List.Nodup
import Mathlib.Data.List.Perm.Basic
import PayloadSchema.Path
import PayloadSchema.Proofs.Json.Keys
import PayloadSchema.Proofs.Outcome

/-!
JSON values that differ only in the order of the keys of their objects. Such values are the same as
JSON values, no value tells them apart by equality, and a path finds a part of both or of neither.
-/
namespace PayloadSchema
variable {α β : Type} {R : α → β → Prop}

namespace Members

theorem lookup_perm {as bs : List (String × α)} (hk : (as.map (·.1)).Nodup) (hp : as.Perm bs)
    (k : String) : as.lookup k = bs.lookup k := by
  refine Option.ext fun a => ⟨fun h => ?_, fun h => ?_⟩
  · exact lookup_of_mem ((hp.map _).nodup_iff.1 hk) (hp.mem_iff.1 (mem_of_lookup h))
  · exact lookup_of_mem hk (hp.mem_iff.2 (mem_of_lookup h))

end Members

inductive Keyed {α β : Type} (R : α → β → Prop) :
    List (String × α) → List (String × β) → Prop
  | nil : Keyed R [] []
  | cons {k : String} {a : α} {b : β} {as : List (String × α)} {bs : List (String × β)}
      (h : R a b) (hrest : Keyed R as bs) : Keyed R ((k, a) :: as) ((k, b) :: bs)

def Shuffled (R : α → β → Prop) (as : List (String × α)) (bs : List (String × β)) : Prop :=
  ∃ mid, Keyed R as mid ∧ mid.Perm bs

namespace Keyed
variable {as : List (String × α)} {bs : List (String × β)}

theorem iff_forall₂ :
    Keyed R as bs ↔ List.Forall₂ (fun a b => a.1 = b.1 ∧ R a.2 b.2) as bs := by
  constructor
  · intro h
    induction h with
    | nil => exact .nil
    | cons hab _ ih => exact .cons ⟨rfl, hab⟩ ih
  · intro h
    induction h with
    | nil => exact .nil
    | @cons a b as bs hab _ ih =>
      obtain ⟨k, a⟩ := a
      obtain ⟨l, b⟩ := b
      obtain ⟨rfl, hab⟩ := hab
      exact .cons hab ih

theorem map_fst (h : Keyed R as bs) : as.map (·.1) = bs.map (·.1) := by
  induction h with
  | nil => rfl
  | cons _ _ ih => rw [List.map_cons, List.map_cons, ih]

theorem length_eq (h : Keyed R as bs) : as.length = bs.length := by
  simpa using congrArg List.length h.map_fst

theorem lookup (h : Keyed R as bs) (k : String) : Option.Rel R (as.lookup k) (bs.lookup k) := by
  induction h with
  | nil => exact .none
  | @cons l a b as bs hab _ ih =>
    rw [List.lookup_cons, List.lookup_cons]
    cases k == l with
    | true => exact .some hab
    | false => exact ih

theorem getElem? (h : Keyed R as bs) (i : Nat) :
    Option.Rel R (as[i]?.map (·.2)) (bs[i]?.map (·.2)) := by
  induction h generalizing i with
  | nil => exact .none
  | cons hab _ ih =>
    cases i with
    | zero => exact .some hab
    | succ i => exact ih i

theorem shuffled (h : Keyed R as bs) {as' : List (String × α)} (hp : as'.Perm as) :
    Shuffled R as' bs := by
  obtain ⟨mid, hmid, hp⟩ := List.perm_comp_forall₂ hp (iff_forall₂.1 h)
  exact ⟨mid, iff_forall₂.2 hmid, hp⟩

/-- Entries with distinct keys are told apart by their keys and by lookups. -/
theorem of_lookup (hkeys : as.map (·.1) = bs.map (·.1)) (hk : (as.map (·.1)).Nodup)
    (h : ∀ k, Option.Rel R (as.lookup k) (bs.lookup k)) : Keyed R as bs := by
  induction as generalizing bs with
  | nil =>
    obtain rfl := List.map_eq_nil_iff.1 hkeys.symm
    exact .nil
  | cons e as ih =>
    obtain ⟨k, a⟩ := e
    obtain ⟨⟨l, b⟩, bs, rfl, rfl, hrest⟩ := List.map_eq_cons_iff.1 hkeys.symm
    obtain ⟨hnot, hk⟩ := List.nodup_cons.1 hk
    have hab := h l
    rw [List.lookup_cons_self, List.lookup_cons_self] at hab
    cases hab with
    | some hab =>
      refine .cons hab (ih hrest.symm hk fun m => ?_)
      by_cases hm : m = l
      · subst hm
        rw [Members.lookup_eq_none hnot, Members.lookup_eq_none (hrest ▸ hnot)]
        exact .none
      · have hrel := h m
        rwa [List.lookup_cons, List.lookup_cons, beq_eq_false_iff_ne.2 hm] at hrel

theorem filter (h : Keyed R as bs) (test : String → Bool) :
    Keyed R (as.filter fun e => test e.1) (bs.filter fun e => test e.1) := by
  induction h with
  | nil => exact .nil
  | @cons k a b as bs hab _ ih =>
    rw [List.filter_cons, List.filter_cons]
    cases test k with
    | true => exact .cons hab ih
    | false => exact ih

end Keyed

namespace Shuffled
variable {as : List (String × α)} {bs : List (String × β)}

theorem perm_keys (h : Shuffled R as bs) : (as.map (·.1)).Perm (bs.map (·.1)) := by
  obtain ⟨mid, h, hp⟩ := h
  rw [h.map_fst]
  exact hp.map _

theorem length_eq (h : Shuffled R as bs) : as.length = bs.length := by
  simpa using h.perm_keys.length_eq

theorem lookup (hk : (as.map (·.1)).Nodup) (h : Shuffled R as bs) (k : String) :
    Option.Rel R (as.lookup k) (bs.lookup k) := by
  obtain ⟨mid, h, hp⟩ := h
  rw [h.map_fst] at hk
  rw [← Members.lookup_perm hk hp]
  exact h.lookup k

theorem filter (h : Shuffled R as bs) (test : String → Bool) :
    Shuffled R (as.filter fun e => test e.1) (bs.filter fun e => test e.1) := by
  obtain ⟨mid, h, hp⟩ := h
  exact ⟨_, h.filter test, hp.filter _⟩

end Shuffled

namespace Json

/-- Values whose objects have distinct keys, at any depth, and that differ only in the order of
these keys. -/
inductive Reordered : Json → Json → Prop
  | null : Reordered .null .null
  | bool (b : Bool) : Reordered (.bool b) (.bool b)
  | number (n : Numeral) : Reordered (.number n) (.number n)
  | string (s : String) : Reordered (.string s) (.string s)
  | array {as bs : List Json} (h : List.Forall₂ Reordered as bs) :
      Reordered (.array as) (.array bs)
  | object {as mid bs : Members} (hk : (as.map (·.1)).Nodup) (h : Keyed Reordered as mid)
      (hp : mid.Perm bs) : Reordered (.object as) (.object bs)

namespace Reordered
variable {v w : Json}

theorem isNull_eq (h : v.Reordered w) : v.isNull = w.isNull := by
  cases h <;> rfl

theorem shape_eq (h : v.Reordered w) : v.shape = w.shape := by
  cases h <;> rfl

theorem of_shuffled {as bs : Members} (hk : (bs.map (·.1)).Nodup) (h : Shuffled Reordered as bs) :
    (Json.object as).Reordered (.object bs) := by
  have hkeys : (as.map (·.1)).Nodup := h.perm_keys.nodup_iff.2 hk
  obtain ⟨mid, h, hp⟩ := h
  exact .object hkeys h hp

theorem refl (h : v.DistinctKeys) : v.Reordered v := by
  induction h with
  | null => exact .null
  | bool b => exact .bool b
  | number n => exact .number n
  | string s => exact .string s
  | array _ ih => exact .array (List.forall₂_same.2 ih)
  | object hk _ ih =>
    have hkeyed := Keyed.iff_forall₂.2 (List.forall₂_same.2 fun m hm => ⟨rfl, ih m hm⟩)
    exact .object hk hkeyed (.refl _)

/-- A member has its counterpart under the same key. -/
theorem exists_lookup {as bs : Members} (hk : (as.map (·.1)).Nodup) (h : Shuffled Reordered as bs)
    {k : String} {a : Json} (hm : (k, a) ∈ as) : ∃ b, bs.lookup k = some b ∧ a.Reordered b := by
  have hrel := h.lookup hk k
  rw [Members.lookup_of_mem hk hm] at hrel
  cases hb : bs.lookup k with
  | none =>
    rw [hb] at hrel
    cases hrel
  | some b =>
    rw [hb] at hrel
    cases hrel with
    | some hab => exact ⟨b, rfl, hab⟩

theorem child (h : v.Reordered w) (s : Segment) :
    Option.Rel Reordered (v.child? s) (w.child? s) := by
  cases h with
  | array h =>
    cases s with
    | index n => exact Outcome.rel_getElem? h n
    | _ => exact .none
  | object hk h hp =>
    have h : Shuffled Reordered _ _ := ⟨_, h, hp⟩
    cases s with
    | index n => exact .none
    | field name => exact h.lookup hk name
    | key name => exact h.lookup hk name
  | _ => exact .none

/-- A path finds parts that differ only in the order of keys, or none, in both values. -/
theorem along (h : v.Reordered w) (path : Path) :
    Option.Rel Reordered (v.at? path) (w.at? path) := by
  induction path generalizing v w with
  | nil => exact .some h
  | cons s rest ih =>
    have hchild := h.child s
    rw [at?, at?]
    generalize v.child? s = x at hchild
    generalize w.child? s = y at hchild
    cases hchild with
    | none => exact .none
    | some h => exact ih h

theorem isSome_at? (h : v.Reordered w) (path : Path) :
    (v.at? path).isSome = (w.at? path).isSome := by
  have hrel := h.along path
  generalize v.at? path = x at hrel
  generalize w.at? path = y at hrel
  cases hrel <;> rfl

theorem null_at? (h : v.Reordered w) (path : Path) :
    v.at? path = some .null ↔ w.at? path = some .null := by
  have hrel := h.along path
  generalize v.at? path = x at hrel
  generalize w.at? path = y at hrel
  cases hrel with
  | none => exact Iff.rfl
  | some h => cases h <;> simp

end Reordered

-- Both inductions are on the left value, as the recursion of equality is.
mutual

theorem same_of_reordered : (v w : Json) → v.Reordered w → v.same w = true
  | .null, _, .null => rfl
  | .bool _, _, .bool _ => by simp [same]
  | .number _, _, .number _ => by simp [same]
  | .string _, _, .string _ => by simp [same]
  | .array as, _, .array h => sameItems_of_reordered as _ h
  | .object as, _, .object hk h hp => by
    have h : Shuffled Reordered as _ := ⟨_, h, hp⟩
    have hmembers := sameMembers_of_reordered as _ fun _ _ => Reordered.exists_lookup hk h
    simp [same, h.length_eq, hmembers]

theorem sameItems_of_reordered : (as bs : List Json) → List.Forall₂ Reordered as bs →
    sameItems as bs = true
  | [], _, .nil => rfl
  | a :: as, b :: bs, .cons h hrest => by
    simp [sameItems, same_of_reordered a b h, sameItems_of_reordered as bs hrest]

theorem sameMembers_of_reordered : (as bs : Members) →
    (∀ k a, (k, a) ∈ as → ∃ b, bs.lookup k = some b ∧ a.Reordered b) → sameMembers as bs = true
  | [], _, _ => rfl
  | (k, a) :: as, bs, h => by
    obtain ⟨b, hb, hab⟩ := h k a (.head _)
    have hrest := sameMembers_of_reordered as bs fun l c hm => h l c (.tail _ hm)
    simp [sameMembers, hb, same_of_reordered a b hab, hrest]

end

mutual

theorem same_congr : (u v w : Json) → v.Reordered w → u.same v = u.same w
  | .null, _, _, h => by cases h <;> rfl
  | .bool _, _, _, h => by cases h <;> rfl
  | .number _, _, _, h => by cases h <;> rfl
  | .string _, _, _, h => by cases h <;> rfl
  | .array us, _, _, h => by
    cases h with
    | array h => exact sameItems_congr us _ _ h
    | _ => rfl
  | .object us, _, _, h => by
    cases h with
    | object hk h hp =>
      have h : Shuffled Reordered _ _ := ⟨_, h, hp⟩
      simp only [same, h.length_eq, sameMembers_congr us _ _ (h.lookup hk)]
    | _ => rfl

theorem sameItems_congr : (us vs ws : List Json) → List.Forall₂ Reordered vs ws →
    sameItems us vs = sameItems us ws
  | [], _, _, h => by cases h <;> rfl
  | u :: us, _, _, h => by
    cases h with
    | nil => rfl
    | @cons v w vs ws hvw h =>
      simp only [sameItems, same_congr u v w hvw, sameItems_congr us vs ws h]

theorem sameMembers_congr : (us vs ws : Members) →
    (∀ k, Option.Rel Reordered (vs.lookup k) (ws.lookup k)) →
    sameMembers us vs = sameMembers us ws
  | [], _, _, _ => rfl
  | (k, u) :: us, vs, ws, h => by
    rw [sameMembers, sameMembers, sameMembers_congr us vs ws h]
    have hk := h k
    generalize vs.lookup k = v at hk
    generalize ws.lookup k = w at hk
    cases hk with
    | none => rfl
    | @some v w hvw => simp only [same_congr u v w hvw]

end

end Json
end PayloadSchema
