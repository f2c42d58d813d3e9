import Mathlib.Data.List.Nodup
import PayloadSchema.Json.Reader

/-!
Objects with distinct keys. Members stand in a list, so that a key could be repeated; no value that
is read from text repeats one.
-/
namespace PayloadSchema

inductive Json.DistinctKeys : Json → Prop
  | null : DistinctKeys .null
  | bool (b : Bool) : DistinctKeys (.bool b)
  | number (n : Numeral) : DistinctKeys (.number n)
  | string (s : String) : DistinctKeys (.string s)
  | array {items : List Json} (h : ∀ v ∈ items, DistinctKeys v) : DistinctKeys (.array items)
  | object {members : Members} (hk : (members.map (·.1)).Nodup)
      (h : ∀ m ∈ members, DistinctKeys m.2) : DistinctKeys (.object members)

/-- A JSON value as documents hold it: no object in it has a key twice. -/
abbrev Payload := { raw : Json // raw.DistinctKeys }

namespace Members

abbrev Distinct := { members : Members // (members.map (·.1)).Nodup }

theorem lookup_of_mem {α : Type} {members : List (String × α)} {k : String} {a : α}
    (hk : (members.map (·.1)).Nodup) (hm : (k, a) ∈ members) : members.lookup k = some a := by
  induction members with
  | nil => cases hm
  | cons m rest ih =>
    obtain ⟨hnot, hrest⟩ := List.nodup_cons.1 hk
    rcases List.mem_cons.1 hm with rfl | hm
    · exact List.lookup_cons_self
    · have hne : (k == m.1) = false := by
        rw [beq_eq_false_iff_ne]
        rintro rfl
        exact hnot (List.mem_map.2 ⟨_, hm, rfl⟩)
      rw [List.lookup_cons, hne]
      exact ih hrest hm

theorem mem_of_lookup {α : Type} {members : List (String × α)} {k : String} {a : α}
    (h : members.lookup k = some a) : (k, a) ∈ members := by
  obtain ⟨front, back, rfl, _⟩ := List.lookup_eq_some_iff.1 h
  simp

theorem exists_lookup_of_mem {α : Type} {entries : List (String × α)} {name : String} {a : α}
    (h : (name, a) ∈ entries) : ∃ b, entries.lookup name = some b := by
  cases hlookup : entries.lookup name with
  | some b => exact ⟨b, rfl⟩
  | none => exact absurd rfl (bne_iff_ne.1 (List.lookup_eq_none_iff.1 hlookup _ h))

theorem lookup_eq_none {α : Type} {as : List (String × α)} {k : String} (h : k ∉ as.map (·.1)) :
    as.lookup k = none := by
  rw [List.lookup_eq_none_iff]
  intro e he
  rw [bne_iff_ne]
  rintro rfl
  exact h (List.mem_map_of_mem he)

theorem mem_insert {members : Members} {k : String} {v : Json} {m : String × Json}
    (h : m ∈ insert members k v) : m = (k, v) ∨ m ∈ members := by
  induction members with
  | nil => simpa [insert] using h
  | cons head rest ih =>
    simp only [insert] at h
    split at h
    · rcases List.mem_cons.1 h with h | h
      · exact .inl h
      · exact .inr (.tail _ h)
    · rcases List.mem_cons.1 h with h | h
      · exact .inr (h ▸ .head _)
      · exact (ih h).imp_right (.tail _)

theorem nodup_insert {members : Members} {k : String} {v : Json}
    (hk : (members.map (·.1)).Nodup) : ((insert members k v).map (·.1)).Nodup := by
  induction members with
  | nil => simp [insert]
  | cons head rest ih =>
    obtain ⟨hnot, hrest⟩ := List.nodup_cons.1 hk
    simp only [insert]
    split
    · rename_i heq
      subst heq
      exact hk
    · rename_i hne
      refine List.nodup_cons.2 ⟨fun hmem => ?_, ih hrest⟩
      obtain ⟨m, hm, hname⟩ := List.mem_map.1 hmem
      rcases mem_insert hm with rfl | hm
      · exact hne hname.symm
      · exact hnot (List.mem_map.2 ⟨m, hm, hname⟩)

end Members

theorem Json.DistinctKeys.insert {members : Members} {k : String} {v : Json}
    (hm : (Json.object members).DistinctKeys) (hv : v.DistinctKeys) :
    (Json.object (members.insert k v)).DistinctKeys := by
  cases hm with
  | object hk h =>
    refine .object (Members.nodup_insert hk) fun m hmem => ?_
    rcases Members.mem_insert hmem with rfl | hmem
    · exact hv
    · exact h m hmem

namespace Json

/-- What the readers of values, items and members make with `n` steps has distinct keys, if that
holds of the items and members that are read already. -/
def ReadsDistinct (n : Nat) : Prop :=
  (∀ room cs v rest, readValue n room cs = some (v, rest) → v.DistinctKeys) ∧
    (∀ room items cs v rest, (∀ w ∈ items, DistinctKeys w) →
      readItems n room items cs = some (v, rest) → v.DistinctKeys) ∧
    ∀ room members cs v rest, (object members).DistinctKeys →
      readMembers n room members cs = some (v, rest) → v.DistinctKeys

theorem readsDistinct_value {n : Nat} (h : ReadsDistinct n) {room : Nat} {cs rest : List Char}
    {v : Json} (hv : readValue (n + 1) room cs = some (v, rest)) : v.DistinctKeys := by
  obtain ⟨_, hitems, hmembers⟩ := h
  rw [readValue] at hv
  split at hv
  · cases hv
    exact .null
  · cases hv
    exact .bool _
  · cases hv
    exact .bool _
  · obtain ⟨⟨s, rest⟩, _, h⟩ := Option.map_eq_some_iff.1 hv
    cases h
    exact .string _
  · split at hv
    · cases hv
    · split at hv
      · cases hv
        exact .array (by simp)
      · exact hitems _ _ _ _ _ (by simp) hv
  · split at hv
    · cases hv
    · split at hv
      · cases hv
        exact .object (by simp) (by simp)
      · exact hmembers _ _ _ _ _ (.object (by simp) (by simp)) hv
  · obtain ⟨⟨m, rest⟩, _, h⟩ := Option.map_eq_some_iff.1 hv
    cases h
    exact .number _

theorem readsDistinct_items {n : Nat} (h : ReadsDistinct n) {room : Nat} {items : List Json}
    {cs rest : List Char} {v : Json} (hd : ∀ w ∈ items, DistinctKeys w)
    (hv : readItems (n + 1) room items cs = some (v, rest)) : v.DistinctKeys := by
  obtain ⟨hvalue, hitems, _⟩ := h
  rw [readItems] at hv
  split at hv
  · cases hv
  · rename_i w rest' hw
    have hcons : ∀ u ∈ w :: items, DistinctKeys u := by
      intro u hu
      rcases List.mem_cons.1 hu with rfl | hu
      · exact hvalue _ _ _ _ hw
      · exact hd u hu
    split at hv
    · exact hitems _ _ _ _ _ hcons hv
    · cases hv
      exact .array fun u hu => hcons u (List.mem_reverse.1 hu)
    · cases hv

theorem readsDistinct_members {n : Nat} (h : ReadsDistinct n) {room : Nat} {members : Members}
    {cs rest : List Char} {v : Json} (hd : (object members).DistinctKeys)
    (hv : readMembers (n + 1) room members cs = some (v, rest)) : v.DistinctKeys := by
  obtain ⟨hvalue, _, hmembers⟩ := h
  rw [readMembers] at hv
  split at hv
  · split at hv
    · cases hv
    · split at hv
      · split at hv
        · cases hv
        · rename_i w rest' hw
          have hins (k : String) := hd.insert (k := k) (hvalue _ _ _ _ hw)
          split at hv
          · obtain ⟨m, _, h⟩ := Option.map_eq_some_iff.1 hv
            cases h
            exact .number _
          · exact hmembers _ _ _ _ _ (hins _) hv
          · cases hv
            exact hins _
          · cases hv
      · cases hv
  · cases hv

theorem readsDistinct (n : Nat) : ReadsDistinct n := by
  induction n with
  | zero => exact ⟨by simp [readValue], by simp [readItems], by simp [readMembers]⟩
  | succ n ih =>
    exact ⟨fun _ _ _ _ => readsDistinct_value ih, fun _ _ _ _ _ => readsDistinct_items ih,
      fun _ _ _ _ _ => readsDistinct_members ih⟩

/-- A value that is read from text has distinct keys. -/
theorem distinctKeys_of_parse? {text : String} {v : Json} (h : parse? text = some v) :
    v.DistinctKeys := by
  simp only [parse?] at h
  split at h
  · rename_i w rest hw
    split at h
    · cases h
      exact (readsDistinct _).1 _ _ _ _ hw
    · cases h
  · cases h

end Json
end PayloadSchema
