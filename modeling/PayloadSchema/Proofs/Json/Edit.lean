import PayloadSchema.Proofs.Json.Reordered

/-!
Members that are edited. Setting a key and removing one change what is found under that key only. A
removal does change the order: the last member moves to the place that falls free.
-/
namespace PayloadSchema
variable {α β : Type}

def lastFirst (xs : List α) : List α := xs.getLast?.toList ++ xs.dropLast

@[simp] theorem lastFirst_nil : lastFirst ([] : List α) = [] := rfl

@[simp] theorem lastFirst_append_singleton (xs : List α) (x : α) :
    lastFirst (xs ++ [x]) = x :: xs := by
  simp [lastFirst]

theorem lastFirst_perm (xs : List α) : (lastFirst xs).Perm xs := by
  rcases List.eq_nil_or_concat' xs with rfl | ⟨ys, y, rfl⟩
  · exact .nil
  · rw [lastFirst_append_singleton]
    exact (List.perm_append_singleton y ys).symm

theorem map_lastFirst (f : α → β) (xs : List α) :
    (lastFirst xs).map f = lastFirst (xs.map f) := by
  rcases List.eq_nil_or_concat' xs with rfl | ⟨ys, y, rfl⟩ <;> simp

theorem lastFirst_of_length_le_one {xs : List α} (h : xs.length ≤ 1) : lastFirst xs = xs := by
  match xs, h with
  | [], _ => rfl
  | [_], _ => rfl

/-- A test that only fails in a front part keeps the order of the rest. -/
theorem filter_lastFirst_append {test : α → Bool} {xs ys : List α}
    (hxs : ∀ x ∈ xs, test x = false) (hys : ∀ y ∈ ys, test y = true) :
    (lastFirst (xs ++ ys)).filter test = lastFirst ys := by
  have hnone {zs : List α} (h : ∀ z ∈ zs, test z = false) : zs.filter test = [] :=
    List.filter_eq_nil_iff.2 fun z hz => by simp [h z hz]
  rcases List.eq_nil_or_concat' ys with rfl | ⟨zs, z, rfl⟩
  · rw [List.append_nil]
    exact hnone fun x hx => hxs x ((lastFirst_perm xs).mem_iff.1 hx)
  · have hz : test z = true := hys z (by simp)
    have hzs : zs.filter test = zs := List.filter_eq_self.2 fun y hy => hys y (by simp [hy])
    rw [← List.append_assoc, lastFirst_append_singleton, lastFirst_append_singleton,
      List.filter_cons_of_pos hz, List.filter_append, hnone hxs, hzs, List.nil_append]

namespace Members
variable {members : Members} {k : String}

theorem mem_insert_self (members : Members) (k : String) (v : Json) :
    (k, v) ∈ insert members k v := by
  induction members with
  | nil => exact .head _
  | cons m rest ih =>
    simp only [insert]
    split
    · exact .head _
    · exact .tail _ ih

theorem insert_of_not_mem (h : k ∉ members.map (·.1)) (v : Json) :
    insert members k v = members ++ [(k, v)] := by
  induction members with
  | nil => rfl
  | cons m rest ih =>
    obtain ⟨hne, hrest⟩ := not_or.1 (mt List.mem_cons.2 h)
    rw [insert, if_neg (Ne.symm hne), ih hrest, List.cons_append]

theorem lookup_cons_ite {α : Type} (l : String) (a : α) (rest : List (String × α))
    (other : String) :
    ((l, a) :: rest).lookup other = if other = l then some a else rest.lookup other := by
  by_cases h : other = l
  · rw [if_pos h, h, List.lookup_cons_self]
  · rw [if_neg h, List.lookup_cons, beq_eq_false_iff_ne.2 h]

/-- A test of keys that a key passes does not hide it. -/
theorem lookup_filter {α : Type} (test : String → Bool) (entries : List (String × α))
    {name : String} (h : test name = true) :
    (entries.filter fun e => test e.1).lookup name = entries.lookup name := by
  induction entries with
  | nil => rfl
  | cons e rest ih =>
    obtain ⟨k, a⟩ := e
    rw [List.filter_cons, lookup_cons_ite]
    by_cases hk : test k = true
    · rw [if_pos hk, lookup_cons_ite, ih]
    · have hne : name ≠ k := by
        rintro rfl
        exact hk h
      rw [if_neg hk, if_neg hne, ih]

/-- Setting a key changes what is found under that key only. -/
theorem lookup_insert (members : Members) (k : String) (v : Json) (other : String) :
    (insert members k v).lookup other = if other = k then some v else members.lookup other := by
  induction members with
  | nil => exact lookup_cons_ite k v [] other
  | cons m rest ih =>
    obtain ⟨l, w⟩ := m
    simp only [insert]
    split
    · rename_i hl
      subst hl
      rw [lookup_cons_ite, lookup_cons_ite]
      split <;> rfl
    · rename_i hl
      rw [lookup_cons_ite, lookup_cons_ite, ih]
      by_cases h : other = l
      · rw [if_pos h, if_pos h, if_neg (h ▸ hl)]
      · rw [if_neg h, if_neg h]

/-- A key that is there stands somewhere for the first time. -/
theorem exists_split (h : k ∈ members.map (·.1)) :
    ∃ front v back, members = front ++ (k, v) :: back ∧ k ∉ front.map (·.1) := by
  induction members with
  | nil => cases h
  | cons m rest ih =>
    by_cases hm : k = m.1
    · exact ⟨[], m.2, rest, by rw [hm]; rfl, by simp⟩
    · obtain ⟨front, v, back, rfl, hfront⟩ := ih ((List.mem_cons.1 h).resolve_left hm)
      exact ⟨m :: front, v, back, rfl, List.not_mem_cons_of_ne_of_not_mem hm hfront⟩

theorem remove_of_not_mem (h : k ∉ members.map (·.1)) : remove members k = members := by
  have hnone : members.findIdx? (·.1 == k) = none := by
    rw [List.findIdx?_eq_none_iff]
    intro m hm
    rw [beq_eq_false_iff_ne]
    rintro rfl
    exact h (List.mem_map_of_mem hm)
  rw [remove, hnone]

/-- The last member takes the place of the one that is removed. -/
theorem remove_split {front back : Members} (hfront : k ∉ front.map (·.1)) (v : Json) :
    remove (front ++ (k, v) :: back) k = front ++ lastFirst back := by
  have hidx : (front ++ (k, v) :: back).findIdx? (·.1 == k) = some front.length := by
    rw [List.findIdx?_append, List.findIdx?_eq_none_iff.2, List.findIdx?_cons]
    · simp
    · intro m hm
      rw [beq_eq_false_iff_ne]
      rintro rfl
      exact hfront (List.mem_map_of_mem hm)
  rcases List.eq_nil_or_concat' back with rfl | ⟨rest, last, rfl⟩
  · simp [remove, hidx]
  · have hlast : (front ++ (k, v) :: (rest ++ [last])).getLast? = some last := by
      rw [← List.cons_append, ← List.append_assoc, List.getLast?_concat]
    rw [remove, hidx, hlast, lastFirst_append_singleton]
    simp only [List.set_append_right _ _ (Nat.le_refl front.length), Nat.sub_self,
      List.set_cons_zero]
    rw [← List.cons_append, ← List.append_assoc, List.dropLast_concat]

theorem remove_perm {front back : Members} (hfront : k ∉ front.map (·.1)) (v : Json) :
    (remove (front ++ (k, v) :: back) k).Perm (front ++ back) := by
  rw [remove_split hfront]
  exact (lastFirst_perm back).append_left front

theorem mem_of_mem_remove {m : String × Json} (h : m ∈ remove members k) : m ∈ members := by
  by_cases hk : k ∈ members.map (·.1)
  · obtain ⟨front, v, back, rfl, hfront⟩ := exists_split hk
    rcases List.mem_append.1 ((remove_perm hfront v).mem_iff.1 h) with h | h
    · exact List.mem_append_left _ h
    · exact List.mem_append_right _ (.tail _ h)
  · rwa [remove_of_not_mem hk] at h

/-- Removing a key changes what is found under that key only. -/
theorem lookup_remove (hn : (members.map (·.1)).Nodup) (k other : String) :
    (remove members k).lookup other = if other = k then none else members.lookup other := by
  by_cases hk : k ∈ members.map (·.1)
  · obtain ⟨front, v, back, rfl, hfront⟩ := exists_split hk
    rw [List.map_append, List.map_cons, List.nodup_middle, ← List.map_append] at hn
    obtain ⟨hnot, hn⟩ := List.nodup_cons.1 hn
    have hperm : (remove (front ++ (k, v) :: back) k).Perm (front ++ back) := remove_perm hfront v
    rw [← lookup_perm hn hperm.symm]
    split
    · rename_i h
      rw [h, lookup_eq_none hnot]
    · rename_i h
      rw [List.lookup_append, List.lookup_append, lookup_cons_ite, if_neg h]
  · rw [remove_of_not_mem hk]
    split
    · rename_i h
      rw [h, lookup_eq_none hk]
    · rfl

end Members
end PayloadSchema
