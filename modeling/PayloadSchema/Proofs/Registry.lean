import PayloadSchema.Registry

/-! What can be found in a registry: every schema that was registered under a name of its own. -/
namespace PayloadSchema.Registry

theorem find?_of_mem {es : List (SchemaName × Schema)}
    (hs : es.Pairwise fun a b => a.1.text < b.1.text) {e : SchemaName × Schema} (he : e ∈ es) :
    es.find? (·.1.text == e.1.text) = some e := by
  induction es with
  | nil => cases he
  | cons d es ih =>
    obtain ⟨hd, hes⟩ := List.pairwise_cons.1 hs
    rcases List.mem_cons.1 he with rfl | he
    · simp
    · have hne : (d.1.text == e.1.text) = false := by
        rw [beq_eq_false_iff_ne]
        intro heq
        have hlt := hd e he
        rw [heq] at hlt
        exact String.lt_irrefl _ hlt
      rw [List.find?_cons, hne]
      exact ih hes he

theorem get?_of_mem {r : Registry} {name : SchemaName} {s : Schema} (h : (name, s) ∈ r.entries) :
    r.get? name.text = some s := by
  rw [get?, find?_of_mem r.sorted h]
  rfl

theorem contains_iff {r : Registry} {text : String} :
    r.contains text = true ↔ ∃ e ∈ r.entries, e.1.text = text := by
  simp [contains, List.any_eq_true]

theorem get?_eq_none_iff {r : Registry} {text : String} :
    r.get? text = none ↔ r.contains text = false := by
  simp [get?, contains]

theorem register_of_fresh {r : Registry} {name : SchemaName} (s : Schema)
    (h : ∀ e ∈ r.entries, e.1.text ≠ name.text) :
    ∃ r', r.register name s = .ok r' ∧ ∀ e, e ∈ r'.entries ↔ e = (name, s) ∨ e ∈ r.entries := by
  have hnot : ¬r.contains name.text = true := by
    intro hc
    obtain ⟨e, he, heq⟩ := List.any_eq_true.1 hc
    exact h e he (beq_iff_eq.1 heq)
  exact ⟨_, dif_neg hnot, fun e => mem_place⟩

/-- Schemas whose names are new and differ from each other are all registered. -/
theorem registerAll_of_nodup {r : Registry} {es : List (SchemaName × Schema)}
    (hn : (es.map (·.1.text)).Nodup)
    (hfresh : ∀ d ∈ r.entries, ∀ e ∈ es, d.1.text ≠ e.1.text) :
    (r.registerAll es).2 = none ∧
      ∀ e, e ∈ (r.registerAll es).1.entries ↔ e ∈ es ∨ e ∈ r.entries := by
  induction es generalizing r with
  | nil => simp [registerAll]
  | cons e es ih =>
    obtain ⟨name, s⟩ := e
    obtain ⟨hnot, hn⟩ := List.nodup_cons.1 hn
    obtain ⟨r', hr', hmem⟩ := register_of_fresh s fun d hd => hfresh d hd (name, s) (.head _)
    have hfresh' : ∀ d ∈ r'.entries, ∀ e ∈ es, d.1.text ≠ e.1.text := by
      intro d hd e he
      rcases (hmem d).1 hd with rfl | hd
      · exact fun heq => hnot (List.mem_map.2 ⟨e, he, heq.symm⟩)
      · exact hfresh d hd e (.tail _ he)
    obtain ⟨hnone, hall⟩ := ih hn hfresh'
    simp only [registerAll, hr']
    refine ⟨hnone, fun e => ?_⟩
    rw [hall, hmem, List.mem_cons, or_left_comm, or_assoc]

end PayloadSchema.Registry
