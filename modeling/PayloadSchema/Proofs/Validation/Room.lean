import PayloadSchema.Proofs.Validation.Simulation

/-! More room for nesting: what is settled stays settled. -/
namespace PayloadSchema.Validator
open Outcome
variable {v : Validator} {raw : Json} {room room' : Nat}

theorem choose_mono {cs : List Schema} {s : Schema} (hle : room ≤ room')
    (h : v.choose raw room cs = .ok s) : v.choose raw room' cs = .ok s :=
  (choose_agrees (p := fun _ => True) (fun _ _ => .refl _) (.less trivial hle)).of_ok h

theorem settle_mono {n n' : Nat} {s head : Schema} (hle : room ≤ room') (hn : n ≤ n')
    (h : v.settle raw room n s = .ok head) : v.settle raw room' n' s = .ok head :=
  (settle_agrees (p := fun _ => True) (fun _ _ => .refl _) (.less trivial hle)
    (.less trivial hn)).of_ok h

theorem apply_mono {s : Schema} {i : Instance} (hle : room ≤ room')
    (h : v.apply room s raw = .ok i) : v.apply room' s raw = .ok i :=
  (apply_agrees (p := fun _ => True) (fun _ _ => .refl _) (.less trivial hle)).of_ok h

/-- A reference yields what the schema that it stands for yields. -/
theorem exists_of_apply_ref {name : SchemaName} {i : Instance}
    (h : v.apply room (.ref name) raw = .ok i) :
    ∃ s, v.registry.resolve (.ref name) = .ok s ∧ v.apply room s raw = .ok i := by
  rw [apply_eq] at h
  obtain ⟨head, hs, h⟩ := bind_eq_ok.1 h
  obtain ⟨s, hr, hs⟩ := bind_eq_ok.1 hs
  refine ⟨s, hr, ?_⟩
  rw [apply_eq]
  exact bind_eq_ok.2 ⟨head, settle_mono (Nat.le_refl room) (by omega) hs, h⟩

/-- A union yields what one of its alternatives yields. -/
theorem exists_of_apply_union {cs : List Schema} {i : Instance}
    (h : v.apply room (.union cs) raw = .ok i) : ∃ s ∈ cs, v.apply room s raw = .ok i := by
  rw [apply_eq] at h
  obtain ⟨head, hs, h⟩ := bind_eq_ok.1 h
  obtain ⟨s, hc, hs⟩ := bind_eq_ok.1 hs
  refine ⟨s, choose_mem hc, ?_⟩
  rw [apply_eq]
  exact bind_eq_ok.2 ⟨head, settle_mono (Nat.le_refl room) (by omega) hs, h⟩

end PayloadSchema.Validator
