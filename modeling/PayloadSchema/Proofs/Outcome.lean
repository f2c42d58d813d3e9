import Mathlib.Data.List.Forall2

/-!
Computations that may fail, and the lists that they run over: what an outcome says about the steps
that led to it, and what two lists with related items have in common.
-/
namespace PayloadSchema.Outcome
variable {ε ε' α β : Type}

theorem ok_bind {a : α} {f : α → Except ε β} : (Except.ok a >>= f) = f a := rfl

theorem bind_eq_ok {x : Except ε α} {f : α → Except ε β} {b : β} :
    x >>= f = .ok b ↔ ∃ a, x = .ok a ∧ f a = .ok b := by
  cases x <;> simp [bind, Except.bind]

/-- A step that only checks. -/
theorem check_bind_eq_ok {x : Except ε Unit} {f : Unit → Except ε β} {b : β} :
    x >>= f = .ok b ↔ x = .ok () ∧ f () = .ok b := by
  cases x <;> simp [bind, Except.bind]

theorem ite_error_eq_ok {p : Prop} [Decidable p] {e : ε} {f : α → Except ε β} {y : Except ε β}
    {b : β} : (if p then Except.error e >>= f else y) = .ok b ↔ ¬p ∧ y = .ok b := by
  split <;> simp_all [bind, Except.bind]

theorem ite_else_error_eq_ok {p : Prop} [Decidable p] {e : ε} {f : α → Except ε β}
    {y : Except ε β} {b : β} :
    (if p then y else Except.error e >>= f) = .ok b ↔ p ∧ y = .ok b := by
  split <;> simp_all [bind, Except.bind]

theorem bind_eq_error {x : Except ε α} {f : α → Except ε β} {e : ε} :
    x >>= f = .error e ↔ x = .error e ∨ ∃ a, x = .ok a ∧ f a = .error e := by
  cases x <;> simp [bind, Except.bind]

theorem bind_pure_eq_error {x : Except ε α} {g : α → β} {e : ε} :
    (x >>= fun a => pure (g a)) = .error e ↔ x = .error e := by
  cases x <;> simp [bind, Except.bind, pure, Except.pure]

theorem map_eq_ok {x : Except ε α} {f : α → β} {b : β} :
    x.map f = .ok b ↔ ∃ a, x = .ok a ∧ f a = b := by
  cases x <;> simp [Except.map]

theorem map_eq_error {x : Except ε α} {f : α → β} {e : ε} :
    x.map f = .error e ↔ x = .error e := by
  cases x <;> simp [Except.map]

theorem mapError_eq_ok {x : Except ε α} {f : ε → ε'} {a : α} :
    x.mapError f = .ok a ↔ x = .ok a := by
  cases x <;> simp [Except.mapError]

theorem mapError_eq_error {x : Except ε α} {f : ε → ε'} {e : ε'} :
    x.mapError f = .error e ↔ ∃ d, x = .error d ∧ f d = e := by
  cases x <;> simp [Except.mapError]

theorem mapM_eq_ok {f : α → Except ε β} {xs : List α} {ys : List β} :
    xs.mapM f = .ok ys ↔ List.Forall₂ (fun x y => f x = .ok y) xs ys := by
  induction xs generalizing ys with
  | nil => cases ys <;> simp [pure, Except.pure]
  | cons x xs ih =>
    rw [List.mapM_cons, bind_eq_ok]
    constructor
    · rintro ⟨y, hy, h⟩
      obtain ⟨zs, hzs, h⟩ := bind_eq_ok.1 h
      cases h
      exact .cons hy (ih.1 hzs)
    · intro h
      cases h with
      | cons hy hys => exact ⟨_, hy, bind_eq_ok.2 ⟨_, ih.2 hys, rfl⟩⟩

theorem mapM_eq_some {f : α → Option β} {xs : List α} {ys : List β} :
    xs.mapM f = some ys ↔ List.Forall₂ (fun x y => f x = some y) xs ys := by
  induction xs generalizing ys with
  | nil => cases ys <;> simp
  | cons x xs ih =>
    simp only [List.mapM_cons, Option.bind_eq_bind, Option.bind_eq_some_iff]
    constructor
    · rintro ⟨y, hy, zs, hzs, h⟩
      cases h
      exact .cons hy (ih.1 hzs)
    · intro h
      cases h with
      | cons hy hys => exact ⟨_, hy, _, ih.2 hys, rfl⟩

theorem mapM_eq_error {f : α → Except ε β} {xs : List α} {e : ε} (h : xs.mapM f = .error e) :
    ∃ x ∈ xs, f x = .error e := by
  induction xs with
  | nil => simp [pure, Except.pure] at h
  | cons x xs ih =>
    rw [List.mapM_cons] at h
    rcases bind_eq_error.1 h with h | ⟨y, hy, h⟩
    · exact ⟨x, .head _, h⟩
    · rcases bind_eq_error.1 h with h | ⟨ys, hys, h⟩
      · obtain ⟨z, hz, hf⟩ := ih h
        exact ⟨z, .tail _ hz, hf⟩
      · cases h

theorem exists_mapM_eq_ok {f : α → Except ε β} {xs : List α} (h : ∀ x ∈ xs, ∃ y, f x = .ok y) :
    ∃ ys, xs.mapM f = .ok ys := by
  cases hf : xs.mapM f with
  | ok ys => exact ⟨ys, rfl⟩
  | error e =>
    obtain ⟨x, hx, he⟩ := mapM_eq_error hf
    obtain ⟨y, hy⟩ := h x hx
    cases hy.symm.trans he

theorem mapM_congr {f g : α → Except ε β} {xs : List α} (h : ∀ x ∈ xs, f x = g x) :
    xs.mapM f = xs.mapM g := by
  induction xs with
  | nil => rfl
  | cons x xs ih =>
    rw [List.forall_mem_cons] at h
    rw [List.mapM_cons, List.mapM_cons, h.1, ih h.2]

/-- A search that finds something finds a member that passes the test. -/
theorem findM?_eq_ok_some {p : α → Except ε Bool} {xs : List α} {x : α}
    (h : xs.findM? p = .ok (some x)) : x ∈ xs ∧ p x = .ok true := by
  induction xs with
  | nil => simp [List.findM?, pure, Except.pure] at h
  | cons y ys ih =>
    rw [List.findM?] at h
    obtain ⟨b, hb, h⟩ := bind_eq_ok.1 h
    cases b with
    | true =>
      cases h
      exact ⟨.head _, hb⟩
    | false => exact ⟨.tail _ (ih h).1, (ih h).2⟩

theorem findM?_eq_error {p : α → Except ε Bool} {xs : List α} {e : ε}
    (h : xs.findM? p = .error e) : ∃ x ∈ xs, p x = .error e := by
  induction xs with
  | nil => simp [List.findM?, pure, Except.pure] at h
  | cons y ys ih =>
    rw [List.findM?] at h
    rcases bind_eq_error.1 h with h | ⟨b, hb, h⟩
    · exact ⟨y, .head _, h⟩
    · cases b with
      | true => cases h
      | false =>
        obtain ⟨z, hz, hp⟩ := ih h
        exact ⟨z, .tail _ hz, hp⟩

theorem findM?_map {f : β → α} {p : α → Except ε Bool} (xs : List β) :
    (xs.map f).findM? p = (xs.findM? fun x => p (f x)).map (Option.map f) := by
  induction xs with
  | nil => rfl
  | cons x xs ih =>
    rw [List.map_cons, List.findM?, List.findM?, ih]
    cases p (f x) with
    | error e => rfl
    | ok b => cases b <;> rfl

/-- Some member passes a test if a search finds one. -/
theorem anyM_eq_findM? {p : α → Except ε Bool} {xs : List α} :
    xs.anyM p = (xs.findM? p).map Option.isSome := by
  induction xs with
  | nil => rfl
  | cons y ys ih =>
    rw [List.anyM_cons, List.findM?, ih]
    cases p y with
    | error e => rfl
    | ok b => cases b <;> rfl

theorem anyM_eq_error {p : α → Except ε Bool} {xs : List α} {e : ε}
    (h : xs.anyM p = .error e) : ∃ x ∈ xs, p x = .error e := by
  rw [anyM_eq_findM?] at h
  exact findM?_eq_error (map_eq_error.1 h)

theorem anyM_eq_true {p : α → Except ε Bool} {xs : List α} :
    xs.anyM p = .ok true ↔ ∃ x, xs.findM? p = .ok (some x) := by
  rw [anyM_eq_findM?, map_eq_ok]
  constructor
  · rintro ⟨found, hfound, hsome⟩
    obtain ⟨x, rfl⟩ := Option.isSome_iff_exists.1 hsome
    exact ⟨x, hfound⟩
  · rintro ⟨x, hx⟩
    exact ⟨some x, hx, rfl⟩

theorem exists_of_mem_right {R : α → β → Prop} {xs : List α} {ys : List β}
    (h : List.Forall₂ R xs ys) {y : β} (hy : y ∈ ys) : ∃ x ∈ xs, R x y := by
  induction h with
  | nil => cases hy
  | cons hr _ ih =>
    rcases List.mem_cons.1 hy with rfl | hy
    · exact ⟨_, .head _, hr⟩
    · obtain ⟨x, hx, hxy⟩ := ih hy
      exact ⟨x, .tail _ hx, hxy⟩

theorem forall₂_trans {γ : Type} {R : α → β → Prop} {S : β → γ → Prop}
    {T : α → γ → Prop} (h : ∀ x y z, R x y → S y z → T x z) {xs : List α} {ys : List β}
    {zs : List γ} (hr : List.Forall₂ R xs ys) (hs : List.Forall₂ S ys zs) :
    List.Forall₂ T xs zs := by
  induction hr generalizing zs with
  | nil =>
    cases hs
    exact .nil
  | cons hxy _ ih =>
    cases hs with
    | cons hyz hs => exact .cons (h _ _ _ hxy hyz) (ih hs)

/-- A position finds related items, or none, in both lists. -/
theorem rel_getElem? {R : α → β → Prop} {as : List α} {bs : List β}
    (h : List.Forall₂ R as bs) (n : Nat) : Option.Rel R as[n]? bs[n]? := by
  induction h generalizing n with
  | nil => exact .none
  | cons hab _ ih =>
    cases n with
    | zero => exact .some hab
    | succ n => exact ih n

theorem exists_of_rel {R : α → β → Prop} {x : α} {y? : Option β}
    (h : Option.Rel R (some x) y?) : ∃ y, y? = some y ∧ R x y := by
  cases h with
  | some h => exact ⟨_, rfl, h⟩

/-- A look-up finds the image of what it finds. -/
theorem lookup_map {κ : Type} [BEq κ] (g : α → β) (entries : List (κ × α)) (k : κ) :
    (entries.map fun e => (e.1, g e.2)).lookup k = (entries.lookup k).map g := by
  induction entries with
  | nil => rfl
  | cons e rest ih =>
    rw [List.map_cons, List.lookup_cons, List.lookup_cons, ih]
    cases k == e.1 <;> rfl

theorem length_eraseDups_le [BEq α] : (xs : List α) → xs.eraseDups.length ≤ xs.length
  | [] => Nat.le_refl _
  | x :: xs => by
    have hle := length_eraseDups_le (xs.filter fun y => !y == x)
    have hfilter := List.length_filter_le (fun y => !y == x) xs
    rw [List.eraseDups_cons, List.length_cons, List.length_cons]
    omega
termination_by xs => xs.length
decreasing_by exact Nat.lt_succ_of_le (List.length_filter_le _ _)

theorem nodup_of_length_eraseDups [DecidableEq α] {xs : List α}
    (h : xs.length ≤ xs.eraseDups.length) : xs.Nodup := by
  induction xs with
  | nil => exact .nil
  | cons x xs ih =>
    rw [List.eraseDups_cons, List.length_cons, List.length_cons] at h
    have hle := length_eraseDups_le (xs.filter fun y => !y == x)
    have hfilter := List.length_filter_le (fun y => !y == x) xs
    have hall : xs.filter (fun y => !y == x) = xs :=
      List.length_filter_eq_length_iff.1 (by omega) |> List.filter_eq_self.2
    rw [hall] at h
    refine List.nodup_cons.2 ⟨fun hx => ?_, ih (by omega)⟩
    have hne := List.filter_eq_self.1 hall x hx
    simp at hne

end PayloadSchema.Outcome
