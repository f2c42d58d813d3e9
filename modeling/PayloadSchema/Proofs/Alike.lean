import PayloadSchema.Proofs.Json.Reordered
import PayloadSchema.Proofs.Outcome
import PayloadSchema.Validation.Validator

/-!
Computations that end alike: both fail, with any errors, or both succeed with related results. What
is read from the entries of an object ends alike in every order of the entries.
-/
namespace PayloadSchema
open Outcome

inductive Alike {ε α β : Type} (R : α → β → Prop) : Except ε α → Except ε β → Prop
  | ok {a : α} {b : β} (h : R a b) : Alike R (.ok a) (.ok b)
  | error {d e : ε} : Alike R (.error d) (.error e)

namespace Alike
variable {ε α β γ δ : Type} {R : α → β → Prop} {S : γ → δ → Prop}

theorem bind {x : Except ε α} {y : Except ε β} {f : α → Except ε γ} {g : β → Except ε δ}
    (h : Alike R x y) (hfg : ∀ a b, R a b → Alike S (f a) (g b)) :
    Alike S (x >>= f) (y >>= g) := by
  cases h with
  | ok hab => exact hfg _ _ hab
  | error => exact .error

theorem map {x : Except ε α} {y : Except ε β} {f : α → γ} {g : β → δ} (h : Alike R x y)
    (hfg : ∀ a b, R a b → S (f a) (g b)) : Alike S (x.map f) (y.map g) := by
  cases h with
  | ok hab => exact .ok (hfg _ _ hab)
  | error => exact .error

theorem comp {T : α → γ → Prop} {Q : β → γ → Prop} {x : Except ε α} {y : Except ε β}
    {z : Except ε γ} (h : Alike R x y) (h' : Alike Q y z)
    (hT : ∀ a b c, R a b → Q b c → T a c) : Alike T x z := by
  cases h with
  | ok hab =>
    cases h' with
    | ok hbc => exact .ok (hT _ _ _ hab hbc)
  | error =>
    cases h' with
    | error => exact .error

theorem and_left {P : α → Prop} {x : Except ε α} {y : Except ε β} (h : Alike R x y)
    (hP : ∀ a, x = .ok a → P a) : Alike (fun a b => P a ∧ R a b) x y := by
  cases h with
  | ok hab => exact .ok ⟨hP _ rfl, hab⟩
  | error => exact .error

theorem of_iff {x y : Except ε Unit} (h : x = .ok () ↔ y = .ok ()) : Alike Eq x y := by
  cases x with
  | error d =>
    cases y with
    | error e => exact .error
    | ok => cases h.2 rfl
  | ok =>
    cases y with
    | error e => cases h.1 rfl
    | ok => exact .ok rfl

theorem exists_iff {x : Except ε α} {y : Except ε β} (h : Alike R x y) :
    (∃ a, x = .ok a) ↔ ∃ b, y = .ok b := by
  cases h <;> simp

theorem of_ok {x : Except ε α} {y : Except ε β} {a : α} {b : β} (h : Alike R x y)
    (hx : x = .ok a) (hy : y = .ok b) : R a b := by
  subst hx hy
  cases h with
  | ok hab => exact hab

theorem inside {segment : Segment} {x : Except ValidationError α} {y : Except ValidationError β}
    (h : Alike R x y) : Alike R (Validator.inside segment x) (Validator.inside segment y) := by
  cases h with
  | ok hab => exact .ok hab
  | error => exact .error

/-- A step for each entry of a list, in another order. -/
theorem mapM_perm {f : α → Except ε β} {as bs : List α} (h : as.Perm bs) :
    Alike List.Perm (as.mapM f) (bs.mapM f) := by
  induction h with
  | nil => exact .ok .nil
  | @cons a as bs _ ih =>
    rw [List.mapM_cons, List.mapM_cons]
    cases f a with
    | error => exact .error
    | ok b => exact ih.bind fun _ _ hp => .ok (hp.cons b)
  | swap a b as =>
    simp only [List.mapM_cons]
    cases f a with
    | error d => cases f b <;> exact .error
    | ok c =>
      cases f b with
      | error => exact .error
      | ok d =>
        cases as.mapM f with
        | error => exact .error
        | ok cs => exact .ok (.swap c d cs)
  | trans _ _ ih ih' => exact ih.comp ih' fun _ _ _ => .trans

end Alike

def keepKey {ε α γ : Type} (f : String → α → Except ε γ) (e : String × α) :
    Except ε (String × γ) := do
  let c ← f e.1 e.2
  pure (e.1, c)

section
variable {ε α β γ δ : Type} {R : α → β → Prop} {S : γ → δ → Prop}
  {f : String → α → Except ε γ} {g : String → β → Except ε δ}

theorem map_fst_of_keepKey {as : List (String × α)} {cs : List (String × γ)}
    (h : as.mapM (keepKey f) = .ok cs) : cs.map (·.1) = as.map (·.1) := by
  replace h := mapM_eq_ok.1 h
  induction h with
  | nil => rfl
  | cons hc _ ih =>
    obtain ⟨c, -, hc⟩ := bind_eq_ok.1 hc
    cases hc
    rw [List.map_cons, List.map_cons, ih]

theorem Alike.mapM_keyed {as : List (String × α)} {bs : List (String × β)} (h : Keyed R as bs)
    (hfg : ∀ k a b, R a b → Alike S (f k a) (g k b)) :
    Alike (Keyed S) (as.mapM (keepKey f)) (bs.mapM (keepKey g)) := by
  induction h with
  | nil => exact .ok .nil
  | @cons k a b as bs hab _ ih =>
    rw [List.mapM_cons, List.mapM_cons]
    have hhead : Alike (fun c d => c.1 = k ∧ d.1 = k ∧ S c.2 d.2) (keepKey f (k, a))
        (keepKey g (k, b)) :=
      (hfg k a b hab).bind fun _ _ hcd => .ok ⟨rfl, rfl, hcd⟩
    refine hhead.bind fun c d hcd => ih.bind fun cs ds hrest => .ok ?_
    obtain ⟨l, c⟩ := c
    obtain ⟨m, d⟩ := d
    obtain ⟨rfl, rfl, hcd⟩ := hcd
    exact .cons hcd hrest

/-- What is read from entries in any order. -/
theorem Alike.mapM_shuffled {as : List (String × α)} {bs : List (String × β)}
    (hk : (as.map (·.1)).Nodup) (h : Shuffled R as bs)
    (hfg : ∀ k a b, R a b → Alike S (f k a) (g k b)) :
    Alike (fun cs ds => (cs.map (·.1)).Nodup ∧ Shuffled S cs ds) (as.mapM (keepKey f))
      (bs.mapM (keepKey g)) := by
  obtain ⟨mid, h, hp⟩ := h
  have hrun : Alike (Shuffled S) (as.mapM (keepKey f)) (bs.mapM (keepKey g)) :=
    (mapM_keyed h hfg).comp (mapM_perm hp) fun _ ds _ hcd hp => ⟨ds, hcd, hp⟩
  refine hrun.and_left fun cs hcs => ?_
  rwa [map_fst_of_keepKey hcs]

end

end PayloadSchema
