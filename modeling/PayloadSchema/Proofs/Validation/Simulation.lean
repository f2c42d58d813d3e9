import PayloadSchema.Proofs.Validation.Reach

/-!
Two runs of validation side by side: over other registries, or with other limits on nesting. If
every step of the first run either does what the second one does or fails for a cause that is set
apart, so does the whole run.
-/
namespace PayloadSchema
open Outcome

def AgreesUnless {α : Type} (p : Cause → Prop) (x y : Except ValidationError α) : Prop :=
  x = y ∨ ∃ e, x = .error e ∧ p e.cause

namespace AgreesUnless
variable {α β : Type} {p : Cause → Prop} {x y : Except ValidationError α}

theorem refl (x : Except ValidationError α) : AgreesUnless p x x := .inl rfl

theorem fails {e : ValidationError} (h : p e.cause) : AgreesUnless p (.error e) y :=
  .inr ⟨e, rfl, h⟩

/-- What the first run succeeds with, the second one succeeds with. -/
theorem of_ok {a : α} (h : AgreesUnless p x y) (hx : x = .ok a) : y = .ok a := by
  rcases h with rfl | ⟨e, he, -⟩
  · exact hx
  · cases hx.symm.trans he

theorem bind {f g : α → Except ValidationError β} (h : AgreesUnless p x y)
    (hf : ∀ a, x = .ok a → AgreesUnless p (f a) (g a)) : AgreesUnless p (x >>= f) (y >>= g) := by
  rcases h with rfl | ⟨e, rfl, he⟩
  · cases x with
    | error e => exact refl _
    | ok a => exact hf a rfl
  · exact fails he

theorem map {f : α → β} (h : AgreesUnless p x y) : AgreesUnless p (x.map f) (y.map f) := by
  rcases h with rfl | ⟨e, rfl, he⟩
  · exact refl _
  · exact fails he

/-- The place of a failure does not change its cause. -/
theorem inside {segment : Segment} (h : AgreesUnless p x y) :
    AgreesUnless p (Validator.inside segment x) (Validator.inside segment y) := by
  rcases h with rfl | ⟨e, rfl, he⟩
  · exact refl _
  · exact .inr ⟨e.within segment, rfl, he⟩

theorem mapM {f g : α → Except ValidationError β} {xs : List α}
    (h : ∀ x ∈ xs, AgreesUnless p (f x) (g x)) : AgreesUnless p (xs.mapM f) (xs.mapM g) := by
  induction xs with
  | nil => exact refl _
  | cons x xs ih =>
    rw [List.mapM_cons, List.mapM_cons]
    refine (h x (.head _)).bind fun y _ => (ih fun x hx => h x (.tail _ hx)).bind fun ys _ => ?_
    exact refl _

theorem findM? {f g : α → Except ValidationError Bool} {xs : List α}
    (h : ∀ x ∈ xs, AgreesUnless p (f x) (g x)) : AgreesUnless p (xs.findM? f) (xs.findM? g) := by
  induction xs with
  | nil => exact refl _
  | cons x xs ih =>
    rw [List.findM?, List.findM?]
    refine (h x (.head _)).bind fun b _ => ?_
    cases b with
    | true => exact refl _
    | false => exact ih fun x hx => h x (.tail _ hx)

theorem anyM {f g : α → Except ValidationError Bool} {xs : List α}
    (h : ∀ x ∈ xs, AgreesUnless p (f x) (g x)) : AgreesUnless p (xs.anyM f) (xs.anyM g) := by
  induction xs with
  | nil => exact refl _
  | cons x xs ih =>
    rw [List.anyM_cons, List.anyM_cons]
    refine (h x (.head _)).bind fun b _ => ?_
    cases b with
    | true => exact refl _
    | false => exact ih fun x hx => h x (.tail _ hx)

end AgreesUnless

namespace Validator
variable {p : Cause → Prop} {v w : Validator} {raw : Json} {room room' n n' : Nat} {s : Schema}

/-- The room that two runs have left: the same under the same limit, or else no more for the first
run, whose limit is then a cause that is set apart. -/
inductive Slack (p : Cause → Prop) (v w : Validator) : Nat → Nat → Prop
  | even (h : v.maxDepth = w.maxDepth) (room : Nat) : Slack p v w room room
  | less {room room' : Nat} (hp : p (.depthExceeded v.maxDepth)) (hle : room ≤ room') :
      Slack p v w room room'

theorem tooDeep_eq (h : v.maxDepth = w.maxDepth) : v.tooDeep = w.tooDeep := by
  rw [tooDeep, tooDeep, h]

theorem Slack.add (h : Slack p v w room room') (k : Nat) : Slack p v w (room + k) (room' + k) := by
  cases h with
  | even h => exact .even h _
  | less hp hle => exact .less hp (Nat.add_le_add_right hle k)

theorem Slack.pred (h : Slack p v w (room + 1) room') :
    ∃ k, room' = k + 1 ∧ Slack p v w room k := by
  cases h with
  | even h => exact ⟨room, rfl, .even h _⟩
  | less hp hle => exact ⟨room' - 1, by omega, .less hp (by omega)⟩

def ResolveAgree (p : Cause → Prop) (v w : Validator) (s : Schema) : Prop :=
  AgreesUnless p (v.registry.resolve s) (w.registry.resolve s)

theorem acceptsShape_agrees (hs : v.registry.Throughout (ResolveAgree p v w) s)
    (hroom : Slack p v w room room') :
    AgreesUnless p (v.acceptsShape raw room s) (w.acceptsShape raw room' s) := by
  induction room generalizing room' s with
  | zero =>
    cases hroom with
    | even h =>
      rw [acceptsShape, acceptsShape, tooDeep_eq h]
      exact .refl _
    | less hp => exact .fails hp
  | succ room ih =>
    obtain ⟨k, rfl, hk⟩ := hroom.pred
    cases s with
    | ref name => exact hs.self.bind fun t ht => ih (hs.resolve ht) hk
    | union cs => exact .anyM fun t ht => ih (hs.part (.candidate ht)) hk
    | _ => exact .refl _

theorem choose_agrees {cs : List Schema}
    (hs : v.registry.Throughout (ResolveAgree p v w) (.union cs)) (hroom : Slack p v w room room') :
    AgreesUnless p (v.choose raw room cs) (w.choose raw room' cs) :=
  (AgreesUnless.findM? fun _ ht => acceptsShape_agrees (hs.part (.candidate ht)) hroom).bind
    fun _ _ => .refl _

theorem settle_agrees (hs : v.registry.Throughout (ResolveAgree p v w) s)
    (hroom : Slack p v w room room') (hn : Slack p v w n n') :
    AgreesUnless p (v.settle raw room n s) (w.settle raw room' n' s) := by
  induction n generalizing n' s with
  | zero =>
    cases hn with
    | even h =>
      rw [settle, settle, tooDeep_eq h]
      exact .refl _
    | less hp => exact .fails hp
  | succ n ih =>
    obtain ⟨k, rfl, hk⟩ := hn.pred
    cases s with
    | ref name => exact hs.self.bind fun t ht => ih (hs.resolve ht) hk
    | union cs =>
      refine (choose_agrees hs hroom).bind fun t ht => ?_
      exact ih (hs.part (.candidate (choose_mem ht))) hk
    | _ => exact .refl _

/-- How two runs go on with the parts of a container: both do and agree, both stand at the same
limit, or the first one stands at a limit that is set apart. -/
inductive PartsAgree (p : Cause → Prop) (v w : Validator) (s : Schema) : Inner → Inner → Prop
  | both {f g : Schema → Json → Except ValidationError Instance}
      (h : ∀ t, Schema.Part t s → ∀ part, AgreesUnless p (f t part) (g t part)) :
      PartsAgree p v w s (some f) (some g)
  | stop (h : v.maxDepth = w.maxDepth) : PartsAgree p v w s none none
  | cut {inner : Inner} (hp : p (.depthExceeded v.maxDepth)) : PartsAgree p v w s none inner

section
variable {α : Type} {inner inner' : Inner} {f g : Schema → Json → Except ValidationError Instance}

theorem enter_agrees {k k' : (Schema → Json → Except ValidationError Instance) →
      Except ValidationError α} (h : PartsAgree p v w s inner inner')
    (hk : ∀ f g, (∀ t, Schema.Part t s → ∀ part, AgreesUnless p (f t part) (g t part)) →
      AgreesUnless p (k f) (k' g)) :
    AgreesUnless p (v.enter inner >>= k) (w.enter inner' >>= k') := by
  cases h with
  | both h => exact hk _ _ h
  | stop h =>
    rw [enter, enter, tooDeep_eq h]
    exact .refl _
  | cut hp => exact .fails hp

theorem applyItems_agrees {f g : Json → Except ValidationError Instance} {i : Nat}
    {raws : List Json} (h : ∀ part, AgreesUnless p (f part) (g part)) :
    AgreesUnless p (applyItems f i raws) (applyItems g i raws) := by
  induction raws generalizing i with
  | nil => exact .refl _
  | cons raw raws ih => exact (h raw).inside.bind fun _ _ => ih.bind fun _ _ => .refl _

theorem applyDict_agrees {f g : Json → Except ValidationError Instance} {members : Members}
    (h : ∀ part, AgreesUnless p (f part) (g part)) :
    AgreesUnless p (applyDict f members) (applyDict g members) :=
  (AgreesUnless.mapM fun m _ => (h m.2).inside.bind fun _ _ => .refl _).bind fun _ _ => .refl _

theorem applyDeclared_agrees {field : Field}
    (h : ∀ part, AgreesUnless p (f field.schema part) (g field.schema part)) :
    AgreesUnless p (applyDeclared f field raw) (applyDeclared g field raw) := by
  unfold applyDeclared
  split
  · exact (h raw).map.inside
  · exact .refl _

theorem applyAdditional_agrees {policy : Policy} {name : String}
    (h : ∀ t, policy = .typed t → ∀ part, AgreesUnless p (f t part) (g t part)) :
    AgreesUnless p (applyAdditional f policy name raw) (applyAdditional g policy name raw) := by
  cases policy with
  | typed t => exact (h t rfl raw).inside.bind fun _ _ => .refl _
  | _ => exact .refl _

theorem applyMember_agrees {c : Composite} {m : String × Json}
    (h : ∀ t, Schema.Part t (.object c) → ∀ part, AgreesUnless p (f t part) (g t part)) :
    AgreesUnless p (applyMember f c m) (applyMember g c m) := by
  obtain ⟨name, raw⟩ := m
  cases hfield : c.field? name with
  | some field =>
    simp only [applyMember, hfield]
    have hpart := Schema.Part.field (Composite.field?_mem hfield).1
    exact (applyDeclared_agrees (h _ hpart)).bind fun _ _ => .refl _
  | none =>
    simp only [applyMember, hfield]
    exact (applyAdditional_agrees fun t ht => h t (.additional ht)).bind fun _ _ => .refl _

theorem applyComposite_agrees {c : Composite} (h : PartsAgree p v w (.object c) inner inner') :
    AgreesUnless p (v.applyComposite inner c raw) (w.applyComposite inner' c raw) := by
  cases raw with
  | object members =>
    refine enter_agrees h fun f g hfg => ?_
    split
    · exact .refl _
    · exact (AgreesUnless.mapM fun m _ => applyMember_agrees hfg).bind fun _ _ => .refl _
  | _ => exact .refl _

theorem applyHead_agrees (hs : s.IsHead) (h : PartsAgree p v w s inner inner') :
    AgreesUnless p (v.applyHead inner s raw) (w.applyHead inner' s raw) := by
  cases s with
  | primitive kind c => exact .refl _
  | list items least most =>
    cases raw with
    | array raws =>
      refine enter_agrees h fun f g hfg => (AgreesUnless.refl _).bind fun _ _ => ?_
      exact (applyItems_agrees (hfg items .items)).bind fun _ _ => .refl _
    | _ => exact .refl _
  | dict values =>
    cases raw with
    | object members =>
      refine enter_agrees h fun f g hfg => ?_
      exact (applyDict_agrees (hfg values .values)).bind fun _ _ => .refl _
    | _ => exact .refl _
  | object c => exact (applyComposite_agrees h).map
  | ref => exact hs.elim
  | union => exact hs.elim

end

/-- One level of the simulation: the parts are what has been shown for less room. -/
theorem parts_agree (hroom : Slack p v w room room')
    (ih : ∀ r < room, ∀ k, Slack p v w r k → ∀ t, Schema.Part t s → ∀ part,
      AgreesUnless p (v.apply r t part) (w.apply k t part)) :
    PartsAgree p v w s (v.parts room) (w.parts room') := by
  cases room with
  | zero =>
    cases hroom with
    | even h => exact .stop h
    | less hp => exact .cut hp
  | succ room =>
    obtain ⟨k, rfl, hk⟩ := hroom.pred
    exact .both (ih room room.lt_succ_self k hk)

/-- The simulation: where all schemas that can be reached are resolved alike, the runs agree. -/
theorem apply_agrees (hs : v.registry.Throughout (ResolveAgree p v w) s)
    (hroom : Slack p v w room room') :
    AgreesUnless p (v.apply room s raw) (w.apply room' s raw) := by
  induction room using Nat.strongRecOn generalizing room' s raw with
  | ind room ih =>
    rw [apply_eq, apply_eq]
    refine (settle_agrees hs hroom (hroom.add 2)).bind fun head hsettle => ?_
    obtain ⟨hreach, hhead⟩ := settle_eq_ok hsettle
    refine applyHead_agrees hhead (parts_agree hroom fun r hr k hk t ht part => ?_)
    exact ih r hr (fun u hu => hs u (hreach.trans (.part ht hu))) hk

end Validator
end PayloadSchema
