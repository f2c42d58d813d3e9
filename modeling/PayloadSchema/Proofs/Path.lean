import PayloadSchema.Path
import PayloadSchema.Proofs.Number.Digits

/-! How locations are written, segment by segment from the root inwards. -/
namespace PayloadSchema

inductive Segment.Named : Segment → String → Prop
  | field (name : String) : Named (.field name) name
  | key (name : String) : Named (.key name) name

namespace Path
variable {p : Path} {s : Segment} {t : String}

/-- Positions stand in brackets, and names are set off from what is before them by a dot. -/
inductive Rendered : Path → String → Prop
  | root : Rendered [] "(root)"
  | name {s : Segment} {name : String} (hs : s.Named name) : Rendered [s] name
  | index (i : Nat) : Rendered [.index i] ("[" ++ toString i ++ "]")
  | nameAfter {p : Path} {t : String} {s : Segment} {name : String} (hp : p ≠ [])
      (h : Rendered p t) (hs : s.Named name) : Rendered (p ++ [s]) (t ++ "." ++ name)
  | indexAfter {p : Path} {t : String} (hp : p ≠ []) (h : Rendered p t) (i : Nat) :
      Rendered (p ++ [.index i]) (t ++ "[" ++ toString i ++ "]")

theorem text_singleton (s : Segment) : text [s] = s.text := by
  simp [text]

theorem text_concat (hp : p ≠ []) (s : Segment) : text (p ++ [s]) = p.text ++ joint s := by
  cases p with
  | nil => exact absurd rfl hp
  | cons first rest => simp [text, String.append_assoc]

theorem text_of_named {name : String} (hs : s.Named name) : s.text = name := by
  cases hs <;> rfl

theorem joint_of_named {name : String} (hs : s.Named name) : joint s = "." ++ name := by
  cases hs <;> rfl

theorem joint_index (i : Nat) : joint (.index i) = "[" ++ toString i ++ "]" := by
  rw [joint, Segment.text, natText_eq]

theorem named_or_index (s : Segment) : (∃ name, s.Named name) ∨ ∃ i, s = .index i := by
  cases s with
  | field name => exact .inl ⟨name, .field name⟩
  | index i => exact .inr ⟨i, rfl⟩
  | key name => exact .inl ⟨name, .key name⟩

theorem rendered_text (p : Path) : p.Rendered p.text := by
  induction p using List.reverseRecOn with
  | nil => exact .root
  | append_singleton p s ih =>
    by_cases hp : p = []
    · subst hp
      rw [List.nil_append, text_singleton]
      rcases named_or_index s with ⟨name, hs⟩ | ⟨i, rfl⟩
      · rw [text_of_named hs]
        exact .name hs
      · rw [Segment.text, natText_eq]
        exact .index i
    · rw [text_concat hp]
      rcases named_or_index s with ⟨name, hs⟩ | ⟨i, rfl⟩
      · rw [joint_of_named hs, ← String.append_assoc]
        exact .nameAfter hp ih hs
      · rw [joint_index, ← String.append_assoc, ← String.append_assoc]
        exact .indexAfter hp ih i

theorem Rendered.eq_text (h : p.Rendered t) : t = p.text := by
  induction h with
  | root => rfl
  | name hs => rw [text_singleton, text_of_named hs]
  | index i => rw [text_singleton, Segment.text, natText_eq]
  | nameAfter hp _ hs ih => rw [text_concat hp, ih, joint_of_named hs, String.append_assoc]
  | indexAfter hp _ i ih =>
    rw [text_concat hp, ih, joint_index, ← String.append_assoc, ← String.append_assoc]

end Path
end PayloadSchema
