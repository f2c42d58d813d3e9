import PayloadSchema.Proofs.Validation.Lossless
import PayloadSchema.Proofs.Validation.UnionEncoding

/-!
Unions that keep their choice: a value that an alternative has made goes back to that alternative in
its JSON form. Two kinds of unions do: leaves of which no earlier one may take over a later one, and
alternatives that look at the form of a value only.
-/
namespace PayloadSchema
open Outcome

namespace Validator

/-- Leaves keep their choice if no earlier one may take over what a later one makes. -/
theorem keepsChoice_primitives {v : Validator} {leaves : List (Kind × Constraints)}
    (hlate : leaves.Pairwise fun a b => ∀ raw, a.1.mayTakeOver b.1 raw = false) :
    KeepsChoice v (.union (leaves.map fun l => Schema.primitive l.1 l.2)) := by
  intro cs hcs room raw t i hc hi
  cases hcs
  have hfound := choose_eq_ok.1 hc
  obtain ⟨r, rfl⟩ : ∃ r, room = r + 1 := by
    cases room with
    | zero => cases acceptsShape_of_choose hc
    | succ r => exact ⟨r, rfl⟩
  rw [findM?_primitives, Except.ok.injEq, Option.map_eq_some_iff] at hfound
  obtain ⟨chosen, hfind, rfl⟩ := hfound
  have hs : (Schema.primitive chosen.1 chosen.2).IsHead := trivial
  rw [apply_head hs] at hi
  obtain ⟨hconvert, -⟩ := Kind.coerce_eq_ok.1 hi
  obtain ⟨before, after, rfl, hbefore⟩ := (List.find?_eq_some_iff_append.1 hfind).2
  obtain ⟨j, hj, -⟩ := Kind.exists_convert_encode hconvert
  have hnone : before.find? (·.1.accepts i.encode) = none := by
    rw [List.find?_eq_none]
    intro earlier hmem haccepts
    have hrejects : earlier.1.accepts raw = false := by simpa using hbefore earlier hmem
    have htaken := Kind.mayTakeOver_of_accepts hrejects hconvert (by simpa using haccepts)
    have hnot := (List.pairwise_append.1 hlate).2.2 earlier hmem chosen (.head _) raw
    rw [hnot] at htaken
    cases htaken
  have hagain : (before ++ chosen :: after).find? (·.1.accepts i.encode) = some chosen := by
    simp [List.find?_append, hnone, Kind.accepts_of_convert hj]
  rw [choose_eq_ok, findM?_primitives, hagain]
  rfl

end Validator

inductive Json.Form where
  | null
  | boolean
  | number
  | text
  | list
  | object
  deriving DecidableEq

def Json.form : Json → Json.Form
  | null => .null
  | bool _ => .boolean
  | number _ => .number
  | string _ => .text
  | array _ => .list
  | object _ => .object

/-- The kinds that hold a value as it was sent look at its form only. -/
theorem Kind.accepts_of_form {kind : Kind} {raw raw' : Json} (hk : kind.isVerbatim = true)
    (hform : raw.form = raw'.form) : kind.accepts raw = kind.accepts raw' := by
  cases kind with
  | string | boolean | null => cases raw <;> cases raw' <;> first | rfl | cases hform
  | any => rfl
  | _ => cases hk

/-- Schemas that look at the form of a value only, also through references and unions. -/
inductive Registry.ByForm (r : Registry) : Schema → Prop
  | leaf {kind : Kind} {c : Constraints} (hk : kind.isVerbatim = true) :
    ByForm r (.primitive kind c)
  | list {s : Schema} {least most : Option Nat} : ByForm r (.list s least most)
  | dict {s : Schema} : ByForm r (.dict s)
  | object {c : Composite} : ByForm r (.object c)
  | ref {name : SchemaName} {t : Schema} (hr : r.resolve (.ref name) = .ok t) (h : ByForm r t) :
      ByForm r (.ref name)
  | union {cs : List Schema} (h : ∀ t ∈ cs, ByForm r t) : ByForm r (.union cs)

namespace Validator
variable {v : Validator} {raw raw' : Json} {i : Instance} {s : Schema} {cs : List Schema}

theorem acceptsShape_of_form {p : Cause → Prop} (hs : v.registry.ByForm s)
    (hform : raw.form = raw'.form) (room : Nat) :
    AgreesUnless p (v.acceptsShape raw room s) (v.acceptsShape raw' room s) := by
  induction hs generalizing room with
  | leaf hk =>
    cases room with
    | zero => exact .refl _
    | succ room =>
      rw [acceptsShape, acceptsShape, Kind.accepts_of_form hk hform]
      exact .refl _
  | list | dict | object =>
    cases room with
    | zero => exact .refl _
    | succ room => cases raw <;> cases raw' <;> first | exact .refl _ | cases hform
  | ref hr _ ih =>
    cases room with
    | zero => exact .refl _
    | succ room =>
      rw [acceptsShape, acceptsShape, hr]
      exact ih room
  | union _ ih =>
    cases room with
    | zero => exact .refl _
    | succ room => exact .anyM fun t ht => ih t ht room

theorem form_encode (hs : v.registry.ByForm s) {room : Nat} (h : v.apply room s raw = .ok i) :
    i.encode.form = raw.form := by
  induction hs with
  | @leaf kind c hk =>
    have hhead : (Schema.primitive kind c).IsHead := trivial
    rw [apply_head hhead] at h
    rw [Kind.encode_of_convert hk (Kind.coerce_eq_ok.1 h).1]
  | list | dict | object =>
    obtain ⟨_, -, hc⟩ := container_of_apply (by trivial) (by simp) h
    cases hc
    rfl
  | ref hr _ ih =>
    rw [apply_ref_eq, hr] at h
    exact ih h
  | union _ ih =>
    rw [apply_union_eq] at h
    obtain ⟨t, ht, h⟩ := bind_eq_ok.1 h
    exact ih t (choose_mem ht) h

/-- Alternatives that look at the form of a value keep their choice, since a value is written in the
form in which it was sent. -/
theorem keepsChoice_of_form (hs : ∀ t ∈ cs, v.registry.ByForm t) :
    KeepsChoice v (.union cs) := by
  intro cs' hcs room raw t i hc hi
  cases hcs
  have hform := form_encode (hs t (choose_mem hc)) hi
  have hagrees : AgreesUnless (fun _ => True) (cs.findM? (v.acceptsShape raw room))
      (cs.findM? (v.acceptsShape i.encode room)) :=
    .findM? fun t ht => acceptsShape_of_form (hs t ht) hform.symm room
  exact choose_eq_ok.2 (hagrees.of_ok (choose_eq_ok.1 hc))

end Validator
end PayloadSchema
