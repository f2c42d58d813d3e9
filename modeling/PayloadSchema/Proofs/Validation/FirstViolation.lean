import Mathlib
import PayloadSchema.Proofs.Validation.Rule

/-!
Which constraint is reported. Leaves other than floats are accepted if and only if all constraints
hold, and otherwise the first one that does not hold, in a fixed order, is reported.
-/
namespace PayloadSchema

open Constraints in
/-- A leaf that is no float is accepted if and only if all its constraints hold, and otherwise the
first one that does not hold is reported. -/
theorem Kind.coerce_reports_first {kind : Kind} {c : Constraints} {raw : Json} {i : Instance}
    (hk : kind ≠ .float) (h : kind.convert raw = .value i) :
    (kind.coerce c raw = .ok i ↔ ∀ r : Rule, r.Holds c i) ∧
      ((¬∀ r : Rule, r.Holds c i) →
        ∃ (before : List Rule) (r : Rule) (after : List Rule) (detail : String),
          Rule.inOrder = before ++ r :: after ∧ (∀ q ∈ before, q.Holds c i) ∧ ¬r.Holds c i ∧
            kind.coerce c raw = .error (.here (.constraint r.name detail))) := by
  have hslack : i.slack = 0 := by
    refine Instance.slack_of_kind? ?_
    rw [(convert_eq_value h).1]
    exact fun heq => hk (Option.some.inj heq)
  have hok : c.check i = .ok () ↔ ∀ r : Rule, r.Holds c i := by
    rw [check_eq_ok hslack, Satisfied, hslack]
    rfl
  rw [coerce_eq_ok, and_iff_right h, hok]
  refine ⟨Iff.rfl, fun hnot => ?_⟩
  obtain ⟨before, r, after, detail, horder, hbefore, hr, hcheck⟩ :=
    runs_check.exists_first (mt hok.1 hnot)
  rw [hslack] at hbefore hr
  rw [neg_zero] at hr
  refine ⟨before, r, after, detail, horder, hbefore, hr, ?_⟩
  rw [coerce, h]
  simp only [hcheck]
  rfl

namespace Constraints

def limit : Decimal := ⟨false, 125, 1, by decide⟩

/-- At least three characters or bytes; from a limit up and below it, so that there is no number. -/
def narrowRules : Constraints :=
  { Constraints.none with
    minLength := some 3, minimum := some limit, exclusiveMaximum := some limit,
    allowed := some [] }

/-- Two characters of three bytes are too short for a text and long enough for a byte string. A
number has no length, and it may be written with any scale. -/
theorem short_text_reports_first :
    Kind.string.coerce narrowRules (.string "né") =
        .error (.here (.constraint "min_length" "length 2 is below the minimum of 3")) ∧
      Kind.bytes.coerce narrowRules (.string "bsOp") =
        .error (.here (.constraint "enum" "\"bsOp\" is not one of []")) ∧
      Kind.decimal.coerce narrowRules (.string "12.50") = .error (.here (.constraint
        "exclusive_maximum" "12.50 violates exclusive_maximum 12.5")) ∧
      Rule.minLength.Holds narrowRules (.bytes [110, 195, 169]) ∧
      ¬Rule.minLength.Holds narrowRules (.string "né") ∧
      ∃ (before : List Rule) (r : Rule) (after : List Rule) (detail : String),
        Rule.inOrder = before ++ r :: after ∧
          (∀ q ∈ before, q.Holds narrowRules (.string "né")) ∧
          ¬r.Holds narrowRules (.string "né") ∧
          Kind.string.coerce narrowRules (.string "né") =
            .error (.here (.constraint r.name detail)) := by
  have hbroken : ¬Rule.minLength.Holds narrowRules (.string "né") := by
    intro h
    have hlength : 3 ≤ "né".toList.length := (h 3 rfl).1 _ rfl
    exact absurd hlength (by decide)
  refine ⟨by cbv, by cbv, by cbv, ?_, hbroken, ?_⟩
  · rintro least ⟨⟩
    refine ⟨?_, ?_⟩
    · rintro s ⟨⟩
    · rintro bs ⟨⟩
      decide
  · exact (Kind.coerce_reports_first (by decide) rfl).2 fun hall => hbroken (hall _)

end Constraints
end PayloadSchema
