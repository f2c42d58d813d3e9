import PayloadSchema.Proofs.Number.Approximation
import PayloadSchema.Proofs.Validation.Leaf

/-!
The meaning of constraints, and what the check decides. Lengths are counted in characters or in
bytes, and bounds are bounds on numbers. The check is exact but for floats: these are rounded before
they are compared, so that a float may lie past a bound by a little, or keep it and be turned down.
-/
namespace PayloadSchema
open Outcome

namespace Instance

def number? : Instance → Option ℚ
  | integer n => some n
  | decimal d => some d.toRat
  | float x => some x.toRat
  | _ => none

/-- How far off the comparison with a bound may be. -/
def slack : Instance → ℚ
  | float x => |x.toRat| / 2 ^ 49 + 2 / 10 ^ 28
  | _ => 0

theorem slack_of_kind? {i : Instance} (h : i.kind? ≠ some .float) : i.slack = 0 := by
  cases i with
  | float x => exact absurd rfl h
  | _ => rfl

end Instance

namespace Constraints

inductive Rule where
  | minLength
  | maxLength
  | pattern
  | minimum
  | maximum
  | exclusiveMinimum
  | exclusiveMaximum
  | allowed

namespace Rule

def inOrder : List Rule :=
  [minLength, maxLength, pattern, minimum, maximum, exclusiveMinimum, exclusiveMaximum, allowed]

def name : Rule → String
  | minLength => "min_length"
  | maxLength => "max_length"
  | pattern => "pattern"
  | minimum => "minimum"
  | maximum => "maximum"
  | exclusiveMinimum => "exclusive_minimum"
  | exclusiveMaximum => "exclusive_maximum"
  | allowed => "enum"

/-- What a constraint asks of a value, if a number may lie past a bound by `slack`. It asks nothing
if it is not declared or does not concern values of that kind: texts have characters and byte
strings have bytes, only texts have patterns and only numbers have bounds, and any value has a
written form. -/
def Within (slack : ℚ) (c : Constraints) (i : Instance) : Rule → Prop
  | minLength => ∀ least ∈ c.minLength, (∀ s, i = .string s → least ≤ s.toList.length) ∧
      ∀ bs, i = .bytes bs → least ≤ bs.length
  | maxLength => ∀ most ∈ c.maxLength, (∀ s, i = .string s → s.toList.length ≤ most) ∧
      ∀ bs, i = .bytes bs → bs.length ≤ most
  | pattern => ∀ p ∈ c.pattern, ∀ s, i = .string s → p.isFoundIn s = true
  | minimum => ∀ b ∈ c.minimum, ∀ x ∈ i.number?, b.toRat ≤ x + slack
  | maximum => ∀ b ∈ c.maximum, ∀ x ∈ i.number?, x ≤ b.toRat + slack
  | exclusiveMinimum => ∀ b ∈ c.exclusiveMinimum, ∀ x ∈ i.number?, b.toRat < x + slack
  | exclusiveMaximum => ∀ b ∈ c.exclusiveMaximum, ∀ x ∈ i.number?, x < b.toRat + slack
  | allowed => ∀ vs ∈ c.allowed, ∃ v ∈ vs, v.same i.encode = true

def Holds (c : Constraints) (i : Instance) (r : Rule) : Prop := r.Within 0 c i

theorem mem_inOrder (r : Rule) : r ∈ inOrder := by
  cases r <;> simp [inOrder]

end Rule

/-- A leaf satisfies its constraints, as far as the check can tell. -/
def Satisfied (c : Constraints) (i : Instance) : Prop := ∀ r : Rule, r.Within i.slack c i

/-- A number is compared with a bound by numbers that are close to both of them. -/
theorem exists_compare? {i : Instance} {x : ℚ} (hx : x ∈ i.number?) (b : Decimal) :
    ∃ y z : ℚ, i.compare? b = some (Ord.compare y z) ∧ |y - x| + |z - b.toRat| ≤ i.slack := by
  have hexact {i : Instance} (h : i.compare? b = some (Ord.compare x b.toRat))
      (hslack : 0 ≤ i.slack) :
      ∃ y z : ℚ, i.compare? b = some (Ord.compare y z) ∧ |y - x| + |z - b.toRat| ≤ i.slack :=
    ⟨x, b.toRat, h, by simpa using hslack⟩
  cases i with
  | integer n =>
    cases hx
    refine hexact ?_ le_rfl
    have hpow : (0 : ℚ) < (10 ^ b.scale : ℕ) := by positivity
    rw [Instance.compare?, compare_scaled _ _ (inv_pos.2 hpow), pow10_eq, Decimal.toRat]
    push_cast
    rw [mul_inv_cancel_right₀ (by positivity), div_eq_mul_inv]
  | decimal d =>
    cases hx
    exact hexact (congrArg some (d.compare_eq b)) le_rfl
  | float x =>
    cases hx
    rw [Instance.compare?, Instance.slack]
    rcases Decimal.ofBinary64?_cases x with ⟨d, hd, hclose⟩ | ⟨hnone, hlarge⟩
    · refine ⟨d.toRat, b.toRat, ?_, by simpa using hclose⟩
      rw [hd]
      exact congrArg some (d.compare_eq b)
    · obtain ⟨y, hy, hclose⟩ := b.toBinary64?_close
      refine ⟨x.toRat, y.toRat, ?_, ?_⟩
      · rw [hnone, hy]
        exact congrArg some (x.compare_eq y)
      · rw [sub_self, abs_zero]
        linarith
  | _ => cases hx

theorem compare?_eq_none {i : Instance} (h : i.number? = .none) (b : Decimal) :
    i.compare? b = .none := by
  cases i with
  | integer | decimal | float => cases h
  | _ => rfl

inductive Runs (c : Constraints) (i : Instance) : List Rule → Except ValidationError Unit → Prop
  | done : Runs c i [] (.ok ())
  | passed {r : Rule} {rest : List Rule} {x : Except ValidationError Unit}
      (hr : r.Within i.slack c i) (h : Runs c i rest x) : Runs c i (r :: rest) x
  | failed {r : Rule} {rest : List Rule} (hr : ¬r.Within (-i.slack) c i) (detail : String) :
      Runs c i (r :: rest) (violated r.name detail)

namespace Runs
variable {c : Constraints} {i : Instance} {r : Rule} {rs ts : List Rule}
  {x y : Except ValidationError Unit}

theorem append (h : Runs c i rs x) (h' : Runs c i ts y) :
    Runs c i (rs ++ ts) (x >>= fun _ => y) := by
  induction h with
  | done => exact h'
  | passed hr _ ih => exact .passed hr ih
  | failed hr detail => exact .failed hr detail

theorem within_of_ok (h : Runs c i rs x) (hx : x = .ok ()) : ∀ r ∈ rs, r.Within i.slack c i := by
  induction h with
  | done => simp
  | passed hr _ ih => exact List.forall_mem_cons.2 ⟨hr, ih hx⟩
  | failed hr detail => cases hx

/-- A check that fails reports the first constraint that does not hold. -/
theorem exists_first (h : Runs c i rs x) (hx : x ≠ .ok ()) :
    ∃ (before : List Rule) (r : Rule) (after : List Rule) (detail : String),
      rs = before ++ r :: after ∧ (∀ q ∈ before, q.Within i.slack c i) ∧
        ¬r.Within (-i.slack) c i ∧ x = violated r.name detail := by
  induction h with
  | done => exact absurd rfl hx
  | @passed r rest x hr _ ih =>
    obtain ⟨before, first, after, detail, rfl, hbefore, hfirst, heq⟩ := ih hx
    exact ⟨r :: before, first, after, detail, rfl, List.forall_mem_cons.2 ⟨hr, hbefore⟩, hfirst,
      heq⟩
  | @failed r rest hr detail => exact ⟨[], r, rest, detail, rfl, by simp, hr, rfl⟩

end Runs

section
variable {c : Constraints} {i : Instance} {r : Rule}

/-- A limit that is checked before the rest. -/
theorem runs_limit {rest : List Rule} {limit : Option Nat} {exceeded : Nat → Prop}
    [DecidablePred exceeded] {detail : Nat → String} {x : Except ValidationError Unit}
    (hr : ∀ slack, r.Within slack c i ↔ ∀ m ∈ limit, ¬exceeded m) (hx : Runs c i rest x) :
    Runs c i (r :: rest) (do
      if let some m := limit then
        if exceeded m then
          violated r.name (detail m)
      x) := by
  cases limit with
  | none => exact .passed ((hr _).2 (by simp)) hx
  | some m =>
    simp only [Option.mem_def, Option.some.injEq, forall_eq'] at hr
    by_cases hm : exceeded m
    · simp only [hm, if_true]
      exact .failed (fun hholds => (hr _).1 hholds hm) _
    · simp only [hm, if_false]
      exact .passed ((hr _).2 hm) hx

theorem runs_checkLength : Runs c i [.minLength, .maxLength] (c.checkLength i) := by
  cases i with
  | string s =>
    refine runs_limit (fun _ => ?_) (runs_limit (fun _ => ?_) .done) <;>
      simp [Rule.Within, String.length_toList]
  | bytes bs =>
    refine runs_limit (fun _ => ?_) (runs_limit (fun _ => ?_) .done) <;> simp [Rule.Within]
  | _ => exact .passed (by simp [Rule.Within]) (.passed (by simp [Rule.Within]) .done)

theorem runs_checkPattern : Runs c i [.pattern] (c.checkPattern i) := by
  unfold checkPattern
  split
  · rename_i p s hp
    split
    · rename_i hfound
      refine .passed ?_ .done
      rintro q hq t ⟨⟩
      cases hp.symm.trans hq
      exact hfound
    · rename_i hfound
      have hnot : ¬Rule.pattern.Within (-Instance.slack (.string s)) c (.string s) :=
        fun h => hfound (h p hp s rfl)
      exact .failed hnot _
  · rename_i hnot
    refine .passed ?_ .done
    rintro p hp s rfl
    exact absurd rfl (hnot p s hp)

/-- A bound that stands for a relation `R`. Where the numbers that are compared are close to a value
and its bound, the relation holds up to the slack if the check passes, and fails up to it if the
check fails. -/
theorem runs_checkBound {bound : Option Decimal} {holds : Ordering → Bool}
    (R : ℚ → ℚ → ℚ → Prop)
    (hr : ∀ slack, r.Within slack c i ↔ ∀ b ∈ bound, ∀ x ∈ i.number?, R slack x b.toRat)
    (hpass : ∀ {x b y z : ℚ}, x - b ≤ y - z + i.slack → y - z ≤ x - b + i.slack →
      holds (Ord.compare y z) = true → R i.slack x b)
    (hfail : ∀ {x b y z : ℚ}, x - b ≤ y - z + i.slack → y - z ≤ x - b + i.slack →
      R (-i.slack) x b → holds (Ord.compare y z) = true) :
    Runs c i [r] (checkBound i r.name bound holds) := by
  cases bound with
  | none => exact .passed ((hr _).2 (by simp)) .done
  | some b =>
    cases hnumber : i.number? with
    | none =>
      rw [checkBound, compare?_eq_none hnumber]
      exact .passed ((hr _).2 (by simp [hnumber])) .done
    | some x =>
      obtain ⟨y, z, hcompare, hclose⟩ := exists_compare? hnumber b
      have hy := abs_le.1 (le_refl |y - x|)
      have hz := abs_le.1 (le_refl |z - b.toRat|)
      have hleast : x - b.toRat ≤ y - z + i.slack := by linarith
      have hmost : y - z ≤ x - b.toRat + i.slack := by linarith
      simp only [hnumber, Option.mem_def, Option.some.injEq, forall_eq'] at hr
      rw [checkBound, hcompare]
      by_cases hholds : holds (Ord.compare y z) = true
      · simp only [hholds, if_true]
        exact .passed ((hr _).2 (hpass hleast hmost hholds)) .done
      · simp only [hholds]
        exact .failed (fun h => hholds (hfail hleast hmost ((hr _).1 h))) _

theorem runs_checkBounds :
    Runs c i [.minimum, .maximum, .exclusiveMinimum, .exclusiveMaximum] (c.checkBounds i) := by
  have hge : Runs c i [.minimum] (checkBound i "minimum" c.minimum (·.isGE)) := by
    refine runs_checkBound (fun slack x b => b ≤ x + slack) (fun _ => Iff.rfl) ?_ ?_ <;>
      intro x b y z _ _ h
    · have := Std.LawfulLECmp.isGE_iff_ge.1 h
      linarith
    · exact Std.LawfulLECmp.isGE_iff_ge.2 (by linarith)
  have hle : Runs c i [.maximum] (checkBound i "maximum" c.maximum (·.isLE)) := by
    refine runs_checkBound (fun slack x b => x ≤ b + slack) (fun _ => Iff.rfl) ?_ ?_ <;>
      intro x b y z _ _ h
    · have := Std.LawfulLECmp.isLE_iff_le.1 h
      linarith
    · exact Std.LawfulLECmp.isLE_iff_le.2 (by linarith)
  have hgt : Runs c i [.exclusiveMinimum]
      (checkBound i "exclusive_minimum" c.exclusiveMinimum (·.isGT)) := by
    refine runs_checkBound (fun slack x b => b < x + slack) (fun _ => Iff.rfl) ?_ ?_ <;>
      intro x b y z _ _ h
    · have := compare_gt_iff_gt.1 (Ordering.isGT_iff_eq_gt.1 h)
      linarith
    · exact Ordering.isGT_iff_eq_gt.2 (compare_gt_iff_gt.2 (by linarith))
  have hlt : Runs c i [.exclusiveMaximum]
      (checkBound i "exclusive_maximum" c.exclusiveMaximum (·.isLT)) := by
    refine runs_checkBound (fun slack x b => x < b + slack) (fun _ => Iff.rfl) ?_ ?_ <;>
      intro x b y z _ _ h
    · have := compare_lt_iff_lt.1 (Ordering.isLT_iff_eq_lt.1 h)
      linarith
    · exact Ordering.isLT_iff_eq_lt.2 (compare_lt_iff_lt.2 (by linarith))
  exact hge.append (hle.append (hgt.append hlt))

theorem runs_checkAllowed : Runs c i [.allowed] (c.checkAllowed i) := by
  unfold checkAllowed
  split
  · rename_i hnone
    exact .passed (by simp [Rule.Within, hnone]) .done
  · rename_i vs hvs
    have hiff (slack : ℚ) : Rule.allowed.Within slack c i ↔ vs.any (·.same i.encode) = true := by
      simp [Rule.Within, hvs]
    split
    · rename_i h
      exact .passed ((hiff _).2 h) .done
    · rename_i h
      exact .failed (fun hholds => h ((hiff _).1 hholds)) _

theorem runs_check : Runs c i Rule.inOrder (c.check i) :=
  runs_checkLength.append (runs_checkPattern.append (runs_checkBounds.append runs_checkAllowed))

/-- A leaf that passes the check satisfies its constraints. -/
theorem satisfied_of_check (h : c.check i = .ok ()) : c.Satisfied i :=
  fun r => runs_check.within_of_ok h r r.mem_inOrder

theorem check_eq_ok (hi : i.slack = 0) : c.check i = .ok () ↔ c.Satisfied i := by
  refine ⟨satisfied_of_check, fun h => ?_⟩
  by_contra hnot
  obtain ⟨_, r, _, _, -, -, hr, -⟩ := runs_check.exists_first hnot
  have hholds := h r
  rw [hi] at hholds hr
  rw [neg_zero] at hr
  exact hr hholds

end
end Constraints
end PayloadSchema
