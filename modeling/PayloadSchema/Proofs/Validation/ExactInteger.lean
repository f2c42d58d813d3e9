import Mathlib
import PayloadSchema.Proofs.Number.Literal
import PayloadSchema.Proofs.Validation.NumberForms

/-!
Integers from literals and from texts. The answer is exact for the number that a raw value is taken
for: an integer of 64 bits as it stands, any other literal after it has been rounded to a float, a
text as a decimal. It is exact for the number that the value denotes if nothing is lost on the way.
-/
namespace PayloadSchema
open Conversion
open Instance (FitsMachine)

inductive Denotes : Json → Scientific → Prop
  | number (n : Numeral) : Denotes (.number n) n.toScientific
  | text {s : String} {l : Literal} (h : Text.trim s.toList = l.chars) :
      Denotes (.string s) l.toScientific

namespace IntegerCoercion

/-- The answer for a raw value is the right one for `q`: an integer of 64 bits is taken, any other
integer is out of range, and a number that is no integer has the wrong shape. -/
structure Exact (raw : Json) (q : ℚ) : Prop where
  value (i : ℤ) : Kind.integer.coerce .none raw = .ok (.integer i) ↔ q = i ∧ FitsMachine i
  range : (∃ detail, Kind.integer.coerce .none raw = .error (.here (.constraint "range" detail))) ↔
    ∃ i : ℤ, q = i ∧ ¬FitsMachine i
  shape : Kind.integer.coerce .none raw = .error (.here (.typeMismatch "integer" raw.shape)) ↔
    ∀ i : ℤ, q ≠ i

/-- The number that a raw value is taken for on the way to an integer. -/
inductive TakenFor : Json → ℚ → Prop
  | literal {n : Numeral} {i : ℤ} (h : machineLiteral? n = some i) : TakenFor (.number n) i
  | rounded {n : Numeral} {x : Binary64} (h : machineLiteral? n = none)
      (hx : n.toBinary64? = some x) : TakenFor (.number n) x.toRat
  | decimal {s : String} {d : Decimal} (h : Decimal.read? (Text.trim s.toList) = some d) :
      TakenFor (.string s) d.toRat

/-- Nothing is lost: an integer literal of 64 bits, signed or not, a literal that denotes a float,
or a text whose digits fit a decimal. -/
inductive Kept : Json → Scientific → Prop
  | literal {n : Numeral} {i : ℤ} (h : machineLiteral? n = some i) :
      Kept (.number n) n.toScientific
  | float {n : Numeral} {x : Binary64} (h : n.toScientific.toRat = x.toRat) :
      Kept (.number n) n.toScientific
  | text {s : String} {l : Literal} (h : Text.trim s.toList = l.chars) (hl : l.Fits) :
      Kept (.string s) l.toScientific

variable {raw : Json} {q : ℚ} {i : ℤ} {literal target : String}

theorem coerce_of_value (h : Kind.integer.convert raw = .value (.integer i)) :
    Kind.integer.coerce .none raw = .ok (.integer i) := by
  rw [Kind.coerce, h]
  rfl

theorem coerce_of_outOfRange (h : Kind.integer.convert raw = .outOfRange literal target) :
    Kind.integer.coerce .none raw =
      .error (.here (.constraint "range" (literal ++ " does not fit " ++ target))) := by
  rw [Kind.coerce, h]

theorem coerce_of_wrongShape (h : Kind.integer.convert raw = .wrongShape) :
    Kind.integer.coerce .none raw = .error (.here (.typeMismatch "integer" raw.shape)) := by
  rw [Kind.coerce, h]
  rfl

theorem exact_of_value (h : Kind.integer.convert raw = .value (.integer i)) (hi : FitsMachine i) :
    Exact raw i := by
  have hanswer := coerce_of_value h
  constructor
  · intro j
    rw [hanswer, Except.ok.injEq, Instance.integer.injEq, Int.cast_inj]
    exact ⟨fun hj => ⟨hj, hj ▸ hi⟩, And.left⟩
  · refine iff_of_false (by simp [hanswer]) ?_
    rintro ⟨j, hj, hnot⟩
    exact hnot (Int.cast_inj.1 hj ▸ hi)
  · simp [hanswer]

theorem exact_of_outOfRange (h : Kind.integer.convert raw = .outOfRange literal target)
    (hi : ¬FitsMachine i) : Exact raw i := by
  have hanswer := coerce_of_outOfRange h
  constructor
  · intro j
    rw [hanswer, Int.cast_inj]
    refine iff_of_false (by simp) ?_
    rintro ⟨rfl, hj⟩
    exact hi hj
  · exact iff_of_true ⟨_, hanswer⟩ ⟨i, rfl, hi⟩
  · rw [hanswer]
    refine iff_of_false ?_ fun hne => hne i rfl
    simp [ValidationError.here]

theorem exact_of_wrongShape (h : Kind.integer.convert raw = .wrongShape) (hq : ∀ i : ℤ, q ≠ i) :
    Exact raw q := by
  have hanswer := coerce_of_wrongShape h
  constructor
  · intro j
    rw [hanswer]
    exact iff_of_false (by simp) fun hj => hq j hj.1
  · refine iff_of_false ?_ fun ⟨j, hj, _⟩ => hq j hj
    simp [hanswer, ValidationError.here]
  · exact iff_of_true hanswer hq

theorem exact_of_machineInteger (h : Kind.integer.convert raw = machineInteger literal i) :
    Exact raw i := by
  unfold machineInteger at h
  split at h
  · rename_i hfits
    exact exact_of_value h hfits
  · rename_i hfits
    exact exact_of_outOfRange h hfits

theorem exact_of_float {n : Numeral} {x : Binary64} (h : machineLiteral? n = none)
    (hx : n.toBinary64? = some x) : Exact (.number n) x.toRat := by
  have hconvert : Kind.integer.convert (.number n) = integerOfNumber n := rfl
  rw [integerOfNumber_eq, h, hx] at hconvert
  simp only at hconvert
  by_cases hwhole : x.isWhole = true
  · rw [hwhole] at hconvert
    obtain ⟨i, hi⟩ := x.isWhole_iff.1 hwhole
    rw [hi]
    rcases Decimal.truncate_of_ofBinary64? hi with ⟨d, hd, rfl⟩ | ⟨hlarge, hd⟩
    · rw [hd] at hconvert
      exact exact_of_machineInteger hconvert
    · have hnot : ¬FitsMachine i := by
        rw [FitsMachine, pow2_eq]
        omega
      rw [hd] at hconvert
      exact exact_of_outOfRange hconvert hnot
  · rw [Bool.not_eq_true] at hwhole
    rw [hwhole] at hconvert
    refine exact_of_wrongShape hconvert fun i hi => ?_
    rw [x.isWhole_iff.2 ⟨i, hi⟩] at hwhole
    cases hwhole

theorem exact_of_decimal {s : String} {d : Decimal}
    (h : Decimal.read? (Text.trim s.toList) = some d) : Exact (.string s) d.toRat := by
  have hconvert : Kind.integer.convert (.string s) = integerOfText (Text.trim s.toList) := rfl
  rw [integerOfText] at hconvert
  cases hi : machineInteger? (Text.trim s.toList) with
  | some i =>
    rw [hi] at hconvert
    obtain ⟨e, he, hscale, hsigned⟩ := exists_read?_of_machineInteger? hi
    cases h.symm.trans he
    have hvalue : d.toRat = i := by
      rw [Decimal.toRat, hscale, pow_zero, Nat.cast_one, div_one, hsigned]
    exact hvalue ▸ exact_of_value hconvert (machineInteger?_eq_some hi)
  | none =>
    rw [hi, h] at hconvert
    simp only at hconvert
    split at hconvert
    · rename_i hwhole
      obtain ⟨i, hi⟩ := d.isWhole_iff.1 hwhole
      rw [Decimal.truncate_eq hi] at hconvert
      exact hi ▸ exact_of_machineInteger hconvert
    · rename_i hwhole
      exact exact_of_wrongShape hconvert fun i hi => hwhole (d.isWhole_iff.2 ⟨i, hi⟩)

theorem TakenFor.exact (h : TakenFor raw q) : Exact raw q := by
  cases h with
  | @literal n i h =>
    have hconvert : Kind.integer.convert (.number n) = machineInteger n.text i := by
      rw [Kind.convert, integerOfNumber_eq, h]
    exact exact_of_machineInteger hconvert
  | rounded h hx => exact exact_of_float h hx
  | decimal h => exact exact_of_decimal h

theorem Kept.takenFor {s : Scientific} (h : Kept raw s) : TakenFor raw s.toRat := by
  have hliteral {n : Numeral} {i : ℤ} (h : machineLiteral? n = some i) :
      TakenFor (.number n) n.toScientific.toRat := by
    rw [Numeral.toRat_of_toInt? (machineLiteral?_eq_some h).1]
    exact .literal h
  cases h with
  | literal h => exact hliteral h
  | @float n x h =>
    cases hi : machineLiteral? n with
    | some i => exact hliteral hi
    | none =>
      obtain ⟨y, hy, hvalue⟩ := Binary64.ofScientific?_of_toRat h
      rw [h, ← hvalue]
      exact .rounded hi hy
  | text h hl =>
    obtain ⟨d, hd, hvalue⟩ := Literal.exists_read?_of_fits hl
    rw [← hvalue]
    exact .decimal (h ▸ hd)

/-- A value that is taken for none is refused; the float nearest to its number tells how. -/
theorem coerce_of_not_takenFor {s : Scientific} (h : Denotes raw s) (hnone : ∀ q, ¬TakenFor raw q) :
    if (Binary64.ofScientific? s).all (·.isWhole) then
      ∃ detail, Kind.integer.coerce .none raw = .error (.here (.constraint "range" detail))
    else Kind.integer.coerce .none raw = .error (.here (.typeMismatch "integer" raw.shape)) := by
  cases h with
  | number n =>
    have hliteral : machineLiteral? n = none := by
      rw [Option.eq_none_iff_forall_ne_some]
      exact fun i hi => hnone i (.literal hi)
    have hfloat : Binary64.ofScientific? n.toScientific = none := by
      rw [Option.eq_none_iff_forall_ne_some]
      exact fun x hx => hnone x.toRat (.rounded hliteral hx)
    have hconvert : Kind.integer.convert (.number n) = .outOfRange n.text integerTarget := by
      rw [Kind.convert, integerOfNumber_eq, hliteral, Numeral.toBinary64?, hfloat]
    rw [hfloat]
    exact ⟨_, coerce_of_outOfRange hconvert⟩
  | @text s l h =>
    have hdecimal : Decimal.read? (Text.trim s.toList) = none := by
      rw [Option.eq_none_iff_forall_ne_some]
      exact fun d hd => hnone d.toRat (.decimal hd)
    have hdigits : machineInteger? (Text.trim s.toList) = none := by
      rw [Option.eq_none_iff_forall_ne_some]
      intro i hi
      obtain ⟨d, hd, -⟩ := exists_read?_of_machineInteger? hi
      cases hdecimal.symm.trans hd
    have hconvert : Kind.integer.convert (.string s) = integerOfText (Text.trim s.toList) := rfl
    rw [integerOfText, hdigits, hdecimal, h, l.read?_chars] at hconvert
    simp only at hconvert
    cases hfloat : Binary64.ofScientific? l.toScientific with
    | none =>
      rw [hfloat] at hconvert
      exact ⟨_, coerce_of_outOfRange hconvert⟩
    | some x =>
      rw [hfloat] at hconvert
      simp only [Option.all_some] at hconvert ⊢
      split
      · rename_i hwhole
        rw [if_pos hwhole] at hconvert
        exact ⟨_, coerce_of_outOfRange hconvert⟩
      · rename_i hwhole
        rw [if_neg hwhole] at hconvert
        exact coerce_of_wrongShape hconvert

/-- Integers are exact for the number that a raw value denotes if nothing of it is lost, and in any
case for the number that it is taken for. -/
theorem integer_exact_of_denotes {raw : Json} {s : Scientific} (h : Denotes raw s) :
    (Kept raw s → Exact raw s.toRat) ∧ (∀ q, TakenFor raw q → Exact raw q) ∧
      ((∀ q, ¬TakenFor raw q) →
        if (Binary64.ofScientific? s).all (·.isWhole) then
          ∃ detail, Kind.integer.coerce .none raw = .error (.here (.constraint "range" detail))
        else
          Kind.integer.coerce .none raw = .error (.here (.typeMismatch "integer" raw.shape))) :=
  ⟨fun hkept => hkept.takenFor.exact, fun _ => TakenFor.exact, coerce_of_not_takenFor h⟩

/-- The integer before the least one of 64 bits is rounded to that one. -/
theorem below_least_not_exact :
    Kind.integer.coerce .none (.number (.ofInt (-9223372036854775809))) =
        .ok (.integer (-9223372036854775808)) ∧
      ¬Exact (.number (.ofInt (-9223372036854775809)))
        (Numeral.ofInt (-9223372036854775809)).toScientific.toRat := by
  let least : Binary64 := ⟨true, 2 ^ 52, 11, by decide⟩
  have hscientific : (Numeral.ofInt (-9223372036854775809)).toScientific =
      ⟨true, 9223372036854775809, 0⟩ := by
    simp [Numeral.ofInt, Numeral.toScientific, Digits.value_ofNat]
  have hliteral : machineLiteral? (.ofInt (-9223372036854775809)) = none := by
    rw [machineLiteral?, Numeral.toInt?_ofInt]
    rfl
  have hfloat : (Numeral.ofInt (-9223372036854775809)).toBinary64? = some least := by
    rw [Numeral.toBinary64?, hscientific]
    apply Binary64.ofScientific?_of_attracts (by decide) rfl
    simp only [Binary64.Attracts, Binary64.low, Binary64.high, Binary64.gapBelow_eq, least]
    norm_num
  have hleast : least.toRat = (-9223372036854775808 : ℤ) := by
    simp only [Binary64.toRat, Binary64.signed, least]
    norm_num
  have hanswer : Kind.integer.coerce .none (.number (.ofInt (-9223372036854775809))) =
      .ok (.integer (-9223372036854775808)) :=
    ((exact_of_float hliteral hfloat).value _).2 ⟨hleast, by decide⟩
  refine ⟨hanswer, fun hexact => ?_⟩
  rw [Numeral.toRat_of_toInt? (Numeral.toInt?_ofInt _)] at hexact
  have hequal := Int.cast_inj.1 ((hexact.value _).1 hanswer).1
  exact absurd hequal (by decide)

def scaledText : Literal where
  sign := .minus
  whole := Digits.ofNat 12
  fraction := some (Digits.ofNat 50)
  power := some ⟨true, .bare, Digits.ofNat 1, Digits.ofNat_ne_nil 1⟩
  hasDigit := by simp [Digits.ofNat_ne_nil]

theorem scaledText_exact :
    Denotes (.string " -12.50E1 ") scaledText.toScientific ∧
      Kept (.string " -12.50E1 ") scaledText.toScientific ∧
      scaledText.toScientific = ⟨true, 1250, -1⟩ ∧
      Exact (.string " -12.50E1 ") scaledText.toScientific.toRat := by
  have htext : Text.trim " -12.50E1 ".toList = scaledText.chars := by cbv
  have hscientific : scaledText.toScientific = ⟨true, 1250, -1⟩ := by cbv
  have hplaces : scaledText.places.length = 2 := by cbv
  have hexponent : scaledText.exponent = 1 := by cbv
  have hfits : scaledText.Fits := by
    rw [Literal.Fits, hplaces, hexponent, hscientific]
    decide
  have hkept : Kept (.string " -12.50E1 ") scaledText.toScientific := .text htext hfits
  exact ⟨.text htext, hkept, hscientific, (integer_exact_of_denotes (.text htext)).1 hkept⟩

end IntegerCoercion
end PayloadSchema
