import Mathlib
import PayloadSchema.Proofs.Number.Literal
import PayloadSchema.Proofs.Validation.NumberForms
import PayloadSchema.Yaml.ToJson

/-!
The texts of keys. Numbers, booleans, null and the values that are no finite numbers all have texts
of their own: no two of them that differ are written alike. Only a string may be written like a key
of another kind.
-/
namespace PayloadSchema

namespace Literal

def Sign.ofNegative (negative : Bool) : Sign := if negative then minus else bare

theorem Sign.isMinus_ofNegative (negative : Bool) : (ofNegative negative).isMinus = negative := by
  cases negative <;> rfl

theorem Sign.chars_ofNegative (negative : Bool) :
    (ofNegative negative).chars = if negative then ['-'] else [] := by
  cases negative <;> rfl

end Literal

namespace Numeral

/-- The characters of a numeral, without a plus sign in the exponent. -/
def plainChars (n : Numeral) : List Char := n.chars.filter (· != '+')

structure WellFormed (n : Numeral) : Prop where
  whole : n.whole ≠ []
  exponent : ∀ e, n.exponent = some e → e.digits ≠ []

theorem filter_digits (ds : List Digit) :
    (Digits.chars ds).filter (· != '+') = Digits.chars ds := by
  rw [List.filter_eq_self]
  intro c hc
  obtain ⟨d, -, rfl⟩ := List.mem_map.1 hc
  exact bne_iff_ne.2 d.toChar_ne_plus

theorem plainChars_eq (n : Numeral) :
    n.plainChars = (if n.negative then ['-'] else []) ++ Digits.chars n.whole
      ++ (if n.fraction.isEmpty then [] else '.' :: Digits.chars n.fraction)
      ++ (match n.exponent with
        | some e => 'e' :: ((if e.negative then ['-'] else []) ++ Digits.chars e.digits)
        | none => []) := by
  obtain ⟨negative, whole, fraction, exponent⟩ := n
  simp only [plainChars, chars, List.filter_append, filter_digits]
  congr 1
  · congr 1
    · cases negative <;> rfl
    · cases fraction <;> simp [filter_digits]
  · cases exponent with
    | none => rfl
    | some e => cases hsign : e.negative <;> simp [Exponent.chars, filter_digits, hsign]

/-- A numeral without the plus sign is one of the texts of numbers. -/
theorem exists_literal {n : Numeral} (h : n.WellFormed) :
    ∃ l : Literal, l.chars = n.plainChars ∧ l.toScientific = n.toScientific := by
  obtain ⟨hwhole, hexponent⟩ := h
  rw [plainChars_eq]
  obtain ⟨negative, whole, fraction, exponent⟩ := n
  let places := if fraction.isEmpty then none else some fraction
  have hplaces : places.getD [] = fraction := by
    cases fraction <;> rfl
  have hdigit : whole ++ places.getD [] ≠ [] := by simp [hwhole]
  cases exponent with
  | none =>
    refine ⟨⟨.ofNegative negative, whole, places, none, hdigit⟩, ?_, ?_⟩
    · simp [Literal.chars, Literal.body, Literal.powerChars, Literal.Sign.chars_ofNegative]
      cases fraction <;> rfl
    · simp [Literal.toScientific, toScientific, Literal.exponent, Literal.places, hplaces,
        Literal.Sign.isMinus_ofNegative]
  | some e =>
    let power : Literal.Power := ⟨false, .ofNegative e.negative, e.digits, hexponent e rfl⟩
    refine ⟨⟨.ofNegative negative, whole, places, some power, hdigit⟩, ?_, ?_⟩
    · simp [Literal.chars, Literal.body, Literal.powerChars, Literal.Power.mark,
        Literal.Power.tail, power, Literal.Sign.chars_ofNegative]
      cases fraction <;> rfl
    · simp [Literal.toScientific, toScientific, Literal.exponent, Literal.places,
        Literal.Power.value, Exponent.value, power, hplaces, Literal.Sign.isMinus_ofNegative]

theorem read?_plainChars {n : Numeral} (h : n.WellFormed) :
    Scientific.read? n.plainChars = some n.toScientific := by
  obtain ⟨l, hchars, hscientific⟩ := exists_literal h
  rw [← hchars, l.read?_chars, hscientific]

theorem wellFormed_ofInt (i : Int) : (ofInt i).WellFormed :=
  ⟨Digits.ofNat_ne_nil _, fun _ h => by cases h⟩

theorem eq_of_toScientific_ofInt {i j : Int}
    (h : (ofInt i).toScientific = (ofInt j).toScientific) : i = j := by
  simp only [toScientific, ofInt, List.append_nil, Digits.value_ofNat, Scientific.mk.injEq,
    decide_eq_decide] at h
  omega

theorem not_mem_ofInt {c : Char} (hdigit : Digit.ofChar? c = none) (hminus : c ≠ '-') (i : Int) :
    c ∉ (ofInt i).plainChars := by
  have hdigits := Digits.not_mem_chars hdigit (Digits.ofNat i.natAbs)
  rw [plainChars_eq]
  by_cases hneg : i < 0 <;> simp [ofInt, hneg, hminus, hdigits]

/-- A numeral that is no integer has a point or an exponent. -/
theorem mark_mem_plainChars {n : Numeral} (h : n.toInt? = none) :
    '.' ∈ n.plainChars ∨ 'e' ∈ n.plainChars := by
  rw [plainChars_eq]
  obtain ⟨negative, whole, fraction, exponent⟩ := n
  cases exponent with
  | some e => simp
  | none =>
    cases fraction with
    | nil => cases h
    | cons d ds => simp

end Numeral

theorem intText_eq (i : Int) : intText i = String.ofList (Numeral.ofInt i).plainChars := by
  rw [Numeral.plainChars_eq, intText, Numeral.ofInt]
  by_cases h : i < 0
  · simp [h, natText]
  · simp [h, natText]

namespace Binary64

theorem wellFormed_toPlainNumeral (x : Binary64) : x.toPlainNumeral.WellFormed := by
  rw [toPlainNumeral]
  split
  · exact ⟨by simp, by simp⟩
  · simp only
    split
    · exact ⟨by simp [Digits.ofNat_ne_nil], by simp⟩
    · refine ⟨?_, by simp⟩
      simp only [ne_eq, List.take_eq_nil_iff, List.append_eq_nil_iff, Digits.ofNat_ne_nil,
        and_false, or_false, List.length_append, List.length_replicate]
      omega

theorem wellFormed_toNumeral (x : Binary64) : x.toNumeral.WellFormed := by
  rw [toNumeral]
  split
  · exact ⟨by simp, by simp⟩
  · simp only
    split
    · have hplain := x.wellFormed_toPlainNumeral
      split
      · exact ⟨hplain.whole, hplain.exponent⟩
      · exact hplain
    · refine ⟨by simp [Digits.ofNat_ne_nil], ?_⟩
      rintro e ⟨⟩
      exact Digits.ofNat_ne_nil _

end Binary64

theorem Binary64.same_self (x : Binary64) : x.same x = true := by
  simp [same, compare]

namespace Yaml.Value
variable {a b k : Value} {text : String} {m n : Numeral}

def numeral? : Value → Option Numeral
  | integer i => some (.ofInt i)
  | real (.finite x) => some x.toNumeral
  | _ => none

theorem numeral?_eq_some (h : k.numeral? = some n) :
    (∃ i, k = integer i ∧ n = .ofInt i) ∨ ∃ x, k = real (.finite x) ∧ n = x.toNumeral := by
  unfold numeral? at h
  split at h
  · exact .inl ⟨_, rfl, (Option.some.inj h).symm⟩
  · exact .inr ⟨_, rfl, (Option.some.inj h).symm⟩
  · cases h

theorem wellFormed_of_numeral? (h : k.numeral? = some n) : n.WellFormed := by
  obtain ⟨i, -, rfl⟩ | ⟨x, -, rfl⟩ := numeral?_eq_some h
  · exact Numeral.wellFormed_ofInt i
  · exact x.wellFormed_toNumeral

theorem keyText?_of_numeral? (h : k.numeral? = some n) :
    k.keyText? = some (String.ofList n.plainChars) := by
  obtain ⟨i, rfl, rfl⟩ | ⟨x, rfl, rfl⟩ := numeral?_eq_some h
  · exact congrArg some (intText_eq i)
  · rfl

theorem ofInt_ne_toNumeral (i : Int) (x : Binary64) :
    (Numeral.ofInt i).plainChars ≠ x.toNumeral.plainChars := by
  intro heq
  have hmark := Numeral.mark_mem_plainChars x.toInt?_toNumeral
  rw [← heq] at hmark
  rcases hmark with hpoint | hpower
  · exact Numeral.not_mem_ofInt (by decide) (by decide) i hpoint
  · exact Numeral.not_mem_ofInt (by decide) (by decide) i hpower

/-- Numbers that are written alike are the same. -/
theorem same_of_plainChars (ha : a.numeral? = some m) (hb : b.numeral? = some n)
    (h : m.plainChars = n.plainChars) : a.same b = true := by
  have hread : m.toScientific = n.toScientific := by
    have hm := Numeral.read?_plainChars (wellFormed_of_numeral? ha)
    rw [h, Numeral.read?_plainChars (wellFormed_of_numeral? hb)] at hm
    exact (Option.some.inj hm).symm
  obtain ⟨i, rfl, rfl⟩ | ⟨x, rfl, rfl⟩ := numeral?_eq_some ha <;>
    obtain ⟨j, rfl, rfl⟩ | ⟨y, rfl, rfl⟩ := numeral?_eq_some hb
  · rw [same, Numeral.eq_of_toScientific_ofInt hread, beq_self_eq_true]
  · exact absurd h (ofInt_ne_toNumeral i y)
  · exact absurd h.symm (ofInt_ne_toNumeral j x)
  · have hxy : some x = some y := by
      rw [← x.toBinary64?_toNumeral, ← y.toBinary64?_toNumeral, Numeral.toBinary64?,
        Numeral.toBinary64?, hread]
    cases hxy
    rw [same]
    exact x.same_self

def ofWord? : String → Option Value
  | "null" => some null
  | "true" => some (bool true)
  | "false" => some (bool false)
  | ".inf" => some (real (.infinite false))
  | "-.inf" => some (real (.infinite true))
  | ".nan" => some (real .nan)
  | _ => none

def IsString (k : Value) : Prop := ∃ s, k = string s

/-- A scalar that is neither a string nor a finite number is written as a word, which is no
number. -/
theorem word_of_keyText? (h : k.keyText? = some text) (hstring : ¬k.IsString)
    (hnumber : k.numeral? = none) :
    ofWord? text = some k ∧ k.same k = true ∧ Scientific.read? text.toList = none := by
  cases k with
  | null =>
    cases h
    exact ⟨rfl, by simp [same], rfl⟩
  | bool b =>
    cases b <;> cases h <;> exact ⟨rfl, by simp [same], rfl⟩
  | real x =>
    cases x with
    | finite x => cases hnumber
    | infinite negative =>
      cases negative <;> cases h <;> exact ⟨rfl, by simp [same, Real.same], rfl⟩
    | nan =>
      cases h
      exact ⟨rfl, by simp [same, Real.same], rfl⟩
  | string s => exact absurd ⟨s, rfl⟩ hstring
  | integer i => cases hnumber
  | _ => cases h

/-- Keys other than strings that are written alike are the same. -/
theorem same_of_keyText? (ha : a.keyText? = some text) (hb : b.keyText? = some text)
    (hastring : ¬a.IsString) (hbstring : ¬b.IsString) : a.same b = true := by
  have hnumber {k : Value} {n : Numeral} (hk : k.keyText? = some text)
      (hn : k.numeral? = some n) : text.toList = n.plainChars := by
    rw [keyText?_of_numeral? hn, Option.some.injEq] at hk
    rw [← hk, String.toList_ofList]
  have hread {k : Value} {n : Numeral} (hk : k.keyText? = some text)
      (hn : k.numeral? = some n) : Scientific.read? text.toList ≠ none := by
    rw [hnumber hk hn, Numeral.read?_plainChars (wellFormed_of_numeral? hn)]
    simp
  cases hm : a.numeral? with
  | some m =>
    cases hn : b.numeral? with
    | some n => exact same_of_plainChars hm hn ((hnumber ha hm).symm.trans (hnumber hb hn))
    | none => exact absurd (word_of_keyText? hb hbstring hn).2.2 (hread ha hm)
  | none =>
    obtain ⟨hword, hself, hnone⟩ := word_of_keyText? ha hastring hm
    cases hn : b.numeral? with
    | some n => exact absurd hnone (hread hb hn)
    | none =>
      cases hword.symm.trans (word_of_keyText? hb hbstring hn).1
      exact hself

end Yaml.Value
end PayloadSchema
