import Mathlib
import PayloadSchema.Proofs.Validation.Encoding
import PayloadSchema.Proofs.Validation.Run
import PayloadSchema.Proofs.Validation.TextForms

/-!
Unions of leaves without constraints, and values that come back in their JSON form. A value that an
alternative has made goes back to the same alternative, or to an earlier one that had turned down
the raw value. The latter happens among the kinds of numbers only, where one kind rounds what
another one reads in full or writes what another one does not read.
-/
namespace PayloadSchema
open Outcome

namespace Kind
open Conversion

def mayTakeOver : Kind → Kind → Json → Bool
  -- digits that keep a number from being an integer are rounded away
  | .integer, .float, .string _ => true
  | .integer, .decimal, _ => true
  -- digits in groups are read by the other two kinds, but not as a float
  | .float, .integer, .string _ => true
  | .float, .decimal, .string _ => true
  -- a literal may have a power of ten that no decimal has
  | .decimal, .integer, .number _ => true
  | .decimal, .float, _ => true
  | _, _, _ => false

theorem numeric_of_accepts {kind : Kind} {n : Numeral} (h : kind.accepts (.number n) = true) :
    kind = .any ∨ kind = .integer ∨ kind = .float ∨ kind = .decimal := by
  cases kind with
  | any | integer | float | decimal => simp
  | _ => cases h

section
variable {earlier : Kind} {raw : Json} {i : Instance} (hrejects : earlier.accepts raw = false)
include hrejects

theorem ne_of_rejects {chosen : Kind} (hi : chosen.convert raw = .value i) : earlier ≠ chosen := by
  rintro rfl
  rw [accepts_of_convert hi] at hrejects
  cases hrejects

theorem ne_any_of_rejects : earlier ≠ .any := by
  rintro rfl
  cases hrejects

/-- A kind that has turned down a text is not one of those that accept every text. -/
theorem not_textual_of_rejects {chosen : Kind} (hi : chosen.convert raw = .value i)
    (hkind : chosen = .date ∨ chosen = .dateTime ∨ chosen = .uuid) :
    ¬(earlier = chosen ∨ earlier = .string ∨ earlier = .any) := by
  rintro (heq | rfl | heq)
  · exact ne_of_rejects hrejects hi heq
  · rcases hkind with rfl | rfl | rfl <;> cases raw <;> first | cases hi | cases hrejects
  · exact ne_any_of_rejects hrejects heq

/-- Null, booleans, texts, byte strings and raw values are written as they were sent. -/
theorem rejects_encode {chosen : Kind} (hi : chosen.convert raw = .value i)
    (hkind : chosen = .any ∨ chosen = .null ∨ chosen = .string ∨ chosen = .boolean ∨
      chosen = .bytes) : earlier.accepts i.encode = false := by
  suffices hsame : i.encode = raw by rw [hsame, hrejects]
  rcases hkind with rfl | rfl | rfl | rfl | rfl
  · cases hi
    rfl
  · cases raw <;> cases hi
    rfl
  · cases raw <;> cases hi
    rfl
  · cases raw <;> cases hi
    rfl
  · cases raw with
    | string s =>
      obtain ⟨bs, hbs, rfl⟩ := Option.map_eq_some_iff.1 (ofOption_eq_value.1 hi)
      rw [Instance.encode, Base64.encode_of_decode? hbs, String.ofList_toList]
    | _ => cases hi

/-- A literal that is an integer is no less a float, and a text that is one no less a decimal. -/
theorem mayTakeOver_integer (hi : Kind.integer.convert raw = .value i)
    (hkind : earlier = .float ∨ earlier = .decimal) :
    earlier.mayTakeOver .integer raw = true := by
  have haccepts := accepts_of_convert hi
  cases raw with
  | number n =>
    rcases hkind with rfl | rfl
    · rw [accepts_float_of_integer haccepts] at hrejects
      cases hrejects
    · rfl
  | string s =>
    rcases hkind with rfl | rfl
    · rfl
    · rw [accepts_decimal_of_integer haccepts] at hrejects
      cases hrejects
  | _ => cases hi

/-- A literal that is no integer is rounded to a float that is none. -/
theorem mayTakeOver_float (hi : Kind.float.convert raw = .value i)
    (hkind : earlier = .integer ∨ earlier = .decimal) (haccepts : earlier.accepts i.encode = true) :
    earlier.mayTakeOver .float raw = true := by
  cases raw with
  | number n =>
    rcases hkind with rfl | rfl
    · obtain ⟨x, hx, rfl⟩ := floatOf_eq_value.1 hi
      rw [accepts_integer_of_float hx haccepts] at hrejects
      cases hrejects
    · rfl
  | string s => rcases hkind with rfl | rfl <;> rfl
  | _ => cases hi

/-- A literal that is a decimal is no less a float. -/
theorem mayTakeOver_decimal (hi : Kind.decimal.convert raw = .value i)
    (hkind : earlier = .integer ∨ earlier = .float) :
    earlier.mayTakeOver .decimal raw = true := by
  rcases hkind with rfl | rfl
  · rfl
  · cases raw with
    | number n =>
      rw [accepts_float_of_decimal (accepts_of_convert hi)] at hrejects
      cases hrejects
    | string s => rfl
    | _ => cases hi

/-- What an alternative has made goes back to it, or is a number that an earlier one takes over. -/
theorem mayTakeOver_of_accepts {chosen : Kind} (hi : chosen.convert raw = .value i)
    (haccepts : earlier.accepts i.encode = true) : earlier.mayTakeOver chosen raw = true := by
  have hne := ne_of_rejects hrejects hi
  have hany := ne_any_of_rejects hrejects
  have hkept (hkind : chosen = .any ∨ chosen = .null ∨ chosen = .string ∨ chosen = .boolean ∨
      chosen = .bytes) : earlier.mayTakeOver chosen raw = true := by
    rw [rejects_encode hrejects hi hkind] at haccepts
    cases haccepts
  obtain ⟨hkind, hrepr⟩ := convert_eq_value hi
  cases i with
  | list | dict | object => cases hkind
  | any | null | string | boolean | bytes =>
    cases hkind
    exact hkept (by simp)
  | integer k =>
    cases hkind
    exact mayTakeOver_integer hrejects hi (by simpa [hne, hany] using numeric_of_accepts haccepts)
  | float x =>
    cases hkind
    exact mayTakeOver_float hrejects hi (by simpa [hne, hany] using numeric_of_accepts haccepts)
      haccepts
  | decimal d =>
    cases hkind
    exact mayTakeOver_decimal hrejects hi (by simpa [hne, hany] using numeric_of_accepts haccepts)
  | date d =>
    cases hkind
    exact absurd (eq_of_accepts_date haccepts) (not_textual_of_rejects hrejects hi (by simp))
  | dateTime t =>
    cases hkind
    exact absurd (eq_of_accepts_dateTime hrepr haccepts)
      (not_textual_of_rejects hrejects hi (by simp))
  | uuid u =>
    cases hkind
    exact absurd (eq_of_accepts_uuid haccepts) (not_textual_of_rejects hrejects hi (by simp))

end

/-- A leaf is converted from its JSON form to an equal one. -/
theorem exists_convert_encode {kind : Kind} {raw : Json} {i : Instance}
    (h : kind.convert raw = .value i) :
    ∃ j, kind.convert i.encode = .value j ∧ (j = i ∨ i.same j = true) := by
  obtain ⟨hkind, hrepr⟩ := convert_eq_value h
  by_cases hdecimal : ∃ d, i = .decimal d
  · obtain ⟨d, rfl⟩ := hdecimal
    cases hkind
    obtain ⟨e, he, hsame⟩ := d.exists_read?_toNumeral
    exact ⟨.decimal e, decimalOfNumber_eq_value.2 ⟨e, he, rfl⟩, .inr (by rwa [Instance.same])⟩
  · have hreads : i.DecimalsReadBack := by
      intro d hd
      cases hd with
      | self => exact absurd ⟨d, rfl⟩ hdecimal
      | item | entry | field => cases hkind
    exact ⟨i, convert_encode hkind hrepr hreads, .inl rfl⟩

end Kind

theorem Constraints.check_none (i : Instance) : Constraints.none.check i = .ok () := by
  have hlength : Constraints.none.checkLength i = .ok () := by
    rw [checkLength]
    split <;> rfl
  rw [check, hlength]
  rfl

namespace Validator
variable {v : Validator} {kinds : List Kind} {raw : Json} {i : Instance}

/-- A union of leaves chooses by their kinds, whatever the constraints. -/
theorem findM?_primitives {α : Type} (room : Nat) (leaves : List α) (kind : α → Kind)
    (c : α → Constraints) :
    (leaves.map fun l => Schema.primitive (kind l) (c l)).findM? (v.acceptsShape raw (room + 1)) =
      .ok ((leaves.find? fun l => (kind l).accepts raw).map fun l =>
        Schema.primitive (kind l) (c l)) := by
  induction leaves with
  | nil => rfl
  | cons l leaves ih =>
    rw [List.map_cons, List.findM?, acceptsShape, ok_bind]
    cases hl : (kind l).accepts raw with
    | true => simp [hl, pure, Except.pure]
    | false => simpa [hl] using ih

theorem choose_leaves (room : Nat) (kinds : List Kind) :
    v.choose raw (room + 1) (kinds.map Schema.leaf) =
      match kinds.find? (·.accepts raw) with
      | some k => .ok (.leaf k)
      | none => .error (.here (.noAlternative (Schema.typeNames (kinds.map .leaf)) raw.shape)) := by
  have hfound : (kinds.map Schema.leaf).findM? (v.acceptsShape raw (room + 1)) =
      .ok ((kinds.find? (·.accepts raw)).map Schema.leaf) :=
    findM?_primitives room kinds id fun _ => .none
  rw [choose, hfound, ok_bind]
  cases kinds.find? (·.accepts raw) <;> rfl

/-- A union of leaves makes what its first alternative that accepts the raw value makes of it. -/
theorem validate_leaves :
    v.validate (.union (kinds.map Schema.leaf)) raw = .ok i ↔
      v.maxDepth ≠ 0 ∧ ∃ k, kinds.find? (·.accepts raw) = some k ∧ k.convert raw = .value i := by
  rw [validate, apply_eq]
  cases v.maxDepth with
  | zero =>
    refine ⟨fun h => ?_, fun h => absurd rfl h.1⟩
    cases kinds <;> cases h
  | succ room =>
    rw [settle, choose_leaves]
    cases kinds.find? (·.accepts raw) with
    | none => simp [bind, Except.bind]
    | some k =>
      have hsettle : v.settle raw (room + 1) (room + 2) (.leaf k) = .ok (.leaf k) := rfl
      simp only [ok_bind, hsettle]
      rw [Schema.leaf, applyHead, Kind.coerce_eq_ok]
      simp [Constraints.check_none]

/-- A value goes to an earlier alternative when it comes back: the one that made it comes after one
that had turned down the raw value, accepts the JSON form and may take over. -/
def TakenOver (kinds : List Kind) (raw : Json) (i j : Instance) : Prop :=
  ∃ before chosen after earlier, kinds = before ++ chosen :: after ∧ earlier ∈ before ∧
    chosen.convert raw = .value i ∧ earlier.accepts raw = false ∧
    earlier.convert i.encode = .value j ∧ earlier.mayTakeOver chosen raw = true

/-- The JSON form of what a union of leaves makes is valid again, and the value is equal unless an
earlier alternative takes over a number. -/
theorem validate_union_encode
    (h : v.validate (.union (kinds.map Schema.leaf)) raw = .ok i) :
    ∃ j, v.validate (.union (kinds.map Schema.leaf)) i.encode = .ok j ∧
      (j = i ∨ i.same j = true ∨ TakenOver kinds raw i j) := by
  obtain ⟨hdepth, chosen, hfind, hi⟩ := validate_leaves.1 h
  obtain ⟨before, after, rfl, hbefore⟩ := (List.find?_eq_some_iff_append.1 hfind).2
  obtain ⟨j, hj, hequal⟩ := Kind.exists_convert_encode hi
  cases hearlier : before.find? (·.accepts i.encode) with
  | none =>
    have hchosen : (before ++ chosen :: after).find? (·.accepts i.encode) = some chosen := by
      simp [List.find?_append, hearlier, Kind.accepts_of_convert hj]
    refine ⟨j, validate_leaves.2 ⟨hdepth, chosen, hchosen, hj⟩, ?_⟩
    exact hequal.imp_right .inl
  | some earlier =>
    have hmem := List.mem_of_find?_eq_some hearlier
    have haccepts : earlier.accepts i.encode = true := by simpa using List.find?_some hearlier
    have hrejects : earlier.accepts raw = false := by simpa using hbefore earlier hmem
    have htaken : (before ++ chosen :: after).find? (·.accepts i.encode) = some earlier := by
      rw [List.find?_append, hearlier, Option.some_or]
    obtain ⟨k, hk⟩ := Kind.exists_of_accepts haccepts
    refine ⟨k, validate_leaves.2 ⟨hdepth, earlier, htaken, hk⟩, .inr (.inr ?_)⟩
    exact ⟨before, chosen, after, earlier, rfl, hmem, hi, hrejects, hk,
      Kind.mayTakeOver_of_accepts hrejects hi haccepts⟩

def shallowValidator : Validator := ⟨.empty, 1⟩

def oneFloat : Binary64 := ⟨false, 4503599627370496, -52, by decide⟩

/-- A text that is read in full is no integer. It is rounded to a float that is written as a whole
number, and that is an integer when it comes back. -/
theorem rounded_is_taken_over :
    shallowValidator.validate (.union ([Kind.integer, .float].map Schema.leaf))
        (.string "1.00000000000000000001") = .ok (.float oneFloat) ∧
      shallowValidator.validate (.union ([Kind.integer, .float].map Schema.leaf))
        (Instance.float oneFloat).encode = .ok (.integer 1) ∧
      (Instance.float oneFloat).same (.integer 1) = false := by
  refine ⟨validate_leaves.2 ⟨by decide, .float, by decide +kernel, ?_⟩,
    validate_leaves.2 ⟨by decide, .integer, by decide +kernel, ?_⟩, by simp [Instance.same]⟩
  · have hread : Scientific.read? (Text.trim "1.00000000000000000001".toList) =
        some ⟨false, 100000000000000000001, -20⟩ := by
      decide +kernel
    rw [Kind.convert, Conversion.floatOfText, hread]
    exact Conversion.floatOf_eq_value.2 ⟨oneFloat, by decide +kernel, rfl⟩
  · have hwhole : oneFloat.isWhole = true := by decide +kernel
    have hdecimal : Decimal.ofBinary64? oneFloat = some ⟨false, 1, 0, by decide⟩ := by
      decide +kernel
    rw [Instance.encode, Kind.convert, Conversion.integerOfNumber, Binary64.toInt?_toNumeral,
      Option.filter_none, Binary64.toBinary64?_toNumeral]
    simp only [hwhole, hdecimal]
    rfl

def datedKinds : List Kind := [.integer, .decimal, .uuid, .dateTime, .date]

def springDay : Instance := .date ⟨2023, 3, 5, by decide⟩

/-- A date is no number, no identifier and no moment, before and after it is written anew. -/
theorem springDay_encode :
    shallowValidator.validate (.union (datedKinds.map Schema.leaf)) (.string "2023-3-5") =
        .ok springDay ∧
      ∃ j, shallowValidator.validate (.union (datedKinds.map Schema.leaf)) springDay.encode =
          .ok j ∧
        (j = springDay ∨ springDay.same j = true ∨
          TakenOver datedKinds (.string "2023-3-5") springDay j) := by
  have h : shallowValidator.validate (.union (datedKinds.map Schema.leaf)) (.string "2023-3-5") =
      .ok springDay := by
    cbv
  exact ⟨h, validate_union_encode h⟩

end Validator
end PayloadSchema
