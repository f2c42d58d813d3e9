import PayloadSchema.Proofs.Calendar.DateTime
import PayloadSchema.Validation.Constraint

/-!
Leaves: the variant of instance that each kind makes, and when a leaf is accepted.
-/
namespace PayloadSchema
open Outcome

namespace Instance

def kind? : Instance → Option Kind
  | null => some .null
  | boolean _ => some .boolean
  | integer _ => some .integer
  | float _ => some .float
  | decimal _ => some .decimal
  | string _ => some .string
  | bytes _ => some .bytes
  | date _ => some .date
  | dateTime _ => some .dateTime
  | uuid _ => some .uuid
  | any _ => some .any
  | list _ => none
  | dict _ => none
  | object _ => none

abbrev FitsMachine (k : Int) : Prop := -(pow2 63 : Int) ≤ k ∧ k < pow2 63

def Representable : Instance → Prop
  | integer k => FitsMachine k
  | dateTime t => t.Writable
  | _ => True

end Instance

namespace Conversion
open Instance (FitsMachine)

theorem ofOption_eq_value {x : Option Instance} {i : Instance} :
    ofOption x = .value i ↔ x = some i := by
  cases x <;> simp [ofOption]

theorem machineInteger_eq_value {literal : String} {n : Int} {i : Instance} :
    machineInteger literal n = .value i ↔ FitsMachine n ∧ .integer n = i := by
  unfold machineInteger
  split
  · rename_i hrange
    exact ⟨fun h => ⟨hrange, Conversion.value.inj h⟩, fun h => congrArg _ h.2⟩
  · rename_i hrange
    constructor
    · intro h
      cases h
    · rintro ⟨h, _⟩
      exact absurd h hrange

theorem integerOfNumber_eq_value {n : Numeral} {i : Instance}
    (h : integerOfNumber n = .value i) : ∃ k, FitsMachine k ∧ .integer k = i := by
  unfold integerOfNumber at h
  split at h
  · exact ⟨_, machineInteger_eq_value.1 h⟩
  · split at h
    · cases h
    · split at h
      · cases h
      · split at h
        · exact ⟨_, machineInteger_eq_value.1 h⟩
        · cases h

theorem machineInteger?_eq_some {cs : List Char} {k : Int} (h : machineInteger? cs = some k) :
    FitsMachine k := by
  simp only [machineInteger?, Option.bind_eq_bind, Option.bind_eq_some_iff,
    Option.ite_none_right_eq_some, Option.some.injEq] at h
  obtain ⟨ds, _, hrange, rfl⟩ := h
  exact hrange

theorem integerOfText_eq_value {cs : List Char} {i : Instance}
    (h : integerOfText cs = .value i) : ∃ k, FitsMachine k ∧ .integer k = i := by
  unfold integerOfText at h
  split at h
  · rename_i k hk
    cases h
    exact ⟨k, machineInteger?_eq_some hk, rfl⟩
  · split at h
    · split at h
      · exact ⟨_, machineInteger_eq_value.1 h⟩
      · cases h
    · split at h
      · cases h
      · split at h
        · cases h
        · split at h <;> cases h

theorem floatOf_eq_value {literal : String} {x : Option Binary64} {i : Instance} :
    floatOf literal x = .value i ↔ ∃ y, x = some y ∧ .float y = i := by
  cases x <;> simp [floatOf]

theorem floatOfText_eq_value {cs : List Char} {i : Instance} (h : floatOfText cs = .value i) :
    ∃ x, .float x = i := by
  unfold floatOfText at h
  split at h
  · obtain ⟨x, _, hx⟩ := floatOf_eq_value.1 h
    exact ⟨x, hx⟩
  · cases h

theorem decimalOfNumber_eq_value {n : Numeral} {i : Instance} :
    decimalOfNumber n = .value i ↔ ∃ d, Decimal.read? n.chars = some d ∧ .decimal d = i := by
  unfold decimalOfNumber
  split <;> simp_all

theorem decimalOfText_eq_value {cs : List Char} {i : Instance} :
    decimalOfText cs = .value i ↔ ∃ d, Decimal.read? cs = some d ∧ .decimal d = i := by
  unfold decimalOfText
  split
  · simp_all
  · split <;> simp_all

end Conversion

open Conversion in
/-- A conversion makes an instance of the kind it is asked for. -/
theorem Kind.convert_eq_value {kind : Kind} {raw : Json} {i : Instance}
    (h : kind.convert raw = .value i) : i.kind? = some kind ∧ i.Representable := by
  cases kind with
  | any =>
    cases h
    exact ⟨rfl, trivial⟩
  | null | string | boolean =>
    cases raw <;> cases h
    exact ⟨rfl, trivial⟩
  | integer =>
    cases raw with
    | number n =>
      obtain ⟨k, hk, rfl⟩ := integerOfNumber_eq_value h
      exact ⟨rfl, hk⟩
    | string s =>
      obtain ⟨k, hk, rfl⟩ := integerOfText_eq_value h
      exact ⟨rfl, hk⟩
    | _ => cases h
  | float =>
    cases raw with
    | number n =>
      obtain ⟨x, _, rfl⟩ := floatOf_eq_value.1 h
      exact ⟨rfl, trivial⟩
    | string s =>
      obtain ⟨x, rfl⟩ := floatOfText_eq_value h
      exact ⟨rfl, trivial⟩
    | _ => cases h
  | decimal =>
    cases raw with
    | number n =>
      obtain ⟨d, _, rfl⟩ := decimalOfNumber_eq_value.1 h
      exact ⟨rfl, trivial⟩
    | string s =>
      obtain ⟨d, _, rfl⟩ := decimalOfText_eq_value.1 h
      exact ⟨rfl, trivial⟩
    | _ => cases h
  | dateTime =>
    cases raw with
    | string s =>
      obtain ⟨t, ht, rfl⟩ := Option.map_eq_some_iff.1 (ofOption_eq_value.1 h)
      cases hparse : DateTime.parse s with
      | error e => simp [hparse, Except.toOption] at ht
      | ok u =>
        rw [hparse] at ht
        cases ht
        exact ⟨rfl, DateTime.read_writable hparse⟩
    | _ => cases h
  | bytes | date | uuid =>
    cases raw with
    | string s =>
      obtain ⟨a, _, rfl⟩ := Option.map_eq_some_iff.1 (ofOption_eq_value.1 h)
      exact ⟨rfl, trivial⟩
    | _ => cases h

theorem Kind.accepts_of_convert {kind : Kind} {raw : Json} {i : Instance}
    (h : kind.convert raw = .value i) : kind.accepts raw = true := by
  rw [accepts, h]
  rfl

theorem Kind.exists_of_accepts {kind : Kind} {raw : Json} (h : kind.accepts raw = true) :
    ∃ i, kind.convert raw = .value i := by
  rw [accepts] at h
  cases hi : kind.convert raw with
  | value i => exact ⟨i, rfl⟩
  | outOfRange | wrongShape =>
    rw [hi] at h
    cases h

theorem Kind.coerce_eq_ok {kind : Kind} {c : Constraints} {raw : Json} {i : Instance} :
    kind.coerce c raw = .ok i ↔ kind.convert raw = .value i ∧ c.check i = .ok () := by
  unfold Kind.coerce
  cases kind.convert raw with
  | value j =>
    simp only [bind_eq_ok, pure, Except.pure, Except.ok.injEq, Conversion.value.injEq]
    constructor
    · rintro ⟨_, hc, rfl⟩
      exact ⟨rfl, hc⟩
    · rintro ⟨rfl, hc⟩
      exact ⟨(), hc, rfl⟩
  | outOfRange literal target => simp
  | wrongShape => simp

end PayloadSchema
