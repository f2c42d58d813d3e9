import PayloadSchema.Proofs.Codec
import PayloadSchema.Proofs.Number.Decimal
import PayloadSchema.Proofs.Number.Shortest
import PayloadSchema.Proofs.Validation.Leaf

/-! The JSON form of values, and leaves that are converted back from it. -/
namespace PayloadSchema
open Outcome

namespace Instance

inductive Contains : Instance → Instance → Prop
  | self (i : Instance) : Contains i i
  | item {items : List Instance} {i j : Instance} (hi : i ∈ items) (h : Contains i j) :
      Contains (.list items) j
  | entry {entries : List (String × Instance)} {key : String} {i j : Instance}
      (hi : (key, i) ∈ entries) (h : Contains i j) : Contains (.dict entries) j
  | field {o : ObjectInstance} {name : String} {i j : Instance}
      (hi : (name, .value i) ∈ o.entries) (h : Contains i j) : Contains (.object o) j

def DecimalsReadBack (i : Instance) : Prop :=
  ∀ d : Decimal, i.Contains (.decimal d) → d.ReadsBack

theorem DecimalsReadBack.item {items : List Instance} {i : Instance}
    (h : (Instance.list items).DecimalsReadBack) (hi : i ∈ items) : i.DecimalsReadBack :=
  fun d hd => h d (.item hi hd)

theorem DecimalsReadBack.entry {entries : List (String × Instance)} {e : String × Instance}
    (h : (Instance.dict entries).DecimalsReadBack) (he : e ∈ entries) : e.2.DecimalsReadBack :=
  fun d hd => h d (.entry he hd)

theorem DecimalsReadBack.field {o : ObjectInstance} {name : String} {i : Instance}
    (h : (Instance.object o).DecimalsReadBack) (hi : (name, .value i) ∈ o.entries) :
    i.DecimalsReadBack :=
  fun d hd => h d (.field hi hd)

theorem encodeItems_eq (items : List Instance) : encodeItems items = items.map encode := by
  induction items with
  | nil => rfl
  | cons i items ih => rw [encodeItems, ih, List.map_cons]

theorem encodeDict_eq (entries : List (String × Instance)) :
    encodeDict entries = entries.map fun e => (e.1, e.2.encode) := by
  induction entries with
  | nil => rfl
  | cons e entries ih => rw [encodeDict, ih, List.map_cons]

def encodePresence : Presence Instance → Json
  | .value i => i.encode
  | _ => .null

theorem encodeEntries_eq (entries : List (String × Presence Instance)) :
    encodeEntries entries =
      (entries.filter (·.2.isSet)).map fun e => (e.1, encodePresence e.2) := by
  induction entries with
  | nil => rfl
  | cons e entries ih =>
    obtain ⟨name, p⟩ := e
    cases p with
    | unset => rw [encodeEntries, ih, List.filter_cons_of_neg (by simp [Presence.isSet])]
    | null =>
      rw [encodeEntries, ih, List.filter_cons_of_pos (by simp [Presence.isSet]), List.map_cons]
      rfl
    | value i =>
      rw [encodeEntries, ih, List.filter_cons_of_pos (by simp [Presence.isSet]), List.map_cons]
      rfl

end Instance

namespace Conversion

theorem integerOfNumber_ofInt {k : Int} (h : Instance.FitsMachine k) :
    integerOfNumber (.ofInt k) = .value (.integer k) := by
  have hfits : (some k).filter (fun i => decide (-(pow2 63 : Int) ≤ i) && decide (i < pow2 64)) =
      some k := by
    have hle : pow2 63 ≤ pow2 64 := by decide
    rw [Option.filter_some, if_pos]
    simp only [Bool.and_eq_true, decide_eq_true_eq]
    omega
  rw [integerOfNumber, Numeral.toInt?_ofInt, hfits]
  exact machineInteger_eq_value.2 ⟨h, rfl⟩

end Conversion

/-- A leaf is converted to itself from its JSON form. -/
theorem Kind.convert_encode {kind : Kind} {i : Instance} (hkind : i.kind? = some kind)
    (hi : i.Representable) (hd : i.DecimalsReadBack) : kind.convert i.encode = .value i := by
  cases i with
  | list | dict | object => cases hkind
  | null | boolean | string | any =>
    cases hkind
    rfl
  | integer k =>
    cases hkind
    exact Conversion.integerOfNumber_ofInt hi
  | float x =>
    cases hkind
    exact Conversion.floatOf_eq_value.2 ⟨x, x.toBinary64?_toNumeral, rfl⟩
  | decimal d =>
    cases hkind
    exact Conversion.decimalOfNumber_eq_value.2 ⟨d, hd d (.self _), rfl⟩
  | bytes bs =>
    cases hkind
    simp only [Instance.encode, convert, String.toList_ofList, Base64.decode?_encode]
    rfl
  | date d =>
    cases hkind
    simp only [Instance.encode, convert, Date.parse_text]
    rfl
  | dateTime t =>
    cases hkind
    simp only [Instance.encode, convert, DateTime.parse_text hi]
    rfl
  | uuid u =>
    cases hkind
    simp only [Instance.encode, convert, Uuid.parse?, Uuid.text, String.toList_ofList,
      Uuid.read?_chars]
    rfl

/-- A leaf is null in its JSON form only if it was sent as null. -/
theorem Kind.isNull_encode {kind : Kind} {raw : Json} {i : Instance}
    (h : kind.convert raw = .value i) : i.encode.isNull = raw.isNull := by
  have hkind := (convert_eq_value h).1
  cases kind with
  | any =>
    cases h
    rfl
  | null =>
    cases raw <;> cases h
    rfl
  | _ =>
    have hraw : raw.isNull = false := by
      cases raw with
      | null => cases h
      | _ => rfl
    rw [hraw]
    cases i with
    | null | any => cases hkind
    | _ => rfl

end PayloadSchema
