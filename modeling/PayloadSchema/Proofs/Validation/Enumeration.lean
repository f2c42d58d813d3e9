import Mathlib
import PayloadSchema.Proofs.Validation.Lossless

/-!
Leaves with a list of allowed values. The list is compared with the JSON form of the converted
value, so it has to hold values in that form, and not in every form in which they may be sent.
-/
namespace PayloadSchema
open Outcome

def Json.OneOf (v : Json) (allowed : List Json) : Prop := ∃ w ∈ allowed, w.same v = true

namespace Kind
variable {kind : Kind} {raw : Json} {i : Instance}

/-- The raw value is the JSON form of a leaf of the kind, in whatever form that was sent. -/
def IsJsonForm (kind : Kind) (raw : Json) : Prop :=
  ∃ sent i, kind.convert sent = .value i ∧ i.DecimalsReadBack ∧ i.encode = raw

theorem IsJsonForm.encode_eq (h : kind.IsJsonForm raw) (hi : kind.convert raw = .value i) :
    i.encode = raw := by
  obtain ⟨sent, j, hsent, hdecimals, rfl⟩ := h
  obtain ⟨hkind, hrepresentable⟩ := convert_eq_value hsent
  rw [convert_encode hkind hrepresentable hdecimals] at hi
  cases hi
  rfl

/-- The kinds whose values can only be sent in their JSON form. -/
def hasOneForm (kind : Kind) : Bool := kind.isVerbatim || kind == .bytes

theorem encode_eq_of_hasOneForm (hk : kind.hasOneForm = true) (hi : kind.convert raw = .value i) :
    i.encode = raw := by
  obtain hverbatim | hbytes := Bool.or_eq_true_iff.1 hk
  · exact encode_of_convert hverbatim hi
  · cases eq_of_beq hbytes
    cases raw with
    | string s =>
      obtain ⟨bs, hbs, rfl⟩ := Option.map_eq_some_iff.1 (Conversion.ofOption_eq_value.1 hi)
      rw [Instance.encode, Base64.encode_of_decode? hbs, String.ofList_toList]
    | _ => cases hi

end Kind

namespace Constraints
variable {c : Constraints} {allowed : List Json} {i : Instance}

def others (c : Constraints) : Constraints := { c with allowed := .none }

/-- Where the other constraints pass, the list decides. -/
theorem check_of_others (h : c.others.check i = .ok ()) : c.check i = c.checkAllowed i := by
  simp only [check, check_bind_eq_ok] at h
  obtain ⟨hlength, hpattern, hbounds, -⟩ := h
  have hlength' : c.checkLength i = .ok () := hlength
  have hpattern' : c.checkPattern i = .ok () := hpattern
  have hbounds' : c.checkBounds i = .ok () := hbounds
  rw [check, hlength', hpattern', hbounds']
  rfl

theorem checkAllowed_of_oneOf (ha : c.allowed = some allowed) (h : i.encode.OneOf allowed) :
    c.checkAllowed i = .ok () := by
  have hsome : allowed.any (·.same i.encode) = true := List.any_eq_true.2 h
  simp only [checkAllowed, ha, if_pos hsome]

theorem checkAllowed_of_not_oneOf (ha : c.allowed = some allowed) (h : ¬i.encode.OneOf allowed) :
    ∃ detail, c.checkAllowed i = .error (.here (.constraint "enum" detail)) := by
  have hnone : ¬allowed.any (·.same i.encode) = true := by
    rwa [List.any_eq_true]
  simp only [checkAllowed, ha, if_neg hnone]
  exact ⟨_, rfl⟩

end Constraints

namespace Kind

/-- A value that is listed, that can be converted and that satisfies the other constraints is
accepted if and only if the list holds the JSON form of the converted value. So it is if it was sent
in that form. -/
theorem coerce_listed {kind : Kind} {c : Constraints} {allowed : List Json} {raw : Json}
    {i : Instance} (ha : c.allowed = some allowed) (hraw : raw.OneOf allowed)
    (hi : kind.convert raw = .value i) (ho : c.others.check i = .ok ()) :
    (i.encode.OneOf allowed → kind.coerce c raw = .ok i) ∧
      (¬i.encode.OneOf allowed →
        ∃ detail, kind.coerce c raw = .error (.here (.constraint "enum" detail))) ∧
      (kind.IsJsonForm raw → kind.coerce c raw = .ok i) ∧
      (kind.hasOneForm = true → kind.coerce c raw = .ok i) := by
  have hcheck := Constraints.check_of_others ho
  have haccept (h : i.encode.OneOf allowed) : kind.coerce c raw = .ok i :=
    coerce_eq_ok.2 ⟨hi, hcheck.trans (Constraints.checkAllowed_of_oneOf ha h)⟩
  refine ⟨haccept, fun h => ?_, fun h => haccept ?_, fun h => haccept ?_⟩
  · obtain ⟨detail, herror⟩ := Constraints.checkAllowed_of_not_oneOf ha h
    refine ⟨detail, ?_⟩
    simp only [coerce, hi, hcheck, herror]
    rfl
  · rwa [h.encode_eq hi]
  · rwa [encode_eq_of_hasOneForm h hi]

def smallNumbers (allowed : List Json) : Constraints :=
  { Constraints.none with allowed := some allowed, maximum := some ⟨false, 9, 0, by decide⟩ }

theorem smallNumbers_seven (allowed : List Json) :
    (smallNumbers allowed).others.check (.integer 7) = .ok () := by
  cbv

/-- Seven is listed as a text only. The text can be sent for it, but its JSON form is a number. -/
theorem seven_listed_as_text :
    (Json.string "7").OneOf [.string "7"] ∧
      Kind.integer.convert (.string "7") = .value (.integer 7) ∧
      (smallNumbers [.string "7"]).others.check (.integer 7) = .ok () ∧
      Kind.integer.coerce (smallNumbers [.string "7"]) (.string "7") =
        .error (.here (.constraint "enum" "7 is not one of [\"7\"]")) := by
  refine ⟨⟨_, .head _, rfl⟩, ?_, smallNumbers_seven _, ?_⟩ <;> cbv

/-- Where seven is listed in both forms, both are accepted: the number as it is written, the text
for the number. -/
theorem seven_listed_twice :
    (Json.string "7").OneOf [.string "7", .number (.ofInt 7)] ∧
      Kind.integer.IsJsonForm (.number (.ofInt 7)) ∧
      Kind.integer.coerce (smallNumbers [.string "7", .number (.ofInt 7)]) (.number (.ofInt 7)) =
        .ok (.integer 7) ∧
      Kind.integer.coerce (smallNumbers [.string "7", .number (.ofInt 7)]) (.string "7") =
        .ok (.integer 7) := by
  have hnumber : (Json.number (.ofInt 7)).OneOf [.string "7", .number (.ofInt 7)] :=
    ⟨_, .tail _ (.head _), by cbv⟩
  have htext : (Json.string "7").OneOf [.string "7", .number (.ofInt 7)] := ⟨_, .head _, rfl⟩
  have hconvert : Kind.integer.convert (.number (.ofInt 7)) = .value (.integer 7) := by
    cbv
  have hread : Kind.integer.convert (.string "7") = .value (.integer 7) := by
    cbv
  have hform : Kind.integer.IsJsonForm (.number (.ofInt 7)) := by
    refine ⟨.string "7", .integer 7, hread, fun d hd => ?_, rfl⟩
    cases hd
  obtain ⟨-, -, hwritten, -⟩ := coerce_listed rfl hnumber hconvert (smallNumbers_seven _)
  obtain ⟨haccept, -⟩ := coerce_listed rfl htext hread (smallNumbers_seven _)
  exact ⟨htext, hform, hwritten hform, haccept hnumber⟩

end Kind
end PayloadSchema
