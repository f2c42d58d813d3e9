import PayloadSchema.Calendar.Date
import PayloadSchema.Proofs.Number.Digits

/-! The text of a day reads back as that day, in all the years that can be held. -/
namespace PayloadSchema.Date
open Digits

def paddedDigits (width n : Nat) : List Digit :=
  List.replicate (width - (ofNat n).length) Digit.zero ++ ofNat n

theorem padded_eq (width n : Nat) : padded width n = Digits.chars (paddedDigits width n) := by
  rw [padded, paddedDigits, chars_append, chars_replicate_zero, length_chars]

theorem paddedDigits_ne_nil (width n : Nat) : paddedDigits width n ≠ [] := by
  simp [paddedDigits, ofNat_ne_nil]

theorem value_paddedDigits (width n : Nat) : value (paddedDigits width n) = n := by
  rw [paddedDigits, value_append_eq, value_replicate_zero, value_ofNat, Nat.zero_mul, Nat.zero_add]

theorem length_paddedDigits {width n : Nat} (hw : 0 < width) (h : n < 10 ^ width) :
    (paddedDigits width n).length = width := by
  have := length_ofNat_le h hw
  rw [paddedDigits, List.length_append, List.length_replicate]
  omega

theorem length_padded {width n : Nat} (hw : 0 < width) (h : n < 10 ^ width) :
    (padded width n).length = width := by
  rw [padded_eq, length_chars, length_paddedDigits hw h]

theorem length_padded_two (n : Nat) (h : n < 100) : (padded 2 n).length = 2 :=
  length_padded (by decide) h

theorem yearChars_of_four {year : Int} (hlow : 0 ≤ year) (hhigh : year ≤ 9999) :
    yearChars year = padded 4 year.natAbs := by
  rw [yearChars, if_neg (by omega), if_neg (by omega)]

theorem isBlank_toChar (d : Digit) : Text.isBlank d.toChar = false := by
  revert d
  decide

theorem dropWhile_chars {ds : List Digit} (h : ds ≠ []) (rest : List Char) :
    (Digits.chars ds ++ rest).dropWhile Text.isBlank = Digits.chars ds ++ rest := by
  cases ds with
  | nil => exact absurd rfl h
  | cons d ds => simp [Digits.chars, isBlank_toChar]

/-- A number ends where its digits do, or where it may have no more of them. -/
theorem readNumber_chars {ds : List Digit} (hne : ds ≠ []) {most : Nat} (hmost : ds.length ≤ most)
    {rest : List Char} (hrest : Ends (rest.take (most - ds.length))) :
    readNumber most (Digits.chars ds ++ rest) = .ok (value ds, rest) := by
  have htake : (Digits.chars ds ++ rest).take most =
      Digits.chars ds ++ rest.take (most - ds.length) := by
    rw [List.take_append, length_chars, List.take_of_length_le (by simpa using hmost)]
  have hdrop : (Digits.chars ds ++ rest).drop most = rest.drop (most - ds.length) := by
    rw [List.drop_append, length_chars, List.drop_eq_nil_of_le (by simpa using hmost),
      List.nil_append]
  rw [readNumber, htake, span_append ds hrest]
  cases ds with
  | nil => exact absurd rfl hne
  | cons d ds =>
    simp only
    rw [hdrop, List.take_append_drop]

theorem readNumber_padded {width n most : Nat} (hw : 0 < width) (h : n < 10 ^ width)
    (hmost : width = most) (rest : List Char) :
    readNumber most (padded width n ++ rest) = .ok (n, rest) := by
  have hlen := length_paddedDigits hw h
  rw [padded_eq, readNumber_chars (paddedDigits_ne_nil width n) (by omega), value_paddedDigits]
  rw [show most - (paddedDigits width n).length = 0 by omega, List.take_zero]
  exact ends_nil

theorem readNumber_padded_all (width n : Nat) {rest : List Char} (hrest : Ends rest) :
    readNumber (padded width n ++ rest).length (padded width n ++ rest) = .ok (n, rest) := by
  rw [padded_eq, readNumber_chars (paddedDigits_ne_nil width n) (by simp) (hrest.take _),
    value_paddedDigits]

theorem readYear_yearChars (year : Int) {rest : List Char} (hrest : Ends rest) :
    readYear (yearChars year ++ rest) = .ok (year, rest) := by
  have hminus : Text.isBlank '-' = false := by decide
  have hplus : Text.isBlank '+' = false := by decide
  rw [yearChars]
  split
  · rename_i hneg
    rw [List.cons_append, readYear, List.dropWhile_cons_of_neg (by simp [hminus])]
    simp only [readNumber_padded_all 4 year.natAbs hrest, Except.map]
    rw [show -((year.natAbs : Nat) : Int) = year by omega]
  · split
    · rw [List.cons_append, readYear, List.dropWhile_cons_of_neg (by simp [hplus])]
      simp only [readNumber_padded_all 4 year.natAbs hrest, Except.map]
      rw [show ((year.natAbs : Nat) : Int) = year by omega]
    · have hread : readNumber 4 (padded 4 year.natAbs ++ rest) = .ok (year.natAbs, rest) :=
        readNumber_padded (by decide) (by omega) rfl rest
      obtain ⟨d, ds, hds⟩ := List.exists_cons_of_ne_nil (paddedDigits_ne_nil 4 year.natAbs)
      rw [padded_eq, hds] at hread
      rw [readYear, padded_eq, hds, dropWhile_chars (by simp)]
      simp only [Digits.chars, List.map_cons, List.cons_append] at hread ⊢
      split
      · rename_i h
        exact absurd (List.cons.inj h).1 d.toChar_ne_minus
      · rename_i h
        exact absurd (List.cons.inj h).1 d.toChar_ne_plus
      · rw [hread]
        simp only [Except.map]
        rw [show ((year.natAbs : Nat) : Int) = year by omega]

theorem readField_padded {greatest n : Nat} (hpos : 1 ≤ n) (hle : n ≤ greatest)
    (hgreatest : greatest < 100) (rest : List Char) :
    readField greatest (padded 2 n ++ rest) = .ok (n, rest) := by
  have hread : readNumber 2 (padded 2 n ++ rest) = .ok (n, rest) :=
    readNumber_padded (by decide) (by omega) rfl rest
  have hrange : ¬(n = 0 ∨ greatest < n) := by omega
  rw [padded_eq] at hread ⊢
  rw [readField, dropWhile_chars (paddedDigits_ne_nil 2 n), hread]
  simp [hrange, bind, Except.bind, pure, Except.pure]

theorem make?_self (d : Date) : make? d.year d.month d.day = some d := dif_pos d.valid

theorem daysInMonth_le (year : Int) (month : Nat) : daysInMonth year month ≤ 31 := by
  rw [daysInMonth]
  split
  · split <;> decide
  · split <;> decide

theorem read_chars (d : Date) : read d.chars = .ok d := by
  obtain ⟨hlow, hhigh, hm, hm', hd, hd'⟩ := d.valid
  have hday := daysInMonth_le d.year d.month
  have hdash : Digit.ofChar? '-' = none := by decide
  have hyear : ¬(d.year < -(pow2 31 : Int) ∨ pow2 31 ≤ d.year) := by
    rw [pow2_eq]
    omega
  have hend : readField 31 (padded 2 d.day) = .ok (d.day, []) := by
    simpa using readField_padded hd (show d.day ≤ 31 by omega) (by decide) []
  simp only [read, chars, List.append_assoc, List.cons_append]
  rw [readYear_yearChars d.year (ends_cons hdash)]
  simp only [bind, Except.bind, if_neg hyear, readDash, if_true,
    readField_padded hm hm' (by decide), hend, make?_self, List.isEmpty_nil]

theorem parse_text (d : Date) : parse d.text = .ok d := by
  rw [parse, text, String.toList_ofList, read_chars]

end PayloadSchema.Date
