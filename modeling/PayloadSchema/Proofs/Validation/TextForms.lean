import PayloadSchema.Proofs.Codec
import PayloadSchema.Proofs.Validation.NumberForms

/-!
The texts that dates, moments and identifiers are written as are texts of no other kind. Dashes and
colons tell them apart from each other, from numbers and from byte strings.
-/
namespace PayloadSchema
open Outcome

/-- The number of dashes after the first character. -/
def innerDashes (cs : List Char) : Nat := cs.tail.count '-'

theorem innerDashes_le (cs : List Char) : innerDashes cs ≤ cs.count '-' :=
  (List.tail_sublist cs).count_le '-'

theorem count_le_innerDashes (cs : List Char) : cs.count '-' ≤ innerDashes cs + 1 := by
  cases cs with
  | nil => simp
  | cons c cs =>
    rw [List.count_cons]
    split <;> simp [innerDashes]

theorem innerDashes_append_le (as bs : List Char) :
    innerDashes (as ++ bs) ≤ innerDashes as + bs.count '-' := by
  cases as with
  | nil =>
    have := innerDashes_le bs
    rw [List.nil_append]
    omega
  | cons a as => simp [innerDashes]

theorem Digits.count_chars {c : Char} (h : Digit.ofChar? c = none) (ds : List Digit) :
    (chars ds).count c = 0 :=
  List.count_eq_zero.2 (not_mem_chars h ds)

namespace Scientific

theorem count_takeSign (cs : List Char) :
    innerDashes cs ≤ (takeSign cs).2.count '-' ∧
      cs.count '-' ≤ (takeSign cs).2.count '-' + 1 := by
  unfold takeSign
  split
  · simp [innerDashes]
  · simp [innerDashes]
  · exact ⟨innerDashes_le cs, Nat.le_succ _⟩

/-- An exponent has a dash for its sign only. -/
theorem count_of_readExponent? {cs : List Char} {e : Int} (h : readExponent? cs = some e) :
    cs.count '-' ≤ 1 := by
  cases cs with
  | nil => simp
  | cons c cs =>
    simp only [readExponent?] at h
    split at h
    · rename_i hmark
      obtain ⟨ds, hds, -⟩ := Option.map_eq_some_iff.1 h
      have hdigits := Digits.eq_of_read? hds
      have hsign := (count_takeSign cs).2
      rw [hdigits, Digits.count_chars (by decide)] at hsign
      have hc : c ≠ '-' := by rcases hmark with rfl | rfl <;> decide
      rw [List.count_cons_of_ne hc]
      omega
    · cases h

theorem count_takeFraction (cs : List Char) :
    (takeFraction cs).2.count '-' = cs.count '-' := by
  unfold takeFraction
  split
  · rename_i cs
    have h : cs = Digits.chars (Digits.span cs).1 ++ (Digits.span cs).2 := Digits.eq_of_span rfl
    nth_rewrite 2 [h]
    simp [Digits.count_chars Digit.ofChar?_minus]
  · rfl

theorem innerDashes_of_read? {cs : List Char} {s : Scientific} (h : read? cs = some s) :
    innerDashes cs ≤ 1 := by
  simp only [read?] at h
  split at h
  · cases h
  · obtain ⟨e, he, -⟩ := Option.map_eq_some_iff.1 h
    have hexponent := count_of_readExponent? he
    have hspan : (takeSign cs).2 = Digits.chars (Digits.span (takeSign cs).2).1 ++
        (Digits.span (takeSign cs).2).2 := Digits.eq_of_span rfl
    have hcount : (takeSign cs).2.count '-' = (Digits.span (takeSign cs).2).2.count '-' := by
      nth_rewrite 1 [hspan]
      rw [List.count_append, Digits.count_chars (by decide), Nat.zero_add]
    have hsign := (count_takeSign cs).1
    rw [count_takeFraction] at hexponent
    omega

end Scientific

namespace Decimal

theorem not_isPlain_minus : ¬IsPlain '-' := by
  unfold IsPlain
  decide

theorem count_of_readPlain? {cs : List Char} {d : Decimal} (h : readPlain? cs = some d) :
    (Scientific.takeSign cs).2.count '-' = 0 :=
  List.count_eq_zero.2 fun hc => not_isPlain_minus (isPlain_of_readWhole h _ hc)

theorem count_of_readPower? {cs : List Char} {n : Nat} (h : readPower? cs = some n) :
    cs.count '-' = 0 := by
  obtain ⟨ds, hds, -⟩ := Option.bind_eq_some_iff.1 h
  have hdigits := Digits.eq_of_read? hds
  have hnone := Digits.count_chars Digit.ofChar?_minus ds
  rw [← hdigits] at hnone
  split at hnone
  · rwa [List.count_cons_of_ne (by decide)]
  · exact hnone

theorem innerDashes_of_readScaled? {cs : List Char} {d : Decimal} (h : readScaled? cs = some d) :
    innerDashes cs ≤ 1 := by
  obtain ⟨mark, power, base, hdrop, hbase, hpower⟩ := exists_of_readScaled? h
  have hplain := (Scientific.count_takeSign (cs.takeWhile isBeforeMark)).1
  rw [count_of_readPlain? hbase] at hplain
  have hmark : mark ≠ '-' := by
    have hnot := List.head_dropWhile_not isBeforeMark (l := cs) (by simp [hdrop])
    rintro rfl
    simp [hdrop, isBeforeMark] at hnot
  have hdash : power.count '-' ≤ 1 := by
    rcases hpower with ⟨rest, n, rfl, hn⟩ | ⟨n, hn, -⟩
    · rw [List.count_cons_self, count_of_readPower? hn]
    · rw [count_of_readPower? hn]
      exact Nat.zero_le 1
  have hall := innerDashes_append_le (cs.takeWhile isBeforeMark) (cs.dropWhile isBeforeMark)
  rw [List.takeWhile_append_dropWhile, hdrop, List.count_cons_of_ne hmark] at hall
  omega

theorem innerDashes_of_read? {cs : List Char} {d : Decimal} (h : read? cs = some d) :
    innerDashes cs ≤ 1 := by
  rcases Option.or_eq_some_iff.1 h with h | ⟨-, h⟩
  · have hsign := (Scientific.count_takeSign cs).1
    rw [count_of_readPlain? h] at hsign
    omega
  · exact innerDashes_of_readScaled? h

end Decimal

namespace Conversion

theorem innerDashes_of_integerOfText {cs : List Char} (h : (integerOfText cs).isValue = true) :
    innerDashes cs ≤ 1 := by
  obtain ⟨d, hd⟩ := exists_read?_of_integerOfText h
  exact Decimal.innerDashes_of_read? hd

theorem innerDashes_of_floatOfText {cs : List Char} (h : (floatOfText cs).isValue = true) :
    innerDashes cs ≤ 1 := by
  unfold floatOfText at h
  split at h
  · rename_i hs
    exact Scientific.innerDashes_of_read? hs
  · cases h

theorem innerDashes_of_decimalOfText {cs : List Char} (h : (decimalOfText cs).isValue = true) :
    innerDashes cs ≤ 1 := by
  unfold decimalOfText at h
  split at h
  · rename_i hd
    exact Decimal.innerDashes_of_read? hd
  · split at h <;> cases h

theorem isValue_ofOption {x : Option Instance} : (ofOption x).isValue = x.isSome := by
  cases x <;> rfl

end Conversion

namespace Base64

theorem minus_ne_letter (n : Nat) : '-' ≠ letter n := by
  by_cases h : n < 64
  · have hall : ∀ k : Fin 64, '-' ≠ letter k := by decide +kernel
    exact hall ⟨n, h⟩
  · have hlen : alphabet.length = 64 := by decide
    rw [letter, List.getD_eq_getElem?_getD, List.getElem?_eq_none (by omega)]
    decide

theorem minus_not_mem_encode (bs : List UInt8) : '-' ∉ encode bs := by
  fun_induction encode bs with
  | case1 => simp
  | case2 | case3 => simp [minus_ne_letter]
  | case4 a b c rest n ih => simp [minus_ne_letter, ih]

theorem minus_not_mem_of_decode? {cs : List Char} {bs : List UInt8} (h : decode? cs = some bs) :
    '-' ∉ cs :=
  encode_of_decode? h ▸ minus_not_mem_encode bs

end Base64

namespace Uuid

theorem minus_not_mem_of_ofDigits? {cs : List Char} {u : Uuid} (h : ofDigits? cs = some u) :
    '-' ∉ cs := by
  obtain ⟨ns, hns, -⟩ := Option.bind_eq_some_iff.1 h
  clear h
  induction cs generalizing ns with
  | nil => simp
  | cons c cs ih =>
    simp only [List.mapM_cons, Option.bind_eq_bind, Option.bind_eq_some_iff] at hns
    obtain ⟨n, hn, ms, hms, -⟩ := hns
    have hc : '-' ≠ c := by
      rintro rfl
      cases hn
    exact List.not_mem_cons_of_ne_of_not_mem hc (ih ms hms)

/-- Less than 36 characters are those without groups. -/
theorem minus_not_mem_of_read? {cs : List Char} {u : Uuid} (h : read? cs = some u)
    (hlen : cs.length < 36) : '-' ∉ cs := by
  unfold read? at h
  split at h
  · exact minus_not_mem_of_ofDigits? h
  · rw [if_neg (by omega), if_neg (by omega), if_neg (by omega)] at h
    cases h

end Uuid

namespace Date
open Calendar

theorem count_dropWhile_isBlank {c : Char} (hc : Text.isBlank c = false) (cs : List Char) :
    (cs.dropWhile Text.isBlank).count c = cs.count c := by
  induction cs with
  | nil => rfl
  | cons b cs ih =>
    by_cases hb : Text.isBlank b = true
    · have hne : b ≠ c := by
        rintro rfl
        rw [hc] at hb
        cases hb
      rw [List.dropWhile_cons_of_pos hb, ih, List.count_cons_of_ne hne]
    · rw [List.dropWhile_cons_of_neg hb]

theorem count_of_readNumber {c : Char} (hc : Digit.ofChar? c = none) {most n : Nat}
    {cs rest : List Char} (h : readNumber most cs = .ok (n, rest)) : cs.count c = rest.count c := by
  unfold readNumber at h
  split at h
  · split at h <;> cases h
  · rename_i ds tail _ hspan
    cases h
    calc cs.count c = (cs.take most ++ cs.drop most).count c := by rw [List.take_append_drop]
      _ = (tail ++ cs.drop most).count c := by
        rw [Digits.eq_of_span hspan, List.append_assoc, List.count_append, Digits.count_chars hc,
          Nat.zero_add]

theorem count_of_readYear {year : Int} {cs rest : List Char} (h : readYear cs = .ok (year, rest)) :
    cs.count '-' ≤ rest.count '-' + 1 ∧ cs.count ':' = rest.count ':' := by
  have hminus : Digit.ofChar? '-' = none := by decide
  have hcolon : Digit.ofChar? ':' = none := by decide
  rw [← count_dropWhile_isBlank (c := '-') (by decide), ← count_dropWhile_isBlank (c := ':')
    (by decide)]
  unfold readYear at h
  split at h
  · obtain ⟨⟨n, tail⟩, hn, hrest⟩ := map_eq_ok.1 h
    cases hrest
    simp [count_of_readNumber hminus hn, count_of_readNumber hcolon hn, *]
  · obtain ⟨⟨n, tail⟩, hn, hrest⟩ := map_eq_ok.1 h
    cases hrest
    simp [count_of_readNumber hminus hn, count_of_readNumber hcolon hn, *]
  · obtain ⟨⟨n, tail⟩, hn, hrest⟩ := map_eq_ok.1 h
    cases hrest
    simp [count_of_readNumber hminus hn, count_of_readNumber hcolon hn]

theorem eq_of_readDash {cs rest : List Char} (h : readDash cs = .ok rest) : cs = '-' :: rest := by
  cases cs with
  | nil => cases h
  | cons c cs =>
    simp only [readDash] at h
    split at h
    · rename_i hc
      cases h
      rw [hc]
    · cases h

theorem count_of_readField {c : Char} (hc : Digit.ofChar? c = none)
    (hblank : Text.isBlank c = false) {greatest n : Nat} {cs rest : List Char}
    (h : readField greatest cs = .ok (n, rest)) : cs.count c = rest.count c := by
  obtain ⟨⟨k, tail⟩, hk, h⟩ := bind_eq_ok.1 h
  simp only [ite_error_eq_ok] at h
  cases h.2
  rw [← count_dropWhile_isBlank hblank, count_of_readNumber hc hk]

/-- A date has two dashes besides the sign of its year, and no colon. -/
theorem count_of_read {cs : List Char} {d : Date} (h : read cs = .ok d) :
    cs.count '-' ≤ 3 ∧ cs.count ':' = 0 := by
  simp only [read, ite_error_eq_ok, bind_eq_ok, ite_else_error_eq_ok] at h
  obtain ⟨⟨year, cs1⟩, hyear, -, cs2, hdash, ⟨month, cs3⟩, hmonth, cs4, hdash', ⟨day, cs5⟩, hday,
    hend, -⟩ := h
  have hminus : Digit.ofChar? '-' = none := by decide
  have hcolon : Digit.ofChar? ':' = none := by decide
  obtain ⟨h1, h1'⟩ := count_of_readYear hyear
  have h3 := count_of_readField hminus (by decide) hmonth
  have h3' := count_of_readField hcolon (by decide) hmonth
  have h5 := count_of_readField hminus (by decide) hday
  have h5' := count_of_readField hcolon (by decide) hday
  have hcs1 : cs1 = '-' :: cs2 := eq_of_readDash hdash
  have hcs3 : cs3 = '-' :: cs4 := eq_of_readDash hdash'
  have hcs5 : cs5 = [] := List.isEmpty_iff.1 hend
  rw [hcs1] at h1 h1'
  rw [hcs3] at h3 h3'
  rw [hcs5] at h5 h5'
  simp only [List.count_cons_self, List.count_cons_of_ne (show '-' ≠ ':' by decide),
    List.count_nil] at *
  omega

end Date

namespace DateTime

theorem suffix_of_readDigits {n value result : Nat} {cs rest : List Char}
    (h : readDigits n value cs = .ok (result, rest)) : rest <:+ cs := by
  induction n generalizing value cs with
  | zero =>
    cases h
    exact List.suffix_refl _
  | succ n ih =>
    obtain ⟨⟨d, tail⟩, hd, h⟩ := bind_eq_ok.1 h
    refine (ih h).trans ?_
    cases cs with
    | nil => cases hd
    | cons c cs =>
      simp only [readDigit] at hd
      split at hd
      · cases hd
        exact List.suffix_cons _ _
      · cases hd

theorem eq_of_readChar {ok : Char → Bool} {cs rest : List Char} (h : readChar ok cs = .ok rest) :
    ∃ c, ok c = true ∧ cs = c :: rest := by
  cases cs with
  | nil => cases h
  | cons c cs =>
    simp only [readChar] at h
    split at h
    · rename_i hc
      cases h
      exact ⟨c, hc, rfl⟩
    · cases h

/-- A moment has a colon after its hour. -/
theorem colon_mem_of_read {cs : List Char} {t : DateTime} (h : read cs = .ok t) : ':' ∈ cs := by
  simp only [read, ite_error_eq_ok, bind_eq_ok] at h
  obtain ⟨-, ⟨year, cs1⟩, hyear, cs2, hdash, ⟨month, cs3⟩, hmonth, cs4, hdash', ⟨day, cs5⟩, hday,
    h⟩ := h
  split at h
  · cases h
  · simp only [bind_eq_ok] at h
    obtain ⟨cs6, htime, ⟨hour, cs7⟩, hhour, cs8, hcolon, -⟩ := h
    obtain ⟨c2, -, hcs1⟩ := eq_of_readChar hdash
    obtain ⟨c4, -, hcs3⟩ := eq_of_readChar hdash'
    obtain ⟨c6, -, hcs5⟩ := eq_of_readChar htime
    obtain ⟨c, hc, hcs7⟩ := eq_of_readChar hcolon
    have h1 := suffix_of_readDigits hyear
    have h3 := suffix_of_readDigits hmonth
    have h5 := suffix_of_readDigits hday
    have h7 := suffix_of_readDigits hhour
    simp only at hcs1 hcs3 hcs5 hcs7
    rw [hcs1] at h1
    rw [hcs3] at h3
    rw [hcs5] at h5
    rw [hcs7, beq_iff_eq.1 hc] at h7
    have hday := (h5.trans (List.suffix_cons c4 cs4)).trans (h3.trans (List.suffix_cons c2 cs2))
    have hall := ((h7.trans (List.suffix_cons c6 cs6)).trans hday).trans h1
    exact hall.mem (List.mem_cons_self ..)

end DateTime

theorem Text.count_trim {c : Char} (hc : isBlank c = false) (cs : List Char) :
    (trim cs).count c = cs.count c := by
  rw [trim, List.count_reverse, Date.count_dropWhile_isBlank hc, List.count_reverse,
    Date.count_dropWhile_isBlank hc]

/-- Blanks are cut off without a change to the dashes; the first character stays the first. -/
theorem innerDashes_trim {c : Char} (hc : Text.isBlank c = false) (cs : List Char) :
    innerDashes (Text.trim (c :: cs)) = innerDashes (c :: cs) := by
  have hend (bs : List Char) :
      (bs ++ [c]).dropWhile Text.isBlank = bs.dropWhile Text.isBlank ++ [c] := by
    have hlast : [c].dropWhile Text.isBlank = [c] := List.dropWhile_cons_of_neg (by simp [hc])
    rw [List.dropWhile_append]
    split
    · rename_i hempty
      rw [hlast, List.isEmpty_iff.1 hempty, List.nil_append]
    · rfl
  have hfront : (c :: cs).dropWhile Text.isBlank = c :: cs :=
    List.dropWhile_cons_of_neg (by simp [hc])
  rw [Text.trim, hfront, List.reverse_cons, hend, List.reverse_append]
  simp only [innerDashes, List.reverse_singleton, List.singleton_append, List.tail_cons]
  rw [List.count_reverse, Date.count_dropWhile_isBlank (by decide), List.count_reverse]

namespace Date

theorem count_padded {c : Char} (hc : Digit.ofChar? c = none) (width n : Nat) :
    (padded width n).count c = 0 := by
  rw [padded_eq, Digits.count_chars hc]

/-- A year starts with a sign or a digit, and no dash or colon follows. -/
theorem exists_yearChars (year : Int) :
    ∃ c cs, yearChars year = c :: cs ∧ Text.isBlank c = false ∧ cs.count '-' = 0 ∧
      (c :: cs).count ':' = 0 := by
  have hminus := count_padded Digit.ofChar?_minus
  have hcolon := count_padded Digit.ofChar?_colon
  unfold yearChars
  split
  · exact ⟨'-', _, rfl, by decide, hminus 4 _, by simp [hcolon]⟩
  · split
    · exact ⟨'+', _, rfl, by decide, hminus 4 _, by simp [hcolon]⟩
    · obtain ⟨d, ds, hds⟩ := List.exists_cons_of_ne_nil (paddedDigits_ne_nil 4 year.natAbs)
      refine ⟨d.toChar, Digits.chars ds, ?_, isBlank_toChar d,
        Digits.count_chars (by decide) ds, Digits.count_chars (by decide) (d :: ds)⟩
      rw [padded_eq, hds]
      rfl

/-- A date is written with two dashes after its year, and without a colon. -/
theorem exists_chars (d : Date) :
    ∃ c cs, d.chars = c :: cs ∧ Text.isBlank c = false ∧ cs.count '-' = 2 ∧
      (c :: cs).count ':' = 0 := by
  have hminus := count_padded Digit.ofChar?_minus
  have hcolon := count_padded Digit.ofChar?_colon
  obtain ⟨c, cs, hyear, hc, hdash, hcol⟩ := exists_yearChars d.year
  refine ⟨c, cs ++ '-' :: padded 2 d.month ++ '-' :: padded 2 d.day, ?_, hc, ?_, ?_⟩
  · rw [chars, hyear]
    rfl
  · simp [hminus, hdash]
  · rw [← List.cons_append, ← List.cons_append, List.count_append, List.count_append, hcol]
    simp [hcolon]

theorem length_chars_le (d : Date) : d.chars.length ≤ 13 := by
  obtain ⟨hlow, hhigh, -, hm, -, hd⟩ := d.valid
  have hday := daysInMonth_le d.year d.month
  have hyear : (padded 4 d.year.natAbs).length ≤ 6 := by
    have := Digits.length_ofNat_le (show d.year.natAbs < 10 ^ 6 by omega) (by decide)
    rw [padded_eq, Digits.length_chars, paddedDigits, List.length_append, List.length_replicate]
    omega
  have hchars : (yearChars d.year).length ≤ 7 := by
    unfold yearChars
    split
    · rw [List.length_cons]
      omega
    · split
      · rw [List.length_cons]
        omega
      · omega
  simp only [chars, List.length_append, List.length_cons,
    length_padded_two d.month (by omega), length_padded_two d.day (by omega)]
  omega

end Date

namespace DateTime

theorem exists_chars (t : DateTime) :
    ∃ c cs, t.chars = c :: cs ∧ Text.isBlank c = false ∧ 2 ≤ cs.count '-' ∧ ':' ∈ cs := by
  obtain ⟨c, cs, hdate, hc, hdash, -⟩ := t.date.exists_chars
  simp only [chars, hdate, List.cons_append]
  refine ⟨c, _, rfl, hc, ?_, ?_⟩
  · simp only [List.append_assoc, List.count_append, hdash]
    exact Nat.le_add_right 2 _
  · simp

theorem length_fractionChars_le {nano : Nat} (h : nano < 1000000000) :
    (fractionChars nano).length ≤ 10 := by
  unfold fractionChars
  split
  · simp
  · split
    · rw [List.length_cons, Date.length_padded (by decide) (by omega)]
      omega
    · split
      · rw [List.length_cons, Date.length_padded (by decide) (by omega)]
        omega
      · rw [List.length_cons, Date.length_padded (by decide) (by omega)]

theorem length_offsetChars_le {offset : Int} (hlow : -86400 < offset) (hhigh : offset < 86400) :
    (offsetChars offset).length ≤ 6 := by
  unfold offsetChars
  split
  · simp
  · simp only [List.length_append, List.length_cons,
      Date.length_padded_two (offset.natAbs / 60 / 60) (by omega),
      Date.length_padded_two (offset.natAbs / 60 % 60) (by omega)]
    omega

/-- A moment with a text is shorter than a grouped identifier. -/
theorem length_chars_lt {t : DateTime} (h : t.Writable) : t.chars.length < 36 := by
  obtain ⟨-, -, -, -, -, hlow, hhigh⟩ := t.valid
  have hlength := length_chars h
  have hfraction := length_fractionChars_le (Nat.mod_lt t.nano (by decide : 0 < 1000000000))
  have hoffset := length_offsetChars_le hlow hhigh
  omega

end DateTime

namespace Uuid

theorem not_mem_digits {c : Char} (hc : ∀ n : Fin 16, Json.hexDigit n.val ≠ c) (u : Uuid) :
    c ∉ u.digits := by
  intro h
  obtain ⟨n, -, hn⟩ := List.mem_map.1 h
  exact hc n hn

/-- An identifier is written with four dashes, more than a date or a number has. -/
theorem count_chars (u : Uuid) : u.chars.count '-' = 4 ∧ u.chars.count ':' = 0 := by
  obtain ⟨as, bs, cs, ds, es, -, -, -, -, -, hchars, hdigits⟩ := u.chars_eq
  have hminus := List.count_eq_zero.2 (not_mem_digits (c := '-') (by decide) u)
  have hcolon := List.count_eq_zero.2 (not_mem_digits (c := ':') (by decide) u)
  rw [hdigits] at hminus hcolon
  rw [hchars]
  simp only [List.count_append, List.count_cons_self,
    List.count_cons_of_ne (show '-' ≠ ':' by decide)] at *
  omega

end Uuid

namespace Kind

def Admits : Kind → List Char → Prop
  | .string, _ | .any, _ => True
  | .integer, cs | .float, cs | .decimal, cs => innerDashes (Text.trim cs) ≤ 1
  | .bytes, cs => '-' ∉ cs
  | .date, cs => cs.count '-' ≤ 3 ∧ cs.count ':' = 0
  | .dateTime, cs => ':' ∈ cs
  | .uuid, cs => cs.length < 36 → '-' ∉ cs
  | .boolean, _ | .null, _ => False

theorem admits_of_accepts {kind : Kind} {s : String} (h : kind.accepts (.string s) = true) :
    kind.Admits s.toList := by
  cases kind with
  | string | any => trivial
  | boolean | null => cases h
  | integer => exact Conversion.innerDashes_of_integerOfText h
  | float => exact Conversion.innerDashes_of_floatOfText h
  | decimal => exact Conversion.innerDashes_of_decimalOfText h
  | bytes =>
    have hsome := (Conversion.isValue_ofOption.symm.trans h : Option.isSome _ = true)
    rw [Option.isSome_map] at hsome
    obtain ⟨bs, hbs⟩ := Option.isSome_iff_exists.1 hsome
    exact Base64.minus_not_mem_of_decode? hbs
  | uuid =>
    have hsome := (Conversion.isValue_ofOption.symm.trans h : Option.isSome _ = true)
    rw [Option.isSome_map] at hsome
    obtain ⟨u, hu⟩ := Option.isSome_iff_exists.1 hsome
    exact Uuid.minus_not_mem_of_read? hu
  | date =>
    cases hd : Date.parse s with
    | ok d => exact Date.count_of_read hd
    | error e =>
      simp only [accepts, convert, hd] at h
      cases h
  | dateTime =>
    cases ht : DateTime.parse s with
    | ok t => exact DateTime.colon_mem_of_read ht
    | error e =>
      simp only [accepts, convert, ht] at h
      cases h

/-- A text that is short and has two dashes past its first character is no number, no byte string
and no identifier. -/
theorem Admits.of_dashes {kind : Kind} {c : Char} {cs : List Char} (h : kind.Admits (c :: cs))
    (hc : Text.isBlank c = false) (hdash : 2 ≤ cs.count '-') (hlen : (c :: cs).length < 36) :
    kind = .date ∨ kind = .dateTime ∨ kind = .string ∨ kind = .any := by
  have hmem : '-' ∈ c :: cs := List.mem_cons_of_mem c (List.count_pos_iff.1 (by omega))
  cases kind with
  | date | dateTime | string | any => simp
  | boolean | null => cases h
  | integer | float | decimal =>
    rw [Admits, innerDashes_trim hc, innerDashes, List.tail_cons] at h
    omega
  | bytes => exact absurd hmem h
  | uuid => exact absurd hmem (h hlen)

/-- The text of a date is a text of no other kind. -/
theorem eq_of_accepts_date {kind : Kind} {d : Date} (h : kind.accepts (.string d.text) = true) :
    kind = .date ∨ kind = .string ∨ kind = .any := by
  have hadmits := admits_of_accepts h
  rw [Date.text, String.toList_ofList] at hadmits
  have hlen := d.length_chars_le
  obtain ⟨c, cs, hchars, hc, hdash, hcolon⟩ := d.exists_chars
  rw [hchars] at hadmits hlen
  rcases hadmits.of_dashes hc (by omega) (by omega) with rfl | rfl | hother
  · exact .inl rfl
  · exact absurd hadmits (List.count_eq_zero.1 hcolon)
  · exact .inr hother

/-- The text of a moment is a text of no other kind. -/
theorem eq_of_accepts_dateTime {kind : Kind} {t : DateTime} (ht : t.Writable)
    (h : kind.accepts (.string t.text) = true) :
    kind = .dateTime ∨ kind = .string ∨ kind = .any := by
  have hadmits := admits_of_accepts h
  rw [DateTime.text, String.toList_ofList] at hadmits
  have hlen := DateTime.length_chars_lt ht
  obtain ⟨c, cs, hchars, hc, hdash, hcolon⟩ := t.exists_chars
  rw [hchars] at hadmits hlen
  rcases hadmits.of_dashes hc hdash hlen with rfl | rfl | hother
  · exact absurd (List.mem_cons_of_mem c hcolon) (List.count_eq_zero.1 hadmits.2)
  · exact .inl rfl
  · exact .inr hother

/-- The text of an identifier is a text of no other kind. -/
theorem eq_of_accepts_uuid {kind : Kind} {u : Uuid} (h : kind.accepts (.string u.text) = true) :
    kind = .uuid ∨ kind = .string ∨ kind = .any := by
  have hadmits := admits_of_accepts h
  rw [Uuid.text, String.toList_ofList] at hadmits
  obtain ⟨hdash, hcolon⟩ := u.count_chars
  cases kind with
  | uuid | string | any => simp
  | boolean | null => cases hadmits
  | integer | float | decimal =>
    have hcut := Text.count_trim (c := '-') (by decide) u.chars
    have hfirst := count_le_innerDashes (Text.trim u.chars)
    rw [Admits] at hadmits
    omega
  | bytes => exact absurd (List.count_pos_iff.1 (by omega)) hadmits
  | date =>
    have := hadmits.1
    omega
  | dateTime => exact absurd hadmits (List.count_eq_zero.1 hcolon)

end Kind
end PayloadSchema
