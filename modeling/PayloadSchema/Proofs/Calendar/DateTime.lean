import PayloadSchema.Calendar.DateTime
import PayloadSchema.Proofs.Calendar.Date
import PayloadSchema.Proofs.Outcome

/-!
The text of a moment that was read reads back as the same moment: same date, time of day,
nanoseconds with their leap second, and offset.
-/
namespace PayloadSchema.DateTime
open Digits Outcome Calendar

/-- The moments that RFC 3339 can write: years of four digits and offsets of whole minutes. -/
def Writable (t : DateTime) : Prop :=
  0 ≤ t.date.year ∧ t.date.year ≤ 9999 ∧ t.offset % 60 = 0

theorem readDigits_chars (value : Nat) (ds : List Digit) (rest : List Char) :
    readDigits ds.length value (Digits.chars ds ++ rest) = .ok (valueFrom value ds, rest) := by
  induction ds generalizing value with
  | nil => rfl
  | cons d ds ih =>
    have hstep : valueFrom value (d :: ds) = valueFrom (10 * value + d.val) ds := rfl
    simp only [Digits.chars, List.map_cons, List.cons_append, List.length_cons, readDigits,
      readDigit, Digit.ofChar?_toChar, bind, Except.bind]
    rw [hstep, show List.map Digit.toChar ds = Digits.chars ds from rfl]
    exact ih _

theorem readDigits_padded {width n : Nat} (hw : 0 < width) (h : n < 10 ^ width)
    (rest : List Char) : readDigits width 0 (Date.padded width n ++ rest) = .ok (n, rest) := by
  have hread := readDigits_chars 0 (Date.paddedDigits width n) rest
  rw [Date.length_paddedDigits hw h] at hread
  rw [Date.padded_eq, hread]
  exact congrArg (fun v => Except.ok (v, rest)) (Date.value_paddedDigits width n)

theorem readDigits_lt {n value result : Nat} {cs rest : List Char}
    (h : readDigits n value cs = .ok (result, rest)) : result < (value + 1) * 10 ^ n := by
  induction n generalizing value cs with
  | zero =>
    simp only [readDigits, Except.ok.injEq, Prod.mk.injEq] at h
    omega
  | succ n ih =>
    simp only [readDigits, bind_eq_ok, Prod.exists] at h
    obtain ⟨d, cs', hd, hrest⟩ := h
    have hdigit : d < 10 := by
      cases cs with
      | nil => simp [readDigit] at hd
      | cons c cs =>
        simp only [readDigit] at hd
        split at hd
        · rename_i e he
          cases hd
          exact e.isLt
        · cases hd
    have := ih hrest
    calc result < (10 * value + d + 1) * 10 ^ n := this
      _ ≤ ((value + 1) * 10) * 10 ^ n := Nat.mul_le_mul_right _ (by omega)
      _ = (value + 1) * 10 ^ (n + 1) := by ring

theorem readOffset_eq_ok {cs rest : List Char} {offset : Int}
    (h : readOffset cs = .ok (offset, rest)) : offset % 60 = 0 := by
  cases cs with
  | nil => cases h
  | cons c cs =>
    simp only [readOffset] at h
    split at h
    · cases h
      rfl
    · split at h
      · cases h
      · simp only [bind_eq_ok, ite_error_eq_ok, pure, Except.pure, Except.ok.injEq,
          Prod.mk.injEq] at h
        obtain ⟨a, -, -, -, b, -, -, rfl, -⟩ := h
        split <;> omega

theorem read_writable {cs : List Char} {t : DateTime} (h : read cs = .ok t) : Writable t := by
  simp only [read, ite_error_eq_ok, bind_eq_ok] at h
  obtain ⟨-, year, hyear, -, -, month, -, -, -, day, -, h⟩ := h
  cases hdate : Date.make? year.1 month.1 day.1 with
  | none => simp [hdate] at h
  | some date =>
    simp only [hdate, bind_eq_ok, ite_else_error_eq_ok] at h
    obtain ⟨-, -, hour, -, -, -, minute, -, -, -, second, -, fraction, -, -, offset, hoffset, -,
      h⟩ := h
    have hy : date.year = year.1 := by
      simp only [Date.make?] at hdate
      split at hdate <;> cases hdate
      rfl
    have hlt : year.1 < (0 + 1) * 10 ^ 4 := readDigits_lt hyear
    have hmin : offset.1 % 60 = 0 := readOffset_eq_ok hoffset
    generalize (if second.1 = 60 then (59, 1000000000 + fraction.1) else (second.1, fraction.1)) =
      clock at h
    split at h <;> cases h
    exact ⟨by dsimp only; omega, by dsimp only; omega, hmin⟩

theorem readFraction_padded {width n : Nat} (hw : 0 < width) (hw' : width ≤ 9)
    (h : n < 10 ^ width) {rest : List Char} (hrest : Ends rest) :
    readFraction ('.' :: Date.padded width n ++ rest) = .ok (n * 10 ^ (9 - width), rest) := by
  have hlen := Date.length_paddedDigits hw h
  have htake : (Date.paddedDigits width n).take 9 = Date.paddedDigits width n :=
    List.take_of_length_le (by omega)
  have hval := Date.value_paddedDigits width n
  rw [List.cons_append, Date.padded_eq, readFraction, span_append _ hrest]
  generalize Date.paddedDigits width n = ds at *
  cases ds with
  | nil =>
    rw [List.length_nil] at hlen
    omega
  | cons d ds =>
    simp only
    rw [htake, hval, hlen, pow10_eq]

theorem readFraction_fractionChars {nano : Nat} (h : nano < 1000000000) {rest : List Char}
    (hrest : Ends rest) (hdot : rest.head? ≠ some '.') :
    readFraction (fractionChars nano ++ rest) = .ok (nano, rest) := by
  rw [fractionChars]
  split
  · rename_i hzero
    cases rest with
    | nil => simp [readFraction, hzero]
    | cons c cs =>
      rw [List.nil_append, readFraction]
      · rw [hzero]
      · rintro r hr
        simp [(List.cons.inj hr).1] at hdot
  · split
    · rw [readFraction_padded (by decide) (by decide) (by omega) hrest]
      exact congrArg (fun v => Except.ok (v, rest)) (by omega)
    · split
      · rw [readFraction_padded (by decide) (by decide) (by omega) hrest]
        exact congrArg (fun v => Except.ok (v, rest)) (by omega)
      · rw [readFraction_padded (by decide) (by decide) (by omega) hrest]
        exact congrArg (fun v => Except.ok (v, rest)) (by omega)

theorem readPair_padded {n : Nat} (h : n < 100) (rest : List Char) :
    ∃ a b, readPair (Date.padded 2 n ++ rest) = .ok (a, b, rest) ∧ 10 * a + b = n := by
  have hlen := Date.length_paddedDigits (show 0 < 2 by decide) h
  have hval := Date.value_paddedDigits 2 n
  obtain ⟨a, b, hab⟩ := List.length_eq_two.mp hlen
  refine ⟨a.val, b.val, ?_, ?_⟩
  · rw [Date.padded_eq, hab]
    simp [Digits.chars, readPair, Digit.ofChar?_toChar]
  · rw [hab] at hval
    simpa [value] using hval

theorem readOffset_pairs {c : Char} (hc : c = '+' ∨ c = '-') {hours minutes rest : List Char}
    {h h' m m' : Nat} (hhours : readPair hours = .ok (h, h', ':' :: minutes))
    (hminutes : readPair minutes = .ok (m, m', rest)) (hm : ¬6 ≤ m) :
    readOffset (c :: hours) =
      .ok (if c = '+' then (((10 * h + h') * 3600 + (10 * m + m') * 60 : Nat) : Int)
        else -(((10 * h + h') * 3600 + (10 * m + m') * 60 : Nat) : Int), rest) := by
  rcases hc with rfl | rfl <;>
    simp [readOffset, hhours, readChar, hminutes, hm, bind, Except.bind, pure, Except.pure]

theorem readOffset_offsetChars {offset : Int} (hlow : -86400 < offset) (hhigh : offset < 86400)
    (hmin : offset % 60 = 0) : readOffset (offsetChars offset) = .ok (offset, []) := by
  rw [offsetChars]
  split
  · rename_i hzero
    simp [readOffset, hzero]
  · rename_i hne
    obtain ⟨h, h', hhours, hhval⟩ := readPair_padded (n := offset.natAbs / 60 / 60) (by omega)
      (':' :: Date.padded 2 (offset.natAbs / 60 % 60))
    obtain ⟨m, m', hminutes, hmval⟩ := readPair_padded (n := offset.natAbs / 60 % 60) (by omega) []
    rw [List.append_nil] at hminutes
    have hm : ¬6 ≤ m := by omega
    by_cases hneg : offset < 0
    · simp only [hneg, if_true, List.cons_append]
      rw [readOffset_pairs (.inr rfl) hhours hminutes hm]
      simp only [Except.ok.injEq, Prod.mk.injEq, and_true]
      rw [if_neg (by decide)]
      omega
    · simp only [hneg, if_false, List.cons_append]
      rw [readOffset_pairs (.inl rfl) hhours hminutes hm]
      simp only [Except.ok.injEq, Prod.mk.injEq, and_true]
      rw [if_true]
      omega

theorem ends_offsetChars (offset : Int) :
    Ends (offsetChars offset) ∧ (offsetChars offset).head? ≠ some '.' := by
  rw [offsetChars]
  split
  · exact ⟨ends_cons (by decide), by simp⟩
  · split
    · exact ⟨ends_cons (by decide), by simp⟩
    · exact ⟨ends_cons (by decide), by simp⟩

theorem length_le_utf8ByteSize (cs : List Char) : cs.length ≤ (String.ofList cs).utf8ByteSize := by
  induction cs with
  | nil => simp
  | cons c cs ih =>
    have := c.utf8Size_pos
    rw [String.ofList_cons, String.utf8ByteSize_append, String.utf8ByteSize_singleton,
      List.length_cons]
    omega

/-- The date and the time of day have 19 characters. -/
theorem length_chars {t : DateTime} (h : t.Writable) :
    t.chars.length = 19 + (fractionChars (t.nano % 1000000000)).length +
      (offsetChars t.offset).length := by
  obtain ⟨hyear, hyear', -⟩ := h
  obtain ⟨hhour, hminute, hsecond, hnano, -⟩ := t.valid
  obtain ⟨-, -, -, hmonth, -, hday⟩ := t.date.valid
  have := Date.daysInMonth_le t.date.year t.date.month
  have htwo := Date.length_padded_two
  have hfour : (Date.padded 4 t.date.year.natAbs).length = 4 :=
    Date.length_padded (by decide) (by omega)
  rw [chars, Date.chars, Date.yearChars_of_four hyear hyear']
  simp only [List.length_append, List.length_cons, hfour, htwo t.date.month (by omega),
    htwo t.date.day (by omega), htwo t.hour (by omega), htwo t.minute (by omega),
    htwo (t.second + t.nano / 1000000000) (by omega)]

/-- The second written for a leap second is 60, and it is read as such. -/
theorem clock_eq (t : DateTime) :
    (if t.second + t.nano / 1000000000 = 60 then (59, 1000000000 + t.nano % 1000000000)
      else (t.second + t.nano / 1000000000, t.nano % 1000000000)) = (t.second, t.nano) := by
  obtain ⟨-, -, hsecond, hnano, hleap, -⟩ := t.valid
  split
  · rw [Prod.mk.injEq]
    omega
  · rw [Prod.mk.injEq]
    omega

theorem read_chars {t : DateTime} (h : t.Writable) : read t.chars = .ok t := by
  have hsize : ¬(String.ofList t.chars).utf8ByteSize < 19 := by
    have := length_chars h
    have := length_le_utf8ByteSize t.chars
    omega
  obtain ⟨hyear, hyear', hoffset⟩ := h
  obtain ⟨hhour, hminute, hsecond, hnano, -, hlow, hhigh⟩ := t.valid
  obtain ⟨-, -, -, hmonth, -, hday⟩ := t.date.valid
  have := Date.daysInMonth_le t.date.year t.date.month
  obtain ⟨hends, hdot⟩ := ends_offsetChars t.offset
  have hfour : ∀ rest, readDigits 4 0 (Date.padded 4 t.date.year.natAbs ++ rest) =
      .ok (t.date.year.natAbs, rest) := readDigits_padded (by decide) (by omega)
  have htwo : ∀ n < 100, ∀ rest, readDigits 2 0 (Date.padded 2 n ++ rest) = .ok (n, rest) :=
    fun n hn => readDigits_padded (by decide) hn
  have hdate : Date.make? (t.date.year.natAbs : Nat) t.date.month t.date.day = some t.date := by
    rw [show ((t.date.year.natAbs : Nat) : Int) = t.date.year by omega]
    exact t.date.make?_self
  rw [read, if_neg hsize]
  simp only [chars, Date.chars, Date.yearChars_of_four hyear hyear', List.append_assoc,
    List.cons_append]
  simp only [bind, Except.bind, readChar, hfour, htwo t.date.month (by omega),
    htwo t.date.day (by omega), hdate, htwo t.hour (by omega), htwo t.minute (by omega),
    htwo (t.second + t.nano / 1000000000) (by omega), beq_self_eq_true, Bool.true_or, if_true,
    readFraction_fractionChars (show t.nano % 1000000000 < 1000000000 by omega) hends hdot,
    clock_eq, readOffset_offsetChars hlow hhigh hoffset, List.isEmpty_nil]
  rw [if_pos ⟨hhour, hminute, hsecond⟩, dif_pos t.valid]

theorem parse_text {t : DateTime} (h : t.Writable) : parse t.text = .ok t := by
  rw [parse, text, String.toList_ofList]
  exact read_chars h

end PayloadSchema.DateTime
