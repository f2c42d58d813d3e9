import PayloadSchema.Proofs.Number.Value

/-!
The texts of numbers: an optional sign, digits with an optional point, and an optional exponent.
All of them are read as numerals. Those that fit a decimal with all their digits are read as the
decimal of the same value.
-/
namespace PayloadSchema

namespace Literal

inductive Sign where
  | bare
  | plus
  | minus

def Sign.isMinus : Sign → Bool
  | minus => true
  | _ => false

def Sign.chars : Sign → List Char
  | bare => []
  | plus => ['+']
  | minus => ['-']

structure Power where
  capital : Bool
  sign : Sign
  digits : List Digit
  nonempty : digits ≠ []

end Literal

/-- A fraction may have no digits if there are some before the point. -/
structure Literal where
  sign : Literal.Sign
  whole : List Digit
  fraction : Option (List Digit)
  power : Option Literal.Power
  hasDigit : whole ++ fraction.getD [] ≠ []

namespace Literal

namespace Power

def value (p : Power) : ℤ :=
  if p.sign.isMinus then -(Digits.value p.digits : ℤ) else Digits.value p.digits

def mark (p : Power) : Char := if p.capital then 'E' else 'e'

def tail (p : Power) : List Char := p.sign.chars ++ Digits.chars p.digits

end Power

def places (l : Literal) : List Digit := l.fraction.getD []

def exponent (l : Literal) : ℤ := (l.power.map Power.value).getD 0

def toScientific (l : Literal) : Scientific where
  negative := l.sign.isMinus
  coefficient := Digits.value (l.whole ++ l.places)
  exponent := l.exponent - l.places.length

def fractionChars : Option (List Digit) → List Char
  | some ds => '.' :: Digits.chars ds
  | none => []

def body (l : Literal) : List Char := Digits.chars l.whole ++ fractionChars l.fraction

def powerChars (l : Literal) : List Char :=
  match l.power with
  | some p => p.mark :: p.tail
  | none => []

def chars (l : Literal) : List Char := l.sign.chars ++ (l.body ++ l.powerChars)

/-- Whether a decimal holds the number with all the digits that are written. -/
def Fits (l : Literal) : Prop :=
  l.places.length ≤ 28 ∧ l.exponent ≤ 28 ∧ -28 ≤ l.toScientific.exponent ∧
    l.toScientific.coefficient * 10 ^ l.toScientific.exponent.toNat < 2 ^ 96

instance (l : Literal) : Decidable l.Fits := inferInstanceAs (Decidable (_ ∧ _))

theorem takeSign_append (sign : Sign) {cs : List Char}
    (h : ∀ c ∈ cs.head?, c ≠ '-' ∧ c ≠ '+') :
    Scientific.takeSign (sign.chars ++ cs) = (sign.isMinus, cs) := by
  cases sign with
  | plus | minus => rfl
  | bare =>
    cases cs with
    | nil => rfl
    | cons c cs =>
      obtain ⟨hminus, hplus⟩ := h c rfl
      simp [Sign.chars, Sign.isMinus, Scientific.takeSign, hminus, hplus]

theorem head_chars {ds : List Digit} (rest : List Char) (h : ds ≠ []) :
    ∀ c ∈ (Digits.chars ds ++ rest).head?, c ≠ '-' ∧ c ≠ '+' := by
  cases ds with
  | nil => exact absurd rfl h
  | cons d ds =>
    rintro c ⟨⟩
    exact ⟨d.toChar_ne_minus, d.toChar_ne_plus⟩

theorem head_body (l : Literal) (rest : List Char) :
    ∀ c ∈ (l.body ++ rest).head?, c ≠ '-' ∧ c ≠ '+' := by
  rw [body, List.append_assoc]
  by_cases hwhole : l.whole = []
  · have hdigit := l.hasDigit
    rw [hwhole] at hdigit ⊢
    cases hfraction : l.fraction with
    | none =>
      rw [hfraction] at hdigit
      exact absurd rfl hdigit
    | some ds =>
      rintro c ⟨⟩
      decide
  · exact head_chars _ hwhole

theorem read?_digits {ds : List Digit} (h : ds ≠ []) :
    Digits.read? (Digits.chars ds) = some ds := by
  rw [Digits.read?, Digits.span_chars]
  cases ds with
  | nil => exact absurd rfl h
  | cons => rfl

theorem Power.takeSign_tail (p : Power) :
    Scientific.takeSign p.tail = (p.sign.isMinus, Digits.chars p.digits) := by
  have hhead := head_chars [] p.nonempty
  rw [List.append_nil] at hhead
  exact takeSign_append p.sign hhead

theorem Power.mark_eq (p : Power) : p.mark = 'e' ∨ p.mark = 'E' := by
  rw [mark]
  split
  · exact .inr rfl
  · exact .inl rfl

theorem ends_powerChars (l : Literal) : Digits.Ends l.powerChars := by
  rw [powerChars]
  cases l.power with
  | none => exact Digits.ends_nil
  | some p =>
    apply Digits.ends_cons
    rcases p.mark_eq with h | h <;> rw [h] <;> decide

theorem readExponent?_powerChars (l : Literal) :
    Scientific.readExponent? l.powerChars = some l.exponent := by
  rw [powerChars, exponent]
  cases l.power with
  | none => rfl
  | some p =>
    simp only [Scientific.readExponent?, p.mark_eq, if_true, p.takeSign_tail,
      read?_digits p.nonempty, Option.map_some, Option.getD_some]
    rfl

theorem takeFraction_powerChars (l : Literal) :
    Scientific.takeFraction l.powerChars = ([], l.powerChars) := by
  rw [powerChars]
  cases l.power with
  | none => rfl
  | some p => rcases p.mark_eq with h | h <;> simp [Scientific.takeFraction, h]

theorem span_body (l : Literal) :
    Scientific.takeFraction (Digits.span (l.body ++ l.powerChars)).2 = (l.places, l.powerChars) ∧
      (Digits.span (l.body ++ l.powerChars)).1 = l.whole := by
  rw [body, List.append_assoc, places]
  cases l.fraction with
  | some ds =>
    have hends : Digits.Ends ('.' :: Digits.chars ds ++ l.powerChars) :=
      Digits.ends_cons (by decide)
    rw [fractionChars, Digits.span_append _ hends]
    exact ⟨Digits.span_append ds l.ends_powerChars, rfl⟩
  | none =>
    rw [fractionChars, List.nil_append, Digits.span_append _ l.ends_powerChars]
    exact ⟨l.takeFraction_powerChars, rfl⟩

theorem read?_chars (l : Literal) : Scientific.read? l.chars = some l.toScientific := by
  obtain ⟨hfraction, hwhole⟩ := l.span_body
  have hdigit : (l.whole.isEmpty && l.places.isEmpty) = false := by
    rw [← Bool.not_eq_true, Bool.and_eq_true, List.isEmpty_iff, List.isEmpty_iff]
    rintro ⟨hw, hp⟩
    exact l.hasDigit (by rw [hw]; exact hp)
  rw [Scientific.read?, chars, takeSign_append _ (l.head_body _)]
  simp only [hfraction, hwhole, hdigit, Bool.false_eq_true, if_false, l.readExponent?_powerChars]
  rfl

theorem readPlain?_body {l : Literal} (hm : l.toScientific.coefficient < 2 ^ 96)
    (hs : l.places.length ≤ 28) :
    Decimal.readPlain? (l.sign.chars ++ l.body) =
      Decimal.make? (l.sign.isMinus && l.toScientific.coefficient != 0) l.toScientific.coefficient
        l.places.length := by
  have hhead := l.head_body []
  rw [List.append_nil] at hhead
  have hcoefficient : l.toScientific.coefficient =
      Digits.valueFrom (Digits.value l.whole) l.places := Digits.value_append _ _
  rw [hcoefficient] at hm ⊢
  have hwhole : Digits.valueFrom 0 l.whole < pow2 96 := (Decimal.le_valueFrom _ _).trans_lt hm
  rw [Decimal.readPlain?_eq, takeSign_append _ hhead, body,
    Decimal.readWhole_chars _ _ _ _ _ hwhole]
  have hdigit := l.hasDigit
  rw [places] at hm hs ⊢
  cases hfraction : l.fraction with
  | none =>
    rw [hfraction] at hdigit
    have hne : l.whole ≠ [] := by simpa using hdigit
    rw [fractionChars, Decimal.readWhole, if_pos (by simpa using hne)]
    rfl
  | some ds =>
    rw [hfraction] at hdigit hm hs
    have hstarted : (false || !l.whole.isEmpty || !ds.isEmpty) = true := by
      rw [Bool.false_or, ← Bool.not_and, Bool.not_eq_true', ← Bool.not_eq_true, Bool.and_eq_true,
        List.isEmpty_iff, List.isEmpty_iff]
      rintro ⟨hw, hd⟩
      exact hdigit (by rw [hw, hd]; rfl)
    have hdot : Digit.ofChar? '.' = none := by decide
    simp only [fractionChars, Decimal.readWhole, hdot, if_true]
    exact (Decimal.readPlaces_chars _ _ _ _ _ hstarted hm (by simpa using hs)).trans
      (by rw [Nat.zero_add]; rfl)

end Literal

namespace Decimal

theorem toRat_eq_mul (d : Decimal) : d.toRat = d.signed * 10 ^ (-(d.scale : ℤ)) := by
  rw [toRat, zpow_neg, zpow_natCast, div_eq_mul_inv]
  push_cast
  rfl

theorem exists_make? (negative : Bool) {m scale : ℕ} (hm : m < 2 ^ 96) (hs : scale ≤ 28) :
    ∃ d, make? negative m scale = some d ∧ d.mantissa = m ∧ d.scale = scale ∧
      d.signed = if negative then -(m : ℤ) else m :=
  ⟨_, dif_pos ⟨hm, hs⟩, rfl, rfl, rfl⟩

/-- Nothing is rounded away while there are places left. -/
theorem exists_shrink {d : Decimal} {x : ℕ} (h : d.scale + x ≤ 28) :
    ∃ e, d.shrink x = some e ∧ e.toRat = d.toRat * 10 ^ (-(x : ℤ)) := by
  obtain ⟨e, he, -, hscale, hsigned⟩ := exists_make? d.negative d.inRange.1 h
  have hsigned' : e.signed = d.signed := hsigned
  refine ⟨e, ?_, ?_⟩
  · rw [shrink, if_neg (by omega), if_neg (by omega)]
    exact he
  · rw [toRat_eq_mul, toRat_eq_mul, mul_assoc, ← zpow_add₀ (by norm_num), hscale, hsigned',
      Nat.cast_add, neg_add]

theorem exists_grow {d : Decimal} {x : ℕ} (hx : x ≤ 28)
    (h : d.mantissa * 10 ^ (x - d.scale) < 2 ^ 96) :
    ∃ e, d.grow x = some e ∧ e.toRat = d.toRat * 10 ^ (x : ℤ) := by
  by_cases hle : x ≤ d.scale
  · obtain ⟨e, he, -, hscale, hsigned⟩ :=
      exists_make? d.negative d.inRange.1 ((Nat.sub_le _ x).trans d.inRange.2)
    refine ⟨e, (if_pos hle).trans he, ?_⟩
    rw [toRat_eq_mul, toRat_eq_mul, mul_assoc, ← zpow_add₀ (by norm_num), hscale, hsigned,
      show -((d.scale - x : ℕ) : ℤ) = -(d.scale : ℤ) + x by omega]
    rfl
  · obtain ⟨e, he, -, hscale, hsigned⟩ := exists_make? d.negative h (Nat.zero_le 28)
    refine ⟨e, ?_, ?_⟩
    · rw [grow, if_neg hle, if_neg (by omega)]
      exact he
    · have hsigned' : e.signed = d.signed * (10 ^ (x - d.scale) : ℕ) := by
        rw [hsigned, signed]
        split
        · push_cast
          ring
        · push_cast
          rfl
      rw [toRat_eq_mul, toRat_eq_mul, mul_assoc, ← zpow_add₀ (by norm_num), hscale, hsigned',
        show -(d.scale : ℤ) + x = (x - d.scale : ℕ) by omega, zpow_natCast]
      simp

theorem readPower?_chars {ds : List Digit} (h : ds ≠ []) (hsmall : Digits.value ds < 2 ^ 32) :
    readPower? (Digits.chars ds) = some (Digits.value ds) ∧
      readPower? ('+' :: Digits.chars ds) = some (Digits.value ds) := by
  have hread : (Digits.read? (Digits.chars ds)).bind (fun ds =>
      if Digits.value ds < pow2 32 then some (Digits.value ds) else none) =
        some (Digits.value ds) := by
    rw [Literal.read?_digits h]
    exact if_pos hsmall
  refine ⟨?_, hread⟩
  rw [readPower?]
  · exact hread
  · intro r hplus
    cases ds with
    | nil => exact h rfl
    | cons d ds => exact d.toChar_ne_plus (List.cons.inj hplus).1

theorem readScaled?_eq (cs : List Char) :
    readScaled? cs =
      match cs.dropWhile isBeforeMark with
      | [] => none
      | _ :: power =>
        (readPlain? (cs.takeWhile isBeforeMark)).bind fun base =>
          match power with
          | '-' :: rest => (readPower? rest).bind base.shrink
          | _ => (readPower? power).bind base.grow :=
  rfl

/-- The exponent form, read from its parts. -/
theorem readScaled?_append {lead power : List Char} {mark : Char} {base : Decimal}
    (hlead : ∀ c ∈ lead, isBeforeMark c = true) (hmark : isBeforeMark mark = false)
    (hbase : readPlain? lead = some base) :
    readScaled? (lead ++ mark :: power) =
      match power with
      | '-' :: rest => (readPower? rest).bind base.shrink
      | _ => (readPower? power).bind base.grow := by
  have hdrop : (lead ++ mark :: power).dropWhile isBeforeMark = mark :: power := by
    rw [List.dropWhile_append_of_pos hlead, List.dropWhile_cons_of_neg (by simp [hmark])]
  have htake : (lead ++ mark :: power).takeWhile isBeforeMark = lead := by
    rw [List.takeWhile_append_of_pos hlead, List.takeWhile_cons_of_neg (by simp [hmark]),
      List.append_nil]
  rw [readScaled?_eq, hdrop, htake, hbase]
  rfl

end Decimal

namespace Literal

theorem Sign.isBeforeMark_of_mem {sign : Sign} {c : Char} (h : c ∈ sign.chars) :
    Decimal.isBeforeMark c = true := by
  cases sign with
  | bare => cases h
  | plus | minus =>
    rw [List.mem_singleton.1 h]
    rfl

theorem isBeforeMark_of_mem {l : Literal} {c : Char} (h : c ∈ l.sign.chars ++ l.body) :
    Decimal.isBeforeMark c = true := by
  rcases List.mem_append.1 h with h | h
  · exact Sign.isBeforeMark_of_mem h
  · rcases List.mem_append.1 h with h | h
    · exact Decimal.isBeforeMark_of_mem_chars h
    · generalize l.fraction = fraction at h
      cases fraction with
      | none => cases h
      | some ds =>
        rcases List.mem_cons.1 h with rfl | h
        · rfl
        · exact Decimal.isBeforeMark_of_mem_chars h

/-- A text with an exponent is not in plain form. -/
theorem readPlain?_of_power {l : Literal} {p : Power} (hp : l.power = some p) :
    Decimal.readPlain? l.chars = none := by
  rw [Option.eq_none_iff_forall_ne_some]
  intro d hd
  have hmem : p.mark ∈ l.body ++ l.powerChars := by simp [powerChars, hp]
  rw [Decimal.readPlain?_eq, chars, takeSign_append _ (l.head_body _)] at hd
  have hplain := Decimal.isPlain_of_readWhole hd p.mark hmem
  unfold Decimal.IsPlain at hplain
  rcases p.mark_eq with h | h <;> rw [h] at hplain <;> revert hplain <;> decide

/-- The power scales what stands before it. -/
theorem readScaled?_of_power {l : Literal} {p : Power} {base : Decimal} (hp : l.power = some p)
    (hbase : Decimal.readPlain? (l.sign.chars ++ l.body) = some base)
    (hsmall : Digits.value p.digits < 2 ^ 32) :
    Decimal.readScaled? l.chars =
      if p.sign.isMinus then base.shrink (Digits.value p.digits)
      else base.grow (Digits.value p.digits) := by
  obtain ⟨hbare, hplus⟩ := Decimal.readPower?_chars p.nonempty hsmall
  have hmark : Decimal.isBeforeMark p.mark = false := by
    rcases p.mark_eq with h | h <;> rw [h] <;> rfl
  have hchars : l.chars = (l.sign.chars ++ l.body) ++ p.mark :: p.tail := by
    rw [chars, powerChars, hp, List.append_assoc]
  rw [hchars, Decimal.readScaled?_append (fun c => isBeforeMark_of_mem) hmark hbase, Power.tail]
  cases p.sign with
  | minus => exact congrArg (Option.bind · base.shrink) hbare
  | plus => exact congrArg (Option.bind · base.grow) hplus
  | bare =>
    rw [Sign.chars, List.nil_append]
    split
    · rename_i rest hminus
      have hhead := head_chars [] p.nonempty '-'
      rw [List.append_nil, hminus] at hhead
      exact absurd rfl (hhead rfl).1
    · rw [hbare]
      rfl

theorem exists_readPlain?_body {l : Literal} (hm : l.toScientific.coefficient < 2 ^ 96)
    (hs : l.places.length ≤ 28) :
    ∃ d, Decimal.readPlain? (l.sign.chars ++ l.body) = some d ∧
      d.mantissa = l.toScientific.coefficient ∧ d.scale = l.places.length ∧
      l.toScientific.toRat = d.toRat * 10 ^ l.exponent := by
  have hmake : Decimal.make? (l.sign.isMinus && l.toScientific.coefficient != 0)
      l.toScientific.coefficient l.places.length = some ⟨_, _, _, hm, hs⟩ := dif_pos ⟨hm, hs⟩
  refine ⟨_, (readPlain?_body hm hs).trans hmake, rfl, rfl, ?_⟩
  rw [Decimal.toRat_eq_mul, Decimal.signed_mk, mul_assoc, ← zpow_add₀ (by norm_num), neg_add_eq_sub]
  rfl

/-- A text is read as the decimal of the same value if its digits fit one. -/
theorem exists_read?_of_fits {l : Literal} (h : l.Fits) :
    ∃ d, Decimal.read? l.chars = some d ∧ d.toRat = l.toScientific.toRat := by
  obtain ⟨hplaces, hpower, hleast, hsize⟩ := h
  have hm : l.toScientific.coefficient < 2 ^ 96 :=
    (Nat.le_mul_of_pos_right _ (Nat.pow_pos (by decide))).trans_lt hsize
  obtain ⟨base, hbase, hmantissa, hscale, hvalue⟩ := exists_readPlain?_body hm hplaces
  have hexponent : l.toScientific.exponent = l.exponent - base.scale := by rw [hscale]; rfl
  rw [hvalue, Decimal.read?]
  cases hp : l.power with
  | none =>
    have hchars : l.chars = l.sign.chars ++ l.body := by
      rw [chars, powerChars, hp, List.append_nil]
    refine ⟨base, by rw [hchars, hbase, Option.some_or], ?_⟩
    rw [exponent, hp]
    simp
  | some p =>
    have hpvalue : l.exponent = p.value := by rw [exponent, hp]; rfl
    rw [Power.value] at hpvalue
    rw [readPlain?_of_power hp, Option.none_or]
    split at hpvalue
    · rename_i hminus
      rw [readScaled?_of_power hp hbase (by omega), if_pos hminus, hpvalue]
      exact Decimal.exists_shrink (by omega)
    · rename_i hplus
      rw [readScaled?_of_power hp hbase (by omega), if_neg hplus, hpvalue]
      have hgrowth : Digits.value p.digits - base.scale = l.toScientific.exponent.toNat := by omega
      exact Decimal.exists_grow (by omega) (by rwa [hmantissa, hgrowth])

end Literal
end PayloadSchema
