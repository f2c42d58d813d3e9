import PayloadSchema.Number.Decimal.Reader
import PayloadSchema.Proofs.Number.Digits

/-!
The text of a decimal number reads back as that number, its scale included. Only a zero with a
minus sign does not: it reads back without the sign.
-/
namespace PayloadSchema.Decimal
open Digits

theorem le_valueFrom (n : Nat) (ds : List Digit) : n ≤ valueFrom n ds := by
  rw [valueFrom_eq]
  exact Nat.le_add_right_of_le (Nat.le_mul_of_pos_right n (Nat.pow_pos (by decide)))

theorem readPlain?_eq (cs : List Char) :
    readPlain? cs = readWhole (Scientific.takeSign cs).1 0 false (Scientific.takeSign cs).2 :=
  rfl

theorem readPlaces_chars (negative started : Bool) (mantissa scale : Nat) (ds : List Digit)
    (hdigit : (started || !ds.isEmpty) = true) (hm : valueFrom mantissa ds < pow2 96)
    (hs : scale + ds.length ≤ 28) :
    readPlaces negative mantissa scale started (chars ds) =
      make? (negative && valueFrom mantissa ds != 0) (valueFrom mantissa ds)
        (scale + ds.length) := by
  induction ds generalizing mantissa scale started with
  | nil =>
    have hstarted : started = true := by simpa using hdigit
    simp [chars, readPlaces, valueFrom, hstarted]
  | cons d ds ih =>
    have hstep : valueFrom mantissa (d :: ds) = valueFrom (10 * mantissa + d.val) ds := rfl
    rw [hstep] at hm ⊢
    rw [List.length_cons] at hs ⊢
    have hfit : ¬(28 ≤ scale ∨ pow2 96 ≤ 10 * mantissa + d.val) := by
      have := le_valueFrom (10 * mantissa + d.val) ds
      omega
    simp only [chars, List.map_cons, readPlaces, Digit.ofChar?_toChar, hfit, if_false]
    rw [show List.map Digit.toChar ds = chars ds from rfl, ih _ _ _ rfl hm (by omega),
      Nat.add_right_comm, Nat.add_assoc]

theorem readWhole_chars (negative started : Bool) (mantissa : Nat) (ds : List Digit)
    (rest : List Char) (hm : valueFrom mantissa ds < pow2 96) :
    readWhole negative mantissa started (chars ds ++ rest) =
      readWhole negative (valueFrom mantissa ds) (started || !ds.isEmpty) rest := by
  induction ds generalizing mantissa started with
  | nil => simp [chars, valueFrom]
  | cons d ds ih =>
    have hstep : valueFrom mantissa (d :: ds) = valueFrom (10 * mantissa + d.val) ds := rfl
    rw [hstep] at hm ⊢
    have hfit : 10 * mantissa + d.val < pow2 96 :=
      lt_of_le_of_lt (le_valueFrom (10 * mantissa + d.val) ds) hm
    simp only [chars, List.map_cons, List.cons_append, readWhole, Digit.ofChar?_toChar, hfit,
      if_true]
    rw [show List.map Digit.toChar ds = chars ds from rfl, ih _ _ hm]
    simp

def paddedDigits (d : Decimal) : List Digit :=
  List.replicate (d.scale + 1 - (ofNat d.mantissa).length) Digit.zero ++ ofNat d.mantissa

def wholeDigits (d : Decimal) : List Digit :=
  d.paddedDigits.take (d.paddedDigits.length - d.scale)

def placeDigits (d : Decimal) : List Digit :=
  d.paddedDigits.drop (d.paddedDigits.length - d.scale)

theorem toNumeral_eq (d : Decimal) :
    d.toNumeral = ⟨d.negative, d.wholeDigits, d.placeDigits, none⟩ := rfl

theorem scale_lt_length_paddedDigits (d : Decimal) : d.scale < d.paddedDigits.length := by
  simp only [paddedDigits, List.length_append, List.length_replicate]
  omega

theorem length_placeDigits (d : Decimal) : d.placeDigits.length = d.scale := by
  have := d.scale_lt_length_paddedDigits
  rw [placeDigits, List.length_drop]
  omega

theorem wholeDigits_ne_nil (d : Decimal) : d.wholeDigits ≠ [] := by
  have := d.scale_lt_length_paddedDigits
  rw [← List.length_pos_iff, wholeDigits, List.length_take]
  omega

theorem valueFrom_wholeDigits (d : Decimal) :
    valueFrom (value d.wholeDigits) d.placeDigits = d.mantissa := by
  have happ := value_append d.wholeDigits d.placeDigits
  rw [wholeDigits, placeDigits, List.take_append_drop] at happ
  rw [wholeDigits, placeDigits, valueFrom, ← happ, paddedDigits, value_append_eq,
    value_replicate_zero, value_ofNat, Nat.zero_mul, Nat.zero_add]

theorem takeSign_chars (negative : Bool) {ds : List Digit} (h : ds ≠ []) (rest : List Char) :
    Scientific.takeSign ((if negative then ['-'] else []) ++ chars ds ++ rest) =
      (negative, chars ds ++ rest) := by
  cases ds with
  | nil => exact absurd rfl h
  | cons d ds =>
    cases negative with
    | true => rfl
    | false => simp [chars, Scientific.takeSign, d.toChar_ne_minus, d.toChar_ne_plus]

/-- The text of a number is read to the same mantissa and scale; a zero loses its sign. -/
theorem read?_toNumeral (d : Decimal) :
    read? d.toNumeral.chars = make? (d.negative && d.mantissa != 0) d.mantissa d.scale := by
  have hval : valueFrom (value d.wholeDigits) d.placeDigits = d.mantissa := d.valueFrom_wholeDigits
  have hfits : valueFrom (value d.wholeDigits) d.placeDigits < pow2 96 := by
    rw [hval]
    exact d.inRange.1
  have hwhole : valueFrom 0 d.wholeDigits < pow2 96 :=
    lt_of_le_of_lt (le_valueFrom (value d.wholeDigits) d.placeDigits) hfits
  have hplain : readPlain? d.toNumeral.chars =
      make? (d.negative && d.mantissa != 0) d.mantissa d.scale := by
    rw [toNumeral_eq]
    simp only [Numeral.chars, List.append_nil, readPlain?]
    rw [takeSign_chars _ d.wholeDigits_ne_nil, readWhole_chars _ _ _ _ _ hwhole]
    have hstarted : (false || !d.wholeDigits.isEmpty) = true := by
      simpa using d.wholeDigits_ne_nil
    rw [hstarted]
    by_cases hs : d.placeDigits = []
    · have hscale : d.scale = 0 := by rw [← d.length_placeDigits, hs, List.length_nil]
      have hm : valueFrom 0 d.wholeDigits = d.mantissa := by rwa [hs] at hval
      simp only [hs, List.isEmpty_nil, if_true, readWhole, hm, hscale]
    · have hscale : 0 + d.placeDigits.length ≤ 28 := by
        rw [Nat.zero_add, d.length_placeDigits]
        exact d.inRange.2
      have hdot : Digit.ofChar? '.' = none := by decide
      have hempty : d.placeDigits.isEmpty = false := by simpa using hs
      simp only [hempty, Bool.false_eq_true, if_false, readWhole, hdot, if_true]
      rw [show valueFrom 0 d.wholeDigits = value d.wholeDigits from rfl,
        readPlaces_chars _ _ _ _ _ rfl hfits hscale, hval, Nat.zero_add, d.length_placeDigits]
  rw [read?, hplain, make?, dif_pos d.inRange, Option.some_or]

def ReadsBack (d : Decimal) : Prop := read? d.toNumeral.chars = some d

theorem readsBack_iff (d : Decimal) : d.ReadsBack ↔ (d.negative = true → d.mantissa ≠ 0) := by
  obtain ⟨negative, mantissa, scale, h⟩ := d
  rw [ReadsBack, read?_toNumeral, make?, dif_pos h]
  cases negative <;> simp

/-- A zero that loses its sign keeps its value. -/
theorem signed_mk (negative : Bool) (m scale : Nat) (h : m < pow2 96 ∧ scale ≤ 28) :
    signed ⟨negative && m != 0, m, scale, h⟩ = if negative then -(m : Int) else m := by
  rw [signed]
  cases negative with
  | false => rfl
  | true => by_cases hzero : m = 0 <;> simp [hzero]

/-- A number that is written is read as an equal one: a zero that loses its sign stays zero. -/
theorem exists_read?_toNumeral (d : Decimal) :
    ∃ e, read? d.toNumeral.chars = some e ∧ d.same e = true := by
  rw [read?_toNumeral, make?, dif_pos d.inRange]
  refine ⟨_, rfl, ?_⟩
  rw [same, compare, signed_mk]
  simp only [signed]
  rw [Int.compare_eq_eq.2 rfl]
  rfl

/-- The characters that the plain form of a number has after its sign. -/
def IsPlain (c : Char) : Prop := (Digit.ofChar? c).isSome = true ∨ c = '.' ∨ c = '_'

theorem isPlain_of_droppable {cs : List Char} (h : droppable cs = true) :
    ∀ c ∈ cs, IsPlain c := by
  intro c hc
  have := List.all_eq_true.1 h c hc
  rw [Bool.or_eq_true, beq_iff_eq] at this
  rcases this with hd | rfl
  · exact .inl hd
  · exact .inr (.inr rfl)

theorem isPlain_of_readPlaces {negative started : Bool} {mantissa scale : Nat} {cs : List Char}
    {d : Decimal} (h : readPlaces negative mantissa scale started cs = some d) :
    ∀ c ∈ cs, IsPlain c := by
  induction cs generalizing mantissa scale started with
  | nil => simp
  | cons c cs ih =>
    simp only [readPlaces] at h
    refine List.forall_mem_cons.2 ?_
    cases hc : Digit.ofChar? c with
    | some digit =>
      rw [hc] at h
      refine ⟨.inl (by rw [hc]; rfl), ?_⟩
      simp only at h
      split at h
      · split at h
        · rename_i hdrop
          exact isPlain_of_droppable hdrop
        · cases h
      · exact ih h
    | none =>
      rw [hc] at h
      simp only at h
      split at h
      · rename_i hmark
        refine ⟨.inr (.inr hmark.1), ?_⟩
        split at h
        · split at h
          · rename_i hdrop
            exact isPlain_of_droppable hdrop
          · cases h
        · exact ih h
      · cases h

theorem isPlain_of_readWhole {negative started : Bool} {mantissa : Nat} {cs : List Char}
    {d : Decimal} (h : readWhole negative mantissa started cs = some d) :
    ∀ c ∈ cs, IsPlain c := by
  induction cs generalizing mantissa started with
  | nil => simp
  | cons c cs ih =>
    simp only [readWhole] at h
    refine List.forall_mem_cons.2 ?_
    cases hc : Digit.ofChar? c with
    | some digit =>
      rw [hc] at h
      refine ⟨.inl (by rw [hc]; rfl), ?_⟩
      simp only at h
      split at h
      · exact ih h
      · cases h
    | none =>
      rw [hc] at h
      simp only at h
      split at h
      · rename_i hdot
        exact ⟨.inr (.inl hdot), isPlain_of_readPlaces h⟩
      · split at h
        · rename_i hmark
          exact ⟨.inr (.inr hmark.1), ih h⟩
        · cases h

def isBeforeMark (c : Char) : Bool := !(c == 'e' || c == 'E')

/-- The exponent form: a plain form, a mark, and a power that divides or multiplies. -/
theorem exists_of_readScaled? {cs : List Char} {d : Decimal} (h : readScaled? cs = some d) :
    ∃ mark power base, cs.dropWhile isBeforeMark = mark :: power ∧
      readPlain? (cs.takeWhile isBeforeMark) = some base ∧
      ((∃ rest n, power = '-' :: rest ∧ readPower? rest = some n) ∨
        ∃ n, readPower? power = some n ∧ base.grow n = some d) := by
  unfold readScaled? at h
  simp only at h
  split at h
  · cases h
  · rename_i mark power hdrop
    obtain ⟨base, hbase, h⟩ := Option.bind_eq_some_iff.1 h
    refine ⟨mark, power, base, hdrop, hbase, ?_⟩
    split at h
    · obtain ⟨n, hn, -⟩ := Option.bind_eq_some_iff.1 h
      exact .inl ⟨_, n, rfl, hn⟩
    · obtain ⟨n, hn, h⟩ := Option.bind_eq_some_iff.1 h
      exact .inr ⟨n, hn, h⟩

end PayloadSchema.Decimal
