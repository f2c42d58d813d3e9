import Mathlib
import PayloadSchema.Proofs.Number.Literal
import PayloadSchema.Proofs.Validation.NumberForms
import PayloadSchema.Proofs.Validation.UnionEncoding

/-!
Which texts are numbers. A float has to be written as a literal. A decimal may also be written with
underscores after its first digit, and with a plus after the minus of its exponent; on all other
texts both kinds agree, and what is no decimal is no integer either.
-/
namespace PayloadSchema

theorem Digits.ne_nil_of_read? {cs : List Char} {ds : List Digit} (h : read? cs = some ds) :
    ds ≠ [] := by
  unfold read? at h
  split at h
  · cases h
    simp
  · cases h

namespace Literal

theorem exists_sign (cs : List Char) :
    ∃ sign : Sign, cs = sign.chars ++ (Scientific.takeSign cs).2 := by
  unfold Scientific.takeSign
  split
  · exact ⟨.minus, rfl⟩
  · exact ⟨.plus, rfl⟩
  · exact ⟨.bare, rfl⟩

theorem exists_power {mark : Char} (hmark : mark = 'e' ∨ mark = 'E') (sign : Sign)
    {ds : List Digit} (hds : ds ≠ []) :
    ∃ p : Power, mark :: (sign.chars ++ Digits.chars ds) = p.mark :: p.tail := by
  rcases hmark with rfl | rfl
  · exact ⟨⟨false, sign, ds, hds⟩, rfl⟩
  · exact ⟨⟨true, sign, ds, hds⟩, rfl⟩

theorem exists_of_parts (sign : Sign) {whole : List Digit} {fraction : Option (List Digit)}
    {rest : List Char} (hdigit : whole ++ fraction.getD [] ≠ [])
    (hrest : rest = [] ∨ ∃ p : Power, rest = p.mark :: p.tail) :
    ∃ l : Literal, sign.chars ++ (Digits.chars whole ++ fractionChars fraction ++ rest) =
      l.chars := by
  rcases hrest with rfl | ⟨p, rfl⟩
  · refine ⟨⟨sign, whole, fraction, none, hdigit⟩, ?_⟩
    rw [chars, body]
    rfl
  · refine ⟨⟨sign, whole, fraction, some p, hdigit⟩, ?_⟩
    rw [chars, body]
    rfl

theorem exists_fraction (cs : List Char) :
    ∃ fraction : Option (List Digit), (Scientific.takeFraction cs).1 = fraction.getD [] ∧
      cs = fractionChars fraction ++ (Scientific.takeFraction cs).2 := by
  unfold Scientific.takeFraction
  split
  · rename_i rest
    exact ⟨some (Digits.span rest).1, rfl, congrArg ('.' :: ·) (Digits.eq_of_span rfl)⟩
  · exact ⟨none, rfl, rfl⟩

theorem exists_powerChars {cs : List Char} {e : ℤ} (h : Scientific.readExponent? cs = some e) :
    cs = [] ∨ ∃ p : Power, cs = p.mark :: p.tail := by
  cases cs with
  | nil => exact .inl rfl
  | cons c cs =>
    simp only [Scientific.readExponent?] at h
    split at h
    · rename_i hmark
      obtain ⟨ds, hds, -⟩ := Option.map_eq_some_iff.1 h
      obtain ⟨sign, hsign⟩ := exists_sign cs
      obtain ⟨p, hp⟩ := exists_power hmark sign (Digits.ne_nil_of_read? hds)
      refine .inr ⟨p, ?_⟩
      rw [← hp, ← Digits.eq_of_read? hds, ← hsign]
    · cases h

/-- A text that is read as a number in scientific form is a literal. -/
theorem exists_of_read? {cs : List Char} {s : Scientific} (h : Scientific.read? cs = some s) :
    ∃ l : Literal, cs = l.chars := by
  simp only [Scientific.read?] at h
  split at h
  · cases h
  · rename_i hdigit
    obtain ⟨e, he, -⟩ := Option.map_eq_some_iff.1 h
    obtain ⟨sign, hsign⟩ := exists_sign cs
    have hwhole : (Scientific.takeSign cs).2 =
        Digits.chars (Digits.span (Scientific.takeSign cs).2).1 ++
          (Digits.span (Scientific.takeSign cs).2).2 := Digits.eq_of_span rfl
    obtain ⟨fraction, hplaces, hfraction⟩ :=
      exists_fraction (Digits.span (Scientific.takeSign cs).2).2
    have hsome : (Digits.span (Scientific.takeSign cs).2).1 ++ fraction.getD [] ≠ [] := by
      rw [hplaces] at hdigit
      simpa [List.append_eq_nil_iff] using hdigit
    obtain ⟨l, hl⟩ := exists_of_parts sign hsome (exists_powerChars he)
    refine ⟨l, ?_⟩
    rw [← hl, List.append_assoc, ← hfraction, ← hwhole, ← hsign]

theorem read?_eq_none_iff {cs : List Char} :
    Scientific.read? cs = none ↔ ¬∃ l : Literal, cs = l.chars := by
  rw [Option.eq_none_iff_forall_ne_some]
  constructor
  · rintro h ⟨l, rfl⟩
    exact h _ l.read?_chars
  · intro h s hs
    exact h (exists_of_read? hs)

theorem exists_of_droppable {cs : List Char} (h : Decimal.droppable cs = true) (hu : '_' ∉ cs) :
    ∃ ds, cs = Digits.chars ds := by
  induction cs with
  | nil => exact ⟨[], rfl⟩
  | cons c cs ih =>
    simp only [Decimal.droppable, List.all_cons, Bool.and_eq_true, Bool.or_eq_true,
      beq_iff_eq] at h
    rw [List.mem_cons, not_or] at hu
    obtain ⟨d, hd⟩ := Option.isSome_iff_exists.1 (h.1.resolve_right (Ne.symm hu.1))
    obtain ⟨ds, rfl⟩ := ih h.2 hu.2
    rw [Digit.eq_toChar hd]
    exact ⟨d :: ds, rfl⟩

variable {negative started : Bool} {mantissa scale : ℕ} {cs : List Char} {d : Decimal}

theorem exists_of_readPlaces (h : Decimal.readPlaces negative mantissa scale started cs = some d)
    (hu : '_' ∉ cs) : ∃ ds, cs = Digits.chars ds ∧ (started = true ∨ ds ≠ []) := by
  induction cs generalizing mantissa scale started with
  | nil =>
    rw [Decimal.readPlaces, Option.ite_none_right_eq_some] at h
    exact ⟨[], rfl, .inl h.1⟩
  | cons c cs ih =>
    rw [List.mem_cons, not_or] at hu
    simp only [Decimal.readPlaces] at h
    cases hc : Digit.ofChar? c with
    | some digit =>
      rw [hc] at h
      have hrest : ∃ ds, cs = Digits.chars ds := by
        simp only at h
        split at h
        · rw [Option.ite_none_right_eq_some] at h
          exact exists_of_droppable h.1 hu.2
        · obtain ⟨ds, hds, -⟩ := ih h hu.2
          exact ⟨ds, hds⟩
      obtain ⟨ds, rfl⟩ := hrest
      rw [Digit.eq_toChar hc]
      exact ⟨digit :: ds, rfl, .inr (List.cons_ne_nil _ _)⟩
    | none =>
      rw [hc] at h
      simp only [Ne.symm hu.1, false_and, if_false] at h
      cases h

theorem exists_of_readWhole (h : Decimal.readWhole negative mantissa started cs = some d)
    (hu : '_' ∉ cs) :
    ∃ whole fraction, cs = Digits.chars whole ++ fractionChars fraction ∧
      (started = true ∨ whole ++ fraction.getD [] ≠ []) := by
  induction cs generalizing mantissa started with
  | nil =>
    rw [Decimal.readWhole, Option.ite_none_right_eq_some] at h
    exact ⟨[], none, rfl, .inl h.1⟩
  | cons c cs ih =>
    rw [List.mem_cons, not_or] at hu
    simp only [Decimal.readWhole] at h
    cases hc : Digit.ofChar? c with
    | some digit =>
      rw [hc] at h
      simp only [Option.ite_none_right_eq_some] at h
      obtain ⟨whole, fraction, rfl, -⟩ := ih h.2 hu.2
      refine ⟨digit :: whole, fraction, ?_, .inr (List.cons_ne_nil _ _)⟩
      rw [Digit.eq_toChar hc]
      rfl
    | none =>
      rw [hc] at h
      simp only [Ne.symm hu.1, false_and, if_false, Option.ite_none_right_eq_some] at h
      obtain ⟨rfl, h⟩ := h
      obtain ⟨ds, rfl, hds⟩ := exists_of_readPlaces h hu.2
      exact ⟨[], some ds, rfl, hds⟩

theorem exists_of_readPlain? (h : Decimal.readPlain? cs = some d) (hu : '_' ∉ cs) :
    ∃ (sign : Sign) (whole : List Digit) (fraction : Option (List Digit)),
      cs = sign.chars ++ (Digits.chars whole ++ fractionChars fraction) ∧
        whole ++ fraction.getD [] ≠ [] := by
  obtain ⟨sign, hsign⟩ := exists_sign cs
  have hrest : '_' ∉ (Scientific.takeSign cs).2 := by
    rw [hsign, List.mem_append, not_or] at hu
    exact hu.2
  rw [Decimal.readPlain?_eq] at h
  obtain ⟨whole, fraction, hbody, hdigit⟩ := exists_of_readWhole h hrest
  rw [hbody] at hsign
  exact ⟨sign, whole, fraction, hsign, hdigit.resolve_left Bool.false_ne_true⟩

theorem exists_of_readPower? {n : ℕ} (h : Decimal.readPower? cs = some n) :
    ∃ ds : List Digit, ds ≠ [] ∧ (cs = Digits.chars ds ∨ cs = '+' :: Digits.chars ds) := by
  unfold Decimal.readPower? at h
  obtain ⟨ds, hds, -⟩ := Option.bind_eq_some_iff.1 h
  refine ⟨ds, Digits.ne_nil_of_read? hds, ?_⟩
  have hchars := Digits.eq_of_read? hds
  split at hchars
  · exact .inr (congrArg ('+' :: ·) hchars)
  · exact .inl hchars

def HasSignPair (cs : List Char) : Prop := ['-', '+'] <:+: cs

/-- What a decimal may have and a literal may not. -/
def IsLoose (cs : List Char) : Prop := '_' ∈ cs ∨ HasSignPair cs

theorem exists_of_readScaled? (h : Decimal.readScaled? cs = some d) (hloose : ¬IsLoose cs) :
    ∃ l : Literal, cs = l.chars := by
  obtain ⟨mark, power, base, hdrop, hbase, hpower⟩ := Decimal.exists_of_readScaled? h
  have hsplit : cs = cs.takeWhile Decimal.isBeforeMark ++ mark :: power := by
    rw [← hdrop, List.takeWhile_append_dropWhile]
  have hmark : mark = 'e' ∨ mark = 'E' := by
    have hstop := List.head?_dropWhile_not Decimal.isBeforeMark cs
    rw [hdrop] at hstop
    simpa [Decimal.isBeforeMark, or_iff_not_imp_left] using hstop
  have hlead : '_' ∉ cs.takeWhile Decimal.isBeforeMark := by
    intro hmem
    exact hloose (.inl ((List.takeWhile_sublist _).subset hmem))
  obtain ⟨sign, whole, fraction, hlead, hdigit⟩ := exists_of_readPlain? hbase hlead
  have hrest : ∃ p : Power, mark :: power = p.mark :: p.tail := by
    rcases hpower with ⟨rest, n, rfl, hn⟩ | ⟨n, hn, -⟩
    · obtain ⟨ds, hds, rfl | rfl⟩ := exists_of_readPower? hn
      · exact exists_power hmark .minus hds
      · -- the power has a plus of its own after the minus that divides
        refine absurd (.inr ?_) hloose
        rw [hsplit]
        exact ⟨cs.takeWhile Decimal.isBeforeMark ++ [mark], Digits.chars ds, by simp⟩
    · obtain ⟨ds, hds, rfl | rfl⟩ := exists_of_readPower? hn
      · exact exists_power hmark .bare hds
      · exact exists_power hmark .plus hds
  obtain ⟨l, hl⟩ := exists_of_parts sign hdigit (.inr hrest)
  refine ⟨l, ?_⟩
  rw [← hl, hsplit, hlead, List.append_assoc]

/-- A text that is read as a decimal is loose or a literal. -/
theorem exists_of_read?_decimal (h : Decimal.read? cs = some d) (hloose : ¬IsLoose cs) :
    ∃ l : Literal, cs = l.chars := by
  rcases Option.or_eq_some_iff.1 h with hplain | ⟨-, hscaled⟩
  · obtain ⟨sign, whole, fraction, rfl, hdigit⟩ := exists_of_readPlain? hplain (hloose ∘ .inl)
    obtain ⟨l, hl⟩ := exists_of_parts sign hdigit (.inl rfl)
    exact ⟨l, by rw [← hl, List.append_nil]⟩
  · exact exists_of_readScaled? hscaled hloose

theorem hasSignPair_append_iff {xs : List Char} (h : '-' ∉ xs) :
    HasSignPair (xs ++ cs) ↔ HasSignPair cs := by
  induction xs with
  | nil => rfl
  | cons c xs ih =>
    rw [List.mem_cons, not_or] at h
    rw [HasSignPair, List.cons_append, List.infix_cons_iff, List.cons_prefix_cons]
    exact (or_iff_right (h.1 ∘ And.left)).trans (ih h.2)

theorem hasSignPair_sign_iff (sign : Sign) (h : ∀ c ∈ cs.head?, c ≠ '-' ∧ c ≠ '+') :
    HasSignPair (sign.chars ++ cs) ↔ HasSignPair cs := by
  cases sign with
  | bare => rfl
  | plus => exact hasSignPair_append_iff (by decide)
  | minus =>
    rw [HasSignPair, Sign.chars, List.singleton_append, List.infix_cons_iff]
    refine or_iff_right ?_
    intro hpair
    cases cs with
    | nil => simp at hpair
    | cons c cs => simp [(h c rfl).2.symm] at hpair

theorem not_mem_body {l : Literal} {c : Char} (hc : Digit.ofChar? c = none) (hdot : c ≠ '.') :
    c ∉ l.body := by
  rw [body, List.mem_append, not_or]
  refine ⟨Digits.not_mem_chars hc _, ?_⟩
  cases l.fraction with
  | none => exact List.not_mem_nil
  | some ds => exact List.not_mem_cons_of_ne_of_not_mem hdot (Digits.not_mem_chars hc ds)

theorem not_hasSignPair_chars (l : Literal) : ¬HasSignPair l.chars := by
  rw [chars, hasSignPair_sign_iff _ (l.head_body _),
    hasSignPair_append_iff (not_mem_body (by decide) (by decide)), powerChars]
  cases l.power with
  | none => simp [HasSignPair]
  | some p =>
    have hmark : '-' ∉ [p.mark] := by
      rcases p.mark_eq with h | h <;> rw [h] <;> decide
    have hhead := head_chars [] p.nonempty
    rw [List.append_nil] at hhead
    simp only
    rw [← List.singleton_append, hasSignPair_append_iff hmark, Power.tail,
      hasSignPair_sign_iff _ hhead, ← List.append_nil (Digits.chars _),
      hasSignPair_append_iff (Digits.not_mem_chars (by decide) _)]
    simp [HasSignPair]

theorem underscore_not_mem_chars (l : Literal) : '_' ∉ l.chars := by
  have hsign (sign : Sign) : '_' ∉ sign.chars := by
    cases sign <;> decide
  have hpower : '_' ∉ l.powerChars := by
    rw [powerChars]
    cases l.power with
    | none => exact List.not_mem_nil
    | some p =>
      have hmark : '_' ≠ p.mark := by
        rcases p.mark_eq with h | h <;> rw [h] <;> decide
      refine List.not_mem_cons_of_ne_of_not_mem hmark ?_
      rw [Power.tail, List.mem_append, not_or]
      exact ⟨hsign p.sign, Digits.not_mem_chars (by decide) _⟩
  rw [chars, List.mem_append, List.mem_append, not_or, not_or]
  exact ⟨hsign l.sign, not_mem_body (by decide) (by decide), hpower⟩

theorem not_isLoose_chars (l : Literal) : ¬IsLoose l.chars :=
  not_or.2 ⟨l.underscore_not_mem_chars, l.not_hasSignPair_chars⟩

end Literal

namespace Conversion
variable {cs : List Char}

theorem floatOfText_eq_wrongShape :
    floatOfText cs = .wrongShape ↔ ¬∃ l : Literal, cs = l.chars := by
  rw [← Literal.read?_eq_none_iff, floatOfText]
  cases Scientific.read? cs with
  | none => simp
  | some s => cases hx : Binary64.ofScientific? s <;> simp [floatOf, hx]

theorem decimalOfText_eq_wrongShape :
    decimalOfText cs = .wrongShape ↔ Decimal.read? cs = none ∧ ¬∃ l : Literal, cs = l.chars := by
  rw [← Literal.read?_eq_none_iff, decimalOfText]
  cases Decimal.read? cs with
  | some d => simp
  | none => cases Scientific.read? cs <;> simp

theorem integerOfText_eq_wrongShape (h : decimalOfText cs = .wrongShape) :
    integerOfText cs = .wrongShape := by
  obtain ⟨hdecimal, hliteral⟩ := decimalOfText_eq_wrongShape.1 h
  rw [← Literal.read?_eq_none_iff] at hliteral
  have hmachine : machineInteger? cs = none := by
    rw [Option.eq_none_iff_forall_ne_some]
    intro i hi
    obtain ⟨d, hd, -⟩ := exists_read?_of_machineInteger? hi
    rw [hdecimal] at hd
    cases hd
  rw [integerOfText, hmachine, hdecimal, hliteral]

end Conversion

namespace Kind
open Conversion

def Refuses (kind : Kind) (s : String) : Prop :=
  kind.coerce .none (.string s) = .error (.here (.typeMismatch kind.name "string"))

def Exceeds (kind : Kind) (s : String) : Prop :=
  ∃ detail, kind.coerce .none (.string s) = .error (.here (.constraint "range" detail))

def Takes (kind : Kind) (s : String) : Prop := ∃ i, kind.coerce .none (.string s) = .ok i

variable {kind : Kind} {s : String}

theorem takes_iff : kind.Takes s ↔ ∃ i, kind.convert (.string s) = .value i :=
  exists_congr fun i => coerce_eq_ok.trans (and_iff_left (Constraints.check_none i))

theorem refuses_iff : kind.Refuses s ↔ kind.convert (.string s) = .wrongShape := by
  rw [Refuses]
  cases h : kind.convert (.string s) with
  | value i => simp [coerce_eq_ok.2 ⟨h, Constraints.check_none i⟩]
  | outOfRange literal target => simp [coerce, h, ValidationError.here]
  | wrongShape => simp [coerce, h, Json.shape]

theorem refuses_or_exceeds_or_takes : kind.Refuses s ∨ kind.Exceeds s ∨ kind.Takes s := by
  cases h : kind.convert (.string s) with
  | value i => exact .inr (.inr (takes_iff.2 ⟨i, h⟩))
  | outOfRange literal target => exact .inr (.inl ⟨_, by rw [coerce, h]⟩)
  | wrongShape => exact .inl (refuses_iff.2 h)

theorem refuses_float_iff :
    Kind.float.Refuses s ↔ ¬∃ l : Literal, Text.trim s.toList = l.chars := by
  rw [refuses_iff, convert, floatOfText_eq_wrongShape]

theorem refuses_decimal_iff :
    Kind.decimal.Refuses s ↔ Decimal.read? (Text.trim s.toList) = none ∧
      ¬∃ l : Literal, Text.trim s.toList = l.chars := by
  rw [refuses_iff, convert, decimalOfText_eq_wrongShape]

theorem takes_decimal_iff :
    Kind.decimal.Takes s ↔ ∃ d, Decimal.read? (Text.trim s.toList) = some d := by
  simp only [takes_iff, convert, decimalOfText_eq_value]
  constructor
  · rintro ⟨_, d, hd, -⟩
    exact ⟨d, hd⟩
  · rintro ⟨d, hd⟩
    exact ⟨_, d, hd, rfl⟩

theorem refuses_integer_of_decimal (h : Kind.decimal.Refuses s) : Kind.integer.Refuses s := by
  rw [refuses_iff, convert] at h
  rw [refuses_iff, convert, integerOfText_eq_wrongShape h]

/-- A text is refused as a float iff it is no literal. It is refused as a decimal too, unless it is
loose and a decimal all the same. What is refused as a decimal is refused as an integer, and a
literal is at most too large for a float or a decimal. -/
theorem refuses_text_iff (s : String) :
    (Kind.float.Refuses s ↔ ¬∃ l : Literal, Text.trim s.toList = l.chars) ∧
      (Kind.float.Refuses s ↔ Kind.decimal.Refuses s ∨
        Literal.IsLoose (Text.trim s.toList) ∧ Kind.decimal.Takes s) ∧
      (Kind.decimal.Refuses s → Kind.integer.Refuses s) ∧
      ((∃ l : Literal, Text.trim s.toList = l.chars) → ∀ kind : Kind,
        kind = .float ∨ kind = .decimal → kind.Takes s ∨ kind.Exceeds s) := by
  refine ⟨refuses_float_iff, ?_, refuses_integer_of_decimal, ?_⟩
  · rw [refuses_float_iff, refuses_decimal_iff, takes_decimal_iff]
    constructor
    · intro hnone
      cases hd : Decimal.read? (Text.trim s.toList) with
      | none => exact .inl ⟨rfl, hnone⟩
      | some d =>
        have hloose : Literal.IsLoose (Text.trim s.toList) :=
          not_not.1 fun hloose => hnone (Literal.exists_of_read?_decimal hd hloose)
        exact .inr ⟨hloose, d, rfl⟩
    · rintro (⟨-, hnone⟩ | ⟨hloose, -⟩) ⟨l, hl⟩
      · exact hnone ⟨l, hl⟩
      · exact l.not_isLoose_chars (hl ▸ hloose)
  · rintro hliteral kind (rfl | rfl)
    · have hnot : ¬Kind.float.Refuses s := fun h => refuses_float_iff.1 h hliteral
      exact (refuses_or_exceeds_or_takes.resolve_left hnot).symm
    · have hnot : ¬Kind.decimal.Refuses s := fun h => (refuses_decimal_iff.1 h).2 hliteral
      exact (refuses_or_exceeds_or_takes.resolve_left hnot).symm

theorem exponent_texts :
    (Kind.decimal.Refuses "1ee" ∧ Kind.integer.Refuses "1ee" ∧ Kind.float.Refuses "1ee") ∧
      (Kind.float.Takes "1e400" ∨ Kind.float.Exceeds "1e400") := by
  have hdecimal : Kind.decimal.Refuses "1ee" := by
    rw [refuses_iff]
    cbv
  obtain ⟨-, hfloat, hinteger, -⟩ := refuses_text_iff "1ee"
  have hread : Scientific.read? (Text.trim "1e400".toList) = some ⟨false, 1, 400⟩ := by cbv
  obtain ⟨-, -, -, hliteral⟩ := refuses_text_iff "1e400"
  exact ⟨⟨hdecimal, hinteger hdecimal, hfloat.2 (.inl hdecimal)⟩,
    hliteral (Literal.exists_of_read? hread) .float (.inl rfl)⟩

/-- Digits in groups are a decimal and an integer, but no float. -/
theorem grouped_digits_refused_as_float_only :
    Kind.float.Refuses "1_000" ∧ ¬Kind.decimal.Refuses "1_000" ∧
      ¬Kind.integer.Refuses "1_000" := by
  refine ⟨refuses_iff.2 (by cbv), refuses_iff.not.2 ?_, refuses_iff.not.2 ?_⟩
  · cbv
    rintro ⟨⟩
  · cbv
    rintro ⟨⟩

end Kind
end PayloadSchema
