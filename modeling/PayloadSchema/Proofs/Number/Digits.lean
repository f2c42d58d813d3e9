import Mathlib.Data.List.Induction
import Mathlib.Tactic.Ring
import PayloadSchema.Number.Digit

/-! Digits that are written and read back, and the size of the number they denote. -/
namespace PayloadSchema

@[simp] theorem pow2_eq (n : Nat) : pow2 n = 2 ^ n := rfl

@[simp] theorem pow10_eq (n : Nat) : pow10 n = 10 ^ n := rfl

namespace Digit

@[simp] theorem val_zero : zero.val = 0 := rfl

theorem toChar_ne_minus (d : Digit) : d.toChar ≠ '-' := by
  revert d
  decide

theorem toChar_ne_plus (d : Digit) : d.toChar ≠ '+' := by
  revert d
  decide

theorem ofChar?_minus : ofChar? '-' = none := by decide

theorem ofChar?_colon : ofChar? ':' = none := by decide

theorem eq_toChar {c : Char} {d : Digit} (h : ofChar? c = some d) : c = d.toChar := by
  unfold ofChar? at h
  split at h
  · rename_i hrange
    cases h
    rw [toChar, show 48 + (c.toNat - 48) = c.toNat by omega, Char.ofNat_toNat]
  · cases h

end Digit

namespace Digits

def Ends (cs : List Char) : Prop := ∀ c ∈ cs.head?, Digit.ofChar? c = none

theorem ends_nil : Ends [] := by
  intro c hc
  simp at hc

theorem ends_cons {c : Char} {cs : List Char} (h : Digit.ofChar? c = none) : Ends (c :: cs) := by
  intro b hb
  simp only [List.head?_cons, Option.mem_def, Option.some.injEq] at hb
  rwa [← hb]

theorem Ends.take {cs : List Char} (h : Ends cs) (n : Nat) : Ends (cs.take n) := by
  intro c hc
  cases n with
  | zero => simp at hc
  | succ n => exact h c (by cases cs <;> simp_all)

theorem span_append (ds : List Digit) {rest : List Char} (h : Ends rest) :
    span (chars ds ++ rest) = (ds, rest) := by
  induction ds with
  | nil =>
    cases rest with
    | nil => rfl
    | cons c cs => simp [chars, span, h c rfl]
  | cons d ds ih =>
    simp only [chars, List.map_cons, List.cons_append, span, Digit.ofChar?_toChar]
    rw [show List.map Digit.toChar ds = chars ds from rfl, ih]

/-- A run of digits is cut off, and nothing is lost. -/
theorem eq_of_span {cs rest : List Char} {ds : List Digit} (h : span cs = (ds, rest)) :
    cs = chars ds ++ rest := by
  induction cs generalizing ds with
  | nil =>
    cases h
    rfl
  | cons c cs ih =>
    simp only [span] at h
    cases hc : Digit.ofChar? c with
    | none =>
      rw [hc] at h
      cases h
      rfl
    | some d =>
      rw [hc] at h
      cases h
      rw [chars, List.map_cons, List.cons_append, ← Digit.eq_toChar hc]
      exact congrArg (c :: ·) (ih rfl)

theorem eq_of_read? {cs : List Char} {ds : List Digit} (h : read? cs = some ds) :
    cs = chars ds := by
  unfold read? at h
  split at h
  · rename_i hspan
    cases h
    simpa using eq_of_span hspan
  · cases h

theorem not_mem_chars {c : Char} (h : Digit.ofChar? c = none) (ds : List Digit) :
    c ∉ chars ds := by
  intro hc
  obtain ⟨d, -, rfl⟩ := List.mem_map.1 hc
  rw [Digit.ofChar?_toChar] at h
  cases h

@[simp] theorem length_chars (ds : List Digit) : (chars ds).length = ds.length := by
  simp [chars]

theorem chars_append (as bs : List Digit) : chars (as ++ bs) = chars as ++ chars bs := by
  simp [chars]

theorem chars_replicate_zero (n : Nat) :
    chars (List.replicate n Digit.zero) = List.replicate n '0' := by
  rw [chars, List.map_replicate]
  rfl

/-- The number that digits denote once `n` has been read before them. -/
def valueFrom (n : Nat) (ds : List Digit) : Nat := ds.foldl (fun n d => 10 * n + d.val) n

theorem valueFrom_eq (n : Nat) (ds : List Digit) :
    valueFrom n ds = n * 10 ^ ds.length + value ds := by
  induction ds generalizing n with
  | nil => simp [valueFrom, value]
  | cons d ds ih =>
    have h := ih (10 * n + d.val)
    have h0 := ih d.val
    simp only [valueFrom, value, List.foldl_cons, Nat.mul_zero, Nat.zero_add,
      List.length_cons] at *
    rw [h, h0, pow_succ]
    ring

theorem value_append_eq (as bs : List Digit) :
    value (as ++ bs) = value as * 10 ^ bs.length + value bs := by
  rw [value_append]
  exact valueFrom_eq (value as) bs

theorem value_replicate_zero (n : Nat) : value (List.replicate n Digit.zero) = 0 := by
  induction n with
  | zero => rfl
  | succ n ih => simpa [List.replicate_succ, value] using ih

/-- A number of `k` digits has its leading one at `10 ^ (k - 1)`. -/
theorem length_ofNat_bounds {n : Nat} (h : 0 < n) :
    10 ^ ((ofNat n).length - 1) ≤ n ∧ n < 10 ^ (ofNat n).length := by
  fun_induction ofNat n with
  | case1 n hn =>
    simp
    omega
  | case2 n hn ih =>
    obtain ⟨hl, hu⟩ := ih (by omega)
    have hne := List.length_pos_iff.mpr (ofNat_ne_nil (n / 10))
    obtain ⟨k, hk⟩ : ∃ k, (ofNat (n / 10)).length = k + 1 := ⟨_, (Nat.succ_pred_eq_of_pos hne).symm⟩
    rw [hk] at hl hu
    simp only [List.length_append, List.length_singleton, hk, Nat.add_sub_cancel] at *
    rw [pow_succ] at *
    omega

theorem length_ofNat_le {n k : Nat} (h : n < 10 ^ k) (hk : 0 < k) : (ofNat n).length ≤ k := by
  rcases Nat.eq_zero_or_pos n with rfl | hn
  · rw [ofNat]
    exact hk
  · by_contra hlt
    have hle : 10 ^ k ≤ 10 ^ ((ofNat n).length - 1) := Nat.pow_le_pow_right (by omega) (by omega)
    have := (length_ofNat_bounds hn).1
    omega

end Digits
theorem Digit.toChar_eq (d : Digit) : d.toChar = d.val.digitChar := by
  revert d
  decide

theorem Digits.chars_ofNat (n : Nat) : chars (ofNat n) = Nat.toDigits 10 n := by
  fun_induction ofNat n with
  | case1 n h =>
    rw [Nat.toDigits_of_lt_base h, chars, List.map_singleton, Digit.toChar_eq]
  | case2 n h ih =>
    rw [Nat.toDigits_of_base_le (by decide) (Nat.le_of_not_lt h), ← ih, chars, List.map_append,
      List.map_singleton, Digit.toChar_eq]
    rfl

theorem natText_eq (n : Nat) : natText n = toString n := by
  rw [natText, Digits.chars_ofNat]
  rfl

theorem intText_eq_toString (i : Int) : intText i = toString i := by
  rw [intText, natText_eq, Int.toString_eq_repr, Int.repr_eq_if]
  by_cases h : i < 0
  · have habs : i.natAbs = (-i).toNat := by omega
    rw [if_pos h, if_neg (Int.not_le.2 h), habs]
    rfl
  · have habs : i.natAbs = i.toNat := by omega
    rw [if_neg h, if_pos (Int.not_lt.1 h), habs]
    rfl

end PayloadSchema
