/-!
Decimal digits, the natural numbers that lists of digits denote, and the powers that bounds and
scales are given by.
-/
namespace PayloadSchema

/-- `b ^ n`. The instance is written out, so that it is the same under all imports. -/
def natPow (b n : Nat) : Nat :=
  @HPow.hPow Nat Nat Nat (@instHPow Nat Nat (@instPowNat Nat instNatPowNat)) b n

def pow2 (n : Nat) : Nat := natPow 2 n

def pow10 (n : Nat) : Nat := natPow 10 n

abbrev Digit := Fin 10

namespace Digit

def zero : Digit := ⟨0, by decide⟩

def toChar (d : Digit) : Char := Char.ofNat (48 + d.val)

def ofChar? (c : Char) : Option Digit :=
  if h : 48 ≤ c.toNat ∧ c.toNat ≤ 57 then some ⟨c.toNat - 48, by omega⟩ else none

theorem ofChar?_toChar (d : Digit) : ofChar? d.toChar = some d := by
  revert d
  decide

end Digit

namespace Digits

def value (ds : List Digit) : Nat := ds.foldl (fun n d => 10 * n + d.val) 0

/-- The digits of a number, without leading zeros; zero is one digit. -/
def ofNat (n : Nat) : List Digit :=
  if h : n < 10 then [⟨n, h⟩] else ofNat (n / 10) ++ [⟨n % 10, Nat.mod_lt _ (by omega)⟩]

def chars (ds : List Digit) : List Char := ds.map Digit.toChar

def span : List Char → List Digit × List Char
  | [] => ([], [])
  | c :: cs =>
    match Digit.ofChar? c with
    | some d => let (ds, rest) := span cs; (d :: ds, rest)
    | none => ([], c :: cs)

def read? (cs : List Char) : Option (List Digit) :=
  match span cs with
  | (d :: ds, []) => some (d :: ds)
  | _ => none

theorem value_append (as bs : List Digit) :
    value (as ++ bs) = bs.foldl (fun n d => 10 * n + d.val) (value as) := by
  simp [value, List.foldl_append]

theorem value_ofNat (n : Nat) : value (ofNat n) = n := by
  fun_induction ofNat n with
  | case1 n h => simp [value]
  | case2 n h ih =>
    rw [value_append, ih]
    simp only [List.foldl_cons, List.foldl_nil]
    omega

theorem ofNat_ne_nil (n : Nat) : ofNat n ≠ [] := by
  rw [ofNat]
  split <;> simp

theorem span_chars (ds : List Digit) : span (chars ds) = (ds, []) := by
  induction ds with
  | nil => rfl
  | cons d ds ih =>
    simp only [chars, List.map_cons, span, Digit.ofChar?_toChar]
    rw [show List.map Digit.toChar ds = chars ds from rfl, ih]

end Digits

def natText (n : Nat) : String := String.ofList (Digits.chars (Digits.ofNat n))

def intText (i : Int) : String :=
  if i < 0 then "-" ++ natText i.natAbs else natText i.natAbs

end PayloadSchema
