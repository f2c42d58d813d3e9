import PayloadSchema.Codec.Base64
import PayloadSchema.Codec.Uuid

/-! The texts of byte strings and of identifiers read back as what they were written for. -/
namespace PayloadSchema

namespace Base64

theorem sextet?_letter {n : Nat} (h : n < 64) : sextet? (letter n) = some n := by
  have hall : ∀ k : Fin 64, sextet? (letter k) = some k.val := by decide +kernel
  exact hall ⟨n, h⟩

theorem letter_ne_fill {n : Nat} (h : n < 64) : letter n ≠ '=' := by
  have hall : ∀ k : Fin 64, letter k ≠ '=' := by decide +kernel
  exact hall ⟨n, h⟩

theorem toUInt8_of_eq {n : Nat} {a : UInt8} (h : n = a.toNat) : n.toUInt8 = a := by
  rw [h]
  exact UInt8.ofNat_toNat

/-- A group of four letters gives three bytes, whatever follows it. -/
theorem decode?_group {i j k l : Nat} (hi : i < 64) (hj : j < 64) (hk : k < 64) (hl : l < 64)
    (rest : List Char) :
    decode? (letter i :: letter j :: letter k :: letter l :: rest) =
      (decode? rest).map fun tail =>
        let n := ((i * 64 + j) * 64 + k) * 64 + l
        (n / 65536).toUInt8 :: (n / 256 % 256).toUInt8 :: (n % 256).toUInt8 :: tail := by
  have hne := letter_ne_fill hl
  rw [decode?]
  · simp only [sextet?_letter, hi, hj, hk, hl]
    cases decode? rest <;> rfl
  · intro _ h
    exact absurd h hne
  · intro h
    exact absurd h hne

theorem decode?_encode (bs : List UInt8) : decode? (encode bs) = some bs := by
  fun_induction encode bs with
  | case1 => rfl
  | case2 a n =>
    have ha := a.toNat_lt
    have hn : n = a.toNat * 16 := rfl
    rw [decode?]
    simp only [sextet?_letter (show n / 64 < 64 by omega),
      sextet?_letter (show n % 64 < 64 by omega)]
    have hzero : (n / 64 * 64 + n % 64) % 16 = 0 := by omega
    have hbyte : ((n / 64 * 64 + n % 64) / 16).toUInt8 = a := toUInt8_of_eq (by omega)
    simp [hzero, hbyte]
  | case3 a b n =>
    have ha := a.toNat_lt
    have hb := b.toNat_lt
    have hn : n = (a.toNat * 256 + b.toNat) * 4 := rfl
    have hne := letter_ne_fill (show n % 64 < 64 by omega)
    rw [decode?]
    · simp only [sextet?_letter (show n / 4096 < 64 by omega),
        sextet?_letter (show n / 64 % 64 < 64 by omega), sextet?_letter (show n % 64 < 64 by omega)]
      have hzero : ((n / 4096 * 64 + n / 64 % 64) * 64 + n % 64) % 4 = 0 := by omega
      have hfst : (((n / 4096 * 64 + n / 64 % 64) * 64 + n % 64) / 1024).toUInt8 = a :=
        toUInt8_of_eq (by omega)
      have hsnd : (((n / 4096 * 64 + n / 64 % 64) * 64 + n % 64) / 4 % 256).toUInt8 = b :=
        toUInt8_of_eq (by omega)
      simp [hzero, hfst, hsnd]
    · exact fun h => absurd h hne
  | case4 a b c rest n ih =>
    have ha := a.toNat_lt
    have hb := b.toNat_lt
    have hc := c.toNat_lt
    have hn : n = (a.toNat * 256 + b.toNat) * 256 + c.toNat := rfl
    rw [decode?_group (by omega) (by omega) (by omega) (by omega), ih]
    simp only [Option.map_some, Option.some.injEq, List.cons.injEq, and_true]
    exact ⟨toUInt8_of_eq (by omega), toUInt8_of_eq (by omega), toUInt8_of_eq (by omega)⟩

theorem sextet?_eq_some {c : Char} {n : Nat} (h : sextet? c = some n) : n < 64 ∧ letter n = c := by
  obtain ⟨hlt, hc, -⟩ := List.findIdx?_eq_some_iff_getElem.1 h
  have hlen : alphabet.length = 64 := by decide
  refine ⟨hlen ▸ hlt, ?_⟩
  rw [letter, List.getD_eq_getElem?_getD, List.getElem?_eq_getElem hlt]
  exact beq_iff_eq.1 hc

/-- Only what encoding produces is read, so that bytes have one text. -/
theorem encode_of_decode? {cs : List Char} {bs : List UInt8} (h : decode? cs = some bs) :
    encode bs = cs := by
  have htoNat {n : Nat} (hn : n < 256) : n.toUInt8.toNat = n := UInt8.toNat_ofNat_of_lt' hn
  fun_induction decode? cs generalizing bs with
  | case1 =>
    cases h
    rfl
  | case2 a b =>
    simp only [Option.bind_eq_bind, Option.bind_eq_some_iff, Option.ite_none_right_eq_some,
      Option.some.injEq] at h
    obtain ⟨i, hi, j, hj, hfill, rfl⟩ := h
    obtain ⟨hi, rfl⟩ := sextet?_eq_some hi
    obtain ⟨hj, rfl⟩ := sextet?_eq_some hj
    have hn : (i * 64 + j) / 16 * 16 = i * 64 + j := by omega
    simp only [encode, htoNat (show (i * 64 + j) / 16 < 256 by omega), hn,
      show (i * 64 + j) / 64 = i by omega, show (i * 64 + j) % 64 = j by omega]
  | case3 a b c _ =>
    simp only [Option.bind_eq_bind, Option.bind_eq_some_iff, Option.ite_none_right_eq_some,
      Option.some.injEq] at h
    obtain ⟨i, hi, j, hj, k, hk, hfill, rfl⟩ := h
    obtain ⟨hi, rfl⟩ := sextet?_eq_some hi
    obtain ⟨hj, rfl⟩ := sextet?_eq_some hj
    obtain ⟨hk, rfl⟩ := sextet?_eq_some hk
    generalize hn : (i * 64 + j) * 64 + k = n at *
    have hbytes : (n / 1024 * 256 + n / 4 % 256) * 4 = n := by omega
    simp only [encode, htoNat (show n / 1024 < 256 by omega),
      htoNat (show n / 4 % 256 < 256 by omega), hbytes, show n / 4096 = i by omega,
      show n / 64 % 64 = j by omega, show n % 64 = k by omega]
  | case4 a b c d rest _ _ ih =>
    simp only [Option.bind_eq_bind, Option.bind_eq_some_iff, Option.pure_def,
      Option.some.injEq] at h
    obtain ⟨i, hi, j, hj, k, hk, l, hl, tail, htail, rfl⟩ := h
    obtain ⟨hi, rfl⟩ := sextet?_eq_some hi
    obtain ⟨hj, rfl⟩ := sextet?_eq_some hj
    obtain ⟨hk, rfl⟩ := sextet?_eq_some hk
    obtain ⟨hl, rfl⟩ := sextet?_eq_some hl
    generalize hn : ((i * 64 + j) * 64 + k) * 64 + l = n at *
    have hbytes : (n / 65536 * 256 + n / 256 % 256) * 256 + n % 256 = n := by omega
    simp only [encode, htoNat (show n / 65536 < 256 by omega),
      htoNat (show n / 256 % 256 < 256 by omega), htoNat (show n % 256 < 256 by omega), hbytes,
      show n / 262144 = i by omega, show n / 4096 % 64 = j by omega,
      show n / 64 % 64 = k by omega, show n % 64 = l by omega, ih htail]
  | case5 => cases h

end Base64

namespace Uuid

theorem nibble?_hexDigit (n : Fin 16) : nibble? (Json.hexDigit n.val) = some n := by
  revert n
  decide

theorem ofDigits?_digits (u : Uuid) : ofDigits? u.digits = some u := by
  have hread : u.digits.mapM nibble? = some u.nibbles := by
    rw [digits]
    generalize u.nibbles = ns
    induction ns with
    | nil => rfl
    | cons n ns ih => simp [nibble?_hexDigit, ih]
  simp only [ofDigits?, hread, Option.bind_some]
  exact dif_pos u.length_eq

theorem ungroup?_groups {as bs cs ds es : List Char} (ha : as.length = 8) (hb : bs.length = 4)
    (hc : cs.length = 4) (hd : ds.length = 4) (he : es.length = 12) :
    ungroup? (as ++ '-' :: bs ++ '-' :: cs ++ '-' :: ds ++ '-' :: es) =
      some (as ++ bs ++ cs ++ ds ++ es) := by
  have hmarks : [8, 13, 18, 23].all (fun i =>
      (as ++ '-' :: bs ++ '-' :: cs ++ '-' :: ds ++ '-' :: es)[i]? == some '-') = true := by
    simp [List.getElem?_append, List.getElem?_cons, ha, hb, hc, hd]
  rw [ungroup?, if_pos ⟨by simp [ha, hb, hc, hd, he], hmarks⟩]
  simp (disch := omega) [List.drop_append, List.drop_eq_nil_of_le, ha, hb, hc, hd]

theorem chars_eq (u : Uuid) :
    ∃ as bs cs ds es : List Char, as.length = 8 ∧ bs.length = 4 ∧ cs.length = 4 ∧ ds.length = 4 ∧
      es.length = 12 ∧ u.chars = as ++ '-' :: bs ++ '-' :: cs ++ '-' :: ds ++ '-' :: es ∧
      u.digits = as ++ bs ++ cs ++ ds ++ es := by
  have hlen : u.digits.length = 32 := by rw [digits, List.length_map, u.length_eq]
  refine ⟨u.digits.take 8, (u.digits.drop 8).take 4, (u.digits.drop 12).take 4,
    (u.digits.drop 16).take 4, u.digits.drop 20, ?_, ?_, ?_, ?_, ?_, rfl, ?_⟩
  case refine_6 =>
    have h16 : (u.digits.drop 16).take 4 ++ u.digits.drop 20 = u.digits.drop 16 := by
      simpa using List.take_append_drop 4 (u.digits.drop 16)
    have h12 : (u.digits.drop 12).take 4 ++ u.digits.drop 16 = u.digits.drop 12 := by
      simpa using List.take_append_drop 4 (u.digits.drop 12)
    have h8 : (u.digits.drop 8).take 4 ++ u.digits.drop 12 = u.digits.drop 8 := by
      simpa using List.take_append_drop 4 (u.digits.drop 8)
    rw [List.append_assoc, h16, List.append_assoc, h12, List.append_assoc, h8,
      List.take_append_drop]
  all_goals simp [hlen]

theorem read?_chars (u : Uuid) : read? u.chars = some u := by
  obtain ⟨as, bs, cs, ds, es, ha, hb, hc, hd, he, hchars, hdigits⟩ := u.chars_eq
  have hlen : u.chars.length = 36 := by simp [hchars, ha, hb, hc, hd, he]
  rw [read?, if_neg (by omega), if_pos hlen, hchars, ungroup?_groups ha hb hc hd he, ← hdigits]
  exact u.ofDigits?_digits

end Uuid
end PayloadSchema
