import PayloadSchema.Json.Printer
import PayloadSchema.Json.Reader

/-!
Universally unique identifiers: 32 hexadecimal digits, written in five groups. They are also read
without hyphens, in braces, and after `urn:uuid:`.
-/
namespace PayloadSchema

structure Uuid where
  nibbles : List (Fin 16)
  length_eq : nibbles.length = 32
  deriving DecidableEq

namespace Uuid

def nibble? (c : Char) : Option (Fin 16) :=
  (Json.hexValue? c).bind fun n => if h : n < 16 then some ⟨n, h⟩ else none

def ofDigits? (cs : List Char) : Option Uuid :=
  (cs.mapM nibble?).bind fun ns => if h : ns.length = 32 then some ⟨ns, h⟩ else none

def ungroup? (cs : List Char) : Option (List Char) :=
  if cs.length = 36 ∧ [8, 13, 18, 23].all (fun i => cs[i]? == some '-') then
    some (cs.take 8 ++ (cs.drop 9).take 4 ++ (cs.drop 14).take 4 ++ (cs.drop 19).take 4
      ++ cs.drop 24)
  else none

def isUrnMark (cs : List Char) : Bool :=
  cs.map Char.toLower == "urn:uuid:".toList

def read? (cs : List Char) : Option Uuid :=
  if cs.length = 32 then ofDigits? cs
  else if cs.length = 36 then (ungroup? cs).bind ofDigits?
  else if cs.length = 38 ∧ cs.head? = some '\x7b' ∧ cs.getLast? = some '\x7d' then
    (ungroup? (cs.drop 1).dropLast).bind ofDigits?
  else if cs.length = 45 ∧ isUrnMark (cs.take 9) then (ungroup? (cs.drop 9)).bind ofDigits?
  else none

def parse? (s : String) : Option Uuid := read? s.toList

def digits (u : Uuid) : List Char := u.nibbles.map fun n => Json.hexDigit n.val

def chars (u : Uuid) : List Char :=
  let ds := u.digits
  ds.take 8 ++ '-' :: (ds.drop 8).take 4 ++ '-' :: (ds.drop 12).take 4 ++ '-'
    :: (ds.drop 16).take 4 ++ '-' :: ds.drop 20

def text (u : Uuid) : String := String.ofList u.chars

end Uuid
end PayloadSchema
