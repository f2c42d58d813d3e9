import PayloadSchema.Number.Shortest

/-! YAML values. The keys of a mapping may be any values. -/
namespace PayloadSchema.Yaml

inductive Real where
  | finite (x : Binary64)
  | infinite (negative : Bool)
  | nan

inductive Value where
  | null
  | bool (b : Bool)
  | integer (i : Int)
  | real (x : Real)
  | string (s : String)
  | sequence (items : List Value)
  | mapping (entries : List (Value × Value))
  | tagged (tag : String) (v : Value)
  deriving Inhabited

/-- The text of a number; the exponent has no plus sign. -/
def Real.text : Real → String
  | finite x => String.ofList (x.toNumeral.chars.filter (· != '+'))
  | infinite true => "-.inf"
  | infinite false => ".inf"
  | nan => ".nan"

def Real.same : Real → Real → Bool
  | finite x, finite y => x.same y
  | infinite m, infinite n => m == n
  | nan, nan => true
  | _, _ => false

namespace Value

mutual

/-- Equality of values: integers differ from floats, and mappings have no order. -/
def same : Value → Value → Bool
  | null, null => true
  | bool a, bool b => a == b
  | integer a, integer b => a == b
  | real a, real b => a.same b
  | string a, string b => a == b
  | sequence as, sequence bs => sameItems as bs
  | mapping as, mapping bs => as.length == bs.length && sameEntries as bs
  | tagged s a, tagged t b => s == t && same a b
  | _, _ => false

def sameItems : List Value → List Value → Bool
  | [], [] => true
  | a :: as, b :: bs => same a b && sameItems as bs
  | _, _ => false

def sameEntries : List (Value × Value) → List (Value × Value) → Bool
  | [], _ => true
  | (k, a) :: as, bs => isFound k a bs && sameEntries as bs

def isFound (k a : Value) : List (Value × Value) → Bool
  | [] => false
  | (l, b) :: bs => (same k l && same a b) || isFound k a bs

end

def insert (entries : List (Value × Value)) (k v : Value) : List (Value × Value) :=
  match entries with
  | [] => [(k, v)]
  | (l, w) :: rest => if l.same k then (l, v) :: rest else (l, w) :: insert rest k v

end Value
end PayloadSchema.Yaml
