import PayloadSchema.Number.Numeral

/-!
JSON values. Numbers keep their literals and objects keep the order of their keys; equality of
values ignores that order.
-/
namespace PayloadSchema

inductive Json where
  | null
  | bool (b : Bool)
  | number (n : Numeral)
  | string (s : String)
  | array (items : List Json)
  | object (members : List (String × Json))
  deriving Inhabited

abbrev Members := List (String × Json)

namespace Members

/-- Gives a key a value: an existing key keeps its place, a new one goes to the end. -/
def insert : Members → String → Json → Members
  | [], k, v => [(k, v)]
  | (k', v') :: rest, k, v => if k' = k then (k, v) :: rest else (k', v') :: insert rest k v

/-- Removes a key; the last member takes the place that falls free. -/
def remove (ms : Members) (k : String) : Members :=
  match ms.findIdx? (·.1 == k), ms.getLast? with
  | some i, some last => (ms.set i last).dropLast
  | _, _ => ms

end Members

namespace Json

/-- The key that marks an object as a number: its value is the text of the number. -/
def numberKey : String := "$serde_json::private::Number"

mutual

/-- Equality as JSON values: literals by their text, objects whatever the order of their keys. -/
def same : Json → Json → Bool
  | null, null => true
  | bool a, bool b => a == b
  | number a, number b => a == b
  | string a, string b => a == b
  | array as, array bs => sameItems as bs
  | object as, object bs => as.length == bs.length && sameMembers as bs
  | _, _ => false

def sameItems : List Json → List Json → Bool
  | [], [] => true
  | a :: as, b :: bs => same a b && sameItems as bs
  | _, _ => false

def sameMembers : Members → Members → Bool
  | [], _ => true
  | (k, a) :: as, bs =>
    (match bs.lookup k with
      | some b => same a b
      | none => false) && sameMembers as bs

end

def isNull : Json → Bool
  | null => true
  | _ => false

def nest (v : Json) : Nat → Json
  | 0 => v
  | n + 1 => array [nest v n]

def isMachineInteger (n : Numeral) : Bool :=
  match n.toInt? with
  | some i => decide (-(pow2 63 : Int) ≤ i) && decide (i < pow2 64)
  | none => false

def shape : Json → String
  | null => "null"
  | bool _ => "boolean"
  | number n => if isMachineInteger n then "integer" else "number"
  | string _ => "string"
  | array _ => "list"
  | object _ => "object"

end Json
end PayloadSchema
