import PayloadSchema.Presence
import PayloadSchema.Schema.Basic
import PayloadSchema.Number.Shortest
import PayloadSchema.Calendar.DateTime
import PayloadSchema.Codec.Base64
import PayloadSchema.Codec.Uuid

/-!
Validated values. An object holds all its declared fields in order, each with its presence, and
then the additional fields that were accepted.
-/
namespace PayloadSchema

mutual

inductive Instance where
  | null
  | boolean (b : Bool)
  | integer (i : Int)
  | float (x : Binary64)
  | decimal (d : Decimal)
  | string (s : String)
  | bytes (bs : List UInt8)
  | date (d : Date)
  | dateTime (t : DateTime)
  | uuid (u : Uuid)
  | any (v : Json)
  | list (items : List Instance)
  /-- Entries in the order of their keys. -/
  | dict (entries : List (String × Instance))
  | object (o : ObjectInstance)

structure ObjectInstance where
  schema : Composite
  entries : List (String × Presence Instance)

end

namespace Instance

instance : Inhabited Instance := ⟨null⟩

def kindName : Instance → String
  | null => "null"
  | boolean _ => "boolean"
  | integer _ => "integer"
  | float _ => "float"
  | decimal _ => "decimal"
  | string _ => "string"
  | bytes _ => "bytes"
  | date _ => "date"
  | dateTime _ => "date-time"
  | uuid _ => "uuid"
  | any _ => "any"
  | list _ => "list"
  | dict _ => "dict"
  | object _ => "object"

def isNull : Instance → Bool
  | null => true
  | any v => v.isNull
  | _ => false

mutual

/-- The JSON form of a value. Unset fields are left out. -/
def encode : Instance → Json
  | null => .null
  | boolean b => .bool b
  | integer i => .number (.ofInt i)
  | float x => .number x.toNumeral
  | decimal d => .number d.toNumeral
  | string s => .string s
  | bytes bs => .string (String.ofList (Base64.encode bs))
  | date d => .string d.text
  | dateTime t => .string t.text
  | uuid u => .string u.text
  | any v => v
  | list items => .array (encodeItems items)
  | dict entries => .object (encodeDict entries)
  | object o => .object (encodeObject o)

def encodeItems : List Instance → List Json
  | [] => []
  | i :: rest => encode i :: encodeItems rest

def encodeDict : List (String × Instance) → Members
  | [] => []
  | (k, i) :: rest => (k, encode i) :: encodeDict rest

def encodeObject : ObjectInstance → Members
  | ⟨_, entries⟩ => encodeEntries entries

def encodeEntries : List (String × Presence Instance) → Members
  | [] => []
  | (_, .unset) :: rest => encodeEntries rest
  | (k, .null) :: rest => (k, .null) :: encodeEntries rest
  | (k, .value i) :: rest => (k, encode i) :: encodeEntries rest

end

mutual

/-- Equality of values: numbers by value, moments by instant, JSON values as such, and objects by
the name of their schema and by their entries in order. -/
def same : Instance → Instance → Bool
  | null, null => true
  | boolean a, boolean b => a == b
  | integer a, integer b => a == b
  | float a, float b => a.same b
  | decimal a, decimal b => a.same b
  | string a, string b => a == b
  | bytes a, bytes b => a == b
  | date a, date b => a == b
  | dateTime a, dateTime b => a.same b
  | uuid a, uuid b => a == b
  | any a, any b => a.same b
  | list as, list bs => sameItems as bs
  | dict as, dict bs => sameDict as bs
  | object a, object b => sameObject a b
  | _, _ => false

def sameItems : List Instance → List Instance → Bool
  | [], [] => true
  | a :: as, b :: bs => same a b && sameItems as bs
  | _, _ => false

def sameDict : List (String × Instance) → List (String × Instance) → Bool
  | [], [] => true
  | (k, a) :: as, (l, b) :: bs => k == l && same a b && sameDict as bs
  | _, _ => false

def sameObject : ObjectInstance → ObjectInstance → Bool
  | ⟨c, as⟩, ⟨d, bs⟩ => c.name == d.name && sameEntries as bs

def sameEntries : List (String × Presence Instance) → List (String × Presence Instance) → Bool
  | [], [] => true
  | (k, .unset) :: as, (l, .unset) :: bs => k == l && sameEntries as bs
  | (k, .null) :: as, (l, .null) :: bs => k == l && sameEntries as bs
  | (k, .value a) :: as, (l, .value b) :: bs => k == l && same a b && sameEntries as bs
  | _, _ => false

end

end Instance

namespace ObjectInstance

def encode (o : ObjectInstance) : Members := Instance.encodeObject o

def toJson (o : ObjectInstance) : Json := .object o.encode

def same (a b : ObjectInstance) : Bool := Instance.sameObject a b

def additional (o : ObjectInstance) : List (String × Presence Instance) :=
  o.entries.drop o.schema.fields.length

def presence? (o : ObjectInstance) (name : String) : Option (Presence Instance) :=
  o.schema.lookup? o.entries name

def get (o : ObjectInstance) (name : String) : Except PresenceError Instance :=
  match o.presence? name with
  | some p => p.get.mapError (·.forField name)
  | none => .error (.undeclared name)

def field (o : ObjectInstance) (name : String) : Presence Instance := (o.presence? name).getD .unset

def contains (o : ObjectInstance) (name : String) : Bool := (o.field name).isSet

def present (o : ObjectInstance) : List (String × Presence Instance) :=
  o.entries.filter (·.2.isSet)

def at? (o : ObjectInstance) (i : Nat) : Option (String × Presence Instance) := o.present[i]?

def size (o : ObjectInstance) : Nat := o.present.length

end ObjectInstance
end PayloadSchema
