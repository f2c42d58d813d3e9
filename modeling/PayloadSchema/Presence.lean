/-!
Whether a field was omitted, sent as an explicit null, or sent with a value. Omission and null stay
apart, so that a value can be written back as it came.
-/
namespace PayloadSchema

inductive Presence (α : Type) where
  | unset
  | null
  | value (a : α)
  deriving DecidableEq, Repr

inductive PresenceError where
  | unset (field : Option String)
  | null (field : Option String)
  | undeclared (field : String)
  deriving DecidableEq, Repr

namespace PresenceError

def message : PresenceError → String
  | unset field => field.getD "value" ++ " is unset"
  | null field => field.getD "value" ++ " is null"
  | undeclared field => "no field named '" ++ field ++ "'"

def forField (name : String) : PresenceError → PresenceError
  | unset _ => unset (some name)
  | null _ => null (some name)
  | undeclared field => undeclared field

end PresenceError

namespace Presence

instance {α : Type} : Inhabited (Presence α) := ⟨unset⟩

def isSet {α : Type} : Presence α → Bool
  | unset => false
  | _ => true

def isNull {α : Type} : Presence α → Bool
  | null => true
  | _ => false

def toOption {α : Type} : Presence α → Option α
  | value a => some a
  | _ => none

/-- No value is an explicit null: an option always says something. -/
def ofOption {α : Type} : Option α → Presence α
  | some a => value a
  | none => null

def get {α : Type} : Presence α → Except PresenceError α
  | value a => .ok a
  | null => .error (.null none)
  | unset => .error (.unset none)

def map {α β : Type} (f : α → β) : Presence α → Presence β
  | unset => unset
  | null => null
  | value a => value (f a)

def tryMap {α β ε : Type} (f : α → Except ε β) : Presence α → Except ε (Presence β)
  | unset => .ok unset
  | null => .ok null
  | value a => (f a).map value

end Presence
end PayloadSchema
