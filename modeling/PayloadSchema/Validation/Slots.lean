import PayloadSchema.Schema.Index
import PayloadSchema.Validation.Validator

/-!
Objects that are read into slots. There is one slot for each declared field, all unset at first; the
index says which slot a member goes to, and members without a slot are kept behind.
-/
namespace PayloadSchema

inductive Halt where
  | refused (e : ValidationError)
  | outOfRange (e : OutOfRange)

structure Slots where
  declared : List (String × Presence Instance)
  additional : List (String × Presence Instance)

namespace Slots

def start (c : Composite) : Slots := ⟨c.fields.map fun field => (field.name, .unset), []⟩

/-- Reads one member: a declared one into its slot, another one behind those before it. -/
def readMember (f : Schema → Json → Except ValidationError Instance) (c : IndexedComposite)
    (slots : Slots) : String × Json → Except Halt Slots
  | (name, raw) =>
    match c.position? name with
    | some place => do
      let field ← (elementAt c.composite.fields place).mapError .outOfRange
      let p ← (Validator.applyDeclared f field raw).mapError .refused
      let slot ← (elementAt slots.declared place).mapError .outOfRange
      pure { slots with declared := slots.declared.set place (slot.1, p) }
    | none => do
      let p ← (Validator.applyAdditional f c.composite.additional name raw).mapError .refused
      pure { slots with additional := slots.additional ++ [(name, p)] }

def entries (slots : Slots) : List (String × Presence Instance) :=
  slots.declared ++ slots.additional

end Slots

/-- An object: required fields first, in order of declaration, and then all members into slots. -/
def IndexedComposite.readObject (v : Validator) (inner : Validator.Inner) (c : IndexedComposite) :
    Json → Except Halt ObjectInstance
  | .object members => do
    let f ← (v.enter inner).mapError .refused
    match c.composite.requiredNames.find? fun name => (members.lookup name).isNone with
    | some name => .error (.refused (.here (.missingField name)))
    | none =>
      let slots ← members.foldlM (Slots.readMember f c) (Slots.start c.composite)
      pure ⟨c.composite, slots.entries⟩
  | raw => .error (.refused (.here (.notAnObject raw.shape)))

end PayloadSchema
