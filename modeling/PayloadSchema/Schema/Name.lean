import PayloadSchema.Error

/-!
Names of schemas: an ASCII letter or underscore, then ASCII letters, digits, underscores, dots and
hyphens. The dot sets off the name of a schema declared inside another one.
-/
namespace PayloadSchema

namespace SchemaName

def isStart (c : Char) : Bool := c.isAlpha || c == '_'

def isRest (c : Char) : Bool := c.isAlphanum || c == '_' || c == '.' || c == '-'

def fault? : List Char → Option String
  | [] => some "name is empty"
  | c :: cs =>
    if !isStart c then
      some ("must start with a letter or '_', found " ++ Text.quotedLetter c)
    else
      match cs.find? (fun c => !isRest c) with
      | some c => some ("unexpected character " ++ Text.quotedLetter c)
      | none => none

end SchemaName

structure SchemaName where
  text : String
  valid : SchemaName.fault? text.toList = none
  deriving DecidableEq

namespace SchemaName

def make (text : String) : Except SchemaError SchemaName :=
  match h : fault? text.toList with
  | none => .ok ⟨text, h⟩
  | some reason => .error (.invalidName text reason)

def nested (name : SchemaName) (field : String) : Except SchemaError SchemaName :=
  make (name.text ++ "." ++ field)

theorem ext_text {a b : SchemaName} (h : a.text = b.text) : a = b := by
  cases a
  cases b
  cases h
  rfl

end SchemaName
end PayloadSchema
