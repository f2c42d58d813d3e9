import PayloadSchema.Text.Quoted

/-! Why a date or a time of day cannot be read. -/
namespace PayloadSchema.Calendar

inductive Fault where
  | tooShort
  | invalid
  | outOfRange
  | tooLong
  deriving DecidableEq, Repr

namespace Fault

def message : Fault → String
  | tooShort => "premature end of input"
  | invalid => "input contains invalid characters"
  | outOfRange => "input is out of range"
  | tooLong => "trailing input"

def dateMessage (text : String) (f : Fault) : String :=
  "invalid date " ++ Text.quoted text ++ ": " ++ f.message

def dateTimeMessage (text : String) (f : Fault) : String :=
  "invalid RFC 3339 date-time " ++ Text.quoted text ++ ": " ++ f.message

end Fault
end PayloadSchema.Calendar
