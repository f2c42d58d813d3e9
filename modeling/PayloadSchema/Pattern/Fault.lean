import PayloadSchema.Number.Digit

/-! What can be wrong with the text of a pattern. -/
namespace PayloadSchema.Pattern

/-- The largest size of the program that searches for a pattern, in bytes. -/
def sizeLimit : Nat := 10 * pow2 20

inductive Fault where
  | malformed
  /-- The program would be larger than the limit. -/
  | tooLarge
  deriving DecidableEq, Repr

def Fault.detail : Fault → String
  | malformed => ""
  | tooLarge => ": Compiled regex exceeds size limit of " ++ natText sizeLimit ++ " bytes."

end PayloadSchema.Pattern
