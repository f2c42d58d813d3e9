import PayloadSchema.Text.Category
import PayloadSchema.Json.Printer

/-!
Quoted text for messages: strings in double and characters in single quotes, with escapes for the
quote, the backslash and all that would not be seen.
-/
namespace PayloadSchema.Text

def hexChars (n : Nat) : List Char :=
  if n < 16 then [Json.hexDigit n] else hexChars (n / 16) ++ [Json.hexDigit (n % 16)]

def quotedChar (quote c : Char) : List Char :=
  if c = quote ∨ c = '\\' then ['\\', c]
  else if c.toNat = 0 then ['\\', '0']
  else if c = '\t' then ['\\', 't']
  else if c = '\r' then ['\\', 'r']
  else if c = '\n' then ['\\', 'n']
  else if isVisible c then [c]
  else ['\\', 'u', '\x7b'] ++ hexChars c.toNat ++ ['\x7d']

def quoted (s : String) : String :=
  "\"" ++ String.ofList (s.toList.flatMap (quotedChar '"')) ++ "\""

def quotedLetter (c : Char) : String :=
  "'" ++ String.ofList (quotedChar '\'' c) ++ "'"

end PayloadSchema.Text
