import DuplicateLogic.Text.Extending
import DuplicateLogic.Text.Unprintable

/-! # Quoted texts in messages

A text in a message stands between double quotes. Quotes and backslashes are escaped, the common
controls have a letter, and characters that would not be visible are written by their code
point. -/

namespace DuplicateLogic.Text

/-- A code point in braces, in lowercase hexadecimal. -/
def codePointEscape (c : Char) : String :=
  "\\u\x7b" ++ String.ofList (Nat.toDigits 16 c.toNat) ++ "\x7d"

/-- One character of a quoted text. -/
def quotedChar (c : Char) : String :=
  if c = '\x00' then "\\0"
  else if c = '\t' then "\\t"
  else if c = '\n' then "\\n"
  else if c = '\r' then "\\r"
  else if c = '"' then "\\\""
  else if c = '\\' then "\\\\"
  else if isExtending c || isUnprintable c then codePointEscape c
  else String.singleton c

/-- A text between quotes, with all that would not be visible escaped. -/
def quoted (text : String) : String :=
  "\"" ++ String.join (text.toList.map quotedChar) ++ "\""

end DuplicateLogic.Text
