import DuplicateLogic.Json.Value

/-! # Writing JSON

A value is written on one line without blanks, or over several lines with two blanks for every
level. Strings escape quotes, backslashes and controls and nothing else. -/

namespace DuplicateLogic.Json

/-- A control character by its code. -/
def controlEscape (c : Char) : List Char :=
  ['\\', 'u', '0', '0', Nat.digitChar (c.toNat / 16), Nat.digitChar (c.toNat % 16)]

/-- One character of a written string. -/
def escapeChar (c : Char) : List Char :=
  if c = '"' then ['\\', '"']
  else if c = '\\' then ['\\', '\\']
  else if c = '\x08' then ['\\', 'b']
  else if c = '\x0c' then ['\\', 'f']
  else if c = '\n' then ['\\', 'n']
  else if c = '\r' then ['\\', 'r']
  else if c = '\t' then ['\\', 't']
  else if c.toNat < 0x20 then controlEscape c
  else [c]

/-- A string with its quotes. -/
def writeString (text : String) : String :=
  "\"" ++ String.ofList (text.toList.flatMap escapeChar) ++ "\""

namespace Value

mutual

/-- The value on one line. -/
def compact : Value → String
  | null => "null"
  | bool value => if value then "true" else "false"
  | number value => value.text
  | string value => writeString value
  | array items => "[" ++ ",".intercalate (compactItems items) ++ "]"
  | object members => "\x7b" ++ ",".intercalate (compactMembers members) ++ "\x7d"

/-- The elements of a list, each on one line. -/
def compactItems : List Value → List String
  | [] => []
  | item :: rest => item.compact :: compactItems rest

/-- The members of an object, each on one line. -/
def compactMembers : List (String × Value) → List String
  | [] => []
  | (key, value) :: rest => (writeString key ++ ":" ++ value.compact) :: compactMembers rest

end

/-- A new line at a level. -/
def lineBreak (level : Nat) : String :=
  "\n" ++ String.ofList (List.replicate (2 * level) ' ')

/-- Parts between brackets, each on a line of its own one level deeper. -/
def bracketed (level : Nat) (opener closer : String) (parts : List String) : String :=
  if parts.isEmpty then
    opener ++ closer
  else
    opener ++ lineBreak (level + 1) ++ ("," ++ lineBreak (level + 1)).intercalate parts ++
      lineBreak level ++ closer

mutual

/-- The value over several lines, from a level on. -/
def prettyAt (level : Nat) : Value → String
  | null => "null"
  | bool value => if value then "true" else "false"
  | number value => value.text
  | string value => writeString value
  | array items => bracketed level "[" "]" (prettyItems (level + 1) items)
  | object members => bracketed level "\x7b" "\x7d" (prettyMembers (level + 1) members)

/-- The elements of a list at a level. -/
def prettyItems (level : Nat) : List Value → List String
  | [] => []
  | item :: rest => prettyAt level item :: prettyItems level rest

/-- The members of an object at a level. -/
def prettyMembers (level : Nat) : List (String × Value) → List String
  | [] => []
  | (key, value) :: rest =>
      (writeString key ++ ": " ++ prettyAt level value) :: prettyMembers level rest

end

/-- The value over several lines. -/
def pretty (value : Value) : String :=
  prettyAt 0 value

end Value

end DuplicateLogic.Json
