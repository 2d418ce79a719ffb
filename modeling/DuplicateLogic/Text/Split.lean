/-! # Splitting texts

Cutting a text at every occurrence of one character or byte, into lines, and its blanks off its
ends. -/

namespace DuplicateLogic.Text

/-- The parts between the occurrences of a separator; there is always at least one. -/
def splitOn {α : Type} [DecidableEq α] (separator : α) (text : List α) : List (List α) :=
  text.foldr
    (fun c parts =>
      if c = separator then
        [] :: parts
      else
        match parts with
        | [] => [[c]]
        | part :: rest => (c :: part) :: rest)
    [[]]

/-- The parts joined by a separator. -/
def joinWith {α : Type} (separator : α) (parts : List (List α)) : List α :=
  [separator].intercalate parts

/-- A line without the carriage return at its end. -/
def dropReturn (line : List Char) : List Char :=
  if line.getLast? = some '\r' then line.dropLast else line

/-- The lines of a text. A newline ends a line, together with one carriage return before it; what
follows the last newline is a line only when it is not empty. -/
def lines (text : List Char) : List (List Char) :=
  let parts := splitOn '\n' text
  let ended := parts.dropLast.map dropReturn
  match parts.getLast? with
  | some (c :: rest) => ended ++ [c :: rest]
  | _ => ended

/-- Whether a character is white space. -/
def isSpace (c : Char) : Bool :=
  let n := c.toNat
  (0x9 ≤ n && n ≤ 0xD) || n = 0x20 || n = 0x85 || n = 0xA0 || n = 0x1680 ||
    (0x2000 ≤ n && n ≤ 0x200A) || n = 0x2028 || n = 0x2029 || n = 0x202F || n = 0x205F ||
    n = 0x3000

/-- A text without the white space at its ends. -/
def trimChars (text : List Char) : List Char :=
  ((text.dropWhile isSpace).reverse.dropWhile isSpace).reverse

/-- A text without the white space at its ends. -/
def trim (text : String) : String :=
  String.ofList (trimChars text.toList)

/-- What follows a word at the front of a text, if the text starts with it. -/
def dropWord? : List Char → List Char → Option (List Char)
  | [], text => some text
  | _ :: _, [] => none
  | letter :: word, c :: text => if c = letter then dropWord? word text else none

/-- The text with every occurrence of one character replaced by another. -/
def replaceChar (old new : Char) (text : String) : String :=
  String.ofList (text.toList.map fun c => if c = old then new else c)

end DuplicateLogic.Text
