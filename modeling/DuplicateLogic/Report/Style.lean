/-! # Styled text

A style is written before a text and taken back after it. A text that takes back a style of its
own gets the outer style again right after that. -/

namespace DuplicateLogic.Report

/-- A way to set off a text. -/
inductive Style where
  | bold
  | dimmed
  | underlined
  | red
  | green
  deriving DecidableEq, Repr

/-- The code of a style. -/
def Style.code : Style → String
  | bold => "1"
  | dimmed => "2"
  | underlined => "4"
  | red => "31"
  | green => "32"

/-- What starts a list of styles. -/
def opening (styles : List Style) : List Char :=
  ("\x1b[" ++ ";".intercalate (styles.map Style.code) ++ "m").toList

/-- What takes back all styles. -/
def reset : List Char :=
  "\x1b[0m".toList

/-- A text with a start code behind every reset in it. -/
def reopen (start : List Char) : List Char → List Char
  | '\x1b' :: '[' :: '0' :: 'm' :: rest => reset ++ start ++ reopen start rest
  | c :: rest => c :: reopen start rest
  | [] => []

/-- A text in a list of styles, or as it is when there are no colours. -/
def paint (color : Bool) (styles : List Style) (text : String) : String :=
  if color then
    String.ofList (opening styles ++ reopen (opening styles) text.toList ++ reset)
  else
    text

end DuplicateLogic.Report
