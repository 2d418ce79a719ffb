/-! # Positions in a text

A line counted from one and a column counted in characters from zero. A text moves the position
at which it starts to the position just past its end. Counters fit in a word: one that would grow
past it starts again from zero. -/

namespace DuplicateLogic

/-- A place in a source file. -/
structure Position where
  line : Nat
  column : Nat
  deriving DecidableEq, Repr

namespace Position

/-- The place past one character: a newline starts the next line at column zero. -/
def step (place : Position) (c : Char) : Position :=
  if c = '\n' then ⟨place.line + 1, 0⟩ else ⟨place.line, place.column + 1⟩

/-- The number of characters after the last newline, or of all characters when there is none. -/
def lastLineLength (text : List Char) : Nat :=
  (text.reverse.takeWhile (· ≠ '\n')).length

/-- The place just past a text that starts here, however far that is. -/
def advance (start : Position) (text : String) : Position :=
  let chars := text.toList
  if '\n' ∈ chars then
    ⟨start.line + chars.count '\n', lastLineLength chars⟩
  else
    ⟨start.line, start.column + chars.length⟩

/-- How many values a counter has. -/
def word : Nat :=
  0x10000000000000000

/-- The place that counters of a word show. -/
def wrap (place : Position) : Position :=
  ⟨place.line % word, place.column % word⟩

/-- The place just past a text that starts here, as counters of a word show it. -/
def past (start : Position) (text : String) : Position :=
  (start.advance text).wrap

end Position

end DuplicateLogic
