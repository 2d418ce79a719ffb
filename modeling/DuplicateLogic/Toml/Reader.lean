import DuplicateLogic.Toml.Item
import DuplicateLogic.Toml.Quoted
import DuplicateLogic.Toml.Scalar

/-! # Reading TOML

A document is a sequence of lines: headers and assignments, with blanks and comments between
them. Readers give nothing when the text is not TOML. -/

namespace DuplicateLogic.Toml

/-- What follows the blanks at the front of a text. -/
def skipBlanks (text : List Char) : List Char :=
  text.dropWhile isBlank

/-- What follows a comment at the front of a text; nothing when the comment holds a control
character. -/
def dropComment? : List Char → Option (List Char)
  | '#' :: rest =>
      let tail := rest.dropWhile isPlain
      match tail with
      | [] => some []
      | _ => (dropNewline? tail).map fun _ => tail
  | text => some text

/-- What follows the blanks, the comment and the line end that close a line. -/
def dropLineEnd? (text : List Char) : Option (List Char) := do
  let tail ← dropComment? (skipBlanks text)
  match tail with
  | [] => some []
  | _ => dropNewline? tail

/-- What follows the blanks, comments and line ends between the elements of an array. -/
def skipGap? : Nat → List Char → Option (List Char)
  | 0, _ => none
  | fuel + 1, text => do
      let tail ← dropComment? (skipBlanks text)
      match dropNewline? tail with
      | some rest => skipGap? fuel rest
      | none => some tail

/-- Whether a character can be part of a key without quotes. -/
def isBareKeyChar (c : Char) : Bool :=
  ('A' ≤ c && c ≤ 'Z') || ('a' ≤ c && c ≤ 'z') || ('0' ≤ c && c ≤ '9') || c = '_' || c = '-'

/-- Reads one part of a key. -/
def readSimpleKey (fuel : Nat) (text : List Char) : Option (String × List Char) :=
  let (name, rest) := text.span isBareKeyChar
  if name.isEmpty then readShort fuel text else some (String.ofList name, rest)

/-- Reads a dotted key with the blanks around its parts. -/
def readKey (fuel : Nat) : Nat → Reader (List String)
  | 0, _ => none
  | rounds + 1, text => do
      let (name, rest) ← readSimpleKey fuel (skipBlanks text)
      match skipBlanks rest with
      | '.' :: tail =>
          let (names, rest) ← readKey fuel rounds tail
          some (name :: names, rest)
      | tail => some ([name], tail)

/-- Whether a character ends a scalar without quotes. -/
def endsScalar (c : Char) : Bool :=
  isBlank c || c = '\n' || c = '\r' || c = ',' || c = ']' || c = '}' || c = '#'

/-- Reads a scalar without quotes. One blank may stand between a date and a time. -/
def readScalar (text : List Char) : Option (Item × List Char) :=
  let (word, rest) := text.span fun c => !endsScalar c
  let (word, rest) :=
    match dropDate? word, rest with
    | some [], ' ' :: tail =>
        match tail with
        | c :: _ =>
            if c.isDigit then
              let (time, after) := tail.span fun c => !endsScalar c
              (word ++ ' ' :: time, after)
            else
              (word, rest)
        | [] => (word, rest)
    | _, _ => (word, rest)
  if isScalar word then some (.scalar, rest) else none

/-- Reads the elements of an array up to its closing bracket; `front` holds those so far, last
first. -/
def readElements (value : Reader Item) (fuel : Nat) : Nat → List Item → Reader (List Item)
  | 0, _, _ => none
  | rounds + 1, front, text => do
      let text ← skipGap? fuel text
      match text with
      | ']' :: rest => some (front.reverse, rest)
      | _ =>
          let (item, text) ← value text
          match ← skipGap? fuel text with
          | ',' :: rest => readElements value fuel rounds (item :: front) rest
          | ']' :: rest => some ((item :: front).reverse, rest)
          | _ => none

/-- Reads the entries of an inline table up to its closing brace. -/
def readInline (value : Reader Item) (fuel : Nat) : Nat → Entries → Reader Entries
  | 0, _, _ => none
  | rounds + 1, entries, text => do
      let text ← skipGap? fuel text
      match text with
      | '}' :: rest => some (entries, rest)
      | _ =>
          let (keys, text) ← readKey fuel fuel text
          let text ← dropChar? '=' text
          let (item, text) ← value (skipBlanks text)
          let entries ← entries.assign keys item
          match ← skipGap? fuel text with
          | ',' :: rest => readInline value fuel rounds entries rest
          | '}' :: rest => some (entries, rest)
          | _ => none

/-- Reads a value, with the reader of the values inside it when a bracket may be entered. -/
def readValueWith (fuel : Nat) (inner? : Option (Reader Item)) (text : List Char) :
    Option (Item × List Char) :=
  match text with
  | [] => none
  | c :: rest =>
      if c = '"' || c = '\x27' then
        (readQuoted fuel text).map fun (value, rest) => (.string value, rest)
      else if c = '[' then
        inner?.bind fun inner =>
          (readElements inner fuel fuel [] rest).map fun (items, rest) => (.array items, rest)
      else if c = '{' then
        inner?.bind fun inner =>
          (readInline inner fuel fuel [] rest).map fun (entries, rest) =>
            (.table .inline entries, rest)
      else
        readScalar text

/-- Reads a value in which at most `depth` brackets are open at once. -/
def readValue (fuel : Nat) : Nat → Reader Item
  | 0 => readValueWith fuel none
  | depth + 1 => readValueWith fuel (some (readValue fuel depth))

/-- How many brackets may be open at once. -/
def maxDepth : Nat :=
  80

/-- Reads the lines of a document. `current` is the path of the table that assignments go to. -/
def readLines (fuel : Nat) : Nat → List String → Entries → List Char → Option Entries
  | 0, _, entries, _ => some entries
  | rounds + 1, current, entries, text => do
      match skipBlanks text with
      | [] => some entries
      | '[' :: '[' :: rest =>
          let (keys, rest) ← readKey fuel fuel rest
          let rest ← dropChar? ']' rest
          let rest ← dropChar? ']' rest
          let rest ← dropLineEnd? rest
          let entries ← entries.openRow keys
          readLines fuel rounds keys entries rest
      | '[' :: rest =>
          let (keys, rest) ← readKey fuel fuel rest
          let rest ← dropChar? ']' rest
          let rest ← dropLineEnd? rest
          let entries ← entries.openTable keys
          readLines fuel rounds keys entries rest
      | c :: rest =>
          if c = '#' || c = '\n' || c = '\r' then
            let rest ← dropLineEnd? (c :: rest)
            readLines fuel rounds current entries rest
          else
            let (keys, rest) ← readKey fuel fuel (c :: rest)
            let rest ← dropChar? '=' rest
            let (item, rest) ← readValue fuel maxDepth (skipBlanks rest)
            let rest ← dropLineEnd? rest
            let entries ← entries.descend false (fun table => table.assign keys item) current
            readLines fuel rounds current entries rest

/-- The entries of a document; nothing when the text is not TOML. -/
def parse? (text : String) : Option Entries :=
  let chars := match text.toList with
    | '\ufeff' :: rest => rest
    | chars => chars
  let fuel := chars.length + 1
  readLines fuel fuel [] [] chars

end DuplicateLogic.Toml
