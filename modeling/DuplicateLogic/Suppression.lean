import DuplicateLogic.Text.Split

/-! # Suppression comments

A marker in a line of the source silences the rules on that line: all of them, or those that are
listed after a colon. Only the first marker of a line counts. -/

namespace DuplicateLogic

/-- What a comment silences on its line. -/
inductive Suppression where
  | all
  | rules (ids : List String)
  deriving DecidableEq, Repr

namespace Suppression

/-- The marker of a suppression comment. -/
def marker : List Char :=
  "dupscan-ignore".toList

/-- What follows the first marker in a line. -/
def afterMarker? : List Char → Option (List Char)
  | [] => none
  | c :: rest =>
      match Text.dropWord? marker (c :: rest) with
      | some tail => some tail
      | none => afterMarker? rest

/-- Whether a character can be part of a rule identifier. -/
def isIdChar (c : Char) : Bool :=
  ('A' ≤ c && c ≤ 'Z') || ('a' ≤ c && c ≤ 'z') || ('0' ≤ c && c ≤ '9') || c = '_' || c = '-'

/-- The identifiers that follow one, each after a comma with blanks around it. -/
def moreIds : Nat → List Char → List (List Char)
  | 0, _ => []
  | fuel + 1, text =>
      match text.dropWhile Text.isSpace with
      | ',' :: rest =>
          let (id, rest) := (rest.dropWhile Text.isSpace).span isIdChar
          if id.isEmpty then [] else id :: moreIds fuel rest
      | _ => []

/-- What a comment silences, by the text after its marker. A colon without an identifier behind
it does not start a list. -/
def ofTail : List Char → Suppression
  | ':' :: rest =>
      let (id, rest) := (rest.dropWhile Text.isSpace).span isIdChar
      if id.isEmpty then all else rules ((id :: moreIds rest.length rest).map String.ofList)
  | _ => all

/-- What a line silences. -/
def ofLine? (line : List Char) : Option Suppression :=
  (afterMarker? line).map ofTail

/-- Whether a rule is silenced. -/
def covers : Suppression → String → Bool
  | all, _ => true
  | rules ids, rule => ids.contains rule

/-- The lines of a source text that silence something, counted from one. -/
def lines (source : String) : List (Nat × Suppression) :=
  ((Text.lines source.toList).zipIdx 1).filterMap fun (line, number) =>
    (ofLine? line).map fun suppression => (number, suppression)

/-- Whether a rule is silenced on a line. -/
def isSuppressed (silenced : List (Nat × Suppression)) (line : Nat) (rule : String) : Bool :=
  match silenced.lookup line with
  | some suppression => suppression.covers rule
  | none => false

end Suppression

end DuplicateLogic
