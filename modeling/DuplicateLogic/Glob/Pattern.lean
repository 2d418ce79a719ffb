/-! # Glob patterns

A pattern is read character by character into tokens. A question mark is one character of a name,
a star a run of them; two stars between separators stand for any number of folders; brackets hold
a set of characters, braces hold alternatives, and a backslash takes the next character as it
is. -/

namespace DuplicateLogic.Glob

/-- One part of a pattern. -/
inductive Token where
  | literal (c : Char)
  | any
  | run
  | foldersFirst
  | foldersLast
  | foldersBetween
  | set (negated : Bool) (ranges : List (Char × Char))
  | alternatives (branches : List (List Token))

namespace Token

/-- Whether the token stands for folders at the front or at the end of a path. -/
def isOuterFolders : Token → Bool
  | foldersFirst => true
  | foldersLast => true
  | _ => false

end Token

/-- The characters of a set read so far. -/
structure SetDraft where
  /-- The ranges, last first. -/
  ranges : List (Char × Char) := []
  /-- No character has been read. -/
  isFirst : Bool := true
  /-- A dash waits for the end of its range. -/
  isOpen : Bool := false

/-- The set with one more character; nothing when a range would end before it starts. -/
def SetDraft.add (draft : SetDraft) (c : Char) : Option SetDraft :=
  if c = '-' && !draft.isFirst && !draft.isOpen then
    some { draft with isOpen := true }
  else if draft.isOpen then
    match draft.ranges with
    | (low, _) :: rest =>
        if c < low then none
        else some { ranges := (low, c) :: rest, isFirst := false, isOpen := false }
    | [] => some { draft with isOpen := false }
  else
    some { ranges := (c, c) :: draft.ranges, isFirst := false, isOpen := false }

/-- Why a set cannot be read. -/
inductive SetFault where
  | unclosed
  | reversed
  deriving DecidableEq, Repr

/-- Reads a set up to its closing bracket. The first character is never the closing bracket. A
dash before the closing bracket stands for itself. -/
def readSet (draft : SetDraft) :
    List Char → Except SetFault (List (Char × Char) × List Char)
  | [] => .error .unclosed
  | c :: rest =>
      if c = ']' && !draft.isFirst then
        let ranges := if draft.isOpen then ('-', '-') :: draft.ranges else draft.ranges
        .ok (ranges.reverse, rest)
      else
        match draft.add c with
        | some draft => readSet draft rest
        | none => .error .reversed

/-- An open brace: the tokens before it and its finished alternatives, both last first. -/
structure Group where
  before : List Token
  branches : List (List Token)

/-- A pattern read so far. -/
structure Draft where
  /-- The character before the next one. -/
  previous? : Option Char := none
  /-- The tokens of the branch that is being read, last first. -/
  tokens : List Token := []
  /-- The open braces, innermost first. -/
  groups : List Group := []

namespace Draft

/-- The draft with a token more, behind a character. -/
def push (draft : Draft) (c : Char) (token : Token) : Draft :=
  { draft with previous? := some c, tokens := token :: draft.tokens }

/-- The draft after two stars that are just two stars. -/
def pushTwoRuns (draft : Draft) : Draft :=
  (draft.push '*' .run).push '*' .run

/-- The draft with the separator before two stars replaced by folders; outer folders that stand
there stay. -/
def replaceLast (draft : Draft) (c : Char) (token : Token) : Draft :=
  match draft.tokens with
  | last :: rest =>
      { draft with
        previous? := some c
        tokens := (if last.isOuterFolders then last else token) :: rest }
  | [] => { draft with previous? := some c, tokens := [token] }

/-- Whether two stars may stand for folders after the character before them. -/
def startsFolder (draft : Draft) (before? : Option Char) : Bool :=
  before? = some '/' ||
    (!draft.groups.isEmpty && (before? = some ',' || before? = some '{'))

/-- The draft after two stars, and what follows them. -/
def stars (draft : Draft) (rest : List Char) : Draft × List Char :=
  match draft.tokens, rest with
  | [], [] => (draft.push '*' .foldersFirst, [])
  | [], '/' :: tail => (draft.push '/' .foldersFirst, tail)
  | [], _ => (draft.pushTwoRuns, rest)
  | _ :: _, _ =>
      if draft.startsFolder draft.previous? then
        match rest with
        | [] => (draft.replaceLast '*' .foldersLast, [])
        | '/' :: tail => (draft.replaceLast '/' .foldersBetween, tail)
        | c :: _ =>
            if !draft.groups.isEmpty && (c = ',' || c = '}') then
              (draft.replaceLast '*' .foldersLast, rest)
            else
              (draft.pushTwoRuns, rest)
      else
        (draft.pushTwoRuns, rest)

/-- The draft with a brace opened. -/
def openGroup (draft : Draft) : Draft :=
  { previous? := some '{', tokens := [], groups := ⟨draft.tokens, []⟩ :: draft.groups }

/-- The draft behind a comma: a new alternative inside braces, a comma elsewhere. -/
def comma (draft : Draft) : Draft :=
  match draft.groups with
  | [] => draft.push ',' (.literal ',')
  | group :: outer =>
      { previous? := some ','
        tokens := []
        groups := ⟨group.before, draft.tokens.reverse :: group.branches⟩ :: outer }

/-- The draft with the innermost brace closed; nothing when none is open. -/
def closeGroup (draft : Draft) : Option Draft :=
  match draft.groups with
  | [] => none
  | group :: outer =>
      let branches := (draft.tokens.reverse :: group.branches).reverse
      some { previous? := some '}'
             tokens := .alternatives branches :: group.before
             groups := outer }

end Draft

/-- Reads the rest of a pattern; nothing when it is malformed. A tolerant reader takes a bracket
that is never closed, and every later one, as a character. -/
def readTokens (tolerant : Bool) : Nat → Bool → Draft → List Char → Option Draft
  | 0, _, draft, _ => some draft
  | _ + 1, _, draft, [] => some draft
  | fuel + 1, bare, draft, c :: rest =>
      let next (draft : Draft) (rest : List Char) : Option Draft :=
        readTokens tolerant fuel bare draft rest
      match c, rest with
      | '?', _ => next (draft.push c .any) rest
      | '*', '*' :: tail =>
          let (draft, tail) := draft.stars tail
          next draft tail
      | '*', _ => next (draft.push c .run) rest
      | '[', _ =>
          if bare then
            next (draft.push c (.literal c)) rest
          else
            let (negated, body) := match rest with
              | '!' :: tail => (true, tail)
              | '^' :: tail => (true, tail)
              | _ => (false, rest)
            match readSet {} body with
            | .ok (ranges, tail) => next (draft.push ']' (.set negated ranges)) tail
            | .error .reversed => none
            | .error .unclosed =>
                if tolerant then
                  readTokens tolerant fuel true (draft.push c (.literal c)) rest
                else
                  none
      | '{', _ => next draft.openGroup rest
      | '}', _ =>
          match draft.closeGroup with
          | none => none
          | some draft => next draft rest
      | ',', _ => next draft.comma rest
      | '\\', [] => none
      | '\\', d :: tail => next (draft.push d (.literal d)) tail
      | _, _ => next (draft.push c (.literal c)) rest

/-- The tokens of a pattern; nothing when it is malformed or leaves a brace open. -/
def tokens? (tolerant : Bool) (pattern : String) : Option (List Token) := do
  let chars := pattern.toList
  let draft ← readTokens tolerant (chars.length + 1) false {} chars
  if draft.groups.isEmpty then some draft.tokens.reverse else none

end DuplicateLogic.Glob
