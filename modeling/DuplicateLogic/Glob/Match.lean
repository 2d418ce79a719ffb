import DuplicateLogic.Glob.Pattern

/-! # Matching globs

A pattern is matched against the bytes of a path, from its first to its last. Tokens become
pieces: one byte of a set, a run of bytes of a set, or a choice between sequences of pieces. A
question mark takes one byte and a set the bytes of its characters, so that a character of several
bytes takes as many of them. -/

namespace DuplicateLogic.Glob

/-- A set of bytes: those in the ranges, or all others. -/
structure ByteSet where
  negated : Bool
  ranges : List (UInt8 × UInt8)
  deriving DecidableEq, Repr

namespace ByteSet

/-- Whether a byte is in the set. -/
def contains (set : ByteSet) (byte : UInt8) : Bool :=
  set.negated != set.ranges.any fun range => range.1 ≤ byte && byte ≤ range.2

/-- One byte. -/
def single (byte : UInt8) : ByteSet :=
  ⟨false, [(byte, byte)]⟩

/-- Every byte. -/
def all : ByteSet :=
  ⟨true, []⟩

/-- The byte that separates folders. -/
def slash : UInt8 :=
  47

/-- Every byte of a name. -/
def inName : ByteSet :=
  ⟨true, [(slash, slash)]⟩

end ByteSet

/-- One piece of a pattern over bytes. -/
inductive Piece where
  | one (set : ByteSet)
  | many (set : ByteSet)
  | choice (branches : List (List Piece))

/-- The bytes of a text. -/
def bytesOf (text : List Char) : List UInt8 :=
  text.flatMap String.utf8EncodeChar

/-- The byte ranges of a range of characters: the range runs from the last byte of its first
character to the first byte of its last. -/
def byteRanges (range : Char × Char) : List (UInt8 × UInt8) :=
  let low := String.utf8EncodeChar range.1
  let high := String.utf8EncodeChar range.2
  if range.1 = range.2 then
    low.map fun byte => (byte, byte)
  else
    (low.dropLast.map fun byte => (byte, byte)) ++
      (match low.getLast?, high.head? with
        | some first, some last => [(first, last)]
        | _, _ => []) ++
      high.tail.map fun byte => (byte, byte)

/-- One slash. -/
def slashPiece : Piece :=
  .one (.single ByteSet.slash)

/-- Any bytes. -/
def anything : Piece :=
  .many .all

mutual

/-- The pieces of a token. -/
def Token.pieces : Token → List Piece
  | literal c => (String.utf8EncodeChar c).map fun byte => .one (.single byte)
  | any => [.one .inName]
  | run => [.many .inName]
  | foldersFirst => [.choice [[], [slashPiece], [anything, slashPiece]]]
  | foldersLast => [slashPiece, anything]
  | foldersBetween => [.choice [[slashPiece], [slashPiece, anything, slashPiece]]]
  | set negated ranges => [.one ⟨negated, ranges.flatMap byteRanges⟩]
  | alternatives branches =>
      match Token.branchPieces branches with
      | [] => []
      | parts => [.choice parts]

/-- The pieces of several tokens. -/
def Token.allPieces : List Token → List Piece
  | [] => []
  | token :: rest => token.pieces ++ Token.allPieces rest

/-- The pieces of the alternatives that are not empty. -/
def Token.branchPieces : List (List Token) → List (List Piece)
  | [] => []
  | branch :: rest =>
      match Token.allPieces branch with
      | [] => Token.branchPieces rest
      | pieces => pieces :: Token.branchPieces rest

end

/-- The suffixes left after a run of bytes of a set, the longest first. -/
def suffixes (set : ByteSet) : List UInt8 → List (List UInt8)
  | [] => [[]]
  | byte :: rest =>
      (byte :: rest) :: if set.contains byte then suffixes set rest else []

mutual

/-- Whether a piece takes some bytes off the front and `next` accepts the rest. -/
def Piece.accepts : Piece → (List UInt8 → Bool) → List UInt8 → Bool
  | one set, next, bytes =>
      match bytes with
      | [] => false
      | byte :: rest => set.contains byte && next rest
  | many set, next, bytes => (suffixes set bytes).any next
  | choice branches, next, bytes => Piece.anyAccepts branches next bytes

/-- Whether pieces take some bytes off the front and `next` accepts the rest. -/
def Piece.allAccept : List Piece → (List UInt8 → Bool) → List UInt8 → Bool
  | [], next, bytes => next bytes
  | piece :: rest, next, bytes => piece.accepts (Piece.allAccept rest next) bytes

/-- Whether one of several sequences does. -/
def Piece.anyAccepts : List (List Piece) → (List UInt8 → Bool) → List UInt8 → Bool
  | [], _, _ => false
  | branch :: rest, next, bytes =>
      Piece.allAccept branch next bytes || Piece.anyAccepts rest next bytes

end

end DuplicateLogic.Glob

namespace DuplicateLogic

/-- A pattern that is ready to be matched. -/
structure Glob where
  pieces : List Glob.Piece

namespace Glob

/-- The glob of tokens. Two stars alone match everything. -/
def ofTokens : List Token → Glob
  | [.foldersFirst] => ⟨[anything]⟩
  | tokens => ⟨Token.allPieces tokens⟩

/-- The glob of a pattern; nothing when the pattern is malformed. -/
def ofPattern? (pattern : String) : Option Glob :=
  (tokens? false pattern).map ofTokens

/-- The glob of a pattern in which a bracket that is never closed is a character. -/
def ofTolerant? (pattern : String) : Option Glob :=
  (tokens? true pattern).map ofTokens

/-- Whether the glob matches the bytes of a path. -/
def isMatchBytes (glob : Glob) (bytes : List UInt8) : Bool :=
  Piece.allAccept glob.pieces List.isEmpty bytes

/-- Whether the glob matches a path text. -/
def isMatch (glob : Glob) (text : String) : Bool :=
  glob.isMatchBytes (bytesOf text.toList)

end Glob

end DuplicateLogic
