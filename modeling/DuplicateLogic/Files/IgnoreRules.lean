import DuplicateLogic.Files.Tree
import DuplicateLogic.Glob.Match

/-! # Ignore files

Each line of an ignore file is a pattern for paths below its folder. A bang re-includes, a slash
at the end restricts the pattern to folders, and a slash elsewhere ties it to the folder of the
file; otherwise the pattern applies at every depth. The last line that matches decides.

The rules are those that stand in the folders of the tree. Rules that a user keeps elsewhere for all
repositories are not read. -/

namespace DuplicateLogic

/-- One line of an ignore file. -/
structure IgnoreLine where
  glob : Glob
  includes : Bool
  foldersOnly : Bool

/-- What ignore rules say about a path. -/
inductive Verdict where
  | silent
  | ignored
  | included
  deriving DecidableEq, Repr

/-- The verdict of the first that is not silent. -/
def Verdict.orElse : Verdict → Verdict → Verdict
  | silent, other => other
  | verdict, _ => verdict

namespace IgnoreLine

/-- A line without the white space at its end, unless the last blank is escaped. -/
def trimLine (line : List Char) : List Char :=
  if ['\\', ' '].isSuffixOf line then line
  else (line.reverse.dropWhile Text.isSpace).reverse

/-- The pattern with what lets it match at every depth, when nothing ties it to its folder, and
with what keeps two stars at the end from matching the folder itself. -/
def globText (tied : Bool) (body : List Char) : List Char :=
  let free := !tied && !body.contains '/' && body ≠ ['*', '*']
  let text := if free then ['*', '*', '/'] ++ body else body
  if ['/', '*', '*'].isSuffixOf text then text ++ ['/', '*'] else text

/-- A pattern without the slash at its end, and whether it had one. A backslash before the slash
goes with it. -/
def splitFolderMark (body : List Char) : List Char × Bool :=
  if body.getLast? = some '/' then
    let front := body.dropLast
    (if front.getLast? = some '\\' then front.dropLast else front, true)
  else
    (body, false)

/-- The rule of a line; nothing for comments, empty lines and malformed patterns. -/
def parse? (line : List Char) : Option IgnoreLine :=
  let body := trimLine line
  if line.head? = some '#' || body.isEmpty then
    none
  else
    let (includes, tied, body) :=
      match body with
      | '\\' :: '!' :: rest => (false, false, '!' :: rest)
      | '\\' :: '#' :: rest => (false, false, '#' :: rest)
      | '!' :: '/' :: rest => (true, true, rest)
      | '!' :: rest => (true, false, rest)
      | '/' :: rest => (false, true, rest)
      | rest => (false, false, rest)
    let (body, foldersOnly) := splitFolderMark body
    (Glob.ofTolerant? (String.ofList (globText tied body))).map fun glob =>
      ⟨glob, includes, foldersOnly⟩

/-- Whether the line applies to a path below its folder. -/
def applies (line : IgnoreLine) (path : List UInt8) (isFolder : Bool) : Bool :=
  (!line.foldersOnly || isFolder) && line.glob.isMatchBytes path

end IgnoreLine

/-- The lines of an ignore file. -/
abbrev IgnoreFile := List IgnoreLine

namespace IgnoreFile

/-- The byte that ends a line. -/
def newline : UInt8 :=
  10

/-- The lines of a file up to the first that is not text. -/
def textLines : List (List UInt8) → List (List Char)
  | [] => []
  | line :: rest =>
      match String.fromUTF8? ⟨line.toArray⟩ with
      | some text => Text.dropReturn text.toList :: textLines rest
      | none => []

/-- The first line without a byte order mark. -/
def dropMark : List (List Char) → List (List Char)
  | line :: rest => line.dropWhile (· = '\ufeff') :: rest
  | [] => []

/-- The rules in the bytes of an ignore file. -/
def ofBytes (bytes : ByteArray) : IgnoreFile :=
  (dropMark (textLines (Text.splitOn newline bytes.toList))).filterMap IgnoreLine.parse?

/-- The rules of an entry that is an ignore file. -/
def ofEntry? : Option Entry → IgnoreFile
  | some (.file bytes) => ofBytes bytes
  | _ => []

/-- What the file says about a path below its folder. -/
def verdict (file : IgnoreFile) (path : List UInt8) (isFolder : Bool) : Verdict :=
  match file.reverse.find? fun line => line.applies path isFolder with
  | some line => if line.includes then .included else .ignored
  | none => .silent

end IgnoreFile

/-- The ignore files of one folder. -/
structure IgnoreLayer where
  /-- How many names lead from the root to the folder. -/
  depth : Nat
  /-- The rules that always apply. -/
  always : IgnoreFile
  /-- The rules that apply in a repository. -/
  tracked : IgnoreFile
  /-- The rules that only this clone of a repository has. -/
  cloneOnly : IgnoreFile
  /-- The folder is the root of a repository. -/
  isRepository : Bool

namespace IgnoreLayer

/-- The ignore files among the entries of a folder. A folder with the mark of a repository is the
root of one, also when the mark is a file that refers to the data of the repository elsewhere; the
rules among these data are read only where the mark is a folder. -/
def ofFolder (depth : Nat) (folder : Entry) : IgnoreLayer where
  depth := depth
  always := IgnoreFile.ofEntry? (folder.child? ".ignore")
  tracked := IgnoreFile.ofEntry? (folder.child? ".gitignore")
  cloneOnly :=
    IgnoreFile.ofEntry? <| (folder.child? ".git").bind fun git =>
      (git.child? "info").bind fun info => info.child? "exclude"
  isRepository := (folder.child? ".git").isSome || (folder.child? ".jj").isSome

/-- The path of a list of names below the folder. -/
def below (layer : IgnoreLayer) (names : List RawText) : List UInt8 :=
  Text.joinWith RawText.slash ((names.drop layer.depth).map (·.bytes))

/-- The ignore files of the folders on the way along some names, innermost first. -/
def leadingTo (root : Entry) (names : List RawText) : List IgnoreLayer :=
  ((List.range (names.length + 1)).filterMap fun depth =>
    (root.at? (names.take depth)).map (ofFolder depth)).reverse

end IgnoreLayer

/-- What one sort of rules says about a path, the innermost folder first. Rules of a repository
end at its root. -/
def layersVerdict (rules : IgnoreLayer → IgnoreFile) (bounded : Bool) (names : List RawText)
    (isFolder : Bool) : List IgnoreLayer → Verdict
  | [] => .silent
  | layer :: outer =>
      ((rules layer).verdict (layer.below names) isFolder).orElse
        (if bounded && layer.isRepository then .silent
        else layersVerdict rules bounded names isFolder outer)

/-- What the ignore files of some folders say about a path. Rules of a repository count only inside
one. -/
def ignoreVerdict (layers : List IgnoreLayer) (names : List RawText) (isFolder : Bool) :
    Verdict :=
  let always := layersVerdict (·.always) false names isFolder layers
  if layers.any (·.isRepository) then
    (always.orElse (layersVerdict (·.tracked) true names isFolder layers)).orElse
      (layersVerdict (·.cloneOnly) true names isFolder layers)
  else
    always

end DuplicateLogic
