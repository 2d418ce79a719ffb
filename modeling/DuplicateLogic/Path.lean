import DuplicateLogic.Text.Raw
import DuplicateLogic.Text.Split

/-! # Paths

A path is spelled with bytes, which are a text as a rule; what it names is a list of components.
Empty components and inner dots do not count, so paths that are spelled differently can be the
same, while a leading dot is a component of its own. Paths are ordered by their components. -/

namespace DuplicateLogic

/-- A path as it is spelled. -/
structure Path where
  ofRaw ::
  raw : RawText
  deriving DecidableEq, Repr

namespace Path

open RawText (slash dot)

/-- The path that a text spells. -/
def mk (text : String) : Path :=
  ⟨text⟩

/-- The path as a text that can be shown. -/
def text (path : Path) : String :=
  path.raw.lossy

theorem mk_text {path : Path} (known : path.raw.isText = true) : mk path.text = path :=
  congrArg ofRaw (RawText.ofString_lossy known)

/-- One step of a path. -/
inductive Component where
  | root
  | current
  | parent
  | name (text : RawText)
  deriving DecidableEq, Repr

namespace Component

/-- The rank of a component among components of other sorts. -/
def rank : Component → Nat
  | root => 0
  | current => 1
  | parent => 2
  | name _ => 3

/-- The name of a component that has one. -/
def label : Component → RawText
  | name text => text
  | _ => ""

/-- Components are ordered by their sort, and names by their bytes. -/
instance : Ord Component where
  compare := compareLex (compareOn rank) (compareOn label)

end Component

/-- How a path starts. -/
inductive Lead where
  | root
  | current
  | bare
  deriving DecidableEq, Repr

/-- Whether a part between separators names no component. -/
def isIdle (part : List UInt8) : Bool :=
  part = [] || part = [dot]

/-- The start of a path and the parts between the separators after it. -/
def split (path : Path) : Lead × List (List UInt8) :=
  -- a pattern takes no constants: 47 is the slash and 46 the dot
  match path.raw.bytes with
  | 47 :: rest => (.root, Text.splitOn slash rest)
  | bytes =>
      match Text.splitOn slash bytes with
      | [46] :: rest => (.current, rest)
      | parts => (.bare, parts)

/-- The path with a start and the parts after it. -/
def ofParts (lead : Lead) (parts : List (List UInt8)) : Path :=
  let body := Text.joinWith slash parts
  match lead with
  | .root => ⟨⟨slash :: body⟩⟩
  | .current => ⟨⟨if parts.isEmpty then [dot] else dot :: slash :: body⟩⟩
  | .bare => ⟨⟨body⟩⟩

/-- The parts without idle ones at the end. -/
def trimEnd (parts : List (List UInt8)) : List (List UInt8) :=
  (parts.reverse.dropWhile isIdle).reverse

/-- The component that a part names. -/
def Component.ofPart (part : List UInt8) : Component :=
  if part = [dot, dot] then .parent else .name ⟨part⟩

/-- The components of a path. -/
def components (path : Path) : List Component :=
  let (lead, parts) := path.split
  let body := (parts.filter fun part => !isIdle part).map Component.ofPart
  match lead with
  | .root => .root :: body
  | .current => .current :: body
  | .bare => body

instance : Ord Path where
  compare first second := compare first.components second.components

/-- Whether two paths have the same components. -/
def same (first second : Path) : Bool :=
  first.components == second.components

/-- Whether a path comes before another or is the same. -/
def atMost (first second : Path) : Bool :=
  (compare first second).isLE

/-- The last component, when it is a name. -/
def fileName? (path : Path) : Option RawText :=
  match path.components.getLast? with
  | some (.name text) => some text
  | _ => none

/-- The path without its last component; nothing for the root and the empty path. -/
def parent? (path : Path) : Option Path :=
  let (lead, parts) := path.split
  let body := trimEnd parts
  match body, lead with
  | [], .current => some ⟨""⟩
  | [], _ => none
  | _ :: _, _ => some (ofParts lead (trimEnd body.dropLast))

/-- A path inside another. An absolute one stands for itself. -/
def join (base inner : Path) : Path :=
  match inner.raw.bytes with
  | 47 :: _ => inner
  | _ =>
      if base.raw.bytes.isEmpty || base.raw.bytes.getLast? = some slash then
        ⟨⟨base.raw.bytes ++ inner.raw.bytes⟩⟩
      else
        ⟨⟨base.raw.bytes ++ slash :: inner.raw.bytes⟩⟩

/-- What is left of the parts when the first `count` components are dropped. -/
def dropComponents : Nat → List (List UInt8) → List (List UInt8)
  | 0, parts => parts
  | _ + 1, [] => []
  | count + 1, part :: rest =>
      if isIdle part then dropComponents (count + 1) rest else dropComponents count rest

/-- The rest of a path below a directory, as it is spelled; nothing when the path does not start
with the components of the directory. -/
def stripPrefix? (path base : Path) : Option Path :=
  let front := base.components
  let (lead, parts) := path.split
  if front.isPrefixOf path.components then
    match front with
    | [] => some (ofParts lead (trimEnd parts))
    | _ :: _ =>
        let count := if lead = .bare then front.length else front.length - 1
        let rest := (dropComponents count parts).dropWhile isIdle
        some (ofParts .bare (trimEnd rest))
  else
    none

/-- The path as it is shown: with forward slashes and without one leading `./`. -/
def display (path : Path) : String :=
  let text := (Text.replaceChar '\\' '/' path.text).toList
  String.ofList ((Text.dropWord? ['.', '/'] text).getD text)

end Path

end DuplicateLogic
