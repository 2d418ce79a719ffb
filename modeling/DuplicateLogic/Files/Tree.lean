import DuplicateLogic.Path

/-! # Files and folders

A file system is a tree of folders with a working folder in it. Names are bytes, which need not be
a text. Paths are followed part by part: a name has to be in the folder reached so far, and whatever
follows a separator needs a folder before it. -/

namespace DuplicateLogic

open RawText (slash dot)

/-- A file or a folder. -/
inductive Entry where
  | file (bytes : ByteArray)
  | folder (entries : List (RawText × Entry))

namespace Entry

/-- Whether the entry is a folder. -/
def isFolder : Entry → Bool
  | folder _ => true
  | file _ => false

/-- The entries of a folder; a file has none. -/
def entries : Entry → List (RawText × Entry)
  | folder entries => entries
  | file _ => []

/-- The entry with a name in a folder. -/
def child? (entry : Entry) (name : RawText) : Option Entry :=
  entry.entries.lookup name

/-- What stands at a path of names. -/
def at? (entry : Entry) : List RawText → Option Entry
  | [] => some entry
  | name :: rest => (entry.child? name).bind fun inner => inner.at? rest

/-- Entries with one of them set or replaced. -/
def setIn (name : RawText) (item : Entry) : List (RawText × Entry) → List (RawText × Entry)
  | [] => [(name, item)]
  | (key, old) :: rest =>
      if key = name then (key, item) :: rest else (key, old) :: setIn name item rest

/-- The entry with something put at a path of names; missing folders are made. -/
def put (item : Entry) : List RawText → Entry → Entry
  | [], _ => item
  | name :: path, entry =>
      let inner := put item path ((entry.child? name).getD (folder []))
      folder (setIn name inner entry.entries)

/-- The entry without what stands at a path of names. -/
def erase : List RawText → Entry → Entry
  | [], entry => entry
  | [name], entry => folder (entry.entries.filter fun child => child.1 ≠ name)
  | name :: path, entry =>
      match entry.child? name with
      | some inner => folder (setIn name (erase path inner) entry.entries)
      | none => entry

end Entry

/-- Why a file could not be read. -/
inductive ReadError where
  | notFound
  | notFolder
  | isFolder
  | notText
  deriving DecidableEq, Repr

/-- The message for a read error. -/
def ReadError.message : ReadError → String
  | notFound => "No such file or directory (os error 2)"
  | notFolder => "Not a directory (os error 20)"
  | isFolder => "Is a directory (os error 21)"
  | notText => "stream did not contain valid UTF-8"

/-- An entry together with the folders above it, innermost first, each with the name of what was
entered in it. -/
structure Location where
  entry : Entry
  above : List (RawText × Entry)

/-- The names that lead from the root to a location. -/
def Location.names (place : Location) : List RawText :=
  (place.above.map (·.1)).reverse

/-- A tree of folders with a working folder. -/
structure FileSystem where
  root : Entry
  working : List RawText

namespace FileSystem

/-- Follows one part of a path. -/
def follow (place : Location) (part : List UInt8) : Except ReadError Location :=
  if !place.entry.isFolder then
    .error .notFolder
  else if Path.isIdle part then
    .ok place
  else if part = [dot, dot] then
    match place.above with
    | [] => .ok place
    | (_, parent) :: above => .ok ⟨parent, above⟩
  else
    match place.entry.child? ⟨part⟩ with
    | some entry => .ok ⟨entry, (⟨part⟩, place.entry) :: place.above⟩
    | none => .error .notFound

/-- The root of the tree. -/
def top (system : FileSystem) : Location :=
  ⟨system.root, []⟩

/-- The working folder. -/
def workingPlace (system : FileSystem) : Except ReadError Location :=
  system.working.foldlM (fun place name => follow place name.bytes) system.top

/-- What a path leads to. The empty path leads nowhere. -/
def find (system : FileSystem) (path : Path) : Except ReadError Location := do
  -- 47 is the slash
  match path.raw.bytes with
  | [] => .error .notFound
  | 47 :: rest => (Text.splitOn slash rest).foldlM follow system.top
  | bytes => (Text.splitOn slash bytes).foldlM follow (← system.workingPlace)

/-- Whether a path leads to a folder. -/
def isFolder (system : FileSystem) (path : Path) : Bool :=
  match system.find path with
  | .ok place => place.entry.isFolder
  | .error _ => false

/-- Whether a path leads to a file. -/
def isFile (system : FileSystem) (path : Path) : Bool :=
  match system.find path with
  | .ok place => !place.entry.isFolder
  | .error _ => false

/-- The text of a file. -/
def readText (system : FileSystem) (path : Path) : Except ReadError String := do
  let place ← system.find path
  match place.entry with
  | .folder _ => .error .isFolder
  | .file bytes =>
      match String.fromUTF8? bytes with
      | some text => .ok text
      | none => .error .notText

/-- The names that lead from the root to a path below the working folder. -/
def namesOf (system : FileSystem) (path : Path) : List RawText :=
  system.working ++ path.components.filterMap fun
    | .name text => some text
    | _ => none

/-- The file system with an entry at a path below the working folder. -/
def write (system : FileSystem) (path : Path) (entry : Entry) : FileSystem :=
  { system with root := Entry.put entry (system.namesOf path) system.root }

/-- The file system without what stands at a path below the working folder. -/
def remove (system : FileSystem) (path : Path) : FileSystem :=
  { system with root := Entry.erase (system.namesOf path) system.root }

end FileSystem

end DuplicateLogic
