import DuplicateLogic.Settings
import DuplicateLogic.Toml.Reader

/-! # Settings files

Settings stand in the table `dupscan` of a TOML document. Keys that mean nothing are passed over;
a known key with a value of another type spoils the file. The table may also be written as an
array of its three values in order. -/

namespace DuplicateLogic

open Toml

namespace Settings

/-- The text of an item that is one. -/
def text? : Item → Option String
  | .string value => some value
  | _ => none

/-- The texts of an item that is an array of them. -/
def texts? : Item → Option (List String)
  | .array items => items.mapM text?
  | _ => none

/-- The entries of an item that is a table. -/
def entries? : Item → Option Entries
  | .table _ entries => some entries
  | _ => none

/-- The globs of an item that is a table of arrays of texts. -/
def globs? (item : Item) : Option (List (String × List String)) := do
  let entries ← entries? item
  entries.mapM fun (glob, ids) => (texts? ids).map fun ids => (glob, ids)

/-- A key that may be absent, read when it is there. -/
def optional {α : Type} (read : Item → Option α) : Option Item → Option (Option α)
  | none => some none
  | some item => (read item).map some

/-- The settings in the entries of their table. The two spellings of the key for single files
exclude each other. -/
def ofEntries? (entries : Entries) : Option Settings := do
  let ignore? ← optional texts? (entries.get? "ignore")
  let excludeFolders? ← optional texts? (entries.get? "exclude_folders")
  let perFileIgnores? ←
    match entries.get? "per_file_ignores", entries.get? "per-file-ignores" with
    | some _, some _ => none
    | some item, none => optional globs? (some item)
    | none, item? => optional globs? item?
  return { ignore? := ignore?, perFileIgnores? := perFileIgnores?
           excludeFolders? := excludeFolders? }

/-- The settings in the values of their table. -/
def ofItems? : List Item → Option Settings
  | ignore :: perFileIgnores :: excludeFolders :: _ => do
      let ignore ← texts? ignore
      let perFileIgnores ← globs? perFileIgnores
      let excludeFolders ← texts? excludeFolders
      return { ignore? := some ignore, perFileIgnores? := some perFileIgnores
               excludeFolders? := some excludeFolders }
  | _ => none

/-- The settings in a document. -/
def ofDocument? (entries : Entries) : Option Settings :=
  match entries.get? "dupscan" with
  | none => some {}
  | some (.table _ table) => ofEntries? table
  | some (.array items) => ofItems? items
  | some (.tables rows) => ofItems? (rows.map (.table .header))
  | some _ => none

/-- The settings in the text of a file; nothing when it cannot be understood. -/
def parse? (text : String) : Option Settings :=
  (Toml.parse? text).bind ofDocument?

end Settings

end DuplicateLogic
