import DuplicateLogic.Files.Tree
import DuplicateLogic.Toml.Settings

/-! # Finding settings

Settings are read from the nearest settings file that can be understood, in the folder of a path
or in one above it. Nothing else about the file system matters. -/

namespace DuplicateLogic

/-- The name of a settings file. -/
def settingsFileName : Path :=
  ⟨".dupscan.toml"⟩

/-- Why settings could not be loaded from a file. -/
inductive SettingsError where
  | unreadable (file : Path)
  | malformed (file : Path)
  deriving DecidableEq, Repr

/-- The message for settings that could not be loaded. -/
def SettingsError.message : SettingsError → String
  | unreadable file => "Failed to read config " ++ file.text
  | malformed file => "Failed to parse config " ++ file.text

/-- A path and the paths above it, as they are spelled. -/
def Path.ancestorsFrom : Nat → Path → List Path
  | 0, path => [path]
  | fuel + 1, path =>
      path :: match path.parent? with
        | some parent => ancestorsFrom fuel parent
        | none => []

/-- A path and the paths above it. Each step drops a byte at least. -/
def Path.ancestors (path : Path) : List Path :=
  ancestorsFrom path.raw.bytes.length path

namespace FileSystem

/-- The settings in a file. -/
def loadSettings (system : FileSystem) (file : Path) : Except SettingsError Settings :=
  match system.readText file with
  | .error _ => .error (.unreadable file)
  | .ok text =>
      match Settings.parse? text with
      | some settings => .ok { settings with source? := some file }
      | none => .error (.malformed file)

/-- The settings that apply to a path: those of the nearest settings file that can be loaded. -/
def discoverSettings (system : FileSystem) (path : Path) : Settings :=
  let start := if system.isFile path then path.parent?.getD path else path
  let found? := start.ancestors.findSome? fun folder =>
    (system.loadSettings (folder.join settingsFileName)).toOption
  found?.getD {}

end FileSystem

end DuplicateLogic
