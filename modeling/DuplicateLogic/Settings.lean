import DuplicateLogic.Path

/-! # Settings

What a project configures: rules that are off everywhere, rules that are off in some files, and
folders that are not searched. Each list may be absent. -/

namespace DuplicateLogic

/-- The settings of a project. -/
structure Settings where
  /-- Rules that are off everywhere. -/
  ignore? : Option (List String) := none
  /-- Globs with the rules that are off in the files they match. -/
  perFileIgnores? : Option (List (String × List String)) := none
  /-- Folders that are not searched. -/
  excludeFolders? : Option (List String) := none
  /-- The file the settings were read from. -/
  source? : Option Path := none
  deriving DecidableEq, Repr

namespace Settings

/-- Whether a rule is off everywhere. Blanks around a listed rule do not count. -/
def isDisabled (settings : Settings) (rule : String) : Bool :=
  (settings.ignore?.getD []).any fun entry => Text.trim entry == rule

end Settings

end DuplicateLogic
