/-! # Options of the command line

Every option has a name, possibly a value, and a description for the help text. -/

namespace DuplicateLogic.CommandLine

/-- How results are written. -/
inductive Format where
  | text
  | json
  deriving DecidableEq, Repr

/-- How much is logged. -/
inductive LogLevel where
  | trace
  | debug
  | info
  | warn
  | error
  deriving DecidableEq, Repr

/-- What can be given on the command line. -/
inductive Slot where
  | paths
  | format
  | config
  | ignore
  | excludeFolder
  | exitZero
  | logLevel
  | help
  | version
  deriving DecidableEq, Repr

namespace Format

/-- The word for a format. -/
def word : Format → String
  | text => "text"
  | json => "json"

/-- What a format is for. -/
def description : Format → String
  | text => "Standard plain text table"
  | json => "Raw JSON format"

/-- Every format once. -/
def all : List Format :=
  [.text, .json]

/-- The format with a word. -/
def ofWord? (word : String) : Option Format :=
  all.find? fun format => format.word == word

end Format

namespace LogLevel

/-- The word for a level. -/
def word : LogLevel → String
  | trace => "trace"
  | debug => "debug"
  | info => "info"
  | warn => "warn"
  | error => "error"

/-- What a level shows. -/
def description : LogLevel → String
  | trace => "Everything, including per-walk details"
  | debug => "Per-file progress"
  | info => "Run summary"
  | warn => "Skipped inputs and ignored settings"
  | error => "Errors only"

/-- Every level once. -/
def all : List LogLevel :=
  [.trace, .debug, .info, .warn, .error]

/-- The level with a word. -/
def ofWord? (word : String) : Option LogLevel :=
  all.find? fun level => level.word == word

end LogLevel

namespace Slot

/-- The options in the order of the help text. -/
def options : List Slot :=
  [.format, .config, .ignore, .excludeFolder, .exitZero, .logLevel, .help, .version]

/-- The long name of an option. -/
def long : Slot → String
  | paths => ""
  | format => "format"
  | config => "config"
  | ignore => "ignore"
  | excludeFolder => "exclude-folder"
  | exitZero => "exit-zero"
  | logLevel => "log-level"
  | help => "help"
  | version => "version"

/-- The one-letter name of an option. -/
def short? : Slot → Option Char
  | help => some 'h'
  | version => some 'V'
  | _ => none

/-- The name of the value of an option that takes one. -/
def valueName? : Slot → Option String
  | format => some "FORMAT"
  | config => some "CONFIG"
  | ignore => some "RULE_ID"
  | excludeFolder => some "EXCLUDE_FOLDERS"
  | logLevel => some "LOG_LEVEL"
  | _ => none

/-- How messages name an argument. -/
def label (slot : Slot) : String :=
  match slot, slot.valueName? with
  | paths, _ => "[PATHS]..."
  | _, some value => "--" ++ slot.long ++ " <" ++ value ++ ">"
  | _, none => "--" ++ slot.long

/-- The option with a long name. One option has a second name. -/
def ofLong? (name : String) : Option Slot :=
  if name = "exclude-folders" then some .excludeFolder
  else options.find? fun slot => slot.long == name

/-- The option with a one-letter name. -/
def ofShort? (letter : Char) : Option Slot :=
  options.find? fun slot => slot.short? == some letter

/-- What an argument is for. -/
def description : Slot → String
  | paths => "Tree files (`*.tree.json`) or directories to analyze. When no paths are " ++
      "provided, defaults to the current directory"
  | format => "Output format"
  | config => "Explicit configuration file (skips `.dupscan.toml` discovery)"
  | ignore => "Rule IDs to disable, in addition to the config `ignore` list"
  | excludeFolder => "Folders to exclude from analysis"
  | exitZero => "Always exit with code 0 when analysis completes, even with findings"
  | logLevel => "Log level for diagnostics on stderr (`RUST_LOG` takes precedence)"
  | help => "Print help"
  | version => "Print version"

/-- The words an option chooses between, with what they mean. -/
def choices : Slot → List (String × String)
  | format => Format.all.map fun format => (format.word, format.description)
  | logLevel => LogLevel.all.map fun level => (level.word, level.description)
  | _ => []

/-- The value of an argument that is not given. -/
def default? : Slot → Option String
  | paths => some "."
  | format => some "text"
  | logLevel => some "warn"
  | _ => none

end Slot

end DuplicateLogic.CommandLine
