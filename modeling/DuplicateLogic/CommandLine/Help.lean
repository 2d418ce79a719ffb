import DuplicateLogic.CommandLine.Option

/-! # The help text

The short text has a line for every option, the long one a paragraph. Both end with a description
of the settings file and of suppression comments. -/

namespace DuplicateLogic.CommandLine

/-- What the program is for. -/
def about : String :=
  "dupscan - Detects duplicated branches, duplicated conditions and useless self-increments in " ++
    "parsed syntax trees"

/-- The name and version of the program. -/
def versionText : String :=
  "dupscan 0.1.0\n"

/-- How the program is called. -/
def usage : String :=
  "Usage: dupscan [OPTIONS] [PATHS]..."

/-- The description of the settings file and of suppression comments. -/
def settingsHelp : List String :=
  ["CONFIGURATION FILE (.dupscan.toml):",
    "  Create this file in your project root to set defaults.",
    "",
    "  [dupscan]",
    "  # Rule IDs disabled everywhere",
    "  ignore = [\"useless-self-decrement\"]",
    "",
    "  # Path filters",
    "  exclude_folders = [\"generated\", \"fixtures\"]",
    "",
    "  # Per-file rule ignores (glob -> rule IDs)",
    "  per-file-ignores = \x7b \"legacy/*.tree.json\" = [\"duplicated-branches-statement\"] \x7d",
    "",
    "INLINE SUPPRESSION:",
    "  // dupscan-ignore                         silence every rule on the line",
    "  // dupscan-ignore: duplicated-condition   silence only the listed rules"]

/-- The line that names an option. -/
def nameLine (slot : Slot) : String :=
  match slot.short? with
  | some letter => "  -" ++ String.singleton letter ++ ", " ++ slot.label
  | none => "      " ++ slot.label

/-- The indentation of descriptions. -/
def margin : String :=
  "          "

/-- What the help option says about itself. -/
def helpNote (long : Bool) : Slot → String
  | .help => if long then " (see a summary with '-h')" else " (see more with '--help')"
  | _ => ""

/-- The default value in brackets. -/
def defaultNote (slot : Slot) : String :=
  match slot.default? with
  | some value => "[default: " ++ value ++ "]"
  | none => ""

/-- The words of an option in brackets. -/
def choicesNote (slot : Slot) : String :=
  "[possible values: " ++ ", ".intercalate (slot.choices.map (·.1)) ++ "]"

/-- The description of an argument with its notes on one line. -/
def shortDescription (slot : Slot) : String :=
  slot.description ++ helpNote false slot ++
    (if slot.default?.isSome then " " ++ defaultNote slot else "") ++
    (if slot.choices.isEmpty then "" else " " ++ choicesNote slot)

/-- The lines for the words of an option, their descriptions aligned. -/
def choiceLines (slot : Slot) : List String :=
  let width := slot.choices.foldl (fun width choice => max width choice.1.length) 0
  slot.choices.map fun (word, meaning) =>
    margin ++ "- " ++ word ++ ":" ++ String.ofList (List.replicate (width - word.length) ' ') ++
      " " ++ meaning

/-- The paragraph of an argument under its name. -/
def longDescription (slot : Slot) : List String :=
  [margin ++ slot.description ++ helpNote true slot] ++
    (if slot.choices.isEmpty then [] else ["", margin ++ "Possible values:"] ++ choiceLines slot) ++
    (if slot.default?.isSome then [margin, margin ++ defaultNote slot] else [])

/-- The lines above the arguments. -/
def headLines : List String :=
  [about, "", usage, "", "Arguments:"]

/-- The help text, long or short. -/
def helpText (long : Bool) : String :=
  let body :=
    if long then
      ["  " ++ Slot.paths.label] ++ longDescription .paths ++ ["", "Options:"] ++
        [""].intercalate (Slot.options.map fun slot => nameLine slot :: longDescription slot)
    else
      ["  " ++ Slot.paths.label ++ "  " ++ shortDescription .paths, "", "Options:"] ++
        Slot.options.flatMap fun slot => [nameLine slot, margin ++ shortDescription slot]
  "\n".intercalate (headLines ++ body ++ [""] ++ settingsHelp) ++ "\n"

end DuplicateLogic.CommandLine
