import DuplicateLogic.CommandLine.Help
import DuplicateLogic.Path

/-! # Reading the command line

Arguments are read from left to right. What an argument says takes effect when the next one that
is known begins, or at the end; an argument that is not known is noticed at once. Paths that
follow one another are one argument. -/

namespace DuplicateLogic.CommandLine

/-- What the command line asks for. -/
structure Arguments where
  paths : List Path
  format : Format
  config? : Option Path
  ignore : List String
  excludeFolders : List String
  exitZero : Bool
  logLevel : LogLevel

/-- Why the command line does not ask for an analysis. -/
inductive Stop where
  | unknown (argument : String)
  | missingValue (slot : Slot)
  | invalidValue (value : String) (slot : Slot)
  | repeated (slot : Slot)
  | unwantedValue (value : String) (slot : Slot)
  | showHelp (long : Bool)
  | showVersion
  deriving DecidableEq, Repr

/-- The text for a command line that does not ask for an analysis. -/
def Stop.text : Stop → String
  | unknown argument => "error: unexpected argument '" ++ argument ++ "' found"
  | missingValue slot =>
      "error: a value is required for '" ++ slot.label ++ "' but none was supplied"
  | invalidValue value slot =>
      "error: invalid value '" ++ value ++ "' for '" ++ slot.label ++ "'"
  | repeated slot => "error: the argument '" ++ slot.label ++ "' cannot be used multiple times"
  | unwantedValue value slot =>
      "error: unexpected value '" ++ value ++ "' for '" ++ slot.label ++
        "' found; no more were expected"
  | showHelp long => helpText long
  | showVersion => versionText

/-- The first line of the text. -/
def Stop.headline (stop : Stop) : String :=
  String.ofList ((Text.lines stop.text.toList).headD [])

/-- The arguments that have taken effect, and the one that has not yet with its values so far. -/
structure Progress where
  paths : List String := []
  format? : Option Format := none
  config? : Option String := none
  ignore : List String := []
  excludeFolders : List String := []
  exitZero : Bool := false
  logLevel? : Option LogLevel := none
  pending? : Option (Slot × List String) := none

namespace Progress

/-- Lets an argument with its value take effect. -/
def take (progress : Progress) (slot : Slot) (value : String) : Except Stop Progress :=
  match slot with
  | .paths =>
      if value.isEmpty then .error (.missingValue slot)
      else .ok { progress with paths := progress.paths ++ [value] }
  | .format =>
      if progress.format?.isSome then .error (.repeated slot)
      else if value.isEmpty then .error (.missingValue slot)
      else
        match Format.ofWord? value with
        | some format => .ok { progress with format? := some format }
        | none => .error (.invalidValue value slot)
  | .config =>
      if progress.config?.isSome then .error (.repeated slot)
      else if value.isEmpty then .error (.missingValue slot)
      else .ok { progress with config? := some value }
  | .ignore => .ok { progress with ignore := progress.ignore ++ [value] }
  | .excludeFolder =>
      .ok { progress with excludeFolders := progress.excludeFolders ++ [value] }
  | .logLevel =>
      if progress.logLevel?.isSome then .error (.repeated slot)
      else if value.isEmpty then .error (.missingValue slot)
      else
        match LogLevel.ofWord? value with
        | some level => .ok { progress with logLevel? := some level }
        | none => .error (.invalidValue value slot)
  | _ => .ok progress

/-- Lets the pending argument take effect. -/
def settle (progress : Progress) : Except Stop Progress :=
  match progress.pending? with
  | none => .ok progress
  | some (slot, []) => .error (.missingValue slot)
  | some (slot, values) =>
      values.foldlM (fun progress value => progress.take slot value)
        { progress with pending? := none }

/-- Meets an option without a value. -/
def meetFlag (progress : Progress) (slot : Slot) (long : Bool) : Except Stop Progress := do
  let progress ← progress.settle
  match slot with
  | .help => .error (.showHelp long)
  | .version => .error .showVersion
  | .exitZero =>
      if progress.exitZero then .error (.repeated slot) else .ok { progress with exitZero := true }
  | _ => .ok { progress with pending? := some (slot, []) }

/-- Meets a cluster of one-letter options. -/
def meetLetters (progress : Progress) : List Char → Except Stop Progress
  | [] => .ok progress
  | letter :: rest =>
      match Slot.ofShort? letter with
      | none => .error (.unknown ("-" ++ String.singleton letter))
      | some slot => (progress.meetFlag slot false).bind fun progress => progress.meetLetters rest

/-- Meets a long option, with the value after its equals sign. -/
def meetLong (progress : Progress) (name : String) (value? : Option String) :
    Except Stop Progress :=
  match Slot.ofLong? name, value? with
  | none, _ => .error (.unknown ("--" ++ name))
  | some slot, none => progress.meetFlag slot true
  | some slot, some value =>
      if slot.valueName?.isSome then
        progress.settle.bind fun progress => progress.take slot value
      else
        .error (.unwantedValue value slot)

/-- Meets a path, which joins the paths just before it. -/
def meetPath (progress : Progress) (word : String) : Except Stop Progress :=
  match progress.pending? with
  | some (.paths, words) => .ok { progress with pending? := some (.paths, words ++ [word]) }
  | _ => progress.settle.map fun progress => { progress with pending? := some (.paths, [word]) }

/-- Meets a plain word: the value that an option waits for, or a path. -/
def meetWord (progress : Progress) (word : String) : Except Stop Progress :=
  match progress.pending? with
  | some (slot, []) => .ok { progress with pending? := some (slot, [word]) }
  | _ => progress.meetPath word

/-- The name and the value of a long option. -/
def splitLong (text : List Char) : String × Option String :=
  let name := text.takeWhile (· ≠ '=')
  match text.dropWhile (· ≠ '=') with
  | _ :: value => (String.ofList name, some (String.ofList value))
  | [] => (String.ofList name, none)

/-- Meets one argument after the other; the flag says whether the options have ended. -/
def meetAll (progress : Progress) (ended : Bool) : List String → Except Stop Progress
  | [] => progress.settle
  | argument :: rest =>
      if ended then
        (progress.meetPath argument).bind fun progress => progress.meetAll true rest
      else
        match argument.toList with
        | ['-', '-'] => progress.meetAll true rest
        | '-' :: '-' :: text =>
            let (name, value?) := splitLong text
            (progress.meetLong name value?).bind fun progress => progress.meetAll false rest
        | '-' :: letter :: letters =>
            (progress.meetLetters (letter :: letters)).bind fun progress =>
              progress.meetAll false rest
        | _ => (progress.meetWord argument).bind fun progress => progress.meetAll false rest

/-- The arguments with their defaults. -/
def finish (progress : Progress) : Arguments where
  paths := (if progress.paths.isEmpty then ["."] else progress.paths).map Path.mk
  format := progress.format?.getD .text
  config? := progress.config?.map Path.mk
  ignore := progress.ignore
  excludeFolders := progress.excludeFolders
  exitZero := progress.exitZero
  logLevel := progress.logLevel?.getD .warn

end Progress

/-- What a command line asks for, or why it asks for nothing. -/
def Arguments.parse (arguments : List String) : Except Stop Arguments :=
  (Progress.meetAll {} false arguments).map Progress.finish

end DuplicateLogic.CommandLine
