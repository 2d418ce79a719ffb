import DuplicateLogic.CommandLine.Arguments
import DuplicateLogic.Files.SettingsFile
import DuplicateLogic.Report.Json
import DuplicateLogic.Report.Text

/-! # Running the program

A run reads the command line and the settings, analyses the paths and writes the report. It ends
with zero when there is nothing to report, with one when there are findings and with two when
nothing could be analysed. It fails when the report cannot be written in its format; what it is
written to takes everything. -/

namespace DuplicateLogic

open CommandLine

/-- Why a report cannot be written. -/
inductive ReportError where
  | pathNotText
  deriving DecidableEq, Repr

/-- The message for a report that cannot be written. -/
def ReportError.message : ReportError → String
  | pathNotText => "path contains invalid UTF-8 characters"

/-- How a run ends: with a code when everything is written, or with a report that cannot be
written. Of that report the part before the cause is written as well, which is left out here. -/
inductive Outcome where
  | ended (code : Nat) (output : String)
  | failed (cause : ReportError)
  deriving DecidableEq, Repr

namespace Outcome

/-- The code that a run ends with, if it does not fail. -/
def code? : Outcome → Option Nat
  | ended code _ => some code
  | failed _ => none

/-- The code that the command ends with. -/
def code (outcome : Outcome) : Nat :=
  outcome.code?.getD 1

/-- The report that is written, if it is written whole. -/
def output : Outcome → String
  | ended _ output => output
  | failed _ => ""

end Outcome

/-- The settings of a run: those of the settings file with those of the command line added. -/
def runSettings (system : FileSystem) (arguments : Arguments) :
    Except SettingsError Settings := do
  let settings ←
    match arguments.config? with
    | some file => system.loadSettings file
    | none => .ok (system.discoverSettings (arguments.paths.head?.getD ⟨"."⟩))
  return { settings with
    ignore? :=
      if arguments.ignore.isEmpty then settings.ignore?
      else some (settings.ignore?.getD [] ++ arguments.ignore)
    excludeFolders? := some (settings.excludeFolders?.getD [] ++ arguments.excludeFolders) }

/-- The folder that globs are relative to: the first path, or the folder it is in. -/
def analysisRoot (system : FileSystem) (paths : List Path) : Path :=
  match paths.head? with
  | none => ⟨"."⟩
  | some first =>
      if system.isFolder first then
        first
      else
        match first.parent? with
        | some parent => if parent.raw.bytes.isEmpty then ⟨"."⟩ else parent
        | none => ⟨"."⟩

/-- The analysis that a command line asks for. -/
def runAnalysis (system : FileSystem) (arguments : Arguments) (settings : Settings) : Analysis :=
  let analyzer := (Analyzer.default.withRoot (analysisRoot system arguments.paths)).withSettings
    settings
  analyzer.analyzePaths system arguments.paths

/-- How a run ends. -/
def exitCode (arguments : Arguments) (result : Analysis) : Nat :=
  if result.allInputsFailed then 2
  else if result.findings.isEmpty || arguments.exitZero then 0
  else 1

/-- The report in the format that was asked for. A path that is no text can be shown in a table,
but it has no JSON form. -/
def reportFor (color : Bool) (format : Format) (result : Analysis) : Except ReportError String :=
  match format with
  | .text => .ok (Report.reportText color result)
  | .json => if result.hasTextPaths then .ok (Report.jsonText result) else .error .pathNotText

/-- Runs the program on a command line. -/
def run (system : FileSystem) (color : Bool) (arguments : List String) : Outcome :=
  match Arguments.parse arguments with
  | .error (.showHelp long) => .ended 0 (helpText long)
  | .error .showVersion => .ended 0 versionText
  | .error _ => .ended 2 ""
  | .ok arguments =>
      match runSettings system arguments with
      | .error _ => .ended 2 ""
      | .ok settings =>
          let result := runAnalysis system arguments settings
          match reportFor color arguments.format result with
          | .ok report => .ended (exitCode arguments result) report
          | .error cause => .failed cause

end DuplicateLogic
