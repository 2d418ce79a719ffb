import DuplicateLogic.Files.Discovery
import DuplicateLogic.Rules.Enabled
import DuplicateLogic.Rules.Walk
import DuplicateLogic.Suppression
import DuplicateLogic.Syntax.Decode

/-! # Analysing files

An analyser applies the rules to trees and drops the findings of rules that are off: everywhere,
for the file, or on the line of the finding. Files that cannot be read or decoded become parse
errors and do not stop the others. -/

namespace DuplicateLogic

/-- Rules that are off in the files a glob matches. -/
structure FileIgnore where
  glob : Glob
  ids : List String

/-- The rules with their settings. -/
structure Analyzer where
  settings : Settings
  excluded : List String
  root : Path
  fileIgnores : List FileIgnore

/-- Why a tree could not be loaded. -/
inductive TreeError where
  | unreadable (cause : ReadError)
  | undecodable (message : String)
  deriving DecidableEq, Repr

/-- The message for a tree that could not be loaded. -/
def TreeError.message : TreeError → String
  | unreadable cause => "IO error: " ++ cause.message
  | undecodable message => "Invalid syntax tree: " ++ message

/-- The tree that a text is. -/
def Node.decode (text : String) : Except TreeError Node :=
  (Node.parse text).mapError fun fault => .undecodable (fault.message text.toList)

/-- The tree in a file. -/
def FileSystem.loadTree (system : FileSystem) (path : Path) : Except TreeError Node :=
  match system.readText path with
  | .error cause => .error (.unreadable cause)
  | .ok text => Node.decode text

/-- A file that could not be loaded. -/
structure ParseError where
  file : Path
  error : String
  deriving DecidableEq, Repr

/-- What an analysis of several files gives. -/
structure Analysis where
  findings : List Finding
  parseErrors : List ParseError
  filesAnalyzed : Nat
  deriving DecidableEq, Repr

/-- Whether there were files and none of them could be loaded. -/
def Analysis.allInputsFailed (result : Analysis) : Bool :=
  result.filesAnalyzed = 0 && !result.parseErrors.isEmpty

/-- The folders that are not searched unless settings say otherwise. -/
def defaultExcludedFolders : List String :=
  ["node_modules", ".git", "target", "dist", "build", "coverage", ".next"]

/-- The excluded folders with more of them, each once. -/
def addFolders (folders more : List String) : List String :=
  more.foldl (fun folders folder => folders.insert folder) folders

/-- The folders that a user excludes, with or without the usual ones. -/
def excludedFolders (folders : List String) (withDefaults : Bool) : List String :=
  addFolders (if withDefaults then defaultExcludedFolders else []) folders

namespace FileIgnore

/-- The rules that are off in the files of a glob; nothing when the glob is malformed or no rule
is named. -/
def ofEntry? (pattern : String) (ids : List String) : Option FileIgnore := do
  let glob ← Glob.ofPattern? pattern
  let ids := (ids.map Text.trim).filter fun id => !id.isEmpty
  if ids.isEmpty then none else some ⟨glob, ids⟩

end FileIgnore

namespace Analyzer

/-- The analyser without settings. -/
def default : Analyzer :=
  ⟨{}, excludedFolders [] true, ⟨"."⟩, []⟩

/-- The analyser that takes paths relative to another folder. -/
def withRoot (analyzer : Analyzer) (root : Path) : Analyzer :=
  { analyzer with root := root }

/-- The analyser with more folders excluded. -/
def withExcludes (analyzer : Analyzer) (folders : List String) : Analyzer :=
  { analyzer with excluded := addFolders analyzer.excluded folders }

/-- The analyser with settings. -/
def withSettings (analyzer : Analyzer) (settings : Settings) : Analyzer :=
  { analyzer with
    settings := settings
    excluded := addFolders analyzer.excluded (settings.excludeFolders?.getD [])
    fileIgnores := (settings.perFileIgnores?.getD []).filterMap fun (pattern, ids) =>
      FileIgnore.ofEntry? pattern ids }

/-- A path relative to the root of the analyser, as globs see it. -/
def relative (analyzer : Analyzer) (path : Path) : String :=
  ((path.stripPrefix? analyzer.root).getD path).display

/-- Whether a rule is off in a file. -/
def isIgnoredFor (analyzer : Analyzer) (path : Path) (rule : String) : Bool :=
  let id := Text.trim rule
  !id.isEmpty &&
    analyzer.fileIgnores.any fun ignore =>
      ignore.ids.contains id && ignore.glob.isMatch (analyzer.relative path)

/-- Whether a finding is kept: its rule is on everywhere, in the file and on the line. -/
def keeps (analyzer : Analyzer) (silenced : List (Nat × Suppression)) (path : Path)
    (finding : Finding) : Bool :=
  !analyzer.settings.isDisabled finding.rule && !analyzer.isIgnoredFor path finding.rule &&
    !Suppression.isSuppressed silenced finding.start.line finding.rule

/-- The findings in a tree. -/
def analyzeTree (analyzer : Analyzer) (root : Node) (path : Path) : List Finding :=
  let silenced := Suppression.lines root.text
  (walk root (enabledRules analyzer.settings) path analyzer.settings).filter
    (analyzer.keeps silenced path)

/-- The findings in a file, or why it could not be loaded. -/
def analyzeFile (analyzer : Analyzer) (system : FileSystem) (path : Path) :
    Except ParseError (List Finding) :=
  match system.loadTree path with
  | .ok root => .ok (analyzer.analyzeTree root path)
  | .error cause => .error ⟨path, cause.message⟩

/-- The files that paths stand for. -/
def collect (analyzer : Analyzer) (system : FileSystem) (paths : List Path) : List Path :=
  Discovery.collect system analyzer.excluded paths

/-- An analysis with the outcome of one more file. -/
def record (result : Analysis) : Except ParseError (List Finding) → Analysis
  | .ok findings =>
      { result with
        findings := result.findings ++ findings
        filesAnalyzed := result.filesAnalyzed + 1 }
  | .error failure => { result with parseErrors := result.parseErrors ++ [failure] }

/-- Whether a parse error comes before another: by file, then by message. -/
def errorAtMost (first second : ParseError) : Bool :=
  ((compare first.file second.file).then (compare first.error second.error)).isLE

/-- The findings and parse errors of all files that paths stand for, in the order of files. -/
def analyzePaths (analyzer : Analyzer) (system : FileSystem) (paths : List Path) : Analysis :=
  let outcomes := (analyzer.collect system paths).map (analyzer.analyzeFile system)
  let result := outcomes.foldl record ⟨[], [], 0⟩
  { result with
    findings := result.findings.mergeSort fun first second => first.file.atMost second.file
    parseErrors := result.parseErrors.mergeSort errorAtMost }

end Analyzer

end DuplicateLogic
