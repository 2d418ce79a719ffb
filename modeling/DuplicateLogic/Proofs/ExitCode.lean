import DuplicateLogic.Proofs.Analysis
import DuplicateLogic.Proofs.Enabled
import DuplicateLogic.Proofs.RunSettings

/-! # How a run ends

The code of a run is read off the counts of its analysis. It is said here in terms of the files
that were collected and of what is in each of them: two when there are files and none can be
loaded, one when some file has a finding that is kept and the command line does not ask for zero,
and zero otherwise.

A run has a code when its report is written. A table shows every path, but JSON has no place for a
path that is no text: a report as JSON that mentions one is not written, and the run fails. -/

namespace DuplicateLogic

open CommandLine

/-- Whether there are files and none of them can be loaded. -/
def NoneLoads (system : FileSystem) (files : List Path) : Prop :=
  files ≠ [] ∧ ∀ file ∈ files, ∃ cause, system.loadTree file = .error cause

namespace Analyzer

/-- Whether a file can be loaded and some rule reports something in it that is not off
everywhere, not off in the file and not silenced on its line. -/
def Reports (analyzer : Analyzer) (system : FileSystem) (file : Path) : Prop :=
  ∃ root, system.loadTree file = .ok root ∧
    ∃ finding ∈ walk root duplicateRules file analyzer.settings,
      (∀ entry ∈ analyzer.settings.ignore?.getD [], Text.trim entry ≠ finding.rule) ∧
      analyzer.isIgnoredFor file finding.rule = false ∧
      Suppression.isSuppressed (Suppression.lines root.text) finding.start.line finding.rule = false

/-- Whether a report says something about a file: a finding, or that it cannot be loaded. -/
def Mentions (analyzer : Analyzer) (system : FileSystem) (file : Path) : Prop :=
  analyzer.Reports system file ∨ ∃ cause, system.loadTree file = .error cause

section PerFile

variable {analyzer : Analyzer} {system : FileSystem} {files : List Path} {file : Path}

theorem loads_eq_false_iff :
    loads system file = false ↔ ∃ cause, system.loadTree file = .error cause := by
  rw [loads, errorIn?]
  cases system.loadTree file <;> simp

theorem findingsIn_ne_nil_iff :
    analyzer.findingsIn system file ≠ [] ↔ analyzer.Reports system file := by
  rw [findingsIn, Reports]
  cases system.loadTree file with
  | error cause => simp
  | ok root =>
      have kept (finding : Finding) :
          analyzer.keeps (Suppression.lines root.text) file finding = true ↔
            (∀ entry ∈ analyzer.settings.ignore?.getD [], Text.trim entry ≠ finding.rule) ∧
            analyzer.isIgnoredFor file finding.rule = false ∧
            Suppression.isSuppressed (Suppression.lines root.text) finding.start.line
              finding.rule = false := by
        simp only [keeps, Settings.not_isDisabled, Bool.and_eq_true, decide_eq_true_iff,
          Bool.not_eq_true', and_assoc]
      simp only [analyzeTree_eq_filter_keeps, ne_eq, List.filter_eq_nil_iff, kept,
        Except.ok.injEq, exists_eq_left', not_forall, not_not, exists_prop]

/-- The inputs of an analysis have failed when there are files and none of them loads. -/
theorem allInputsFailed_iff (analyzer : Analyzer) (system : FileSystem) (paths : List Path) :
    (analyzer.analyzePaths system paths).allInputsFailed = true ↔
      NoneLoads system (analyzer.collect system paths) := by
  have counted := length_filterMap_errorIn? system (analyzer.collect system paths)
  rw [analyzePaths_eq, NoneLoads]
  simp only [Analysis.allInputsFailed, Bool.and_eq_true, decide_eq_true_iff, Bool.not_eq_true',
    ← loads_eq_false_iff]
  generalize analyzer.collect system paths = files at counted ⊢
  have none : files.countP (loads system) = 0 ↔ ∀ file ∈ files, loads system file = false := by
    simp [List.countP_eq_zero]
  rw [none, and_comm]
  refine and_congr_left fun failed => ?_
  rw [none.mpr failed, Nat.zero_add] at counted
  rw [← List.length_pos_iff, ← counted, List.length_pos_iff, List.isEmpty_eq_false_iff]

/-- An analysis has findings when something is reported of one of its files. -/
theorem findings_isEmpty_eq_false_iff (analyzer : Analyzer) (system : FileSystem)
    (paths : List Path) :
    (analyzer.analyzePaths system paths).findings.isEmpty = false ↔
      ∃ file ∈ analyzer.collect system paths, analyzer.Reports system file := by
  simp only [analyzePaths_eq, List.isEmpty_eq_false_iff, ne_eq, List.flatMap_eq_nil_iff,
    not_forall, exists_prop, ← findingsIn_ne_nil_iff]

/-- The findings in a file have its path. -/
theorem findingsIn_isText_iff :
    (∀ finding ∈ analyzer.findingsIn system file, finding.file.raw.isText = true) ↔
      (analyzer.Reports system file → file.raw.isText = true) := by
  rw [← findingsIn_ne_nil_iff]
  constructor
  · intro each some
    obtain ⟨finding, found⟩ := List.exists_mem_of_ne_nil _ some
    exact file_of_mem_findingsIn found ▸ each finding found
  · intro text finding found
    rw [file_of_mem_findingsIn found]
    exact text (List.ne_nil_of_mem found)

/-- The parse error of a file has its path. -/
theorem errorIn?_isText_iff :
    (∀ failure, errorIn? system file = some failure → failure.file.raw.isText = true) ↔
      ((∃ cause, system.loadTree file = .error cause) → file.raw.isText = true) := by
  rw [← loads_eq_false_iff, loads, Option.isNone_eq_false_iff, Option.isSome_iff_exists]
  constructor
  · rintro each ⟨failure, failed⟩
    exact file_of_errorIn? failed ▸ each failure failed
  · intro text failure failed
    rw [file_of_errorIn? failed]
    exact text ⟨failure, failed⟩

/-- The paths in an analysis are those of the files that it says something about. -/
theorem hasTextPaths_iff (analyzer : Analyzer) (system : FileSystem) (paths : List Path) :
    (analyzer.analyzePaths system paths).hasTextPaths = true ↔
      ∀ file ∈ analyzer.collect system paths, analyzer.Mentions system file →
        file.raw.isText = true := by
  simp only [Analysis.hasTextPaths, analyzePaths_eq, Bool.and_eq_true, List.all_eq_true,
    List.mem_flatMap, List.mem_filterMap]
  constructor
  · rintro ⟨findings, errors⟩ file known (reported | failed)
    · exact findingsIn_isText_iff.mp
        (fun finding found => findings finding ⟨file, known, found⟩) reported
    · exact errorIn?_isText_iff.mp
        (fun failure found => errors failure ⟨file, known, found⟩) failed
  · intro each
    constructor
    · rintro finding ⟨file, known, found⟩
      exact findingsIn_isText_iff.mpr (fun reported => each file known (Or.inl reported))
        finding found
    · rintro failure ⟨file, known, found⟩
      exact errorIn?_isText_iff.mpr (fun failed => each file known (Or.inr failed))
        failure found

end PerFile

end Analyzer

section Codes

variable (arguments : Arguments) (result : Analysis)

theorem exitCode_eq_two_iff : exitCode arguments result = 2 ↔ result.allInputsFailed = true := by
  unfold exitCode
  split
  · simp [*]
  · split <;> simp [*]

theorem exitCode_eq_one_iff :
    exitCode arguments result = 1 ↔ ¬result.allInputsFailed = true ∧
      arguments.exitZero = false ∧ result.findings.isEmpty = false := by
  unfold exitCode
  split
  next failed => simp [failed]
  next analysed =>
    split
    next quiet =>
      rw [Bool.or_eq_true] at quiet
      rcases quiet with none | zero
      · simp [none]
      · simp [zero]
    next loud =>
      rw [Bool.or_eq_true, not_or, Bool.not_eq_true, Bool.not_eq_true] at loud
      simp [analysed, loud]

theorem exitCode_le_two : exitCode arguments result ≤ 2 := by
  unfold exitCode
  split
  · exact Nat.le_refl 2
  · split <;> decide

end Codes

section Run

variable (system : FileSystem) (arguments : Arguments) (settings : Settings)

/-- The code of an analysis, in terms of its files. -/
theorem exitCode_runAnalysis_cases :
    let analyzer := runAnalyzer system arguments settings
    let files := analyzer.collect system arguments.paths
    let code := exitCode arguments (runAnalysis system arguments settings)
    (code = 2 ↔ NoneLoads system files) ∧
    (code = 1 ↔ ¬NoneLoads system files ∧ arguments.exitZero = false ∧
      ∃ file ∈ files, analyzer.Reports system file) ∧
    (code = 0 ↔ ¬NoneLoads system files ∧
      ¬(arguments.exitZero = false ∧ ∃ file ∈ files, analyzer.Reports system file)) := by
  intro analyzer files code
  have two : code = 2 ↔ NoneLoads system files := by
    rw [exitCode_eq_two_iff]
    exact Analyzer.allInputsFailed_iff analyzer system arguments.paths
  have one : code = 1 ↔ ¬NoneLoads system files ∧ arguments.exitZero = false ∧
      ∃ file ∈ files, analyzer.Reports system file := by
    rw [exitCode_eq_one_iff, runAnalysis_eq, Analyzer.allInputsFailed_iff,
      Analyzer.findings_isEmpty_eq_false_iff]
  refine ⟨two, one, ?_⟩
  have bound : code ≤ 2 := exitCode_le_two arguments _
  have zero : code = 0 ↔ ¬code = 2 ∧ ¬code = 1 := by omega
  rw [zero, two, one]
  exact and_congr_right fun analysed => not_congr (and_iff_right analysed)

variable {system arguments settings}

/-- A run that analyses something has the code of its analysis, unless a path cannot be written. -/
theorem code?_run {words : List String} (parsed : Arguments.parse words = .ok arguments)
    (loaded : runSettings system arguments = .ok settings) (color : Bool) :
    (run system color words).code? =
      if arguments.format = .json ∧
          (runAnalysis system arguments settings).hasTextPaths = false then none
      else some (exitCode arguments (runAnalysis system arguments settings)) := by
  simp only [run, parsed, loaded, reportFor]
  cases arguments.format with
  | text => simp [Outcome.code?]
  | json =>
      cases (runAnalysis system arguments settings).hasTextPaths <;> simp [Outcome.code?]

end Run

/-- A run that analyses something has no code exactly when its report is JSON and mentions a file
whose path is no text: then it fails. The code is two when there are files and none of them can be
loaded; otherwise one when something is reported of a file and zero was not asked for; otherwise
zero. Two formats of the report that both can be written give the same code. -/
theorem run_exitCode (system : FileSystem) (color : Bool) (words : List String)
    (arguments : Arguments) (settings : Settings)
    (parsed : Arguments.parse words = .ok arguments)
    (loaded : runSettings system arguments = .ok settings) :
    let analyzer := runAnalyzer system arguments settings
    let files := analyzer.collect system arguments.paths
    let code? := (run system color words).code?
    (code? = none ↔ arguments.format = .json ∧
      ∃ file ∈ files, analyzer.Mentions system file ∧ file.raw.isText = false) ∧
    (∀ code, code? = some code →
      (code = 2 ↔ NoneLoads system files) ∧
      (code = 1 ↔ ¬NoneLoads system files ∧ arguments.exitZero = false ∧
        ∃ file ∈ files, analyzer.Reports system file) ∧
      (code = 0 ↔ ¬NoneLoads system files ∧
        ¬(arguments.exitZero = false ∧ ∃ file ∈ files, analyzer.Reports system file))) ∧
    ∀ (otherColor : Bool) (otherWords : List String) (format : Format),
      Arguments.parse otherWords = .ok { arguments with format := format } →
        ∀ code otherCode, code? = some code →
          (run system otherColor otherWords).code? = some otherCode → otherCode = code := by
  intro analyzer files code?
  have written : code? = _ := code?_run parsed loaded color
  have odd : (runAnalysis system arguments settings).hasTextPaths = false ↔
      ∃ file ∈ files, analyzer.Mentions system file ∧ file.raw.isText = false := by
    rw [← Bool.not_eq_true, runAnalysis_eq, Analyzer.hasTextPaths_iff]
    simp [files, analyzer]
  have coded {code : Nat} (ends : code? = some code) :
      code = exitCode arguments (runAnalysis system arguments settings) := by
    rw [written] at ends
    split at ends
    · cases ends
    · exact (Option.some.inj ends).symm
  refine ⟨?_, ?_, ?_⟩
  · rw [written, ← odd]
    simp
  · intro code ends
    rw [coded ends]
    exact exitCode_runAnalysis_cases system arguments settings
  · intro otherColor otherWords format otherParsed code otherCode ends otherEnds
    have otherLoaded : runSettings system { arguments with format := format } = .ok settings :=
      loaded
    rw [code?_run otherParsed otherLoaded otherColor] at otherEnds
    split at otherEnds
    · cases otherEnds
    · rw [coded ends]
      exact (Option.some.inj otherEnds).symm

/-- A folder with one file, in which something is reported. -/
def reportedFile : FileSystem :=
  ⟨.folder [("a.tree.json", sameArmsFile)], []⟩

/-- The run ends with one, whatever the format of the report. -/
theorem run_exitCode_reportedFile :
    let arguments : Arguments := ⟨[⟨"a.tree.json"⟩], .text, none, [], [], false, .warn⟩
    let settings : Settings := { excludeFolders? := some [] }
    let analyzer := runAnalyzer reportedFile arguments settings
    let files := analyzer.collect reportedFile arguments.paths
    Arguments.parse ["a.tree.json"] = .ok arguments ∧
      runSettings reportedFile arguments = .ok settings ∧
      ¬NoneLoads reportedFile files ∧ (∃ file ∈ files, analyzer.Reports reportedFile file) ∧
      (run reportedFile false ["--format=json", "a.tree.json"]).code? = some 1 := by
  intro arguments settings analyzer files
  have parsed : Arguments.parse ["a.tree.json"] = .ok arguments := rfl
  have loaded : runSettings reportedFile arguments = .ok settings := by decide +kernel
  have ends : (run reportedFile false ["a.tree.json"]).code? = some 1 := by decide +kernel
  obtain ⟨-, coded, anyFormat⟩ :=
    run_exitCode reportedFile false ["a.tree.json"] arguments settings parsed loaded
  obtain ⟨-, one, -⟩ := coded 1 ends
  obtain ⟨analysed, -, reported⟩ := one.mp rfl
  have json : Arguments.parse ["--format=json", "a.tree.json"] =
      .ok { arguments with format := .json } := rfl
  have text : (run reportedFile false ["--format=json", "a.tree.json"]).code?.isSome = true := by
    decide +kernel
  obtain ⟨code, written⟩ := Option.isSome_iff_exists.mp text
  rw [anyFormat false _ .json json 1 code ends written] at written
  exact ⟨parsed, loaded, analysed, reported, written⟩

/-- The same file in a folder whose name is the byte 255, which is no text. -/
def oddFolder : FileSystem :=
  ⟨.folder [(⟨[255]⟩, .folder [("a.tree.json", sameArmsFile)])], []⟩

/-- Something is reported of the file in it, so with a table the run ends with one, but as JSON the
report is not written and the run has no code. -/
theorem run_oddFolder :
    let arguments : Arguments := ⟨[⟨"."⟩], .text, none, [], [], false, .warn⟩
    let settings : Settings := { excludeFolders? := some [] }
    let analyzer := runAnalyzer oddFolder arguments settings
    let files := analyzer.collect oddFolder arguments.paths
    Arguments.parse [] = .ok arguments ∧
      Arguments.parse ["--format=json"] = .ok { arguments with format := .json } ∧
      runSettings oddFolder arguments = .ok settings ∧
      ¬NoneLoads oddFolder files ∧ (∃ file ∈ files, analyzer.Reports oddFolder file) ∧
      (run oddFolder false []).code? = some 1 ∧
      (run oddFolder false ["--format=json"]).code? = none := by
  intro arguments settings analyzer files
  have parsed : Arguments.parse [] = .ok arguments := rfl
  have json : Arguments.parse ["--format=json"] = .ok { arguments with format := .json } := rfl
  have loaded : runSettings oddFolder arguments = .ok settings := by decide +kernel
  obtain ⟨ends, odd⟩ : exitCode arguments (runAnalysis oddFolder arguments settings) = 1 ∧
      (runAnalysis oddFolder arguments settings).hasTextPaths = false := by
    decide +kernel
  obtain ⟨-, one, -⟩ := exitCode_runAnalysis_cases oddFolder arguments settings
  obtain ⟨analysed, -, reported⟩ := one.mp ends
  refine ⟨parsed, json, loaded, analysed, reported, ?_, ?_⟩
  · rw [code?_run parsed loaded, ends]
    exact if_neg fun unwritten => nomatch unwritten.1
  · rw [code?_run json loaded]
    exact if_pos ⟨rfl, odd⟩

end DuplicateLogic
