import DuplicateLogic.Analyzer
import DuplicateLogic.Proofs.Anchors
import DuplicateLogic.Proofs.FileOrder

/-! # Analysing several files

The analysis of several files puts together what each file gives on its own, in the order of the
files. The findings and the parse errors are in order already when they are sorted, because the
files are and because every finding and every error names its file. -/

namespace DuplicateLogic

namespace Analyzer

section Outcomes

variable (analyzer : Analyzer) (system : FileSystem)

/-- The findings in a file that can be loaded; none in any other. -/
def findingsIn (file : Path) : List Finding :=
  match system.loadTree file with
  | .ok root => analyzer.analyzeTree root file
  | .error _ => []

/-- The parse error of a file that cannot be loaded. -/
def errorIn? (system : FileSystem) (file : Path) : Option ParseError :=
  match system.loadTree file with
  | .ok _ => none
  | .error cause => some ⟨file, cause.message⟩

/-- Whether a file can be loaded. -/
def loads (system : FileSystem) (file : Path) : Bool :=
  (errorIn? system file).isNone

/-- Each file adds its findings and its error, and counts when it has none. -/
theorem foldl_record (files : List Path) (result : Analysis) :
    (files.map (analyzer.analyzeFile system)).foldl record result =
      ⟨result.findings ++ files.flatMap (analyzer.findingsIn system),
        result.parseErrors ++ files.filterMap (errorIn? system),
        result.filesAnalyzed + files.countP (loads system)⟩ := by
  induction files generalizing result with
  | nil => simp
  | cons file rest ih =>
      rw [List.map_cons, List.foldl_cons, ih]
      cases loaded : system.loadTree file with
      | ok root =>
          simp [analyzeFile, record, findingsIn, loads, errorIn?, loaded]
          omega
      | error cause => simp [analyzeFile, record, findingsIn, loads, errorIn?, loaded]

theorem length_filterMap_errorIn? (files : List Path) :
    files.countP (loads system) + (files.filterMap (errorIn? system)).length = files.length := by
  induction files with
  | nil => rfl
  | cons file rest ih =>
      rw [List.countP_cons, List.filterMap_cons, List.length_cons, loads]
      cases errorIn? system file with
      | none =>
          simp only [Option.isNone_none, if_true]
          omega
      | some failure =>
          simp only [Option.isNone_some, Bool.false_eq_true, if_false, List.length_cons]
          omega

variable {analyzer system}

/-- The findings in a file are findings of a walk of the tree in it. -/
theorem mem_walk_of_mem_findingsIn {file : Path} {finding : Finding}
    (found : finding ∈ analyzer.findingsIn system file) :
    ∃ root, system.loadTree file = .ok root ∧
      finding ∈ walk root (enabledRules analyzer.settings) file analyzer.settings := by
  unfold findingsIn at found
  split at found
  next root loaded => exact ⟨root, loaded, List.mem_of_mem_filter found⟩
  · cases found

/-- A finding names the file it was found in. -/
theorem file_of_mem_findingsIn {file : Path} {finding : Finding}
    (found : finding ∈ analyzer.findingsIn system file) : finding.file = file := by
  obtain ⟨root, -, reported⟩ := mem_walk_of_mem_findingsIn found
  have used : ∀ rule ∈ enabledRules analyzer.settings, rule ∈ duplicateRules :=
    fun _ known => List.mem_of_mem_filter known
  exact (standsIn_of_mem_walk used reported).file_eq

/-- A parse error names the file that could not be loaded. -/
theorem file_of_errorIn? {file : Path} {failure : ParseError}
    (failed : errorIn? system file = some failure) : failure.file = file := by
  unfold errorIn? at failed
  split at failed
  · cases failed
  · obtain rfl := Option.some.inj failed
    rfl

end Outcomes

section Order

variable {analyzer : Analyzer} {system : FileSystem} {files : List Path}

/-- The findings of ordered files are ordered. -/
theorem findings_sorted (sorted : files.Pairwise Path.before) :
    (files.flatMap (analyzer.findingsIn system)).Pairwise fun first second =>
      first.file.atMost second.file = true := by
  rw [List.pairwise_flatMap]
  constructor
  · intro file _
    apply List.pairwise_of_forall_mem_list
    intro earlier inFirst later inSecond
    rw [file_of_mem_findingsIn inFirst, file_of_mem_findingsIn inSecond]
    exact Path.atMost_refl file
  · apply sorted.imp
    intro first second ordered earlier inFirst later inSecond
    rw [file_of_mem_findingsIn inFirst, file_of_mem_findingsIn inSecond]
    exact Path.atMost_of_before ordered

/-- The errors of ordered files are ordered: no two of them are about the same file. -/
theorem errors_sorted (sorted : files.Pairwise Path.before) :
    (files.filterMap (errorIn? system)).Pairwise fun first second =>
      errorAtMost first second = true := by
  rw [List.pairwise_filterMap]
  apply sorted.imp
  intro first second ordered earlier failedFirst later failedSecond
  rw [errorAtMost, file_of_errorIn? failedFirst, file_of_errorIn? failedSecond,
    show compare first second = .lt from ordered]
  rfl

end Order

/-- The analysis of several files is that of each file on its own, one after the other. -/
theorem analyzePaths_eq (analyzer : Analyzer) (system : FileSystem) (paths : List Path) :
    analyzer.analyzePaths system paths =
      let files := analyzer.collect system paths
      ⟨files.flatMap (analyzer.findingsIn system), files.filterMap (errorIn? system),
        files.countP (loads system)⟩ := by
  have sorted : (analyzer.collect system paths).Pairwise Path.before :=
    Discovery.collect_sorted system analyzer.excluded paths
  simp only [analyzePaths, foldl_record, List.nil_append, Nat.zero_add]
  rw [List.mergeSort_of_pairwise (findings_sorted sorted),
    List.mergeSort_of_pairwise (errors_sorted sorted)]

end Analyzer

/-- The bytes of a file in which there is something to report: a conditional expression with the
same value on both sides. -/
def sameArmsFile : Entry :=
  .file "[\"conditional-expression\",\"\",[1,0],[[\"a\"],[\"b\"],[\"b\"]]]".toUTF8

end DuplicateLogic
