import DuplicateLogic.Proofs.Analysis
import DuplicateLogic.Proofs.FileChange

/-! # File by file

The analysis of several files is the ordered union of the analyses of each of them. Other bytes in
a tree file change what is found in this file and nothing else: the same files are collected, and
what is reported of those that are not this one stays as it was. -/

namespace DuplicateLogic

open RawText (dot)

namespace FileSystem

/-- The names that lead from the root to what a path leads to. -/
def names? (system : FileSystem) (path : Path) : Option (List RawText) :=
  match system.find path with
  | .ok place => some place.names
  | .error _ => none

/-- The file system with other bytes in the file that a path leads to. -/
def rewrite (system : FileSystem) (path : Path) (bytes : ByteArray) : FileSystem :=
  match system.names? path with
  | some names => { system with root := Entry.put (.file bytes) names system.root }
  | none => system

variable {system : FileSystem} {path : Path} {place : Location}

/-- The empty path leads nowhere. -/
theorem solid_of_find (found : system.find path = .ok place) : path.raw.bytes ≠ [] := by
  intro empty
  simp [find, empty] at found

/-- A path leads to a location of its file system. -/
theorem parallel_of_find (found : system.find path = .ok place) :
    Location.Parallel system.root system.root place place := by
  have same : Entry.SameExcept [] system.root system.root := .same system.root
  exact (find_alike same rfl path).parallel_self found

/-- What a path leads to stands at the names of the location. -/
theorem at?_names_of_find (found : system.find path = .ok place) :
    system.root.at? place.names = some place.entry :=
  (parallel_of_find found).at?_names

section Names

variable {part : List UInt8} {parts : List (List UInt8)} {start next last : Location}

private theorem eq_of_follow_idle (idle : Path.isIdle part = true)
    (followed : follow start part = .ok next) : next = start := by
  unfold follow at followed
  split at followed
  · cases followed
  · exact (Except.ok.inj followed).symm

theorem names_of_follow_name (solid : ¬Path.isIdle part = true) (name : part ≠ [dot, dot])
    (followed : follow start part = .ok next) :
    next.names = start.names ++ [⟨part⟩] := by
  unfold follow at followed
  split at followed
  · cases followed
  · cases child : start.entry.child? ⟨part⟩ with
    | none => simp [child] at followed
    | some inner =>
        simp only [child] at followed
        obtain rfl := Except.ok.inj followed
        simp [Location.names]

theorem foldlM_follow_cons (followed : (part :: parts).foldlM follow start = .ok last) :
    ∃ next, follow start part = .ok next ∧ parts.foldlM follow next = .ok last := by
  rw [List.foldlM_cons] at followed
  cases step : follow start part with
  | error cause =>
      rw [step] at followed
      cases followed
  | ok next =>
      rw [step] at followed
      exact ⟨next, rfl, followed⟩

/-- Idle parts lead nowhere else. -/
theorem eq_of_foldlM_follow_idle (idle : ∀ part ∈ parts, Path.isIdle part = true)
    (followed : parts.foldlM follow start = .ok last) : last = start := by
  induction parts generalizing start with
  | nil => exact (Except.ok.inj followed).symm
  | cons part rest ih =>
      obtain ⟨next, step, later⟩ := foldlM_follow_cons followed
      obtain rfl := eq_of_follow_idle (idle part List.mem_cons_self) step
      exact ih (fun part known => idle part (List.mem_cons_of_mem _ known)) later

/-- Parts that end with a name lead into something of this name. -/
private theorem getLast?_names_of_foldlM
    (ends : (parts.filter fun part => !Path.isIdle part).getLast? = some part)
    (name : part ≠ [dot, dot]) (followed : parts.foldlM follow start = .ok last) :
    last.names.getLast? = some ⟨part⟩ := by
  induction parts generalizing start with
  | nil => cases ends
  | cons first rest ih =>
      obtain ⟨next, step, later⟩ := foldlM_follow_cons followed
      rw [List.filter_cons] at ends
      by_cases tail : (rest.filter fun part => !Path.isIdle part) = []
      · have idle : ∀ part ∈ rest, Path.isIdle part = true := by simpa using tail
        obtain rfl := eq_of_foldlM_follow_idle idle later
        by_cases solid : Path.isIdle first = true
        · simp [solid, tail] at ends
        · obtain rfl : first = part := by simpa [solid, tail] using ends
          rw [names_of_follow_name solid name step, List.getLast?_append]
          rfl
      · apply ih ?_ later
        split at ends
        · rwa [List.getLast?_cons_of_ne_nil tail] at ends
        · exact ends

/-- What a path leads to is reached from somewhere by its parts. -/
theorem foldlM_split_of_find {system : FileSystem} {path : Path}
    (found : system.find path = .ok last) :
    ∃ start, path.split.2.foldlM follow start = .ok last := by
  unfold find at found
  unfold Path.split
  split at found
  · cases found
  next rest absolute =>
    rw [absolute]
    exact ⟨system.top, found⟩
  next _ relative =>
    cases working : system.workingPlace with
    | error cause =>
        rw [working] at found
        cases found
    | ok start =>
        rw [working] at found
        split
        next rest absolute => exact absurd absolute (relative rest)
        split
        next rest lead =>
          obtain ⟨next, _, later⟩ := foldlM_follow_cons (lead ▸ found)
          exact ⟨next, later⟩
        · exact ⟨start, found⟩

/-- The file name of a path is its last part that is not idle. -/
private theorem getLast?_split_of_fileName? {path : Path} {name : RawText}
    (named : path.fileName? = some name) :
    ∃ part, (path.split.2.filter fun part => !Path.isIdle part).getLast? = some part ∧
      part ≠ [dot, dot] ∧ ⟨part⟩ = name := by
  have last : path.components.getLast? = some (.name name) := by
    unfold Path.fileName? at named
    split at named
    next text found => rw [found, Option.some.inj named]
    · cases named
  have body : ((path.split.2.filter fun part => !Path.isIdle part).map
      Path.Component.ofPart).getLast? = some (.name name) := by
    unfold Path.components at last
    dsimp only at last
    generalize (path.split.2.filter fun part => !Path.isIdle part).map Path.Component.ofPart = body
      at last ⊢
    cases ends : body.getLast? with
    | none => split at last <;> simp_all [List.getLast?_cons]
    | some component => split at last <;> simp_all [List.getLast?_cons]
  rw [List.getLast?_map, Option.map_eq_some_iff] at body
  obtain ⟨part, ends, component⟩ := body
  unfold Path.Component.ofPart at component
  split at component
  · cases component
  next solid => exact ⟨part, ends, solid, Path.Component.name.inj component⟩

/-- What a path with a file name leads to stands under this name. -/
theorem getLast?_names_of_find {system : FileSystem} {path : Path} {place : Location}
    {name : RawText} (named : path.fileName? = some name) (found : system.find path = .ok place) :
    place.names.getLast? = some name := by
  obtain ⟨start, followed⟩ := foldlM_split_of_find found
  obtain ⟨part, ends, solid, rfl⟩ := getLast?_split_of_fileName? named
  exact getLast?_names_of_foldlM ends solid followed

end Names

section Rewrite

theorem exists_find_of_isFile (file : system.isFile path = true) :
    ∃ place, system.find path = .ok place ∧ place.entry.isFolder = false := by
  unfold isFile at file
  cases found : system.find path with
  | error cause => simp [found] at file
  | ok place => exact ⟨place, rfl, by simpa [found] using file⟩

/-- Rewriting a file changes its bytes and nothing else. -/
theorem sameExcept_rewrite (file : system.isFile path = true) (bytes : ByteArray) :
    ∃ place, system.find path = .ok place ∧
      Entry.SameExcept place.names system.root (system.rewrite path bytes).root ∧
      (system.rewrite path bytes).working = system.working := by
  obtain ⟨place, found, kind⟩ := exists_find_of_isFile file
  have present := at?_names_of_find found
  have names : system.names? path = some place.names := by rw [names?, found]
  cases entry : place.entry with
  | folder entries => simp [entry, Entry.isFolder] at kind
  | file old =>
      rw [entry] at present
      rw [rewrite, names]
      exact ⟨place, found, Entry.sameExcept_put present bytes, rfl⟩

/-- The names of a tree file end with the name of a tree file. -/
theorem endsInTreeFile_of_find (tree : path.isTreeFile = true)
    (found : system.find path = .ok place) : EndsInTreeFile place.names := by
  obtain ⟨name, named, ends⟩ := (Option.any_eq_true _ _).mp tree
  intro last known
  rw [getLast?_names_of_find named found] at known
  obtain rfl := Option.some.inj known
  exact ends

end Rewrite

end FileSystem

namespace Analyzer

section Elsewhere

variable (analyzer : Analyzer) {system changed : FileSystem} {elsewhere : Path → Bool}
  (same : ∀ file, elsewhere file = true → system.loadTree file = changed.loadTree file)
  (files : List Path)
include same

/-- What is found in files that load as before is found as before. -/
private theorem filter_findings_eq :
    (files.flatMap (analyzer.findingsIn changed)).filter (fun finding => elsewhere finding.file) =
      (files.flatMap (analyzer.findingsIn system)).filter fun finding =>
        elsewhere finding.file := by
  rw [List.filter_flatMap, List.filter_flatMap]
  congr 1
  funext file
  by_cases kept : elsewhere file = true
  · rw [findingsIn, findingsIn, same file kept]
  · have dropped (system : FileSystem) :
        (analyzer.findingsIn system file).filter (fun finding => elsewhere finding.file) = [] := by
      rw [List.filter_eq_nil_iff]
      intro finding found
      rwa [file_of_mem_findingsIn found]
    rw [dropped, dropped]

omit analyzer in
private theorem filter_errors_eq :
    (files.filterMap (errorIn? changed)).filter (fun failure => elsewhere failure.file) =
      (files.filterMap (errorIn? system)).filter fun failure => elsewhere failure.file := by
  rw [List.filter_filterMap, List.filter_filterMap]
  congr 1
  funext file
  by_cases kept : elsewhere file = true
  · rw [errorIn?, errorIn?, same file kept]
  · have dropped (system : FileSystem) :
        (errorIn? system file).filter (fun failure => elsewhere failure.file) = none := by
      rw [Option.filter_eq_none_iff]
      intro failure failed
      rwa [file_of_errorIn? failed]
    rw [dropped, dropped]

end Elsewhere

/-- The findings and the errors of several files are those of each file, in the order of the
files, and every file counts once. Other bytes in one tree file change nothing of what is reported
of files elsewhere. -/
theorem analyzePaths_fileByFile (analyzer : Analyzer) (system : FileSystem) (paths : List Path) :
    let files := analyzer.collect system paths
    let result := analyzer.analyzePaths system paths
    result.findings = files.flatMap (analyzer.findingsIn system) ∧
    result.parseErrors = files.filterMap (errorIn? system) ∧
    result.filesAnalyzed + result.parseErrors.length = files.length ∧
    ∀ (path : Path) (bytes : ByteArray), path.isTreeFile = true → system.isFile path = true →
      let changed := system.rewrite path bytes
      let elsewhere := fun file : Path => decide (system.names? file ≠ system.names? path)
      analyzer.collect changed paths = files ∧
      (analyzer.analyzePaths changed paths).findings.filter (fun finding =>
          elsewhere finding.file) =
        result.findings.filter (fun finding => elsewhere finding.file) ∧
      (analyzer.analyzePaths changed paths).parseErrors.filter (fun failure =>
          elsewhere failure.file) =
        result.parseErrors.filter (fun failure => elsewhere failure.file) := by
  intro files result
  have merged := analyzePaths_eq analyzer system paths
  refine ⟨congrArg Analysis.findings merged, congrArg Analysis.parseErrors merged, ?_, ?_⟩
  · show (analyzer.analyzePaths system paths).filesAnalyzed +
      (analyzer.analyzePaths system paths).parseErrors.length = files.length
    rw [merged]
    exact length_filterMap_errorIn? system files
  · intro path bytes tree file changed elsewhere
    obtain ⟨place, found, same, working⟩ := FileSystem.sameExcept_rewrite file bytes
    have ends := FileSystem.endsInTreeFile_of_find tree found
    have collected : analyzer.collect changed paths = files :=
      (FileSystem.collect_eq same working.symm ends analyzer.excluded paths).symm
    have loads : ∀ other, elsewhere other = true →
        system.loadTree other = changed.loadTree other := by
      intro other kept
      apply FileSystem.loadTree_eq same working.symm
      intro location reached there
      apply of_decide_eq_true kept
      rw [FileSystem.names?, FileSystem.names?, reached, found]
      exact congrArg some there
    have mergedChanged := analyzePaths_eq analyzer changed paths
    rw [collected] at mergedChanged
    refine ⟨collected, ?_, ?_⟩
    · show (analyzer.analyzePaths changed paths).findings.filter _ =
        (analyzer.analyzePaths system paths).findings.filter _
      rw [mergedChanged, merged]
      exact filter_findings_eq analyzer loads files
    · show (analyzer.analyzePaths changed paths).parseErrors.filter _ =
        (analyzer.analyzePaths system paths).parseErrors.filter _
      rw [mergedChanged, merged]
      exact filter_errors_eq loads files

/-- A folder with two files that cannot be loaded and one in which something is reported. -/
def threeFiles : FileSystem :=
  ⟨.folder [("a.tree.json", .file "x".toUTF8), ("b.tree.json", .file "y".toUTF8),
    ("c.tree.json", sameArmsFile)], []⟩

theorem collect_threeFiles : Analyzer.default.collect threeFiles [⟨"."⟩] =
    [⟨"./a.tree.json"⟩, ⟨"./b.tree.json"⟩, ⟨"./c.tree.json"⟩] := by
  have stands : [(⟨"."⟩ : Path)].flatMap (fun path =>
      if threeFiles.isFolder path then
        Discovery.inFolder threeFiles Analyzer.default.excluded path
      else [path]) = [⟨"./a.tree.json"⟩, ⟨"./b.tree.json"⟩, ⟨"./c.tree.json"⟩] := by
    decide +kernel
  rw [collect, Discovery.collect, stands, List.mergeSort_of_pairwise (by decide)]
  exact Discovery.dropRepeats_of_pairwise (by decide)

/-- With a block in the first of the three files, the finding and the error in the others stay. -/
theorem analyzePaths_fileByFile_threeFiles :
    (⟨"a.tree.json"⟩ : Path).isTreeFile = true ∧ threeFiles.isFile ⟨"a.tree.json"⟩ = true ∧
      let changed := threeFiles.rewrite ⟨"a.tree.json"⟩ "[\"block\"]".toUTF8
      let elsewhere := fun file : Path =>
        decide (threeFiles.names? file ≠ threeFiles.names? ⟨"a.tree.json"⟩)
      Analyzer.default.collect changed [⟨"."⟩] = Analyzer.default.collect threeFiles [⟨"."⟩] ∧
      ((Analyzer.default.analyzePaths changed [⟨"."⟩]).findings.filter (fun finding =>
          elsewhere finding.file)).map (·.rule) =
        ["duplicated-branches-conditional-expression"] ∧
      ((Analyzer.default.analyzePaths changed [⟨"."⟩]).parseErrors.filter (fun failure =>
          elsewhere failure.file)).map (·.file) = [⟨"./b.tree.json"⟩] := by
  have tree : (⟨"a.tree.json"⟩ : Path).isTreeFile = true := by decide
  have file : threeFiles.isFile ⟨"a.tree.json"⟩ = true := by decide
  obtain ⟨findings, errors, -, independent⟩ :=
    analyzePaths_fileByFile Analyzer.default threeFiles [⟨"."⟩]
  obtain ⟨collected, sameFindings, sameErrors⟩ :=
    independent ⟨"a.tree.json"⟩ "[\"block\"]".toUTF8 tree file
  refine ⟨tree, file, collected, ?_, ?_⟩
  · rw [sameFindings, findings, collect_threeFiles]
    decide +kernel
  · rw [sameErrors, errors, collect_threeFiles]
    decide +kernel

end Analyzer

end DuplicateLogic
