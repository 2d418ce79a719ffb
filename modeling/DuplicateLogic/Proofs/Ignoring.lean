import DuplicateLogic.Proofs.Enabled
import DuplicateLogic.Proofs.RunSettings

/-! # Ignoring more rules

Settings that ignore more rules take findings away and change nothing else: the same files are
analysed, the same of them cannot be loaded, and the findings that are left keep their order. It
does not matter whether the rules come from the command line or from the settings file. -/

namespace DuplicateLogic

open CommandLine

/-- An analysis without the findings of listed rules. Blanks around a listed rule do not count. -/
def Analysis.without (result : Analysis) (rules : List String) : Analysis :=
  { result with
    findings := result.findings.filter fun finding =>
      decide (∀ entry ∈ rules, Text.trim entry ≠ finding.rule) }

namespace Settings

/-- The settings with more rules at the end of the list of ignored ones. -/
def ignoring (settings : Settings) (rules : List String) : Settings :=
  { settings with ignore? := some (settings.ignore?.getD [] ++ rules) }

/-- Settings that are like others except that more rules are off. -/
structure Widens (rules : List String) (settings wider : Settings) : Prop where
  disabled : ∀ rule, wider.isDisabled rule = true ↔
    settings.isDisabled rule = true ∨ ∃ entry ∈ rules, Text.trim entry = rule
  perFile : wider.perFileIgnores? = settings.perFileIgnores?
  folders : wider.excludeFolders? = settings.excludeFolders?

theorem isDisabled_iff (settings : Settings) (rule : String) :
    settings.isDisabled rule = true ↔
      ∃ entry ∈ settings.ignore?.getD [], Text.trim entry = rule := by
  simp [isDisabled]

/-- What is off is what is listed, in whatever order. -/
theorem isDisabled_of_perm {settings : Settings} {front rules : List String}
    (listed : (settings.ignore?.getD []).Perm (front ++ rules)) (rule : String) :
    settings.isDisabled rule = true ↔
      (∃ entry ∈ front, Text.trim entry = rule) ∨ ∃ entry ∈ rules, Text.trim entry = rule := by
  simp only [isDisabled_iff, listed.mem_iff, List.mem_append, or_and_right, exists_or]

theorem getD_ignore?_merged (settings : Settings) (arguments : Arguments) :
    (settings.merged arguments).ignore?.getD [] =
      settings.ignore?.getD [] ++ arguments.ignore := by
  unfold merged
  cases listed : arguments.ignore <;> simp

/-- Rules that the command line adds to those it ignores are off as well. -/
theorem widens_merged (settings : Settings) {arguments : Arguments} {rules ignore : List String}
    (more : ignore.Perm (arguments.ignore ++ rules)) :
    Widens rules (settings.merged arguments)
      (settings.merged { arguments with ignore := ignore }) where
  disabled rule := by
    rw [isDisabled_iff (settings.merged arguments), getD_ignore?_merged]
    apply isDisabled_of_perm
    rw [getD_ignore?_merged, List.append_assoc]
    exact more.append_left _
  perFile := rfl
  folders := rfl

/-- Rules that the loaded settings add to those they ignore are off as well. -/
theorem widens_ignoring (settings : Settings) (rules : List String) (arguments : Arguments) :
    Widens rules (settings.merged arguments) ((settings.ignoring rules).merged arguments) where
  disabled rule := by
    rw [isDisabled_iff (settings.merged arguments), getD_ignore?_merged]
    apply isDisabled_of_perm
    rw [getD_ignore?_merged, List.append_assoc]
    show (settings.ignore?.getD [] ++ rules ++ arguments.ignore).Perm _
    rw [List.append_assoc]
    exact List.perm_append_comm.append_left _
  perFile := rfl
  folders := rfl

end Settings

section Walk

/-- The rules in use report the same under all settings. -/
theorem findings_settings {rule : Rule} (known : rule ∈ duplicateRules) (file : Path)
    (parent? : Option Node) (node : Node) (first second : Settings) :
    rule.findings ⟨file, parent?, first⟩ node = rule.findings ⟨file, parent?, second⟩ node := by
  rcases mem_duplicateRules_iff.mp known with rfl | rfl | rfl
  · rfl
  · rfl
  · rfl

/-- A walk with the rules in use gives the same under all settings. -/
theorem walk_settings (root : Node) (file : Path) (first second : Settings) :
    walk root duplicateRules file first = walk root duplicateRules file second := by
  rw [walk_of_isStateless root file first fun _ => isStateless_of_mem_duplicateRules,
    walk_of_isStateless root file second fun _ => isStateless_of_mem_duplicateRules]
  refine congrArg (List.flatMap · root.occurrences) ?_
  funext occurrence
  apply List.flatMap_congr
  intro rule wanted
  exact findings_settings (List.mem_of_mem_filter wanted) _ _ _ _ _

end Walk

namespace Analyzer

/-- Analysers that are alike except that for the second more rules are off. -/
structure Widens (rules : List String) (analyzer wider : Analyzer) : Prop where
  settings : analyzer.settings.Widens rules wider.settings
  excluded : wider.excluded = analyzer.excluded
  root : wider.root = analyzer.root
  fileIgnores : wider.fileIgnores = analyzer.fileIgnores

theorem widens_withSettings (analyzer : Analyzer) {rules : List String} {settings wider : Settings}
    (widens : settings.Widens rules wider) :
    (analyzer.withSettings settings).Widens rules (analyzer.withSettings wider) where
  settings := widens
  excluded := by simp only [withSettings, widens.folders]
  root := rfl
  fileIgnores := by simp only [withSettings, widens.perFile]

section Widens

variable {rules : List String} {analyzer wider : Analyzer} (widens : analyzer.Widens rules wider)
include widens

theorem Widens.keeps_eq (silenced : List (Nat × Suppression)) (path : Path) (finding : Finding) :
    wider.keeps silenced path finding =
      (decide (∀ entry ∈ rules, Text.trim entry ≠ finding.rule) &&
        analyzer.keeps silenced path finding) := by
  have sameFile :
      wider.isIgnoredFor path finding.rule = analyzer.isIgnoredFor path finding.rule := by
    simp only [isIgnoredFor, relative, widens.root, widens.fileIgnores]
  have disabled : wider.settings.isDisabled finding.rule =
      (analyzer.settings.isDisabled finding.rule ||
        !decide (∀ entry ∈ rules, Text.trim entry ≠ finding.rule)) := by
    rw [Bool.eq_iff_iff, widens.settings.disabled]
    simp
  rw [keeps, keeps, sameFile, disabled, Bool.not_or, Bool.not_not]
  ac_rfl

/-- In a tree, what the additional rules report is dropped and nothing else. -/
theorem Widens.analyzeTree_eq (root : Node) (path : Path) :
    wider.analyzeTree root path =
      (analyzer.analyzeTree root path).filter fun finding =>
        decide (∀ entry ∈ rules, Text.trim entry ≠ finding.rule) := by
  rw [analyzeTree_eq_filter_keeps, analyzeTree_eq_filter_keeps, List.filter_filter,
    walk_settings root path wider.settings analyzer.settings]
  apply List.filter_congr
  intro finding _
  exact widens.keeps_eq _ path finding

/-- In several files, what the additional rules report is dropped and nothing else. -/
theorem Widens.analyzePaths_without (system : FileSystem) (paths : List Path) :
    wider.analyzePaths system paths = (analyzer.analyzePaths system paths).without rules := by
  have collected : wider.collect system paths = analyzer.collect system paths := by
    rw [collect, collect, widens.excluded]
  have found : wider.findingsIn system = fun file =>
      (analyzer.findingsIn system file).filter fun finding =>
        decide (∀ entry ∈ rules, Text.trim entry ≠ finding.rule) := by
    funext file
    rw [findingsIn, findingsIn]
    cases system.loadTree file with
    | error cause => rfl
    | ok root => exact widens.analyzeTree_eq root file
  rw [analyzePaths_eq, analyzePaths_eq, collected, found]
  simp only [Analysis.without, List.filter_flatMap]

end Widens

/-- Where the same files are collected and load as before, the analysis is as before. -/
theorem analyzePaths_congr {analyzer : Analyzer} {system other : FileSystem} {paths : List Path}
    (collected : analyzer.collect other paths = analyzer.collect system paths)
    (loaded : ∀ file ∈ analyzer.collect system paths,
      other.loadTree file = system.loadTree file) :
    analyzer.analyzePaths other paths = analyzer.analyzePaths system paths := by
  rw [analyzePaths_eq, analyzePaths_eq, collected]
  have found : ∀ file ∈ analyzer.collect system paths,
      analyzer.findingsIn other file = analyzer.findingsIn system file := by
    intro file known
    rw [findingsIn, findingsIn, loaded file known]
  have failed : ∀ file ∈ analyzer.collect system paths,
      errorIn? other file = errorIn? system file := by
    intro file known
    rw [errorIn?, errorIn?, loaded file known]
  have counted : ∀ file ∈ analyzer.collect system paths, loads other file = true ↔
      loads system file = true := by
    intro file known
    rw [loads, loads, failed file known]
  simp only [Analysis.mk.injEq]
  exact ⟨List.flatMap_congr found, List.filterMap_congr failed, List.countP_congr counted⟩

end Analyzer

/-- A run under wider settings drops what the additional rules report and nothing else. -/
theorem runAnalysis_of_widens (system : FileSystem) (arguments : Arguments) {rules : List String}
    {settings wider : Settings} (widens : settings.Widens rules wider) :
    runAnalysis system arguments wider =
      (runAnalysis system arguments settings).without rules :=
  (Analyzer.widens_withSettings _ widens).analyzePaths_without system arguments.paths

section File

variable {system : FileSystem} {file : Path} {bytes : ByteArray}

/-- Other bytes in a file that is no ignore file and is not analysed change nothing of an
analysis. -/
theorem runAnalysis_rewrite (present : system.isFile file = true)
    (plain : ∀ names, system.names? file = some names → ¬EndsInIgnoreFile names)
    (arguments : Arguments) (settings : Settings)
    (apart : ∀ input ∈ (runAnalyzer system arguments settings).collect system arguments.paths,
      system.names? input ≠ system.names? file) :
    runAnalysis (system.rewrite file bytes) arguments settings =
      runAnalysis system arguments settings := by
  obtain ⟨place, found, same, working⟩ := FileSystem.sameExcept_rewrite present bytes
  have names : system.names? file = some place.names := by rw [FileSystem.names?, found]
  have root : runAnalyzer (system.rewrite file bytes) arguments settings =
      runAnalyzer system arguments settings := by
    simp only [runAnalyzer, analysisRoot, FileSystem.isFolder_eq same working.symm]
  rw [runAnalysis_eq, runAnalysis_eq, root]
  apply Analyzer.analyzePaths_congr
  · exact (FileSystem.collect_eq_of_not_ignoreFile same working.symm (plain _ names) _ _).symm
  · intro input known
    refine (FileSystem.loadTree_eq same working.symm ?_).symm
    intro location reached there
    apply apart input known
    rw [names, FileSystem.names?, reached]
    exact congrArg some there

end File

/-- Ignoring more rules only takes away what these rules report. It does not matter whether the
rules stand anywhere among those of the command line, at the end of the list in the loaded
settings, or at the end of the list in the file that the settings are loaded from, provided that
this file is no ignore file and not analysed itself. -/
theorem runAnalysis_ignoring (system : FileSystem) (arguments : Arguments) (rules : List String) :
    (∀ ignore : List String, ignore.Perm (arguments.ignore ++ rules) →
      let wider := { arguments with ignore := ignore }
      (∃ cause, runSettings system arguments = .error cause ∧
        runSettings system wider = .error cause) ∨
      ∃ settings widerSettings, runSettings system arguments = .ok settings ∧
        runSettings system wider = .ok widerSettings ∧
        runAnalysis system wider widerSettings =
          (runAnalysis system arguments settings).without rules) ∧
    (∀ loaded : Settings, loadedSettings system arguments = .ok loaded →
      runSettings system arguments = .ok (loaded.merged arguments) ∧
      runAnalysis system arguments ((loaded.ignoring rules).merged arguments) =
        (runAnalysis system arguments (loaded.merged arguments)).without rules) ∧
    ∀ (loaded : Settings) (file : Path) (bytes : ByteArray),
      loadedSettings system arguments = .ok loaded → loaded.source? = some file →
      let changed := system.rewrite file bytes
      let settings := loaded.merged arguments
      changed.loadSettings file = .ok (loaded.ignoring rules) →
      (∀ names, system.names? file = some names → ¬EndsInIgnoreFile names) →
      (∀ input ∈ (runAnalyzer system arguments settings).collect system arguments.paths,
        system.names? input ≠ system.names? file) →
      ∃ widerSettings, runSettings system arguments = .ok settings ∧
        runSettings changed arguments = .ok widerSettings ∧
        runAnalysis changed arguments widerSettings =
          (runAnalysis system arguments settings).without rules := by
  refine ⟨?_, ?_, ?_⟩
  · intro ignore more wider
    have same : loadedSettings system wider = loadedSettings system arguments := rfl
    rw [runSettings_eq, runSettings_eq, same]
    cases loadedSettings system arguments with
    | error cause => exact Or.inl ⟨cause, rfl, rfl⟩
    | ok loaded =>
        have widens := loaded.widens_merged more
        exact Or.inr ⟨_, _, rfl, rfl, runAnalysis_of_widens system arguments widens⟩
  · intro loaded loads
    rw [runSettings_eq, loads]
    exact ⟨rfl, runAnalysis_of_widens system arguments (loaded.widens_ignoring rules arguments)⟩
  · intro loaded file bytes loads source changed settings again plain apart
    have widens := loaded.widens_ignoring rules arguments
    refine ⟨(loaded.ignoring rules).merged arguments, ?_, ?_, ?_⟩
    · rw [runSettings_eq, loads]
      rfl
    · rw [runSettings_eq, loadedSettings_rewrite loads source again]
      rfl
    · have collected : (runAnalyzer system arguments ((loaded.ignoring rules).merged
          arguments)).collect system arguments.paths =
            (runAnalyzer system arguments settings).collect system arguments.paths := rfl
      have present :=
        FileSystem.isFile_of_loadSettings (loadSettings_of_loadedSettings loads source)
      rw [runAnalysis_rewrite present plain arguments _ (collected ▸ apart)]
      exact runAnalysis_of_widens system arguments widens

/-- A folder with a settings file that ignores one rule and with the tree of `a = a++`. -/
def configuredUpdate : FileSystem :=
  let tree := "[\"binary-expression\",\"\",[1,0],[[\"identifier\",\"a\"],[\"equals-token\"]," ++
    "[\"postfix-unary-expression\",\"\",[1,4],[[\"identifier\",\"a\"],[\"plus-plus-token\"]]]]]"
  ⟨.folder [(".dupscan.toml", .file "dupscan.ignore = ['a']".toUTF8),
    ("a.tree.json", .file tree.toUTF8)], []⟩

/-- The wasted update is no longer reported when its rule is added to the settings file, with a
blank before it. -/
theorem runAnalysis_ignoring_configuredUpdate :
    let arguments : Arguments := ⟨[⟨"a.tree.json"⟩], .text, none, [], [], false, .warn⟩
    let loaded : Settings := { ignore? := some ["a"], source? := some ⟨".dupscan.toml"⟩ }
    let rules := [" useless-self-increment"]
    let changed := configuredUpdate.rewrite ⟨".dupscan.toml"⟩
      "dupscan.ignore = ['a', ' useless-self-increment']".toUTF8
    loadedSettings configuredUpdate arguments = .ok loaded ∧
      changed.loadSettings ⟨".dupscan.toml"⟩ = .ok (loaded.ignoring rules) ∧
      ∃ settings widerSettings, runSettings configuredUpdate arguments = .ok settings ∧
        runSettings changed arguments = .ok widerSettings ∧
        (runAnalysis configuredUpdate arguments settings).findings.length = 1 ∧
        (runAnalysis changed arguments widerSettings).findings = [] := by
  intro arguments loaded rules changed
  have reads : configuredUpdate.readText ⟨".dupscan.toml"⟩ = .ok "dupscan.ignore = ['a']" := by
    decide +kernel
  have readsChanged : changed.readText ⟨".dupscan.toml"⟩ =
      .ok "dupscan.ignore = ['a', ' useless-self-increment']" := by
    decide +kernel
  have loads : configuredUpdate.loadSettings ⟨".dupscan.toml"⟩ = .ok loaded :=
    FileSystem.loadSettings_eq_ok_iff.mpr
      ⟨_, { ignore? := some ["a"] }, reads, by decide +kernel, rfl⟩
  have again : changed.loadSettings ⟨".dupscan.toml"⟩ = .ok (loaded.ignoring rules) :=
    FileSystem.loadSettings_eq_ok_iff.mpr
      ⟨_, { ignore? := some (["a"] ++ rules) }, readsChanged, by decide +kernel, rfl⟩
  have above : (configuredUpdate.searchStart ⟨"a.tree.json"⟩).ancestors = [] ++ ⟨""⟩ :: [] := by
    decide +kernel
  have chosen : loadedSettings configuredUpdate arguments = .ok loaded :=
    congrArg Except.ok (FileSystem.discoverSettings_of_nearest above loads (by simp))
  have names : configuredUpdate.names? ⟨".dupscan.toml"⟩ =
      some [RawText.ofString ".dupscan.toml"] := by
    decide +kernel
  have collected : (runAnalyzer configuredUpdate arguments (loaded.merged arguments)).collect
      configuredUpdate arguments.paths = [⟨"a.tree.json"⟩] := by
    decide +kernel
  have found : (runAnalysis configuredUpdate arguments
      (loaded.merged arguments)).findings.map (·.rule) = ["useless-self-increment"] := by
    decide +kernel
  obtain ⟨-, -, rewritten⟩ := runAnalysis_ignoring configuredUpdate arguments rules
  obtain ⟨widerSettings, run, runChanged, filtered⟩ := rewritten loaded ⟨".dupscan.toml"⟩
    "dupscan.ignore = ['a', ' useless-self-increment']".toUTF8 chosen rfl again
    (by rw [names]; rintro _ ⟨⟩; decide) (by rw [names, collected]; decide +kernel)
  refine ⟨chosen, again, _, widerSettings, run, runChanged, ?_, ?_⟩
  · simpa using congrArg List.length found
  · rw [filtered]
    apply List.filter_eq_nil_iff.mpr
    intro finding reported
    have rule : finding.rule = "useless-self-increment" := by
      have listed := List.mem_map_of_mem (f := (·.rule)) reported
      rwa [found, List.mem_singleton] at listed
    rw [rule]
    decide

end DuplicateLogic
