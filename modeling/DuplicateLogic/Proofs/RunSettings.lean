import DuplicateLogic.Proofs.FileByFile
import DuplicateLogic.Run

/-! # The settings of a run

A run loads the settings file that it is told to use, or the nearest one that can be loaded, and
adds what the command line says. The bytes of other files do not matter, so when the chosen file
gets other bytes that can be loaded as well, it is chosen again. -/

namespace DuplicateLogic

open CommandLine

/-- The settings with what a command line adds to them. -/
def Settings.merged (settings : Settings) (arguments : Arguments) : Settings :=
  { settings with
    ignore? :=
      if arguments.ignore.isEmpty then settings.ignore?
      else some (settings.ignore?.getD [] ++ arguments.ignore)
    excludeFolders? := some (settings.excludeFolders?.getD [] ++ arguments.excludeFolders) }

/-- The settings that a run loads: those of the file it is told to use, or those that apply to its
first path. -/
def loadedSettings (system : FileSystem) (arguments : Arguments) :
    Except SettingsError Settings :=
  match arguments.config? with
  | some file => system.loadSettings file
  | none => .ok (system.discoverSettings (arguments.paths.head?.getD ⟨"."⟩))

theorem runSettings_eq (system : FileSystem) (arguments : Arguments) :
    runSettings system arguments =
      (loadedSettings system arguments).map fun loaded => loaded.merged arguments := by
  unfold runSettings loadedSettings
  cases arguments.config? with
  | none => rfl
  | some file => cases system.loadSettings file <;> rfl

/-- The analyser of a run. -/
def runAnalyzer (system : FileSystem) (arguments : Arguments) (settings : Settings) : Analyzer :=
  (Analyzer.default.withRoot (analysisRoot system arguments.paths)).withSettings settings

theorem runAnalysis_eq (system : FileSystem) (arguments : Arguments) (settings : Settings) :
    runAnalysis system arguments settings =
      (runAnalyzer system arguments settings).analyzePaths system arguments.paths := rfl

namespace FileSystem

section Load

variable {system : FileSystem} {file other : Path} {loaded : Settings}

theorem loadSettings_eq_ok_iff :
    system.loadSettings file = .ok loaded ↔
      ∃ text settings, system.readText file = .ok text ∧ Settings.parse? text = some settings ∧
        { settings with source? := some file } = loaded := by
  unfold loadSettings
  cases system.readText file with
  | error cause => simp
  | ok text => cases parsed : Settings.parse? text <;> simp [parsed]

theorem source?_of_loadSettings (loads : system.loadSettings file = .ok loaded) :
    loaded.source? = some file := by
  obtain ⟨_, _, -, -, rfl⟩ := loadSettings_eq_ok_iff.mp loads
  rfl

theorem isFile_of_readText {text : String} (reads : system.readText file = .ok text) :
    system.isFile file = true := by
  unfold readText at reads
  unfold isFile
  cases found : system.find file with
  | error cause => simp [found, bind, Except.bind] at reads
  | ok place =>
      cases entry : place.entry with
      | folder entries => simp [found, entry, bind, Except.bind] at reads
      | file bytes => simp [entry, Entry.isFolder]

theorem isFile_of_loadSettings (loads : system.loadSettings file = .ok loaded) :
    system.isFile file = true := by
  obtain ⟨_, _, reads, -, -⟩ := loadSettings_eq_ok_iff.mp loads
  exact isFile_of_readText reads

/-- Paths that lead to the same file read the same text. -/
theorem readText_eq_of_names? {text : String} (reads : system.readText file = .ok text)
    (same : system.names? other = system.names? file) : system.readText other = .ok text := by
  unfold names? at same
  unfold readText at reads ⊢
  cases found : system.find file with
  | error cause => simp [found, bind, Except.bind] at reads
  | ok place =>
      cases foundOther : system.find other with
      | error cause => simp [found, foundOther] at same
      | ok twin =>
          simp only [found, foundOther, Option.some.injEq] at same
          have here := at?_names_of_find found
          have there := at?_names_of_find foundOther
          rw [same, here] at there
          rw [found] at reads
          simpa only [bind, Except.bind, Option.some.inj there] using reads

/-- Where one path leads to settings, every path to the same file does. -/
theorem loadSettings_of_names? (loads : system.loadSettings file = .ok loaded)
    (same : system.names? other = system.names? file) :
    ∃ settings, system.loadSettings other = .ok settings := by
  obtain ⟨text, settings, reads, parsed, -⟩ := loadSettings_eq_ok_iff.mp loads
  exact ⟨_, loadSettings_eq_ok_iff.mpr
    ⟨text, settings, readText_eq_of_names? reads same, parsed, rfl⟩⟩

end Load

section Discover

variable {system : FileSystem} {path file : Path}

/-- The path at which the search for settings begins. -/
def searchStart (system : FileSystem) (path : Path) : Path :=
  if system.isFile path then path.parent?.getD path else path

/-- Settings that come from a file are those of the nearest settings file that can be loaded. -/
theorem source?_discoverSettings (source : (system.discoverSettings path).source? = some file) :
    ∃ front folder back, (system.searchStart path).ancestors = front ++ folder :: back ∧
      folder.join settingsFileName = file ∧
      system.loadSettings file = .ok (system.discoverSettings path) ∧
      ∀ nearer ∈ front, (system.loadSettings (nearer.join settingsFileName)).toOption = none := by
  have unfolded : system.discoverSettings path = ((system.searchStart path).ancestors.findSome?
      fun folder => (system.loadSettings (folder.join settingsFileName)).toOption).getD {} := rfl
  rw [unfolded] at source ⊢
  cases found : (system.searchStart path).ancestors.findSome?
      fun folder => (system.loadSettings (folder.join settingsFileName)).toOption with
  | none => simp [found] at source
  | some loaded =>
      obtain ⟨front, folder, back, above, here, earlier⟩ := List.findSome?_eq_some_iff.mp found
      have loads : system.loadSettings (folder.join settingsFileName) = .ok loaded := by
        cases result : system.loadSettings (folder.join settingsFileName) with
        | error cause => simp [result, Except.toOption] at here
        | ok settings => simpa [result, Except.toOption] using here
      have chosen : folder.join settingsFileName = file := by
        simpa [found, source?_of_loadSettings loads] using source
      exact ⟨front, folder, back, above, chosen, chosen ▸ loads, earlier⟩

/-- The settings of a file apply when no nearer settings file can be loaded. -/
theorem discoverSettings_of_nearest {front back : List Path} {folder : Path} {loaded : Settings}
    (above : (system.searchStart path).ancestors = front ++ folder :: back)
    (loads : system.loadSettings (folder.join settingsFileName) = .ok loaded)
    (earlier : ∀ nearer ∈ front,
      (system.loadSettings (nearer.join settingsFileName)).toOption = none) :
    system.discoverSettings path = loaded := by
  have found : (system.searchStart path).ancestors.findSome?
      (fun folder => (system.loadSettings (folder.join settingsFileName)).toOption) =
        some loaded := by
    rw [List.findSome?_eq_some_iff]
    exact ⟨front, folder, back, above, by rw [loads]; rfl, earlier⟩
  exact congrArg (Option.getD · {}) found

end Discover

section Rewrite

variable {system : FileSystem} {file : Path} {bytes : ByteArray}

/-- Other bytes in a file change nothing of the settings in the others. -/
theorem loadSettings_rewrite_of_ne (present : system.isFile file = true) {other : Path}
    (elsewhere : system.names? other ≠ system.names? file) :
    (system.rewrite file bytes).loadSettings other = system.loadSettings other := by
  obtain ⟨place, found, same, working⟩ := sameExcept_rewrite present bytes
  have text : system.readText other = (system.rewrite file bytes).readText other := by
    apply readText_eq same working.symm
    intro location reached there
    apply elsewhere
    rw [names?, names?, reached, found]
    exact congrArg some there
  rw [loadSettings, loadSettings, text]

/-- When the settings that apply to a path come from a file, they are loaded from this file also
with other bytes in it. -/
theorem discoverSettings_rewrite {path : Path}
    (source : (system.discoverSettings path).source? = some file) {others : Settings}
    (again : (system.rewrite file bytes).loadSettings file = .ok others) :
    (system.rewrite file bytes).discoverSettings path = others := by
  obtain ⟨front, folder, back, above, rfl, loads, earlier⟩ := source?_discoverSettings source
  have present := isFile_of_loadSettings loads
  obtain ⟨place, -, same, working⟩ := sameExcept_rewrite present bytes
  rw [searchStart, isFile_eq same working.symm] at above
  refine discoverSettings_of_nearest above again ?_
  intro nearer known
  -- a nearer path to the same file would have been chosen itself
  by_cases there : system.names? (nearer.join settingsFileName) =
      system.names? (folder.join settingsFileName)
  · obtain ⟨settings, alike⟩ := loadSettings_of_names? loads there
    simpa [alike, Except.toOption] using earlier nearer known
  · rw [loadSettings_rewrite_of_ne present there]
    exact earlier nearer known

end Rewrite

end FileSystem

section Loaded

variable {system : FileSystem} {arguments : Arguments} {loaded : Settings} {file : Path}
  (loads : loadedSettings system arguments = .ok loaded) (source : loaded.source? = some file)
include loads source

/-- Settings that come from a file are those in this file. -/
theorem loadSettings_of_loadedSettings : system.loadSettings file = .ok loaded := by
  unfold loadedSettings at loads
  cases told : arguments.config? with
  | some path =>
      rw [told] at loads
      have same : path = file := by
        simpa [FileSystem.source?_of_loadSettings loads] using source
      rw [← same]
      exact loads
  | none =>
      rw [told] at loads
      obtain rfl := Except.ok.inj loads
      obtain ⟨_, _, _, -, -, found, -⟩ := FileSystem.source?_discoverSettings source
      exact found

/-- When a run loads its settings from a file, it does so also with other bytes in this file, as
long as these can be loaded. -/
theorem loadedSettings_rewrite {bytes : ByteArray} {others : Settings}
    (again : (system.rewrite file bytes).loadSettings file = .ok others) :
    loadedSettings (system.rewrite file bytes) arguments = .ok others := by
  unfold loadedSettings at loads ⊢
  cases told : arguments.config? with
  | some path =>
      rw [told] at loads
      have same : path = file := by
        simpa [FileSystem.source?_of_loadSettings loads] using source
      rw [same]
      exact again
  | none =>
      rw [told] at loads
      obtain rfl := Except.ok.inj loads
      exact congrArg Except.ok (FileSystem.discoverSettings_rewrite source again)

end Loaded

end DuplicateLogic
