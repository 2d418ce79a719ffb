import DuplicateLogic.Proofs.FileReplaced
import DuplicateLogic.Proofs.RunSettings

/-! # The nearest settings file

The settings of a path are those of the nearest settings file that can be loaded, on the way from
the path up to the last path above it. Only the settings files on this way up to that one count.
What stands anywhere else, and which unusable thing stands in the place of a nearer one, does not
matter, as long as no settings file is reached through it. -/

namespace DuplicateLogic

namespace FileSystem

variable {system other : FileSystem} {path file : Path} {target : List RawText}

section Loading

/-- Whether no settings can be loaded from a file: it cannot be read as text, or its text cannot be
understood. -/
def Unloadable (system : FileSystem) (file : Path) : Prop :=
  ∀ text, system.readText file = .ok text → Settings.parse? text = none

theorem unloadable_iff :
    system.Unloadable file ↔ (system.loadSettings file).toOption = none := by
  unfold Unloadable loadSettings
  cases system.readText file with
  | error cause => simp [Except.toOption]
  | ok text => cases parsed : Settings.parse? text <;> simp [Except.toOption, parsed]

theorem unloadable_of_error {cause : ReadError} (failed : system.find file = .error cause) :
    system.Unloadable file := by
  intro text reads
  rw [readText, failed] at reads
  cases reads

/-- What is read from a path is the content that it leads to. -/
theorem readText_of_find {place : Location} (found : system.find file = .ok place) :
    system.readText file = place.entry.content?.elim (.error .isFolder) fun bytes =>
      (String.fromUTF8? bytes).elim (.error .notText) .ok := by
  rw [readText, found]
  obtain ⟨entry, above⟩ := place
  cases entry with
  | folder entries => rfl
  | file bytes =>
      simp only [bind, Except.bind, Entry.content?, Option.elim_some]
      cases String.fromUTF8? bytes <;> rfl

/-- What is loaded is the same outside a place, unless a file leads to it that could be loaded. -/
theorem toOption_loadSettings_eq (same : SameOutside target system other)
    (solid : file.raw.bytes ≠ [])
    (ends : system.names? file = some target ∨ other.names? file = some target →
      system.Unloadable file ∧ other.Unloadable file)
    (passes : system.PassesFolder target file ∨ other.PassesFolder target file →
      system.Unloadable file ∧ other.Unloadable file) :
    (other.loadSettings file).toOption = (system.loadSettings file).toOption := by
  rcases find_outside same solid with ⟨place, twin, found, foundOther, content⟩ | ⟨here, there⟩
  · have text : other.readText file = system.readText file := by
      rw [readText_of_find found, readText_of_find foundOther, content]
    rw [loadSettings, loadSettings, text]
  · have unloadable : system.Unloadable file := by
      rcases here with ⟨cause, failed⟩ | met | passed
      · exact unloadable_of_error failed
      · exact (ends (Or.inl met)).1
      · exact (passes (Or.inl passed)).1
    have unloadableOther : other.Unloadable file := by
      rcases there with ⟨cause, failed⟩ | met | passed
      · exact unloadable_of_error failed
      · exact (ends (Or.inr met)).2
      · exact (passes (Or.inr passed)).2
    rw [unloadable_iff.mp unloadable, unloadable_iff.mp unloadableOther]

end Loading

section Searching

theorem relative_settingsFileName : settingsFileName.raw.bytes.head? ≠ some RawText.slash := by
  decide

theorem bytes_join_settingsFileName_ne (folder : Path) :
    (folder.join settingsFileName).raw.bytes ≠ [] := by
  by_cases empty : folder.raw.bytes = []
  · obtain ⟨⟨bytes⟩⟩ := folder
    obtain rfl : bytes = [] := empty
    decide
  · exact Path.bytes_join_ne empty relative_settingsFileName

/-- The settings files on the way up from a path. -/
def settingsFiles (system : FileSystem) (path : Path) : List Path :=
  (system.searchStart path).ancestors.map fun folder => folder.join settingsFileName

/-- The settings files that a search looks at: up to the first that can be loaded. -/
def consulted (system : FileSystem) (path : Path) : List Path :=
  let files := system.settingsFiles path
  files.take (files.findIdx (fun file => (system.loadSettings file).toOption.isSome) + 1)

theorem discoverSettings_eq (system : FileSystem) (path : Path) :
    system.discoverSettings path = ((system.settingsFiles path).findSome? fun file =>
      (system.loadSettings file).toOption).getD {} := by
  rw [settingsFiles, List.findSome?_map]
  rfl

/-- A search up to the first hit depends on nothing behind it. -/
theorem findSome?_congr {α β : Type} {first second : α → Option β} {items : List α}
    (same : ∀ item ∈ items.take (items.findIdx (fun item => (first item).isSome) + 1),
      second item = first item) :
    items.findSome? second = items.findSome? first := by
  induction items with
  | nil => rfl
  | cons item rest ih =>
      rw [List.findIdx_cons] at same
      cases hit : first item with
      | some found =>
          simp only [hit, Option.isSome_some, cond_true, List.take_succ_cons] at same
          have here := same item List.mem_cons_self
          rw [List.findSome?_cons, List.findSome?_cons, here, hit]
      | none =>
          simp only [hit, Option.isSome_none, cond_false, List.take_succ_cons] at same
          have here := same item List.mem_cons_self
          rw [List.findSome?_cons, List.findSome?_cons, here, hit]
          exact ih fun item known => same item (List.mem_cons_of_mem _ known)

/-- The settings files of a path and of all paths above it give the settings, also when the path is
that of a file: nothing is below it. -/
theorem discoverSettings_eq_ancestors (system : FileSystem) (path : Path) :
    system.discoverSettings path =
      ((path.ancestors.map fun folder => folder.join settingsFileName).findSome? fun file =>
        (system.loadSettings file).toOption).getD {} := by
  rw [discoverSettings_eq]
  unfold settingsFiles searchStart
  cases file : system.isFile path with
  | false => rfl
  | true =>
      obtain ⟨upper, above⟩ := exists_parent?_of_isFile file
      obtain ⟨cause, failed⟩ := exists_find_join_of_isFile file relative_settingsFileName
      rw [if_pos rfl, above, Option.getD_some, Path.ancestors_of_parent? above, List.map_cons,
        List.findSome?_cons, unloadable_iff.mp (unloadable_of_error failed)]

theorem exists_of_mem_consulted (known : file ∈ system.consulted path) :
    ∃ folder : Path, file = folder.join settingsFileName := by
  obtain ⟨folder, -, rfl⟩ := List.mem_map.mp (List.mem_of_mem_take known)
  exact ⟨folder, rfl⟩

/-- File systems that load the same from all files that are looked at give the same settings. -/
theorem discoverSettings_congr
    (agree : ∀ file ∈ system.consulted path,
      (other.loadSettings file).toOption = (system.loadSettings file).toOption)
    (below : system.isFile path = true → other.Unloadable (path.join settingsFileName)) :
    other.discoverSettings path = system.discoverSettings path := by
  have nearest := findSome?_congr agree
  rw [discoverSettings_eq_ancestors other, discoverSettings_eq system, ← nearest]
  unfold settingsFiles searchStart
  cases file : system.isFile path with
  | false => rfl
  | true =>
      obtain ⟨upper, above⟩ := exists_parent?_of_isFile file
      rw [if_pos rfl, above, Option.getD_some, Path.ancestors_of_parent? above, List.map_cons,
        List.findSome?_cons, unloadable_iff.mp (below file)]

/-- The nearest settings file that can be loaded gives the settings; without one they are empty. -/
theorem discoverSettings_cases (system : FileSystem) (path : Path) :
    (∃ front folder back text settings,
      (system.searchStart path).ancestors = front ++ folder :: back ∧
        (∀ nearer ∈ front, system.Unloadable (nearer.join settingsFileName)) ∧
        system.readText (folder.join settingsFileName) = .ok text ∧
        Settings.parse? text = some settings ∧
        system.loadSettings (folder.join settingsFileName) = .ok (system.discoverSettings path) ∧
        system.discoverSettings path =
          { settings with source? := some (folder.join settingsFileName) }) ∨
      (∀ folder ∈ (system.searchStart path).ancestors,
        system.Unloadable (folder.join settingsFileName)) ∧
        system.discoverSettings path = {} := by
  rw [discoverSettings_eq, settingsFiles, List.findSome?_map]
  cases found : (system.searchStart path).ancestors.findSome?
      ((fun file => (system.loadSettings file).toOption) ∘ fun folder =>
        folder.join settingsFileName) with
  | none =>
      right
      refine ⟨?_, rfl⟩
      intro folder known
      exact unloadable_iff.mpr (List.findSome?_eq_none_iff.mp found folder known)
  | some loaded =>
      left
      obtain ⟨front, folder, back, above, here, earlier⟩ := List.findSome?_eq_some_iff.mp found
      have loads : system.loadSettings (folder.join settingsFileName) = .ok loaded := by
        cases result : system.loadSettings (folder.join settingsFileName) with
        | error cause => simp [result, Except.toOption] at here
        | ok settings => simpa [result, Except.toOption] using here
      obtain ⟨text, settings, reads, parsed, rfl⟩ := loadSettings_eq_ok_iff.mp loads
      exact ⟨front, folder, back, text, settings, above,
        fun nearer known => unloadable_iff.mpr (earlier nearer known), reads, parsed, loads, rfl⟩

end Searching

section Replacing

variable (same : SameOutside target system other)
include same

/-- A path that leads to a file still has no settings file below it when anything but a folder is
put in some place. -/
theorem unloadable_below_file (file : system.isFile path = true)
    (plain : ∀ entry, other.root.at? target = some entry → entry.isFolder = false) :
    other.Unloadable (path.join settingsFileName) := by
  obtain ⟨place, found, kind⟩ := exists_find_of_isFile file
  have solid := solid_of_find found
  cases below : other.find (path.join settingsFileName) with
  | error cause => exact unloadable_of_error below
  | ok last =>
      exfalso
      obtain ⟨mid, foundOther, folder⟩ :=
        exists_find_of_find_join solid relative_settingsFileName below
      rcases find_outside same solid with ⟨first, second, left, right, content⟩ | ⟨-, there⟩
      · obtain rfl : first = place := Except.ok.inj (left.symm.trans found)
        obtain rfl : second = mid := Except.ok.inj (right.symm.trans foundOther)
        rw [← Entry.isFolder_eq_of_content? content, kind] at folder
        cases folder
      · rcases there with ⟨cause, failed⟩ | met | passed
        · cases failed.symm.trans foundOther
        · have there := at?_names_of_find foundOther
          rw [names?, foundOther] at met
          rw [Option.some.inj met] at there
          rw [plain _ there] at folder
          cases folder
        · exact not_passesFolder plain path passed

/-- A regular file that no settings file on the way leads to does not matter. -/
theorem discoverSettings_eq_of_file
    (plain : ∀ entry, system.root.at? target = some entry → entry.isFolder = false)
    (plainOther : ∀ entry, other.root.at? target = some entry → entry.isFolder = false)
    (aside : ∀ file ∈ system.consulted path,
      system.names? file ≠ some target ∧ other.names? file ≠ some target) :
    other.discoverSettings path = system.discoverSettings path := by
  apply discoverSettings_congr
  · intro file known
    obtain ⟨apart, apartOther⟩ := aside file known
    obtain ⟨folder, rfl⟩ := exists_of_mem_consulted known
    apply toOption_loadSettings_eq same (bytes_join_settingsFileName_ne folder)
    · rintro (met | met)
      · exact absurd met apart
      · exact absurd met apartOther
    · rintro (passed | passed)
      · exact absurd passed (not_passesFolder plain _)
      · exact absurd passed (not_passesFolder plainOther _)
  · intro file
    exact unloadable_below_file same file plainOther

/-- It does not matter which file that cannot be loaded stands in a place, as long as none that can
be loaded is reached through it. -/
theorem discoverSettings_eq_of_unloadable
    (ends : ∀ file ∈ path.join settingsFileName :: system.consulted path,
      system.names? file = some target ∨ other.names? file = some target →
        system.Unloadable file ∧ other.Unloadable file)
    (passes : ∀ file ∈ path.join settingsFileName :: system.consulted path,
      system.PassesFolder target file ∨ other.PassesFolder target file →
        system.Unloadable file ∧ other.Unloadable file) :
    other.discoverSettings path = system.discoverSettings path := by
  have agree {folder : Path} (known : folder.join settingsFileName ∈
      path.join settingsFileName :: system.consulted path) :=
    toOption_loadSettings_eq same (bytes_join_settingsFileName_ne folder) (ends _ known)
      (passes _ known)
  apply discoverSettings_congr
  · intro file known
    obtain ⟨folder, rfl⟩ := exists_of_mem_consulted known
    exact agree (List.mem_cons_of_mem _ known)
  · intro file
    obtain ⟨cause, failed⟩ := exists_find_join_of_isFile file relative_settingsFileName
    rw [unloadable_iff, agree List.mem_cons_self, ← unloadable_iff]
    exact unloadable_of_error failed

end Replacing

/-- The settings of a path are those of the nearest settings file that can be loaded, where the
search goes up from the path, or from the one above it when the path is that of a file, until there
is no path above. Regular files that the search does not look at do not matter. Nor does it matter
which unusable thing stands in the place of a settings file, or whether anything does, unless a
settings file that can be loaded is reached through a folder there. -/
theorem discoverSettings_nearest (system : FileSystem) (path : Path) :
    let start := system.searchStart path
    (system.isFile path = true → path.parent? = some start) ∧
      (system.isFile path = false → start = path) ∧
      start.ancestors.head? = some start ∧
      start.ancestors.IsChain (fun lower upper => lower.parent? = some upper) ∧
      (∀ last ∈ start.ancestors.getLast?, last.parent? = none) ∧
      ((∃ front folder back text settings, start.ancestors = front ++ folder :: back ∧
          (∀ nearer ∈ front, system.Unloadable (nearer.join settingsFileName)) ∧
          system.readText (folder.join settingsFileName) = .ok text ∧
          Settings.parse? text = some settings ∧
          system.loadSettings (folder.join settingsFileName) =
            .ok (system.discoverSettings path) ∧
          system.discoverSettings path =
            { settings with source? := some (folder.join settingsFileName) }) ∨
        (∀ folder ∈ start.ancestors, system.Unloadable (folder.join settingsFileName)) ∧
          system.discoverSettings path = {}) ∧
      (∀ (other : FileSystem) (target : List RawText), SameOutside target system other →
        (∀ entry, system.root.at? target = some entry → entry.isFolder = false) →
        (∀ entry, other.root.at? target = some entry → entry.isFolder = false) →
        (∀ file ∈ system.consulted path,
          system.names? file ≠ some target ∧ other.names? file ≠ some target) →
        other.discoverSettings path = system.discoverSettings path) ∧
      ∀ (other : FileSystem) (target : List RawText), SameOutside target system other →
        (∀ file ∈ path.join settingsFileName :: system.consulted path,
          system.names? file = some target ∨ other.names? file = some target →
            system.Unloadable file ∧ other.Unloadable file) →
        (∀ file ∈ path.join settingsFileName :: system.consulted path,
          system.PassesFolder target file ∨ other.PassesFolder target file →
            system.Unloadable file ∧ other.Unloadable file) →
        other.discoverSettings path = system.discoverSettings path := by
  intro start
  obtain ⟨head, chain, last⟩ := start.ancestors_chain
  refine ⟨?_, ?_, head, chain, last, system.discoverSettings_cases path, ?_, ?_⟩
  · intro file
    obtain ⟨upper, above⟩ := exists_parent?_of_isFile file
    show path.parent? = some (system.searchStart path)
    rw [searchStart, if_pos file, above, Option.getD_some]
  · intro folder
    show system.searchStart path = path
    rw [searchStart, folder, if_neg Bool.false_ne_true]
  · intro other target same plain plainOther aside
    exact discoverSettings_eq_of_file same plain plainOther aside
  · intro other target same ends passes
    exact discoverSettings_eq_of_unloadable same ends passes

section Examples

/-- A project with settings, and with a settings file in a folder that cannot be understood. -/
def brokenInner : FileSystem :=
  ⟨.folder [(".dupscan.toml", .file "[dupscan]\nignore = [\"x\"]\n".toUTF8),
    ("src", .folder [(".dupscan.toml", .file "[".toUTF8)])], []⟩

/-- The project without the settings file that cannot be understood. -/
def withoutInner : FileSystem :=
  brokenInner.remove ⟨"src/.dupscan.toml"⟩

/-- The project with one more file. -/
def withNotes : FileSystem :=
  brokenInner.write ⟨"src/notes"⟩ (.file "[".toUTF8)

/-- The outer settings apply in all three. -/
theorem discoverSettings_nearest_brokenInner :
    SameOutside ["src", ".dupscan.toml"] brokenInner withoutInner ∧
      SameOutside ["src", "notes"] brokenInner withNotes ∧
      (brokenInner.discoverSettings ⟨"src"⟩).source? = some ⟨".dupscan.toml"⟩ ∧
      withoutInner.discoverSettings ⟨"src"⟩ = brokenInner.discoverSettings ⟨"src"⟩ ∧
      withNotes.discoverSettings ⟨"src"⟩ = brokenInner.discoverSettings ⟨"src"⟩ := by
  have without : SameOutside ["src", ".dupscan.toml"] brokenInner withoutInner :=
    sameOutside_remove brokenInner ⟨"src/.dupscan.toml"⟩ (by decide) rfl rfl
  have notes : SameOutside ["src", "notes"] brokenInner withNotes :=
    sameOutside_write brokenInner ⟨"src/notes"⟩ (by decide) rfl rfl _
  have consulted : brokenInner.consulted ⟨"src"⟩ =
      [⟨"src/.dupscan.toml"⟩, ⟨".dupscan.toml"⟩] := by
    decide +kernel
  obtain ⟨-, -, -, -, -, -, aside, replaced⟩ := discoverSettings_nearest brokenInner ⟨"src"⟩
  refine ⟨without, notes, by decide +kernel, ?_, ?_⟩
  · have joined : (⟨"src"⟩ : Path).join settingsFileName = ⟨"src/.dupscan.toml"⟩ := by decide
    apply replaced _ _ without
    · rw [consulted, joined]
      simp only [unloadable_iff]
      decide +kernel
    · intro file _ passed
      exfalso
      rcases passed with passed | passed
      · refine not_passesFolder ?_ file passed
        intro entry there
        obtain rfl := Option.some.inj there
        rfl
      · refine not_passesFolder ?_ file passed
        intro entry there
        cases there
  · apply aside _ _ notes
    · intro entry there
      cases there
    · intro entry there
      obtain rfl := Option.some.inj there
      rfl
    · rw [consulted]
      decide +kernel

/-- A folder with the name of a settings file, next to a folder with settings. -/
def folderNamedSettings : FileSystem :=
  ⟨.folder [("a", .folder [(".dupscan.toml", .folder []),
    ("c", .folder [(".dupscan.toml", .file "[dupscan]\nignore = [\"x\"]\n".toUTF8)])])], []⟩

/-- The folders without the one that has the name of a settings file. -/
def withoutNamed : FileSystem :=
  folderNamedSettings.remove ⟨"a/.dupscan.toml"⟩

/-- A path can lead through a folder with the name of a settings file. No settings can be loaded
from this folder, but when it is gone, the settings behind it are not found any more. -/
theorem discoverSettings_withoutNamed_ne :
    let target : List RawText := ["a", ".dupscan.toml"]
    SameOutside target folderNamedSettings withoutNamed ∧
      (∀ file ∈ folderNamedSettings.consulted ⟨"a/.dupscan.toml/../c/.."⟩,
        folderNamedSettings.names? file = some target ∨
            withoutNamed.names? file = some target →
          folderNamedSettings.Unloadable file ∧ withoutNamed.Unloadable file) ∧
      folderNamedSettings.names? ⟨"a/.dupscan.toml/../c/../.dupscan.toml"⟩ = some target ∧
      withoutNamed.root.at? target = none ∧
      withoutNamed.discoverSettings ⟨"a/.dupscan.toml/../c/.."⟩ ≠
        folderNamedSettings.discoverSettings ⟨"a/.dupscan.toml/../c/.."⟩ := by
  intro target
  have consulted : folderNamedSettings.consulted ⟨"a/.dupscan.toml/../c/.."⟩ =
      [⟨"a/.dupscan.toml/../c/../.dupscan.toml"⟩, ⟨"a/.dupscan.toml/../c/.dupscan.toml"⟩] := by
    decide +kernel
  refine ⟨sameOutside_remove folderNamedSettings ⟨"a/.dupscan.toml"⟩ (by decide) rfl rfl, ?_,
    by decide +kernel, rfl, by decide +kernel⟩
  rw [consulted]
  simp only [unloadable_iff]
  decide +kernel

end Examples

end FileSystem

end DuplicateLogic
