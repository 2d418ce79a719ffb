import DuplicateLogic.Proofs.FileByFile
import DuplicateLogic.Proofs.PathParts
import Mathlib.Data.List.Infix
import Mathlib.Data.List.Nodup

/-! # What a search finds

A search of a folder finds the tree files below it that are reached without passing through an
excluded folder and without meeting anything that is rejected, whatever the rules are that reject.
Each of them is found once, under the path of the folder with the names that lead to the file. The
folder itself may be excluded, hidden or ignored. -/

namespace DuplicateLogic

/-- The name of a tree file is a text with the ending of one. -/
theorem RawText.isTreeName_iff {name : RawText} :
    name.isTreeName = true ↔
      ∃ text : String, name = text ∧ treeFileSuffix <:+ text.toList := by
  rw [isTreeName, Option.any_eq_true]
  simp only [text?_eq_some_iff, List.isSuffixOf_iff_suffix]

theorem Path.isTreeFile_descend {path : Path} (solid : path.raw.bytes ≠ [])
    {names : List RawText} (proper : ∀ name ∈ names, IsName name) (some : names ≠ []) :
    (path.descend names).isTreeFile = true ↔ ∃ name ∈ names.getLast?, name.isTreeName = true := by
  rw [isTreeFile, fileName?_descend solid proper some, Option.any_eq_true]
  rfl

/-- Folders are excluded when they were before and when they are among those that are added. -/
theorem mem_addFolders {folder : String} {folders more : List String} :
    folder ∈ addFolders folders more ↔ folder ∈ folders ∨ folder ∈ more := by
  induction more generalizing folders with
  | nil => simp [addFolders]
  | cons next rest ih =>
      have step : addFolders folders (next :: rest) = addFolders (folders.insert next) rest := rfl
      rw [step, ih, List.mem_insert_iff, List.mem_cons, or_assoc, or_left_comm]

/-- Entries of a tree: the names in a folder are different and proper. -/
inductive Entry.IsTree : Entry → Prop
  | file (bytes : ByteArray) : IsTree (.file bytes)
  | folder {entries : List (RawText × Entry)} (distinct : (entries.map (·.1)).Nodup)
      (names : ∀ item ∈ entries, Path.IsName item.1)
      (inner : ∀ item ∈ entries, IsTree item.2) : IsTree (.folder entries)

namespace Entry

theorem mem_of_child? {entries : List (RawText × Entry)} {name : RawText} {inner : Entry}
    (found : (folder entries).child? name = some inner) : (name, inner) ∈ entries := by
  obtain ⟨front, back, rfl, -⟩ := List.lookup_eq_some_iff.mp found
  simp

/-- In a folder of a tree every entry is the one with its name. -/
theorem child?_of_mem {entries : List (RawText × Entry)} (distinct : (entries.map (·.1)).Nodup)
    {item : RawText × Entry} (known : item ∈ entries) :
    (folder entries).child? item.1 = some item.2 := by
  obtain ⟨front, back, rfl⟩ := List.append_of_mem known
  rw [child?, Entry.entries, List.lookup_eq_some_iff]
  refine ⟨front, back, rfl, ?_⟩
  intro other before
  rw [List.map_append, List.nodup_append] at distinct
  have apart := distinct.2.2 other.1 (List.mem_map_of_mem before) item.1 (by simp)
  simpa using apart.symm

namespace IsTree

variable {entry inner : Entry} {names : List RawText}

/-- What is in a folder of a tree is named properly and is a tree. -/
theorem of_child? (tree : entry.IsTree) {name : RawText} (found : entry.child? name = some inner) :
    Path.IsName name ∧ inner.IsTree := by
  cases tree with
  | file bytes => cases found
  | folder distinct proper trees =>
      have known := mem_of_child? found
      exact ⟨proper (name, inner) known, trees (name, inner) known⟩

theorem at? (tree : entry.IsTree) (found : entry.at? names = some inner) :
    (∀ name ∈ names, Path.IsName name) ∧ inner.IsTree := by
  induction names generalizing entry with
  | nil =>
      obtain rfl := Option.some.inj found
      exact ⟨by simp, tree⟩
  | cons name rest ih =>
      obtain ⟨child, known, below⟩ := Option.bind_eq_some_iff.mp found
      obtain ⟨proper, childTree⟩ := tree.of_child? known
      obtain ⟨later, innerTree⟩ := ih childTree below
      exact ⟨List.forall_mem_cons.mpr ⟨proper, later⟩, innerTree⟩

end IsTree

end Entry

namespace Discovery

/-- An excluded folder has one of the excluded texts as its name. -/
theorem isExcluded_iff {excluded : List String} {name : RawText} :
    isExcluded excluded name = true ↔ ∃ folder ∈ excluded, name = folder := by
  rw [isExcluded, Option.any_eq_true]
  simp only [RawText.text?_eq_some_iff, List.contains_iff_mem, and_comm]

/-- Whether a search that starts at some names gets along further ones: it enters no excluded
folder and meets nothing that is rejected. -/
def Reaches (rejects : List RawText → Bool) (excluded : List String)
    (start names : List RawText) : Prop :=
  (∀ folder ∈ excluded, (folder : RawText) ∉ names.dropLast) ∧
    ∀ front, front ≠ [] → front <+: names → rejects (start ++ front) = false

variable {rejects : List RawText → Bool} {excluded others : List String}
  {start names : List RawText} {name : RawText} {entry : Entry}

theorem reaches_nil : Reaches rejects excluded start [] := by
  refine ⟨by simp, ?_⟩
  intro front some within
  exact absurd (List.prefix_nil.mp within) some

/-- One step further: what is entered is not rejected, and not excluded when it has to be
entered. -/
theorem reaches_cons :
    Reaches rejects excluded start (name :: names) ↔
      rejects (start ++ [name]) = false ∧ (names ≠ [] → isExcluded excluded name = false) ∧
        Reaches rejects excluded (start ++ [name]) names := by
  have between (some : names ≠ []) : (name :: names).dropLast = name :: names.dropLast :=
    List.dropLast_cons_of_ne_nil some
  constructor
  · rintro ⟨passed, free⟩
    refine ⟨free [name] (by simp) ⟨names, rfl⟩, ?_, ?_, ?_⟩
    · intro some
      rw [Bool.eq_false_iff, ne_eq, isExcluded_iff]
      rintro ⟨folder, listed, rfl⟩
      apply passed folder listed
      rw [between some]
      exact List.mem_cons_self
    · intro folder listed known
      apply passed folder listed
      rw [between (by rintro rfl; cases known)]
      exact List.mem_cons_of_mem name known
    · intro front some within
      rw [List.append_assoc]
      exact free ([name] ++ front) (by simp) (by simpa using within)
  · rintro ⟨first, entered, passed, free⟩
    constructor
    · intro folder listed known
      by_cases none : names = []
      · subst none
        cases known
      · rw [between none, List.mem_cons] at known
        rcases known with same | later
        · have excluded := isExcluded_iff.mpr ⟨folder, listed, same.symm⟩
          rw [entered none] at excluded
          cases excluded
        · exact passed folder listed later
    · intro front some within
      obtain ⟨c, front, rfl⟩ := List.exists_cons_of_ne_nil some
      obtain ⟨rfl, further⟩ := List.cons_prefix_cons.mp within
      by_cases none : front = []
      · rwa [none]
      · have later := free front none further
        rwa [List.append_assoc] at later

theorem searchAll_eq_flatMap (rejects : List RawText → Bool) (excluded : List String)
    (names : List RawText) (path : Path) (entries : List (RawText × Entry)) :
    searchAll rejects excluded names path entries = entries.flatMap fun item =>
      if passesOver rejects excluded names item.1 item.2 then []
      else search rejects excluded (names ++ [item.1]) (path.join ⟨item.1⟩) item.2 := by
  induction entries with
  | nil => rfl
  | cons item rest ih => rw [searchAll, ih, List.flatMap_cons]

mutual

/-- With more folders excluded a search finds some of the same files, in the same order. -/
theorem search_sublist (more : ∀ folder ∈ others, folder ∈ excluded) (names : List RawText)
    (path : Path) : (entry : Entry) →
      (search rejects excluded names path entry).Sublist (search rejects others names path entry)
  | .file bytes => by
      rw [search, search]
  | .folder entries => by
      rw [search, search]
      exact searchAll_sublist more names path entries

theorem searchAll_sublist (more : ∀ folder ∈ others, folder ∈ excluded) (names : List RawText)
    (path : Path) : (entries : List (RawText × Entry)) →
      (searchAll rejects excluded names path entries).Sublist
        (searchAll rejects others names path entries)
  | [] => List.Sublist.refl _
  | (name, entry) :: rest => by
      rw [searchAll, searchAll]
      apply List.Sublist.append ?_ (searchAll_sublist more names path rest)
      by_cases passed : passesOver rejects others names name entry = true
      · have also : passesOver rejects excluded names name entry = true := by
          unfold passesOver at passed ⊢
          simp only [Bool.or_eq_true, Bool.and_eq_true, isExcluded_iff] at passed ⊢
          exact passed.imp_right fun ⟨folder, text, listed, same⟩ =>
            ⟨folder, text, more text listed, same⟩
        rw [if_pos passed, if_pos also]
      · rw [if_neg passed]
        split
        · exact List.nil_sublist _
        · exact search_sublist more (names ++ [name]) (path.join ⟨name⟩) entry

end

/-- A search depends on which folders are excluded only. -/
theorem search_congr (same : ∀ folder, folder ∈ excluded ↔ folder ∈ others)
    (names : List RawText) (path : Path) (entry : Entry) :
    search rejects excluded names path entry = search rejects others names path entry :=
  (search_sublist (fun folder => (same folder).mpr) names path entry).antisymm
    (search_sublist (fun folder => (same folder).mp) names path entry)

section Found

variable {path : Path}

theorem mem_search_file_iff {bytes : ByteArray} {file : Path} :
    file ∈ search rejects excluded start path (.file bytes) ↔
      file = path ∧ path.isTreeFile = true := by
  rw [search]
  split
  next tree => simp [tree]
  next other => simp [other]

/-- What a search finds in a folder is found in one of its entries, which is not rejected and not an
excluded folder. -/
theorem mem_search_folder_iff {entries : List (RawText × Entry)} {file : Path} :
    file ∈ search rejects excluded start path (.folder entries) ↔
      ∃ item ∈ entries, rejects (start ++ [item.1]) = false ∧
        (item.2.isFolder = true → isExcluded excluded item.1 = false) ∧
        file ∈ search rejects excluded (start ++ [item.1]) (path.join ⟨item.1⟩) item.2 := by
  rw [search, searchAll_eq_flatMap, List.mem_flatMap]
  apply exists_congr
  intro item
  apply and_congr_right
  intro known
  rw [passesOver]
  cases rejects (start ++ [item.1]) with
  | true => simp
  | false => cases item.2.isFolder <;> cases isExcluded excluded item.1 <;> simp

/-- The files that a search finds are the tree files that it reaches, under the names that lead to
them. -/
theorem mem_search_iff (tree : entry.IsTree) (solid : path.raw.bytes ≠ []) {file : Path} :
    file ∈ search rejects excluded start path entry ↔
      ∃ names bytes, file = path.descend names ∧ entry.at? names = some (.file bytes) ∧
        file.isTreeFile = true ∧ Reaches rejects excluded start names := by
  induction tree generalizing start path with
  | file bytes =>
      rw [mem_search_file_iff]
      constructor
      · rintro ⟨rfl, tree⟩
        exact ⟨[], bytes, rfl, rfl, tree, reaches_nil⟩
      · rintro ⟨names, bytes', rfl, found, tree, -⟩
        cases names with
        | nil => exact ⟨rfl, tree⟩
        | cons name rest => cases found
  | @folder entries distinct proper inner ih =>
      rw [mem_search_folder_iff]
      constructor
      · rintro ⟨item, known, kept, entered, found⟩
        obtain ⟨names, bytes, rfl, here, tree, reached⟩ := (ih item known
          (Path.bytes_join_name_ne solid (proper item known))).mp found
        refine ⟨item.1 :: names, bytes, rfl, ?_, tree, reaches_cons.mpr ⟨kept, ?_, reached⟩⟩
        · rw [Entry.at?, Entry.child?_of_mem distinct known]
          exact here
        · intro some
          exact entered (Entry.isFolder_of_at? some here)
      · rintro ⟨names, bytes, rfl, found, tree, reached⟩
        cases names with
        | nil => cases found
        | cons name rest =>
            obtain ⟨inner, here, further⟩ := Option.bind_eq_some_iff.mp found
            have known := Entry.mem_of_child? here
            obtain ⟨kept, entered, reached⟩ := reaches_cons.mp reached
            refine ⟨(name, inner), known, kept, ?_, (ih _ known
              (Path.bytes_join_name_ne solid (proper _ known))).mpr
                ⟨rest, bytes, rfl, further, tree, reached⟩⟩
            intro folder
            apply entered
            rintro rfl
            obtain rfl := Option.some.inj further
            cases folder

/-- A search finds no file twice. -/
theorem nodup_search (tree : entry.IsTree) (solid : path.raw.bytes ≠ []) :
    (search rejects excluded start path entry).Nodup := by
  induction tree generalizing start path with
  | file bytes =>
      rw [search]
      split
      · exact List.nodup_singleton path
      · exact List.nodup_nil
  | @folder entries distinct proper inner ih =>
      rw [search, searchAll_eq_flatMap, List.nodup_flatMap]
      have longer {item : RawText × Entry} (known : item ∈ entries) :
          (path.join ⟨item.1⟩).raw.bytes ≠ [] :=
        Path.bytes_join_name_ne solid (proper item known)
      have named {item : RawText × Entry} (known : item ∈ entries) {file : Path}
          (found : file ∈ if passesOver rejects excluded start item.1 item.2 then []
            else search rejects excluded (start ++ [item.1]) (path.join ⟨item.1⟩) item.2) :
          ∃ names, file = path.descend (item.1 :: names) ∧
            ∀ name ∈ item.1 :: names, Path.IsName name := by
        split at found
        · cases found
        · obtain ⟨names, bytes, same, here, -⟩ :=
            (mem_search_iff (inner item known) (longer known)).mp found
          have later := ((inner item known).at? here).1
          exact ⟨names, same, List.forall_mem_cons.mpr ⟨proper item known, later⟩⟩
      constructor
      · intro item known
        split
        · exact List.nodup_nil
        · exact ih item known (longer known)
      · apply (List.pairwise_map.mp distinct).imp_of_mem
        intro first second known knownSecond apart file found foundSecond
        obtain ⟨names, rfl, properNames⟩ := named known found
        obtain ⟨others, same, properOthers⟩ := named knownSecond foundSecond
        have alike := Path.descend_inj solid properNames properOthers
          (congrArg Path.components same)
        exact apart (List.cons.inj alike).1

end Found

/-- A part of a list without repeats is known from which items are in it. -/
theorem eq_filter_of_sublist {some all : List Path} {kept : Path → Bool} (part : some.Sublist all)
    (once : all.Nodup) (same : ∀ path ∈ all, path ∈ some ↔ kept path = true) :
    some = all.filter kept := by
  have still : some.filter kept = some :=
    List.filter_eq_self.mpr fun path known => (same path (part.subset known)).mp known
  have within : some.Sublist (all.filter kept) := by
    rw [← still]
    exact part.filter kept
  apply within.eq_of_length
  apply List.Perm.length_eq
  rw [List.perm_ext_iff_of_nodup (once.sublist part) (once.filter kept)]
  intro path
  rw [List.mem_filter]
  constructor
  · intro known
    exact ⟨part.subset known, (same path (part.subset known)).mp known⟩
  · rintro ⟨known, passes⟩
    exact (same path known).mpr passes

/-- What a search of a folder is to find: every file below it once, under one path, exactly when
the file is a tree file that can be reached from the folder. -/
structure Selects (rejects : List RawText → Bool) (excluded : List String) (path : Path)
    (entry : Entry) (files : List Path) : Prop where
  once : files.Nodup
  located : ∀ file ∈ files, ∃! names, file = path.descend names ∧
    ∃ bytes, entry.at? names = some (.file bytes)
  selected : ∀ names bytes, entry.at? names = some (.file bytes) →
    (path.descend names ∈ files ↔
      (∃ text : String, names.getLast? = some (text : RawText) ∧ treeFileSuffix <:+ text.toList) ∧
        (∀ folder ∈ excluded, (folder : RawText) ∉ names.dropLast) ∧
        ∀ front, front ≠ [] → front <+: names → rejects front = false)

section Below

variable {path : Path} (tree : entry.IsTree) (folder : entry.isFolder = true)
  (solid : path.raw.bytes ≠ [])

include tree folder in
/-- A file below a folder is reached by names, and they are proper. -/
theorem names_of_at? {bytes : ByteArray} (here : entry.at? names = some (.file bytes)) :
    names ≠ [] ∧ ∀ name ∈ names, Path.IsName name := by
  constructor
  · rintro rfl
    rw [Option.some.inj here] at folder
    cases folder
  · exact (tree.at? here).1

include tree folder solid

/-- Below a folder a search finds the files with the name of a tree file that it reaches. -/
theorem mem_search_below_iff {file : Path} :
    file ∈ search rejects excluded [] path entry ↔
      ∃ names bytes, file = path.descend names ∧ entry.at? names = some (.file bytes) ∧
        (∃ name ∈ names.getLast?, name.isTreeName = true) ∧ Reaches rejects excluded [] names := by
  rw [mem_search_iff tree solid]
  apply exists_congr
  intro names
  apply exists_congr
  intro bytes
  apply and_congr_right
  rintro rfl
  apply and_congr_right
  intro here
  obtain ⟨some, proper⟩ := names_of_at? tree folder here
  rw [Path.isTreeFile_descend solid proper some]

theorem descend_inj_of_at? {others : List RawText} {bytes bytesOther : ByteArray}
    (here : entry.at? names = some (.file bytes))
    (there : entry.at? others = some (.file bytesOther))
    (same : (path.descend names).components = (path.descend others).components) :
    names = others :=
  Path.descend_inj solid (names_of_at? tree folder here).2 (names_of_at? tree folder there).2 same

theorem selects_search :
    Selects rejects excluded path entry (search rejects excluded [] path entry) where
  once := nodup_search tree solid
  located := by
    intro file known
    obtain ⟨names, bytes, rfl, here, -⟩ := (mem_search_below_iff tree folder solid).mp known
    refine ⟨names, ⟨rfl, bytes, here⟩, ?_⟩
    rintro others ⟨same, bytesOther, there⟩
    exact descend_inj_of_at? tree folder solid there here (congrArg Path.components same.symm)
  selected := by
    intro names bytes here
    have named : (∃ name ∈ names.getLast?, name.isTreeName = true) ↔
        ∃ text : String, names.getLast? = some (text : RawText) ∧
          treeFileSuffix <:+ text.toList := by
      simp only [RawText.isTreeName_iff]
      constructor
      · rintro ⟨_, last, text, rfl, ends⟩
        exact ⟨text, last, ends⟩
      · rintro ⟨text, last, ends⟩
        exact ⟨text, last, text, rfl, ends⟩
    rw [mem_search_below_iff tree folder solid, ← named]
    constructor
    · rintro ⟨others, bytesOther, same, there, selected⟩
      rwa [descend_inj_of_at? tree folder solid here there (congrArg Path.components same)]
    · intro selected
      exact ⟨names, bytes, rfl, here, selected⟩

/-- Excluding more folders takes away the files that are found below one of them. -/
theorem search_addFolders (more : List String) :
    search rejects (addFolders excluded more) [] path entry =
      (search rejects excluded [] path entry).filter fun file =>
        decide (∀ folder ∈ more, .name folder ∉ file.foldersBelow path) := by
  apply eq_filter_of_sublist
  · apply search_sublist
    intro folder listed
    exact mem_addFolders.mpr (Or.inl listed)
  · exact nodup_search tree solid
  · intro file known
    obtain ⟨names, bytes, rfl, here, ends, passed, free⟩ :=
      (mem_search_below_iff tree folder solid).mp known
    have between : (path.descend names).foldersBelow path = names.dropLast.map .name :=
      Path.foldersBelow_descend solid (names_of_at? tree folder here).2
    have apart : (∀ folder ∈ more, .name folder ∉ (path.descend names).foldersBelow path) ↔
        ∀ folder ∈ more, (folder : RawText) ∉ names.dropLast := by
      rw [between]
      simp only [List.mem_map_of_injective fun _ _ => Path.Component.name.inj]
    rw [decide_eq_true_iff, apart, mem_search_below_iff tree folder solid]
    constructor
    · rintro ⟨others, bytesOther, same, there, -, passed, -⟩ excluded listed
      rw [descend_inj_of_at? tree folder solid here there (congrArg Path.components same)]
      exact passed excluded (mem_addFolders.mpr (Or.inr listed))
    · intro apart
      refine ⟨names, bytes, rfl, here, ends, ?_, free⟩
      intro excluded listed
      rcases mem_addFolders.mp listed with before | later
      · exact passed excluded before
      · exact apart excluded later

end Below

section InFolder

variable {system : FileSystem} {path : Path} {place : Location} (tree : system.root.IsTree)
  (found : system.find path = .ok place)

include found in
theorem inFolder_eq_search (excluded : List String) :
    inFolder system excluded path =
      search (fun names => isRejected system.root (place.names ++ names)) excluded [] path
        place.entry := by
  rw [inFolder, found]

include tree found in
theorem isTree_of_find : place.entry.IsTree :=
  (tree.at? (FileSystem.at?_names_of_find found)).2

include tree found in
/-- A folder that is asked for alone gives the files that are found in it. -/
theorem collect_perm_inFolder (folder : place.entry.isFolder = true) :
    (collect system excluded [path]).Perm (inFolder system excluded path) := by
  have solid := FileSystem.solid_of_find found
  have inner := isTree_of_find tree found
  have folder? : system.isFolder path = true := by
    rw [FileSystem.isFolder, found]
    exact folder
  have apart : (inFolder system excluded path).Pairwise fun first second =>
      first.components ≠ second.components := by
    rw [inFolder_eq_search found]
    apply (nodup_search inner solid).imp_of_mem
    intro first second known knownSecond different same
    obtain ⟨names, _, rfl, here, -⟩ := (mem_search_below_iff inner folder solid).mp known
    obtain ⟨others, _, rfl, there, -⟩ := (mem_search_below_iff inner folder solid).mp knownSecond
    apply different
    rw [descend_inj_of_at? inner folder solid here there same]
  have sorted := List.mergeSort_perm (inFolder system excluded path) Path.atMost
  have apartSorted := (sorted.pairwise_iff Ne.symm).mpr apart
  unfold collect
  simp only [List.flatMap_cons, List.flatMap_nil, List.append_nil, folder?, if_true]
  rw [dropRepeats_of_pairwise apartSorted]
  exact sorted

end InFolder

/-- Whether two analysers search alike, whatever is rejected. -/
structure SearchAlike (first second : Analyzer) : Prop where
  search_eq : ∀ rejects names path entry,
    search rejects first.excluded names path entry = search rejects second.excluded names path entry
  collect_eq : ∀ system paths, first.collect system paths = second.collect system paths

/-- Analysers that exclude the same folders search alike. -/
theorem searchAlike_of_folders {first second : Analyzer}
    (same : ∀ folder, folder ∈ first.excluded ↔ folder ∈ second.excluded) :
    SearchAlike first second where
  search_eq rejects names path entry := search_congr same names path entry
  collect_eq system paths := by
    have found (path : Path) :
        inFolder system first.excluded path = inFolder system second.excluded path := by
      unfold inFolder
      split
      · rfl
      · exact search_congr same _ _ _
    simp only [Analyzer.collect, collect, found]

/-- A folder with a tree file, a hidden one, one whose name is no text, and one further down. -/
def outputEntry : Entry :=
  .folder [("a.tree.json", .file "x".toUTF8), (".b.tree.json", .file "y".toUTF8),
    (⟨0xFF :: (RawText.ofString ".tree.json").bytes⟩, .file "v".toUTF8),
    ("inner", .folder [("c.tree.json", .file "z".toUTF8)])]

/-- The folder under an excluded name. -/
def outputFolder : FileSystem :=
  ⟨.folder [("target", outputEntry)], []⟩

theorem isTree_outputFolder : outputFolder.root.IsTree := by
  have inner : (Entry.folder [("c.tree.json", .file "z".toUTF8)]).IsTree := by
    refine .folder (by decide) (by decide) ?_
    exact List.forall_mem_singleton.mpr (.file _)
  have output : outputEntry.IsTree := by
    refine .folder (by decide) (by decide) ?_
    simp only [List.forall_mem_cons, List.not_mem_nil, false_imp_iff, implies_true, and_true]
    exact ⟨.file _, .file _, .file _, inner⟩
  refine .folder (by decide) (by decide) ?_
  exact List.forall_mem_singleton.mpr output

end Discovery

end DuplicateLogic
