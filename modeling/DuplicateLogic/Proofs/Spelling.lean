import DuplicateLogic.Proofs.FileByFile
import DuplicateLogic.Proofs.FileOrder
import DuplicateLogic.Proofs.PathParts
import DuplicateLogic.Proofs.TextLines
import Mathlib.Data.Fintype.Card
import Mathlib.Data.List.Pairwise

/-! # Files under two spellings

Paths that differ in inner dots and repeated separators are the same, so such a file is collected
once. A dot at the start is a component, so a file that is reached both from a path with such a
dot and from one without it is collected under two spellings, and under no third. A search keeps
the start of the path it is given, so which of the two spellings occur can be told from the paths
that are asked for. -/

namespace DuplicateLogic

open RawText (slash dot)

namespace Path

/-- The components of a path that lead anywhere: all but a dot at the start. -/
def steps (path : Path) : List Component :=
  path.components.filter fun component => component ≠ .current

/-- Whether a path starts with a dot. -/
def isDotted (path : Path) : Bool :=
  path.components.head? = some .current

/-- The bytes before the first separator. -/
def firstPart (path : Path) : List UInt8 :=
  path.raw.bytes.takeWhile (· ≠ slash)

/-- A dot is a component at the start only. -/
private theorem current_notMem_named (parts : List (List UInt8)) :
    Component.current ∉ parts.map Component.ofPart := by
  intro known
  obtain ⟨part, -, same⟩ := List.mem_map.mp known
  unfold Component.ofPart at same
  split at same <;> cases same

private theorem current_notMem_tail (path : Path) : .current ∉ path.components.tail := by
  unfold components
  dsimp only
  split
  · exact current_notMem_named _
  · exact current_notMem_named _
  · exact fun known => current_notMem_named _ (List.mem_of_mem_tail known)

/-- The components of a path are its steps, behind a dot when it starts with one. -/
theorem components_eq (path : Path) :
    path.components = if path.isDotted then .current :: path.steps else path.steps := by
  have inner := current_notMem_tail path
  unfold isDotted steps
  generalize path.components = components at inner ⊢
  cases components with
  | nil => rfl
  | cons first rest =>
      have kept : (rest.filter fun component => component ≠ .current) = rest := by
        rw [List.filter_eq_self]
        intro component known
        simpa using ne_of_mem_of_not_mem known inner
      by_cases dotted : first = .current
      · simpa [dotted] using kept.symm
      · simpa [dotted] using kept.symm

theorem components_eq_iff {first second : Path} :
    first.components = second.components ↔
      first.steps = second.steps ∧ first.isDotted = second.isDotted := by
  constructor
  · intro same
    rw [steps, steps, isDotted, isDotted, same]
    exact ⟨rfl, rfl⟩
  · rintro ⟨steps, dotted⟩
    rw [components_eq, components_eq, steps, dotted]

/-- A path starts with a dot when the bytes before its first separator are one. -/
theorem isDotted_iff (path : Path) : path.isDotted = true ↔ path.firstPart = [dot] := by
  have lead : path.isDotted = true ↔ path.split.1 = .current := by
    have body := current_notMem_named (path.split.2.filter fun part => !isIdle part)
    rw [isDotted, decide_eq_true_iff]
    unfold components
    dsimp only
    cases path.split.1 with
    | root => simp
    | current => simp
    | bare => simpa using fun starts => body (List.mem_of_mem_head? starts)
  rw [lead, firstPart, split]
  split
  next rest absolute => simp [absolute]
  next chars relative =>
    obtain ⟨parts, cut⟩ := Text.exists_splitOn_eq_cons slash path.raw.bytes
    rw [cut]
    split
    next rest same =>
      exact iff_of_true rfl (List.cons.inj same).1
    next other =>
      simp only [reduceCtorEq, false_iff]
      intro first
      exact other parts (by rw [first])

private theorem takeWhile_append_separator (front back : List UInt8) :
    (front ++ slash :: back).takeWhile (· ≠ slash) = front.takeWhile (· ≠ slash) := by
  rw [List.takeWhile_append]
  split
  next whole =>
    have all := (List.takeWhile_prefix _).eq_of_length whole
    rw [List.takeWhile_cons_of_neg (by simp), List.append_nil, all]
  · rfl

/-- Entering a folder keeps the start of its path. -/
theorem firstPart_join {base : Path} (solid : base.raw.bytes ≠ []) {name : RawText}
    (plain : slash ∉ name.bytes) : (base.join ⟨name⟩).firstPart = base.firstPart := by
  unfold join
  split
  next rest absolute => exact absurd (absolute ▸ List.mem_cons_self) plain
  · split
    next ends =>
      have ends : base.raw.bytes.getLast? = some slash := by simpa [solid] using ends
      obtain ⟨front, split⟩ := List.getLast?_eq_some_iff.mp ends
      rw [firstPart, firstPart, split, List.append_assoc, List.singleton_append,
        takeWhile_append_separator, takeWhile_append_separator]
    next open_ => exact takeWhile_append_separator _ _

end Path

/-- Entries without a separator in any name. -/
inductive Entry.WellNamed : Entry → Prop
  | file (bytes : ByteArray) : WellNamed (.file bytes)
  | folder {entries : List (RawText × Entry)} (names : ∀ item ∈ entries, slash ∉ item.1.bytes)
      (inner : ∀ item ∈ entries, WellNamed item.2) : WellNamed (.folder entries)

theorem Entry.WellNamed.at? {entry inner : Entry} (named : entry.WellNamed) {names : List RawText}
    (found : entry.at? names = some inner) : inner.WellNamed := by
  induction names generalizing entry with
  | nil =>
      obtain rfl := Option.some.inj found
      exact named
  | cons name rest ih =>
      obtain ⟨child, known, below⟩ := Option.bind_eq_some_iff.mp found
      cases named with
      | file bytes => cases known
      | folder names inner =>
          obtain ⟨front, back, rfl, -⟩ := List.lookup_eq_some_iff.mp known
          exact ih (inner (name, child) (by simp)) below

namespace Discovery

variable {system : FileSystem} {excluded : List String} {paths : List Path}

/-- The files that one path stands for. -/
def standsFor (system : FileSystem) (excluded : List String) (path : Path) : List Path :=
  if system.isFolder path then inFolder system excluded path else [path]

/-- A search keeps the start of the path of its folder. -/
theorem firstPart_of_mem_search {entry : Entry} (named : entry.WellNamed)
    {rejects : List RawText → Bool} {names : List RawText} {path file : Path}
    (solid : path.raw.bytes ≠ []) (found : file ∈ search rejects excluded names path entry) :
    file.firstPart = path.firstPart := by
  induction named generalizing names path with
  | file bytes =>
      rw [search] at found
      split at found
      · rw [List.mem_singleton.mp found]
      · cases found
  | @folder entries plain inner ih =>
      rw [search] at found
      induction entries with
      | nil => simp [searchAll] at found
      | cons item rest below =>
          obtain ⟨name, entry⟩ := item
          rw [searchAll, List.mem_append] at found
          rcases found with here | later
          · have plain : slash ∉ name.bytes := plain (name, entry) List.mem_cons_self
            split at here
            · cases here
            · have relative : name.bytes.head? ≠ some slash := fun starts =>
                plain (List.mem_of_mem_head? starts)
              rw [ih (name, entry) List.mem_cons_self (Path.bytes_join_ne solid relative) here,
                Path.firstPart_join solid plain]
          · exact below (fun item known => plain item (List.mem_cons_of_mem _ known))
              (fun item known => inner item (List.mem_cons_of_mem _ known))
              (fun item known => ih item (List.mem_cons_of_mem _ known)) later

/-- The files that a path stands for start with a dot when the path does. -/
theorem isDotted_of_mem_standsFor (named : system.root.WellNamed) {path file : Path}
    (stands : file ∈ standsFor system excluded path) : file.isDotted = path.isDotted := by
  have start : file.firstPart = path.firstPart := by
    unfold standsFor at stands
    split at stands
    next folder =>
      unfold inFolder at stands
      split at stands
      · cases stands
      next place found =>
        have solid := FileSystem.solid_of_find found
        exact firstPart_of_mem_search (named.at? (FileSystem.at?_names_of_find found)) solid stands
    · rw [List.mem_singleton.mp stands]
  rw [Bool.eq_iff_iff, Path.isDotted_iff, Path.isDotted_iff, start]

/-- Of paths with the same components one is kept. -/
theorem exists_mem_dropRepeats {files : List Path} {path : Path} (known : path ∈ files) :
    ∃ kept ∈ dropRepeats files, kept.components = path.components := by
  fun_induction dropRepeats files generalizing path with
  | case1 => cases known
  | case2 => exact ⟨path, known, rfl⟩
  | case3 first second rest same ih =>
      have same : first.components = second.components := by simpa [Path.same] using same
      rcases List.mem_cons.mp known with rfl | later
      · exact ih List.mem_cons_self
      rcases List.mem_cons.mp later with rfl | later
      · rw [← same]
        exact ih List.mem_cons_self
      · exact ih (List.mem_cons_of_mem _ later)
  | case4 first second rest different ih =>
      rcases List.mem_cons.mp known with rfl | later
      · exact ⟨path, List.mem_cons_self, rfl⟩
      · obtain ⟨kept, listed, same⟩ := ih later
        exact ⟨kept, List.mem_cons_of_mem _ listed, same⟩

/-- Every collected file is one that some path stands for. -/
theorem exists_of_mem_collect {file : Path} (known : file ∈ collect system excluded paths) :
    ∃ path ∈ paths, file ∈ standsFor system excluded path := by
  have listed := mem_of_mem_dropRepeats known
  rw [List.mem_mergeSort, List.mem_flatMap] at listed
  exact listed

/-- Every file that some path stands for is collected, perhaps under another spelling. -/
theorem exists_mem_collect {path file : Path} (asked : path ∈ paths)
    (stands : file ∈ standsFor system excluded path) :
    ∃ kept ∈ collect system excluded paths, kept.components = file.components := by
  apply exists_mem_dropRepeats
  rw [List.mem_mergeSort, List.mem_flatMap]
  exact ⟨path, asked, stands⟩

/-- Of two collected files with the same steps one starts with a dot and the other does not. -/
theorem collect_isDotted_ne (system : FileSystem) (excluded : List String) (paths : List Path) :
    (collect system excluded paths).Pairwise fun first second =>
      first.steps = second.steps → first.isDotted ≠ second.isDotted := by
  apply (collect_sorted system excluded paths).imp
  intro first second ordered steps dotted
  have same : first.same second = true := by
    rw [Path.same, beq_iff_eq, Path.components_eq_iff]
    exact ⟨steps, dotted⟩
  rw [← Path.compare_eq_iff_same] at same
  rw [Path.before, same] at ordered
  cases ordered

/-- Two files with the same steps, one with a dot at its start and one without, are both
collected. -/
theorem not_pairwise_collect {dotted bare first second : Path} (asked : dotted ∈ paths)
    (askedBare : bare ∈ paths) (stands : first ∈ standsFor system excluded dotted)
    (standsBare : second ∈ standsFor system excluded bare) (steps : first.steps = second.steps)
    (apart : first.isDotted ≠ second.isDotted) :
    ¬(collect system excluded paths).Pairwise fun first second => first.steps ≠ second.steps := by
  intro once
  obtain ⟨kept, known, same⟩ := exists_mem_collect asked stands
  obtain ⟨keptBare, knownBare, sameBare⟩ := exists_mem_collect askedBare standsBare
  obtain ⟨keptSteps, keptDotted⟩ := Path.components_eq_iff.mp same
  obtain ⟨bareSteps, bareDotted⟩ := Path.components_eq_iff.mp sameBare
  have different : kept ≠ keptBare := by
    rintro rfl
    exact apart (keptDotted.symm.trans bareDotted)
  have symmetric : Std.Symm fun first second : Path => first.steps ≠ second.steps :=
    ⟨fun _ _ different => different.symm⟩
  apply once.forall known knownBare different
  rw [keptSteps, bareSteps, steps]

/-- A file is collected at most twice, whatever the spellings of the paths that lead to it. It is
collected twice exactly when a path with a dot at its start and one without it both lead to it. -/
theorem collect_twice_iff (system : FileSystem) (excluded : List String) (paths : List Path)
    (named : system.root.WellNamed) :
    let files := collect system excluded paths
    (∀ steps : List Path.Component, files.countP (fun file => decide (file.steps = steps)) ≤ 2) ∧
    (files.Pairwise fun first second =>
      first.steps = second.steps → first.isDotted ≠ second.isDotted) ∧
    (¬(files.Pairwise fun first second => first.steps ≠ second.steps) ↔
      ∃ dotted ∈ paths, ∃ bare ∈ paths, dotted.isDotted = true ∧ bare.isDotted = false ∧
        ∃ first ∈ standsFor system excluded dotted, ∃ second ∈ standsFor system excluded bare,
          first.steps = second.steps) := by
  intro files
  have apart := collect_isDotted_ne system excluded paths
  refine ⟨?_, apart, ?_, ?_⟩
  · intro steps
    have flags : ((files.filter fun file => decide (file.steps = steps)).map
        (·.isDotted)).Nodup := by
      rw [List.Nodup, List.pairwise_map]
      refine (apart.filter _).imp_of_mem ?_
      intro first second known knownSecond different
      have here : first.steps = steps := by simpa using List.of_mem_filter known
      have there : second.steps = steps := by simpa using List.of_mem_filter knownSecond
      exact different (here.trans there.symm)
    rw [List.countP_eq_length_filter, ← List.length_map (f := (·.isDotted))]
    exact List.Nodup.length_le_card flags
  · intro twice
    by_contra none
    apply twice
    refine apart.imp_of_mem ?_
    intro first second known knownSecond different steps
    obtain ⟨path, asked, stands⟩ := exists_of_mem_collect known
    obtain ⟨other, askedOther, standsOther⟩ := exists_of_mem_collect knownSecond
    have different := different steps
    rw [isDotted_of_mem_standsFor named stands, isDotted_of_mem_standsFor named standsOther]
      at different
    cases lead : path.isDotted with
    | true =>
        have bare : other.isDotted = false := by simpa [lead] using different.symm
        exact none ⟨path, asked, other, askedOther, lead, bare, first, stands, second,
          standsOther, steps⟩
    | false =>
        have dotted : other.isDotted = true := by simpa [lead] using different.symm
        exact none ⟨other, askedOther, path, asked, dotted, lead, second, standsOther, first,
          stands, steps.symm⟩
  · rintro ⟨dotted, asked, bare, askedBare, isDotted, isBare, first, stands, second, standsBare,
      steps⟩
    apply not_pairwise_collect asked askedBare stands standsBare steps
    rw [isDotted_of_mem_standsFor named stands, isDotted_of_mem_standsFor named standsBare,
      isDotted, isBare]
    decide

/-- A folder with one tree file. -/
def oneBlock : FileSystem :=
  ⟨.folder [("a.tree.json", .file "[\"block\"]".toUTF8)], []⟩

/-- The file is collected once when every path starts with a dot. -/
theorem collect_twice_iff_allDotted :
    oneBlock.root.WellNamed ∧
      (collect oneBlock defaultExcludedFolders [⟨"."⟩, ⟨"./a.tree.json"⟩]).Pairwise
        fun first second => first.steps ≠ second.steps := by
  have named : oneBlock.root.WellNamed := by
    refine .folder ?_ ?_
    · decide
    · intro item known
      obtain rfl := List.mem_singleton.mp known
      exact .file _
  obtain ⟨-, -, twice⟩ :=
    collect_twice_iff oneBlock defaultExcludedFolders [⟨"."⟩, ⟨"./a.tree.json"⟩] named
  refine ⟨named, not_not.mp fun repeated => ?_⟩
  obtain ⟨_, _, bare, asked, _, lead, _⟩ := twice.mp repeated
  have dotted : ∀ path ∈ [(⟨"."⟩ : Path), ⟨"./a.tree.json"⟩], path.isDotted = true := by decide
  simp [dotted bare asked] at lead

/-- The file is collected twice when it is named next to its folder. -/
theorem collect_folderAndFile :
    ¬(collect oneBlock defaultExcludedFolders [⟨"."⟩, ⟨"a.tree.json"⟩]).Pairwise
      fun first second => first.steps ≠ second.steps := by
  have inFolder : (⟨"./a.tree.json"⟩ : Path) ∈
      standsFor oneBlock defaultExcludedFolders ⟨"."⟩ := by
    decide +kernel
  have itself : (⟨"a.tree.json"⟩ : Path) ∈
      standsFor oneBlock defaultExcludedFolders ⟨"a.tree.json"⟩ := by
    decide +kernel
  exact not_pairwise_collect (by simp) (by simp) inFolder itself (by decide) (by decide)

end Discovery

end DuplicateLogic
