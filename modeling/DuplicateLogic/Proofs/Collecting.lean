import DuplicateLogic.Proofs.Spelling
import Mathlib.Data.List.Sort

/-! # Collecting depends on what is asked for

The collected files are in strict order, so their components are known from which components there
are. Those are the components of what the paths stand for, in whatever order and however often the
paths are given. Only the spelling of a file can depend on that, and only when it is found under
two spellings. -/

namespace DuplicateLogic

theorem Path.same_iff {first second : Path} :
    first.same second = true ↔ first.components = second.components := by
  rw [same, beq_iff_eq]

namespace Discovery

variable {system : FileSystem} {excluded : List String} {paths others : List Path}

/-- The files that some paths stand for, path by path. -/
def gathered (system : FileSystem) (excluded : List String) (paths : List Path) : List Path :=
  paths.flatMap (standsFor system excluded)

theorem mem_gathered_of_mem_collect {file : Path} (known : file ∈ collect system excluded paths) :
    file ∈ gathered system excluded paths :=
  List.mem_flatMap.mpr (exists_of_mem_collect known)

/-- Paths in another order, or some of them repeated, stand for the same files. -/
theorem mem_gathered_congr (same : ∀ path, path ∈ others ↔ path ∈ paths) (file : Path) :
    file ∈ gathered system excluded others ↔ file ∈ gathered system excluded paths := by
  simp only [gathered, List.mem_flatMap, same]

/-- A path that is no folder stands for itself, and a folder for the files found in it. -/
theorem mem_gathered_iff {file : Path} :
    file ∈ gathered system excluded paths ↔
      (∃ path ∈ paths, system.isFolder path = false ∧ path = file) ∨
      ∃ path ∈ paths, system.isFolder path = true ∧ file ∈ inFolder system excluded path := by
  rw [gathered, List.mem_flatMap, ← exists_or]
  apply exists_congr
  intro path
  cases folder : system.isFolder path <;> simp [standsFor, folder, eq_comm]

/-- Up to spelling, the collected files are the gathered ones. -/
theorem mem_components_collect_iff {components : List Path.Component} :
    components ∈ (collect system excluded paths).map (·.components) ↔
      ∃ file ∈ gathered system excluded paths, file.components = components := by
  rw [List.mem_map]
  constructor
  · rintro ⟨file, known, same⟩
    exact ⟨file, mem_gathered_of_mem_collect known, same⟩
  · rintro ⟨file, known, rfl⟩
    obtain ⟨path, asked, stands⟩ := List.mem_flatMap.mp known
    exact exists_mem_collect asked stands

theorem components_collect_sorted (system : FileSystem) (excluded : List String)
    (paths : List Path) :
    ((collect system excluded paths).map (·.components)).Pairwise
      fun first second => compare first second = .lt :=
  List.pairwise_map.mpr (collect_sorted system excluded paths)

/-- Up to spelling, the collected files depend only on which paths are given. -/
theorem components_collect_congr (same : ∀ path, path ∈ others ↔ path ∈ paths) :
    (collect system excluded others).map (·.components) =
      (collect system excluded paths).map (·.components) := by
  have irreflexive : Std.Irrefl fun first second : List Path.Component =>
      compare first second = .lt := ⟨by simp⟩
  have antisymmetric : Std.Antisymm fun first second : List Path.Component =>
      compare first second = .lt :=
    ⟨fun first second one other => absurd other (Std.OrientedCmp.not_lt_of_lt one)⟩
  apply (components_collect_sorted system excluded others).eq_of_mem_iff
    (components_collect_sorted system excluded paths)
  intro components
  simp only [mem_components_collect_iff, mem_gathered_congr same]

/-- Whether no file is gathered under two spellings. -/
def SpelledOnce (files : List Path) : Prop :=
  ∀ first ∈ files, ∀ second ∈ files, first.same second = true → first = second

/-- The spelling of a file is known from its components when there is only one. -/
theorem eq_of_components_eq {files one other : List Path} (once : SpelledOnce files)
    (inFiles : ∀ file ∈ one, file ∈ files) (inFiles' : ∀ file ∈ other, file ∈ files)
    (same : one.map (·.components) = other.map (·.components)) : one = other := by
  induction one generalizing other with
  | nil => simpa using same.symm
  | cons first one ih =>
      cases other with
      | nil => simp at same
      | cons second other =>
          obtain ⟨components, rest⟩ := List.cons.inj same
          have spelled : first = second :=
            once first (inFiles first List.mem_cons_self) second
              (inFiles' second List.mem_cons_self) (Path.same_iff.mpr components)
          rw [spelled, ih (fun file known => inFiles file (List.mem_cons_of_mem _ known))
            (fun file known => inFiles' file (List.mem_cons_of_mem _ known)) rest]

/-- With one spelling for each file, the collected files depend only on which paths are given. -/
theorem collect_congr (same : ∀ path, path ∈ others ↔ path ∈ paths)
    (once : SpelledOnce (gathered system excluded paths)) :
    collect system excluded others = collect system excluded paths := by
  apply eq_of_components_eq once
  · intro file known
    exact (mem_gathered_congr same file).mp (mem_gathered_of_mem_collect known)
  · intro file known
    exact mem_gathered_of_mem_collect known
  · exact components_collect_congr same

end Discovery

open Discovery

/-- The collected files are in strict order. Up to spelling they are the paths that are no folders,
whatever is there, and the files found in the folders among the paths. So paths in another order,
or some of them repeated, give the same files up to spelling, and the same list when no file is
found under two spellings. -/
theorem Analyzer.collect_asked (analyzer : Analyzer) (system : FileSystem) (paths : List Path) :
    (analyzer.collect system paths).Pairwise Path.before ∧
    (∀ file : Path, (∃ kept ∈ analyzer.collect system paths, kept.same file = true) ↔
      (∃ path ∈ paths, system.isFolder path = false ∧ path.same file = true) ∨
      ∃ path ∈ paths, system.isFolder path = true ∧
        ∃ found ∈ inFolder system analyzer.excluded path, found.same file = true) ∧
    ∀ others : List Path, (∀ path, path ∈ others ↔ path ∈ paths) →
      List.Forall₂ (fun first second => first.same second = true)
        (analyzer.collect system others) (analyzer.collect system paths) ∧
      (SpelledOnce (gathered system analyzer.excluded paths) →
        analyzer.collect system others = analyzer.collect system paths) := by
  refine ⟨collect_sorted system analyzer.excluded paths, ?_, ?_⟩
  · intro file
    have collected : (∃ kept ∈ analyzer.collect system paths, kept.same file = true) ↔
        ∃ found ∈ gathered system analyzer.excluded paths, found.same file = true := by
      simp only [Path.same_iff]
      exact List.mem_map.symm.trans mem_components_collect_iff
    rw [collected]
    constructor
    · rintro ⟨found, known, same⟩
      rcases mem_gathered_iff.mp known with ⟨path, asked, none, rfl⟩ | ⟨path, asked, folder, inside⟩
      · exact Or.inl ⟨path, asked, none, same⟩
      · exact Or.inr ⟨path, asked, folder, found, inside, same⟩
    · rintro (⟨path, asked, none, same⟩ | ⟨path, asked, folder, found, inside, same⟩)
      · exact ⟨path, mem_gathered_iff.mpr (Or.inl ⟨path, asked, none, rfl⟩), same⟩
      · exact ⟨found, mem_gathered_iff.mpr (Or.inr ⟨path, asked, folder, inside⟩), same⟩
  · intro others same
    refine ⟨?_, collect_congr same⟩
    have components := @components_collect_congr system analyzer.excluded paths others same
    rw [← List.forall₂_eq_eq_eq, List.forall₂_map_left_iff, List.forall₂_map_right_iff]
      at components
    exact components.imp fun _ _ => Path.same_iff.mpr

/-- A file and its folder give the same list in either order, and when the folder is given twice. -/
theorem Analyzer.collect_asked_folderTwice :
    (∀ path : Path, path ∈ [(⟨"./a.tree.json"⟩ : Path), ⟨"."⟩, ⟨"."⟩] ↔
      path ∈ [(⟨"."⟩ : Path), ⟨"./a.tree.json"⟩]) ∧
    SpelledOnce (gathered oneBlock Analyzer.default.excluded [⟨"."⟩, ⟨"./a.tree.json"⟩]) ∧
    Analyzer.default.collect oneBlock [⟨"./a.tree.json"⟩, ⟨"."⟩, ⟨"."⟩] =
      Analyzer.default.collect oneBlock [⟨"."⟩, ⟨"./a.tree.json"⟩] := by
  have same : ∀ path : Path, path ∈ [(⟨"./a.tree.json"⟩ : Path), ⟨"."⟩, ⟨"."⟩] ↔
      path ∈ [(⟨"."⟩ : Path), ⟨"./a.tree.json"⟩] := by
    intro path
    simp [or_comm]
  have files : gathered oneBlock Analyzer.default.excluded [⟨"."⟩, ⟨"./a.tree.json"⟩] =
      [⟨"./a.tree.json"⟩, ⟨"./a.tree.json"⟩] := by
    decide +kernel
  have once : SpelledOnce
      (gathered oneBlock Analyzer.default.excluded [⟨"."⟩, ⟨"./a.tree.json"⟩]) := by
    rw [files]
    simp [SpelledOnce]
  obtain ⟨-, -, reordered⟩ :=
    Analyzer.collect_asked Analyzer.default oneBlock [⟨"."⟩, ⟨"./a.tree.json"⟩]
  exact ⟨same, once, (reordered _ same).2 once⟩

end DuplicateLogic
