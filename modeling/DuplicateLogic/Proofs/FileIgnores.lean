import DuplicateLogic.Analyzer
import DuplicateLogic.Proofs.PathParts

/-! # Rules that are off in some files

Whether a rule is off in a file depends on the path of the file below the root, not on how the root
is spelled, and on which entries the settings have, not on their order. An entry with a malformed
pattern, or one that lists no rule, counts for nothing. -/

namespace DuplicateLogic

/-- Whether an entry of the settings can be used: its pattern is well formed and it names a rule. -/
def FileIgnore.IsUsable (entry : String × List String) : Prop :=
  (∃ glob, Glob.ofPattern? entry.1 = some glob) ∧ ∃ id ∈ entry.2, Text.trim id ≠ ""

namespace FileIgnore

variable {pattern : String} {ids : List String} {ignore : FileIgnore}

/-- An entry that can be used gives its glob with the rules it names, without blanks. -/
theorem ofEntry?_eq_some_iff :
    ofEntry? pattern ids = some ignore ↔
      IsUsable (pattern, ids) ∧ Glob.ofPattern? pattern = some ignore.glob ∧
        ignore.ids = (ids.map Text.trim).filter fun id => !id.isEmpty := by
  have listed : (ids.map Text.trim).filter (fun id => !id.isEmpty) = [] ↔
      ¬∃ id ∈ ids, Text.trim id ≠ "" := by
    simp
  unfold ofEntry? IsUsable
  cases compiled : Glob.ofPattern? pattern with
  | none => simp
  | some glob =>
      simp only [Option.bind_eq_bind, Option.bind_some, List.isEmpty_iff, listed]
      split
      next none => simp [none]
      next some =>
        obtain ⟨other, names⟩ := ignore
        simp only [Option.some.injEq, mk.injEq]
        constructor
        · rintro ⟨rfl, rfl⟩
          exact ⟨⟨⟨glob, rfl⟩, not_not.mp some⟩, rfl, rfl⟩
        · rintro ⟨-, rfl, rfl⟩
          exact ⟨rfl, rfl⟩

theorem mem_ids_iff (made : ofEntry? pattern ids = some ignore) {id : String} (solid : id ≠ "") :
    id ∈ ignore.ids ↔ ∃ listed ∈ ids, Text.trim listed = id := by
  obtain ⟨-, -, names⟩ := ofEntry?_eq_some_iff.mp made
  simp [names, solid]

end FileIgnore

namespace Analyzer

/-- Below the root of the analyser, a path is seen as it was joined to the root. -/
theorem relative_join (analyzer : Analyzer) {root : Path} (same : analyzer.root.same root = true)
    {names : List RawText} (proper : ∀ name ∈ names, Path.IsName name) :
    analyzer.relative (root.join (Path.ofNames names)) = (Path.ofNames names).display := by
  rw [relative, Path.stripPrefix?_join proper same, Option.getD_some]

/-- A relative path of names is not below a dot, so it is seen as it is. -/
theorem relative_ofNames (analyzer : Analyzer) (dot : analyzer.root = ⟨"."⟩) {names : List RawText}
    (proper : ∀ name ∈ names, Path.IsName name) :
    analyzer.relative (Path.ofNames names) = (Path.ofNames names).display := by
  have apart : ¬[Path.Component.current] <+: (Path.ofNames names).components := by
    have bare : (Path.ofNames names).components =
        (Path.solidParts (Text.splitOn RawText.slash (Path.ofNames names).raw.bytes)).map
          Path.Component.ofPart := by
      rw [Path.components_eq_split, Path.split_ofNames proper]
      rfl
    rw [bare]
    rintro ⟨rest, starts⟩
    have known : Path.Component.current ∈ (Path.solidParts
        (Text.splitOn RawText.slash (Path.ofNames names).raw.bytes)).map Path.Component.ofPart := by
      rw [← starts]
      exact List.mem_cons_self
    obtain ⟨part, -, same⟩ := List.mem_map.mp known
    unfold Path.Component.ofPart at same
    split at same <;> cases same
  have stripped : (Path.ofNames names).stripPrefix? ⟨"."⟩ = none := by
    have front : (⟨"."⟩ : Path).components = [.current] := by decide
    rw [← List.isPrefixOf_iff_prefix] at apart
    unfold Path.stripPrefix?
    simp only [front, apart]
    rfl
  rw [relative, dot, stripped, Option.getD_none]

variable {settings others : Settings}

/-- A rule is off in a file when an entry that can be used names it and matches the file. -/
theorem isIgnoredFor_withSettings_iff (analyzer : Analyzer) (settings : Settings) (path : Path)
    (rule : String) :
    (analyzer.withSettings settings).isIgnoredFor path rule = true ↔
      Text.trim rule ≠ "" ∧ ∃ entry ∈ settings.perFileIgnores?.getD [],
        ∃ glob, Glob.ofPattern? entry.1 = some glob ∧
          (∃ listed ∈ entry.2, Text.trim listed = Text.trim rule) ∧
          glob.isMatch (analyzer.relative path) = true := by
  have there : (analyzer.withSettings settings).relative path = analyzer.relative path := rfl
  rw [isIgnoredFor, there, Bool.and_eq_true, Bool.not_eq_true', String.isEmpty_eq_false_iff,
    List.any_eq_true]
  apply and_congr_right
  intro solid
  constructor
  · rintro ⟨ignore, known, applies⟩
    obtain ⟨listed, matched⟩ := (Bool.and_eq_true _ _).mp applies
    obtain ⟨entry, inside, made⟩ := List.mem_filterMap.mp known
    obtain ⟨-, compiled, -⟩ := FileIgnore.ofEntry?_eq_some_iff.mp made
    rw [List.contains_iff_mem, FileIgnore.mem_ids_iff made solid] at listed
    exact ⟨entry, inside, ignore.glob, compiled, listed, matched⟩
  · rintro ⟨entry, inside, glob, compiled, ⟨listed, known, named⟩, matched⟩
    have usable : FileIgnore.IsUsable entry := ⟨⟨glob, compiled⟩, listed, known, named ▸ solid⟩
    have made : FileIgnore.ofEntry? entry.1 entry.2 =
        some ⟨glob, (entry.2.map Text.trim).filter fun id => !id.isEmpty⟩ :=
      FileIgnore.ofEntry?_eq_some_iff.mpr ⟨usable, compiled, rfl⟩
    refine ⟨_, List.mem_filterMap.mpr ⟨entry, inside, made⟩, ?_⟩
    rw [Bool.and_eq_true, List.contains_iff_mem, FileIgnore.mem_ids_iff made solid]
    exact ⟨⟨listed, known, named⟩, matched⟩

/-- Only the entries that can be used count, and not their order. -/
theorem isIgnoredFor_congr (analyzer : Analyzer)
    (same : ∀ entry, FileIgnore.IsUsable entry →
      (entry ∈ others.perFileIgnores?.getD [] ↔ entry ∈ settings.perFileIgnores?.getD []))
    (path : Path) (rule : String) :
    (analyzer.withSettings others).isIgnoredFor path rule =
      (analyzer.withSettings settings).isIgnoredFor path rule := by
  rw [Bool.eq_iff_iff, isIgnoredFor_withSettings_iff, isIgnoredFor_withSettings_iff]
  apply and_congr_right
  intro solid
  apply exists_congr
  intro entry
  apply and_congr_left
  rintro ⟨glob, compiled, ⟨listed, known, named⟩, -⟩
  exact same entry ⟨⟨glob, compiled⟩, listed, known, named ▸ solid⟩

/-- Whether a rule is off in a file below the root depends on the path of the file from there and
on the entries that can be used: an entry has to match the path and to list the rule. The spelling
of the root and the order of the entries do not matter. -/
theorem isIgnoredFor_belowRoot (analyzer : Analyzer) (settings : Settings) (root : Path)
    (names : List RawText) (proper : ∀ name ∈ names, Path.IsName name) (rule : String) :
    let here := (analyzer.withRoot root).withSettings settings
    let inner := Path.ofNames names
    here.isIgnoredFor (root.join inner) rule =
        ((analyzer.withRoot ⟨"."⟩).withSettings settings).isIgnoredFor inner rule ∧
      (here.isIgnoredFor (root.join inner) rule = true ↔
        Text.trim rule ≠ "" ∧ ∃ entry ∈ settings.perFileIgnores?.getD [],
          ∃ glob, Glob.ofPattern? entry.1 = some glob ∧
            (∃ listed ∈ entry.2, Text.trim listed = Text.trim rule) ∧
            glob.isMatch inner.display = true) ∧
      (∀ spelled : Path, spelled.same root = true →
        here.isIgnoredFor (spelled.join inner) rule =
          here.isIgnoredFor (root.join inner) rule) ∧
      ∀ others : Settings,
        (∀ entry, FileIgnore.IsUsable entry →
          (entry ∈ others.perFileIgnores?.getD [] ↔ entry ∈ settings.perFileIgnores?.getD [])) →
        ∀ path rule,
          ((analyzer.withRoot root).withSettings others).isIgnoredFor path rule =
            here.isIgnoredFor path rule := by
  intro here inner
  have seen {spelled : Path} (same : spelled.same root = true) :
      (analyzer.withRoot root).relative (spelled.join inner) = inner.display := by
    apply relative_join _ _ proper
    rw [Path.same, beq_iff_eq] at same ⊢
    exact same.symm
  have itself : root.same root = true := by rw [Path.same, beq_iff_eq]
  have bare : (analyzer.withRoot ⟨"."⟩).relative inner = inner.display :=
    relative_ofNames _ rfl proper
  refine ⟨?_, ?_, ?_, ?_⟩
  · rw [Bool.eq_iff_iff, isIgnoredFor_withSettings_iff, isIgnoredFor_withSettings_iff,
      seen itself, bare]
  · rw [isIgnoredFor_withSettings_iff, seen itself]
  · intro spelled same
    rw [Bool.eq_iff_iff, isIgnoredFor_withSettings_iff, isIgnoredFor_withSettings_iff, seen same,
      seen itself]
  · intro others same path rule
    exact isIgnoredFor_congr _ same path rule

/-- An entry with a blank in its rule, and one that cannot be used. -/
def generatedOff : Settings where
  perFileIgnores? := some [("generated/*.tree.json", ["same_operands "]), ("[", ["same_operands"])]

/-- A rule is off below a root that is spelled with a dot and a doubled separator. -/
theorem isIgnoredFor_belowRoot_generated :
    (∀ name ∈ (["generated", "a.tree.json"] : List RawText), Path.IsName name) ∧
      ((default.withRoot ⟨"./src//"⟩).withSettings generatedOff).isIgnoredFor
        ⟨"./src//generated/a.tree.json"⟩ "same_operands" = true := by
  have proper : ∀ name ∈ (["generated", "a.tree.json"] : List RawText), Path.IsName name := by
    decide
  obtain ⟨same, -⟩ := isIgnoredFor_belowRoot default generatedOff ⟨"./src//"⟩
    ["generated", "a.tree.json"] proper "same_operands"
  have joined : (⟨"./src//"⟩ : Path).join (Path.ofNames ["generated", "a.tree.json"]) =
      ⟨"./src//generated/a.tree.json"⟩ := by decide
  rw [joined] at same
  refine ⟨proper, same.trans ?_⟩
  decide +kernel

end Analyzer

end DuplicateLogic
