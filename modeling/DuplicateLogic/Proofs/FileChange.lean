import DuplicateLogic.Analyzer

/-! # Changing one file

Two file systems that agree everywhere but in the bytes of one file lead every path to the same
place. When the file is no ignore file, as a tree file never is, a search finds the same files in
both. What is loaded from a path that leads elsewhere is the same as well. -/

namespace DuplicateLogic

open RawText (slash dot)

namespace Entry

theorem at?_append (entry : Entry) (front back : List RawText) :
    entry.at? (front ++ back) = (entry.at? front).bind fun inner => inner.at? back := by
  induction front generalizing entry with
  | nil => rfl
  | cons name rest ih =>
      rw [List.cons_append, at?, at?, Option.bind_assoc]
      congr 1
      funext inner
      exact ih inner

/-- Something with an entry of its own is a folder. -/
theorem isFolder_of_at? {entry inner : Entry} {names : List RawText} (some : names ≠ [])
    (found : entry.at? names = .some inner) : entry.isFolder = true := by
  obtain ⟨name, rest, rfl⟩ := List.exists_cons_of_ne_nil some
  cases entry with
  | file bytes => cases found
  | folder entries => rfl

/-- Two entries that are the same except for the bytes of the file at a path of names. -/
inductive SameExcept : List RawText → Entry → Entry → Prop
  | same {target : List RawText} (entry : Entry) : SameExcept target entry entry
  | file (old new : ByteArray) : SameExcept [] (.file old) (.file new)
  | folder {name : RawText} {rest : List RawText} {old new : Entry}
      {front back : List (RawText × Entry)} (first : ∀ item ∈ front, name != item.1)
      (inner : SameExcept rest old new) :
      SameExcept (name :: rest) (.folder (front ++ (name, old) :: back))
        (.folder (front ++ (name, new) :: back))

namespace SameExcept

variable {target : List RawText} {first second : Entry}

theorem isFolder_eq (same : SameExcept target first second) :
    first.isFolder = second.isFolder := by
  cases same with
  | same => rfl
  | file => rfl
  | folder => rfl

/-- Off the way to the file the entries are the same, on the way they differ in the file only. -/
theorem child?_cases (same : SameExcept target first second) (name : RawText) :
    first.child? name = second.child? name ∨
      ∃ rest old new, target = name :: rest ∧ first.child? name = some old ∧
        second.child? name = some new ∧ SameExcept rest old new := by
  cases same with
  | same => exact Or.inl rfl
  | file => exact Or.inl rfl
  | @folder key rest old new front back first inner =>
      by_cases here : name = key
      · subst here
        have found (item : Entry) : (front ++ (name, item) :: back).lookup name = some item :=
          List.lookup_eq_some_iff.mpr ⟨front, back, rfl, first⟩
        exact Or.inr ⟨rest, old, new, rfl, found old, found new, inner⟩
      · left
        have apart : (name == key) = false := by simpa using here
        simp [child?, entries, List.lookup_append, List.lookup_cons, apart]

/-- Further down as well the entries are the same off the way to the file, and on the way they
differ in the file only. -/
theorem at?_cases (same : SameExcept target first second) (names : List RawText) :
    first.at? names = second.at? names ∨
      ∃ rest old new, target = names ++ rest ∧ first.at? names = some old ∧
        second.at? names = some new ∧ SameExcept rest old new := by
  induction names generalizing target first second with
  | nil => exact Or.inr ⟨target, first, second, rfl, rfl, rfl, same⟩
  | cons name names ih =>
      rcases same.child?_cases name with child | ⟨rest, old, new, rfl, left, right, inner⟩
      · left
        rw [at?, at?, child]
      · rw [at?, at?, left, right, Option.bind_some, Option.bind_some]
        rcases ih inner with below | ⟨rest', old', new', way, found, foundTwin, further⟩
        · exact Or.inl below
        · exact Or.inr ⟨rest', old', new', congrArg (name :: ·) way, found, foundTwin, further⟩

/-- Where the file does not stand there is the same ignore file. -/
theorem ofEntry?_at?_eq (same : SameExcept target first second) {names : List RawText}
    (elsewhere : names ≠ target) :
    IgnoreFile.ofEntry? (first.at? names) = IgnoreFile.ofEntry? (second.at? names) := by
  rcases same.at?_cases names with found | ⟨rest, old, new, way, left, right, inner⟩
  · rw [found]
  · rw [left, right]
    cases inner with
    | same => rfl
    | file => exact absurd (way.trans (List.append_nil _)).symm elsewhere
    | folder => rfl

end SameExcept

section Put

variable {name : RawText} (item : Entry)

private theorem setIn_eq {front : List (RawText × Entry)} (first : ∀ other ∈ front, name != other.1)
    (old : Entry) (back : List (RawText × Entry)) :
    setIn name item (front ++ (name, old) :: back) = front ++ (name, item) :: back := by
  induction front with
  | nil => simp [setIn]
  | cons other front ih =>
      have apart : other.1 ≠ name := by
        intro same
        have := first other List.mem_cons_self
        simp [same] at this
      rw [List.cons_append, setIn, if_neg apart,
        ih fun item known => first item (List.mem_cons_of_mem _ known), List.cons_append]

theorem lookup_setIn (entries : List (RawText × Entry)) :
    (setIn name item entries).lookup name = some item := by
  induction entries with
  | nil => simp [setIn]
  | cons other entries ih =>
      rw [setIn]
      split
      next same => simp [same]
      next apart =>
        have apart : (name == other.1) = false := beq_false_of_ne fun same => apart same.symm
        rw [List.lookup_cons, apart]
        exact ih

end Put

/-- Putting a file where one stands changes nothing but its bytes. -/
theorem sameExcept_put {entry : Entry} {names : List RawText} {old : ByteArray}
    (present : entry.at? names = some (.file old)) (new : ByteArray) :
    SameExcept names entry (put (.file new) names entry) := by
  induction names generalizing entry with
  | nil =>
      obtain rfl : entry = .file old := Option.some.inj present
      exact .file old new
  | cons name rest ih =>
      obtain ⟨inner, child, inside⟩ := Option.bind_eq_some_iff.mp present
      cases entry with
      | file bytes => cases child
      | folder entries =>
          obtain ⟨front, back, rfl, first⟩ := List.lookup_eq_some_iff.mp child
          rw [put, child, Option.getD_some, Entry.entries, setIn_eq _ first]
          exact .folder first (ih inside)

end Entry

/-- Whether a path of names ends with the name of a tree file. -/
def EndsInTreeFile (names : List RawText) : Prop :=
  ∀ name ∈ names.getLast?, name.isTreeName = true

/-- The names that lead from a folder to its ignore files. -/
def ignoreFileNames : List (List RawText) :=
  [[".ignore"], [".gitignore"], [".git", "info", "exclude"]]

/-- Whether a path of names leads to where a folder has an ignore file. -/
def EndsInIgnoreFile (names : List RawText) : Prop :=
  ∃ ending ∈ ignoreFileNames, ending <:+ names

instance (names : List RawText) : Decidable (EndsInIgnoreFile names) :=
  inferInstanceAs (Decidable (∃ ending ∈ ignoreFileNames, ending <:+ names))

theorem EndsInIgnoreFile.append {rest : List RawText} (ignores : EndsInIgnoreFile rest)
    (front : List RawText) : EndsInIgnoreFile (front ++ rest) := by
  obtain ⟨ending, listed, within⟩ := ignores
  exact ⟨ending, listed, within.trans (List.suffix_append front rest)⟩

/-- A tree file is no ignore file. -/
theorem EndsInTreeFile.not_endsInIgnoreFile {names : List RawText} (tree : EndsInTreeFile names) :
    ¬EndsInIgnoreFile names := by
  have plain : ∀ ending ∈ ignoreFileNames, ∃ name ∈ ending.getLast?, name.isTreeName = false := by
    decide
  rintro ⟨ending, listed, front, rfl⟩
  obtain ⟨name, last, other⟩ := plain ending listed
  have ends : name ∈ (front ++ ending).getLast? := by
    rw [List.getLast?_append, Option.mem_def.mp last]
    rfl
  rw [tree name ends] at other
  cases other

section Search

variable {target : List RawText} {first second : Entry}

/-- A folder has the same ignore files, whatever is in another file below it. -/
theorem IgnoreLayer.ofFolder_eq (same : Entry.SameExcept target first second)
    (plain : ¬EndsInIgnoreFile target) (depth : Nat) :
    ofFolder depth first = ofFolder depth second := by
  have file {names : List RawText} (listed : names ∈ ignoreFileNames) :
      IgnoreFile.ofEntry? (first.at? names) = IgnoreFile.ofEntry? (second.at? names) := by
    apply same.ofEntry?_at?_eq
    rintro rfl
    exact plain ⟨names, listed, List.suffix_rfl⟩
  have child (name : RawText) (entry : Entry) : entry.at? [name] = entry.child? name := by
    simp [Entry.at?]
  have always : IgnoreFile.ofEntry? (first.child? ".ignore") =
      IgnoreFile.ofEntry? (second.child? ".ignore") := by
    rw [← child, ← child]
    exact file (by decide)
  have tracked : IgnoreFile.ofEntry? (first.child? ".gitignore") =
      IgnoreFile.ofEntry? (second.child? ".gitignore") := by
    rw [← child, ← child]
    exact file (by decide)
  have cloneOnly : IgnoreFile.ofEntry? (first.at? [".git", "info", "exclude"]) =
      IgnoreFile.ofEntry? (second.at? [".git", "info", "exclude"]) := file (by decide)
  have present (name : RawText) : (first.child? name).isSome = (second.child? name).isSome := by
    rcases same.child?_cases name with child | ⟨_, _, _, -, left, right, -⟩
    · rw [child]
    · rw [left, right]
      rfl
  simp only [Entry.at?, Option.bind_fun_some] at cloneOnly
  simp only [ofFolder, always, tracked, cloneOnly, present]

/-- The same ignore files apply on the way along some names, whatever is in another file. -/
theorem IgnoreLayer.leadingTo_eq (same : Entry.SameExcept target first second)
    (plain : ¬EndsInIgnoreFile target) (names : List RawText) :
    leadingTo first names = leadingTo second names := by
  unfold leadingTo
  congr 2
  funext depth
  rcases same.at?_cases (names.take depth) with found | ⟨rest, old, new, way, left, right, inner⟩
  · rw [found]
  · rw [way] at plain
    rw [left, right, Option.map_some, Option.map_some,
      ofFolder_eq inner (fun ignores => plain (ignores.append _)) depth]

namespace Discovery

/-- The same is rejected, whatever is in a file that is no ignore file. -/
theorem isRejected_eq (same : Entry.SameExcept target first second)
    (plain : ¬EndsInIgnoreFile target) (names : List RawText) :
    isRejected first names = isRejected second names := by
  have layers := IgnoreLayer.leadingTo_eq same plain names.dropLast
  unfold isRejected
  rw [layers]
  rcases same.at?_cases names with found | ⟨rest, old, new, -, left, right, inner⟩
  · rw [found]
  · simp only [left, right, Option.any_some, inner.isFolder_eq]

variable (rejects : List RawText → Bool) (excluded : List String)

theorem searchAll_append (names : List RawText) (path : Path)
    (front back : List (RawText × Entry)) :
    searchAll rejects excluded names path (front ++ back) =
      searchAll rejects excluded names path front ++
        searchAll rejects excluded names path back := by
  induction front with
  | nil => rfl
  | cons item rest ih => rw [List.cons_append, searchAll, searchAll, ih, List.append_assoc]

/-- A search finds the same files, whatever is in a file. -/
theorem search_eq (same : Entry.SameExcept target first second) (names : List RawText)
    (path : Path) :
    search rejects excluded names path first = search rejects excluded names path second := by
  induction same generalizing names path with
  | same => rfl
  | file => rfl
  | @folder name rest old new front back first inner ih =>
      rw [search, search, searchAll_append, searchAll_append, searchAll, searchAll, passesOver,
        passesOver, inner.isFolder_eq, ih]

end Discovery

end Search

/-- Two locations that are reached under the same names from two roots. -/
inductive Location.Parallel (root other : Entry) : Location → Location → Prop
  | top : Parallel root other ⟨root, []⟩ ⟨other, []⟩
  | enter {place twin : Location} {name : RawText} {inner innerTwin : Entry}
      (above : Parallel root other place twin) (left : place.entry.child? name = some inner)
      (right : twin.entry.child? name = some innerTwin) :
      Parallel root other ⟨inner, (name, place.entry) :: place.above⟩
        ⟨innerTwin, (name, twin.entry) :: twin.above⟩

namespace Location.Parallel

variable {root other : Entry} {place twin : Location}

theorem names_eq (parallel : Parallel root other place twin) : place.names = twin.names := by
  induction parallel with
  | top => rfl
  | enter _ _ _ ih => simpa [names] using ih

/-- A location is what stands at its names. -/
theorem at?_names (parallel : Parallel root other place twin) :
    root.at? place.names = some place.entry := by
  induction parallel with
  | top => rfl
  | @enter place twin name inner innerTwin _ left _ ih =>
      have way : Location.names ⟨inner, (name, place.entry) :: place.above⟩ =
          place.names ++ [name] := by simp [names]
      rw [way, Entry.at?_append, ih, Option.bind_some, Entry.at?, left]
      rfl

theorem symm (parallel : Parallel root other place twin) : Parallel other root twin place := by
  induction parallel with
  | top => exact .top
  | enter _ left right ih => exact .enter ih right left

variable {target : List RawText} (same : Entry.SameExcept target root other)
include same

/-- Off the way to the file the entries are the same, on the way they differ in the file only. -/
theorem entry_cases (parallel : Parallel root other place twin) :
    place.entry = twin.entry ∨
      ∃ rest, target = place.names ++ rest ∧ Entry.SameExcept rest place.entry twin.entry := by
  induction parallel with
  | top => exact Or.inr ⟨target, rfl, same⟩
  | @enter place twin name inner innerTwin _ left right ih =>
      rcases ih with entry | ⟨rest, way, entry⟩
      · left
        rw [entry, right] at left
        exact (Option.some.inj left).symm
      · rcases entry.child?_cases name with child | ⟨rest', old, new, rfl, left', right', inside⟩
        · left
          rw [child, right] at left
          exact (Option.some.inj left).symm
        · right
          rw [left] at left'
          rw [right] at right'
          cases left'
          cases right'
          refine ⟨rest', ?_, inside⟩
          simp [way, names]

theorem isFolder_eq (parallel : Parallel root other place twin) :
    place.entry.isFolder = twin.entry.isFolder := by
  rcases parallel.entry_cases same with entry | ⟨_, _, entry⟩
  · rw [entry]
  · exact entry.isFolder_eq

/-- Parallel folders have entries under the same names. -/
theorem child?_cases (parallel : Parallel root other place twin) (name : RawText) :
    (place.entry.child? name = none ∧ twin.entry.child? name = none) ∨
      ∃ inner innerTwin, place.entry.child? name = some inner ∧
        twin.entry.child? name = some innerTwin := by
  have equal (child : place.entry.child? name = twin.entry.child? name) :
      (place.entry.child? name = none ∧ twin.entry.child? name = none) ∨
        ∃ inner innerTwin, place.entry.child? name = some inner ∧
          twin.entry.child? name = some innerTwin := by
    cases found : twin.entry.child? name with
    | none => exact Or.inl ⟨child.trans found, rfl⟩
    | some inner => exact Or.inr ⟨inner, inner, child.trans found, rfl⟩
  rcases parallel.entry_cases same with entry | ⟨rest, _, entry⟩
  · exact equal (by rw [entry])
  · rcases entry.child?_cases name with child | ⟨_, old, new, _, left, right, _⟩
    · exact equal child
    · exact Or.inr ⟨old, new, left, right⟩

end Location.Parallel

/-- Whether two searches end at parallel locations or fail for the same cause. -/
def FoundAlike (root other : Entry) (left right : Except ReadError Location) : Prop :=
  (∃ place twin, left = .ok place ∧ right = .ok twin ∧ Location.Parallel root other place twin) ∨
    ∃ cause, left = .error cause ∧ right = .error cause

namespace FoundAlike

variable {root other : Entry}

theorem found {place twin : Location} (parallel : Location.Parallel root other place twin) :
    FoundAlike root other (.ok place) (.ok twin) :=
  Or.inl ⟨place, twin, rfl, rfl, parallel⟩

theorem missing (cause : ReadError) : FoundAlike root other (.error cause) (.error cause) :=
  Or.inr ⟨cause, rfl, rfl⟩

theorem bind {left right : Except ReadError Location} (alike : FoundAlike root other left right)
    {next nextTwin : Location → Except ReadError Location}
    (step : ∀ place twin, Location.Parallel root other place twin →
      FoundAlike root other (next place) (nextTwin twin)) :
    FoundAlike root other (left >>= next) (right >>= nextTwin) := by
  rcases alike with ⟨place, twin, rfl, rfl, parallel⟩ | ⟨cause, rfl, rfl⟩
  · exact step place twin parallel
  · exact missing cause

/-- What is found in one tree is parallel to itself. -/
theorem parallel_self {result : Except ReadError Location} {place : Location}
    (alike : FoundAlike root root result result) (found : result = .ok place) :
    Location.Parallel root root place place := by
  rcases alike with ⟨first, second, left, right, parallel⟩ | ⟨cause, failed, -⟩
  · obtain rfl : first = place := Except.ok.inj (left.symm.trans found)
    obtain rfl : second = first := Except.ok.inj (right.symm.trans found)
    exact parallel
  · cases failed.symm.trans found

end FoundAlike

namespace FileSystem

section Follow

variable {root other : Entry} {place twin : Location} {target : List RawText}
  (same : Entry.SameExcept target root other)
include same

/-- One part of a path leads on from parallel locations to parallel locations, or nowhere. -/
theorem follow_alike (parallel : Location.Parallel root other place twin) (part : List UInt8) :
    FoundAlike root other (follow place part) (follow twin part) := by
  unfold follow
  rw [parallel.isFolder_eq same]
  split
  · exact .missing _
  split
  · exact .found parallel
  split
  · cases parallel with
    | top => exact .found .top
    | enter above _ _ => exact .found above
  · rcases parallel.child?_cases same ⟨part⟩ with ⟨left, right⟩ | ⟨_, _, left, right⟩
    · simp only [left, right]
      exact .missing _
    · simp only [left, right]
      exact .found (.enter parallel left right)

theorem foldlM_follow_alike (parallel : Location.Parallel root other place twin)
    (parts : List (List UInt8)) :
    FoundAlike root other (parts.foldlM follow place) (parts.foldlM follow twin) := by
  induction parts generalizing place twin with
  | nil => exact .found parallel
  | cons part rest ih =>
      rw [List.foldlM_cons, List.foldlM_cons]
      apply (follow_alike same parallel part).bind
      intro place twin parallel
      exact ih parallel

end Follow

section Find

variable {system other : FileSystem} {target : List RawText}
  (same : Entry.SameExcept target system.root other.root)
  (working : system.working = other.working)
include same working

theorem workingPlace_alike :
    FoundAlike system.root other.root system.workingPlace other.workingPlace := by
  have parts := foldlM_follow_alike same .top (system.working.map RawText.bytes)
  rw [List.foldlM_map, List.foldlM_map] at parts
  rw [workingPlace, workingPlace, ← working]
  exact parts

/-- A path leads to parallel locations in both file systems, or nowhere in both. -/
theorem find_alike (path : Path) :
    FoundAlike system.root other.root (system.find path) (other.find path) := by
  unfold find
  split
  · exact .missing _
  · exact foldlM_follow_alike same .top _
  · apply (workingPlace_alike same working).bind
    intro place twin parallel
    exact foldlM_follow_alike same parallel _

theorem isFolder_eq (path : Path) : system.isFolder path = other.isFolder path := by
  rcases find_alike same working path with ⟨place, twin, left, right, parallel⟩ | ⟨_, left, right⟩
  · rw [isFolder, isFolder, left, right]
    exact parallel.isFolder_eq same
  · rw [isFolder, isFolder, left, right]

theorem isFile_eq (path : Path) : system.isFile path = other.isFile path := by
  rcases find_alike same working path with ⟨place, twin, left, right, parallel⟩ | ⟨_, left, right⟩
  · rw [isFile, isFile, left, right]
    exact congrArg not (parallel.isFolder_eq same)
  · rw [isFile, isFile, left, right]

/-- Where a path does not lead to the changed file, the same text is read. -/
theorem readText_eq {path : Path} (elsewhere : ∀ place, system.find path = .ok place →
    place.names ≠ target) : system.readText path = other.readText path := by
  rcases find_alike same working path with ⟨place, twin, left, right, parallel⟩ | ⟨_, left, right⟩
  · have cases := parallel.entry_cases same
    have names := elsewhere place left
    obtain ⟨old, above⟩ := place
    obtain ⟨new, aboveTwin⟩ := twin
    rw [readText, readText, left, right]
    rcases cases with rfl | ⟨rest, way, inner⟩
    · rfl
    · cases inner with
      | same => rfl
      | file => exact absurd (way.trans (List.append_nil _)).symm names
      | folder => rfl
  · rw [readText, readText, left, right]

/-- Where a path does not lead to the changed file, the same tree is loaded. -/
theorem loadTree_eq {path : Path} (elsewhere : ∀ place, system.find path = .ok place →
    place.names ≠ target) : system.loadTree path = other.loadTree path := by
  rw [loadTree, loadTree, readText_eq same working elsewhere]

/-- A search below a path finds the same files, when what is different is no ignore file. -/
theorem collect_eq_of_not_ignoreFile (plain : ¬EndsInIgnoreFile target) (excluded : List String)
    (paths : List Path) :
    Discovery.collect system excluded paths = Discovery.collect other excluded paths := by
  have inFolder (path : Path) :
      Discovery.inFolder system excluded path = Discovery.inFolder other excluded path := by
    rcases find_alike same working path with ⟨place, twin, left, right, parallel⟩ | ⟨_, left, right⟩
    · have rejects (names : List RawText) :
          Discovery.isRejected system.root names = Discovery.isRejected other.root names :=
        Discovery.isRejected_eq same plain names
      rw [Discovery.inFolder, Discovery.inFolder, left, right]
      simp only [rejects, parallel.names_eq]
      rcases parallel.entry_cases same with entry | ⟨rest, -, entry⟩
      · rw [entry]
      · exact Discovery.search_eq _ excluded entry _ _
    · rw [Discovery.inFolder, Discovery.inFolder, left, right]
  simp only [Discovery.collect, isFolder_eq same working, inFolder]

/-- A search below a path finds the same files, when only a tree file is different. -/
theorem collect_eq (tree : EndsInTreeFile target) (excluded : List String) (paths : List Path) :
    Discovery.collect system excluded paths = Discovery.collect other excluded paths :=
  collect_eq_of_not_ignoreFile same working tree.not_endsInIgnoreFile excluded paths

end Find

end FileSystem

end DuplicateLogic
