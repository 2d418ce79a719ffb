import DuplicateLogic.Proofs.FileByFile
import DuplicateLogic.Proofs.PathAncestors

/-! # Replacing what stands at one place

Two file systems that agree outside one place lead a path to the same contents, unless the path
gets to this place. It can end there, or it can lead on through a folder there; a path that would
lead on from a file or from nothing leads nowhere. -/

namespace DuplicateLogic

open RawText (slash dot)

namespace Entry

/-- The bytes of a file; a folder has none. -/
def content? : Entry → Option ByteArray
  | file bytes => some bytes
  | folder _ => none

theorem isFolder_eq_of_content? {first second : Entry} (same : first.content? = second.content?) :
    first.isFolder = second.isFolder := by
  cases first <;> cases second <;> first | rfl | cases same

/-- Two entries with the same files and folders, except at a path of names and below it. -/
def SameOutside (target : List RawText) (first second : Entry) : Prop :=
  ∀ names, ¬target <+: names →
    (first.at? names).map content? = (second.at? names).map content?

namespace SameOutside

variable {target rest : List RawText} {name : RawText} {first second : Entry}

/-- Folders agree outside a place when they have the same other entries and agree in the entry on
the way. -/
theorem enter (folder : first.isFolder = true) (folderSecond : second.isFolder = true)
    (others : ∀ other ≠ name, first.child? other = second.child? other)
    (inner : rest = [] ∨ ∃ old new, first.child? name = some old ∧
      second.child? name = some new ∧ SameOutside rest old new) :
    SameOutside (name :: rest) first second := by
  intro names apart
  cases names with
  | nil =>
      cases first with
      | file bytes => cases folder
      | folder entries =>
          cases second with
          | file bytes => cases folderSecond
          | folder entries => rfl
  | cons other further =>
      by_cases here : other = name
      · subst here
        rcases inner with rfl | ⟨old, new, left, right, same⟩
        · exact absurd (List.prefix_append [other] further) apart
        · rw [at?, at?, left, right]
          apply same
          intro within
          exact apart (List.cons_prefix_cons.mpr ⟨rfl, within⟩)
      · rw [at?, at?, others other here]

end SameOutside

section Change

variable {entry parent : Entry}

theorem lookup_setIn_of_ne {name other : RawText} (apart : other ≠ name) (item : Entry)
    (entries : List (RawText × Entry)) :
    (setIn name item entries).lookup other = entries.lookup other := by
  have miss : (other == name) = false := beq_false_of_ne apart
  induction entries with
  | nil => rw [setIn, List.lookup_cons, miss]
  | cons first rest ih =>
      rw [setIn]
      split
      next same =>
        subst same
        rw [List.lookup_cons, List.lookup_cons, miss]
      next => rw [List.lookup_cons, List.lookup_cons, ih]

theorem lookup_filter_of_ne {name other : RawText} (apart : other ≠ name)
    (entries : List (RawText × Entry)) :
    (entries.filter fun item => item.1 ≠ name).lookup other = entries.lookup other := by
  induction entries with
  | nil => rfl
  | cons first rest ih =>
      by_cases gone : first.1 = name
      · have skipped : (other == first.1) = false := by simpa [gone] using apart
        rw [List.filter_cons_of_neg (by simpa using gone), ih, List.lookup_cons, skipped]
      · rw [List.filter_cons_of_pos (by simpa using gone), List.lookup_cons, List.lookup_cons, ih]

/-- Putting something into a folder changes nothing outside the place where it is put. -/
theorem sameOutside_put {target : List RawText} (some : target ≠ [])
    (found : entry.at? target.dropLast = .some parent) (folder : parent.isFolder = true)
    (item : Entry) : SameOutside target entry (put item target entry) := by
  induction target generalizing entry with
  | nil => exact absurd rfl some
  | cons name rest ih =>
      have others (inner : Entry) : ∀ other ≠ name, entry.child? other =
          (Entry.folder (setIn name inner entry.entries)).child? other := by
        intro other apart
        exact (lookup_setIn_of_ne apart inner entry.entries).symm
      cases rest with
      | nil =>
          obtain rfl := Option.some.inj found
          exact .enter folder rfl (others item) (Or.inl rfl)
      | cons next rest =>
          obtain ⟨inner, child, below⟩ := Option.bind_eq_some_iff.mp found
          have whole : entry.isFolder = true := isFolder_of_at? (List.cons_ne_nil name _) found
          rw [put, child, Option.getD_some]
          exact .enter whole rfl (others _) (Or.inr ⟨inner, _, child, lookup_setIn _ _,
            ih (List.cons_ne_nil next rest) below⟩)

/-- Erasing something from a folder changes nothing outside the place where it was. -/
theorem sameOutside_erase {target : List RawText} (some : target ≠ [])
    (found : entry.at? target.dropLast = .some parent) (folder : parent.isFolder = true) :
    SameOutside target entry (erase target entry) := by
  induction target generalizing entry with
  | nil => exact absurd rfl some
  | cons name rest ih =>
      cases rest with
      | nil =>
          obtain rfl := Option.some.inj found
          refine .enter folder rfl ?_ (Or.inl rfl)
          intro other apart
          exact (lookup_filter_of_ne apart entry.entries).symm
      | cons next rest =>
          obtain ⟨inner, child, below⟩ := Option.bind_eq_some_iff.mp found
          have whole : entry.isFolder = true := isFolder_of_at? (List.cons_ne_nil name _) found
          have erased : erase (name :: next :: rest) entry =
              .folder (setIn name (erase (next :: rest) inner) entry.entries) := by
            simp only [erase, child]
          rw [erased]
          refine .enter whole rfl ?_ (Or.inr ⟨inner, _, child, lookup_setIn _ _,
            ih (List.cons_ne_nil next rest) below⟩)
          intro other apart
          exact (lookup_setIn_of_ne apart _ entry.entries).symm

end Change

end Entry

namespace FileSystem

section Route

variable {system : FileSystem} {path : Path}

/-- The parts by which a path is followed from the root. -/
def route (system : FileSystem) (path : Path) : List (List UInt8) :=
  match path.split.1 with
  | .root => path.split.2
  | .current => system.working.map RawText.bytes ++ [dot] :: path.split.2
  | .bare => system.working.map RawText.bytes ++ path.split.2

theorem workingPlace_eq (system : FileSystem) :
    system.workingPlace = (system.working.map RawText.bytes).foldlM follow system.top := by
  rw [List.foldlM_map]
  rfl

/-- A path is followed from the root, part by part. -/
theorem find_eq (system : FileSystem) {path : Path} (solid : path.raw.bytes ≠ []) :
    system.find path = (system.route path).foldlM follow system.top := by
  unfold find
  split
  next empty => exact absurd empty solid
  next rest absolute =>
    have whole : path = ⟨⟨slash :: rest⟩⟩ := by rw [← absolute]
    rw [whole, route, Path.split_slash]
  next relative =>
    have relative : path.raw.bytes.head? ≠ some slash := by
      intro starts
      obtain ⟨rest, absolute⟩ := List.head?_eq_some_iff.mp starts
      exact relative rest absolute
    rw [workingPlace_eq, route]
    rcases Path.splitOn_of_relative relative with ⟨lead, parts⟩ | ⟨lead, parts⟩
    · rw [lead, parts, List.foldlM_append]
    · rw [lead, parts, List.foldlM_append]

/-- A path inside another is followed along the other, up to idle parts, and then on. -/
theorem route_join (system : FileSystem) {path inner : Path} (solid : path.raw.bytes ≠ [])
    (relative : inner.raw.bytes.head? ≠ some slash) :
    ∃ parts idle, system.route path = parts ++ idle ∧ (∀ part ∈ idle, Path.isIdle part = true) ∧
      system.route (path.join inner) = parts ++ Text.splitOn slash inner.raw.bytes := by
  obtain ⟨parts, idle, start, still, joined⟩ := Path.split_join solid relative
  have lead := congrArg Prod.fst start
  have body := congrArg Prod.snd start
  dsimp only at lead body
  unfold route
  rw [lead, body, joined]
  cases (path.join inner).split.1 with
  | root => exact ⟨parts, idle, rfl, still, rfl⟩
  | current =>
      exact ⟨system.working.map RawText.bytes ++ [dot] :: parts, idle, by simp, still, by simp⟩
  | bare => exact ⟨system.working.map RawText.bytes ++ parts, idle, by simp, still, by simp⟩

theorem foldlM_follow_step (place : Location) (part : List UInt8) (rest : List (List UInt8)) :
    (part :: rest).foldlM follow place =
      (follow place part).bind fun next => rest.foldlM follow next := by
  rw [List.foldlM_cons]
  rfl

theorem foldlM_follow_append {place mid : Location} {front : List (List UInt8)}
    (reached : front.foldlM follow place = .ok mid) (back : List (List UInt8)) :
    (front ++ back).foldlM follow place = back.foldlM follow mid := by
  rw [List.foldlM_append, reached]
  rfl

theorem isFolder_of_follow {place next : Location} {part : List UInt8}
    (followed : follow place part = .ok next) : place.entry.isFolder = true := by
  unfold follow at followed
  split at followed
  · cases followed
  next folder => simpa using folder

/-- Idle parts stay in a folder. -/
theorem foldlM_follow_idle {place : Location} (folder : place.entry.isFolder = true)
    {parts : List (List UInt8)} (idle : ∀ part ∈ parts, Path.isIdle part = true) :
    parts.foldlM follow place = .ok place := by
  induction parts with
  | nil => rfl
  | cons part rest ih =>
      obtain ⟨here, later⟩ := List.forall_mem_cons.mp idle
      have step : follow place part = .ok place := by simp [follow, folder, here]
      rw [foldlM_follow_step, step]
      exact ih later

/-- A path that leads to something inside another path has a folder there. -/
theorem exists_find_of_find_join {inner : Path} {place : Location} (solid : path.raw.bytes ≠ [])
    (relative : inner.raw.bytes.head? ≠ some slash)
    (found : system.find (path.join inner) = .ok place) :
    ∃ mid, system.find path = .ok mid ∧ mid.entry.isFolder = true := by
  obtain ⟨parts, idle, route, still, joined⟩ := route_join system solid relative
  obtain ⟨first, rest, cut⟩ :=
    List.exists_cons_of_ne_nil (Text.splitOn_ne_nil slash inner.raw.bytes)
  rw [find_eq system (Path.bytes_join_ne solid relative), joined] at found
  cases reached : parts.foldlM follow system.top with
  | error cause =>
      rw [List.foldlM_append, reached] at found
      cases found
  | ok mid =>
      rw [foldlM_follow_append reached, cut] at found
      obtain ⟨next, step, -⟩ := foldlM_follow_cons found
      have folder := isFolder_of_follow step
      refine ⟨mid, ?_, folder⟩
      rw [find_eq system solid, route, foldlM_follow_append reached]
      exact foldlM_follow_idle folder still

/-- Nothing is below a file. -/
theorem exists_find_join_of_isFile (file : system.isFile path = true) {inner : Path}
    (relative : inner.raw.bytes.head? ≠ some slash) :
    ∃ cause, system.find (path.join inner) = .error cause := by
  obtain ⟨place, found, kind⟩ := exists_find_of_isFile file
  cases below : system.find (path.join inner) with
  | error cause => exact ⟨cause, rfl⟩
  | ok last =>
      obtain ⟨mid, reached, folder⟩ :=
        exists_find_of_find_join (solid_of_find found) relative below
      obtain rfl : mid = place := Except.ok.inj (reached.symm.trans found)
      rw [kind] at folder
      cases folder

/-- The path of a file has a path above it. -/
theorem exists_parent?_of_isFile (file : system.isFile path = true) :
    ∃ upper, path.parent? = some upper := by
  obtain ⟨place, found, kind⟩ := exists_find_of_isFile file
  obtain ⟨start, followed⟩ := foldlM_split_of_find found
  by_contra none
  have top := Option.eq_none_iff_forall_not_mem.mpr fun upper above => none ⟨upper, above⟩
  obtain ⟨some, still⟩ := Path.idle_of_parent? top
  obtain ⟨first, rest, parts⟩ := List.exists_cons_of_ne_nil some
  obtain rfl := eq_of_foldlM_follow_idle still followed
  rw [parts] at followed
  obtain ⟨next, step, -⟩ := foldlM_follow_cons followed
  rw [isFolder_of_follow step] at kind
  cases kind

end Route

section Outside

/-- Two file systems that agree outside one place, which is in a folder. -/
structure SameOutside (target : List RawText) (system other : FileSystem) : Prop where
  working_eq : other.working = system.working
  target_ne : target ≠ []
  entries : Entry.SameOutside target system.root other.root

section Change

variable (system : FileSystem) (path : Path) {parent : Entry} (some : system.namesOf path ≠ [])
  (found : system.root.at? (system.namesOf path).dropLast = .some parent)
  (folder : parent.isFolder = true)
include some found folder

/-- Writing into a folder changes nothing outside the path. -/
theorem sameOutside_write (entry : Entry) :
    SameOutside (system.namesOf path) system (system.write path entry) :=
  ⟨rfl, some, Entry.sameOutside_put some found folder entry⟩

/-- Removing from a folder changes nothing outside the path. -/
theorem sameOutside_remove : SameOutside (system.namesOf path) system (system.remove path) :=
  ⟨rfl, some, Entry.sameOutside_erase some found folder⟩

end Change

/-- Whether a part leads from a location to a place. -/
def Enters (place : Location) (part : List UInt8) (target : List RawText) : Prop :=
  place.entry.isFolder = true ∧ Path.isIdle part = false ∧ part ≠ [dot, dot] ∧
    place.names ++ [⟨part⟩] = target

/-- Whether a path leads on through a folder at a place. -/
def PassesFolder (system : FileSystem) (target : List RawText) (path : Path) : Prop :=
  ∃ front part back place, system.route path = front ++ part :: back ∧
    front.foldlM follow system.top = .ok place ∧ place.names = target ∧
    place.entry.isFolder = true

/-- Whether a path leads nowhere, or ends at a place, or leads on through a folder there. -/
def FailsOrMeets (system : FileSystem) (target : List RawText) (path : Path) : Prop :=
  (∃ cause, system.find path = .error cause) ∨ system.names? path = some target ∨
    system.PassesFolder target path

variable {root other : Entry} {place twin : Location} {target : List RawText} {part : List UInt8}

theorem follow_name (folder : place.entry.isFolder = true) (solid : Path.isIdle part = false)
    (name : part ≠ [dot, dot]) :
    follow place part =
      match place.entry.child? ⟨part⟩ with
      | some entry => .ok ⟨entry, (⟨part⟩, place.entry) :: place.above⟩
      | none => .error .notFound := by
  cases child : place.entry.child? ⟨part⟩ with
  | none => simp [follow, folder, solid, name, child]
  | some inner => simp [follow, folder, solid, name, child]

section Steps

variable (same : Entry.SameOutside target root other)
include same

/-- Parallel locations outside the place have the same content. -/
theorem content?_eq (parallel : Location.Parallel root other place twin)
    (apart : ¬target <+: place.names) : place.entry.content? = twin.entry.content? := by
  have here := same place.names apart
  rw [parallel.at?_names, parallel.names_eq, parallel.symm.at?_names] at here
  exact Option.some.inj here

/-- Outside the place parallel locations have entries under the same names. -/
theorem child?_cases (parallel : Location.Parallel root other place twin) {name : RawText}
    (apart : ¬target <+: place.names ++ [name]) :
    (place.entry.child? name = none ∧ twin.entry.child? name = none) ∨
      ∃ inner innerTwin, place.entry.child? name = some inner ∧
        twin.entry.child? name = some innerTwin := by
  have children := same _ apart
  rw [Entry.at?_append, parallel.at?_names, parallel.names_eq, Entry.at?_append,
    parallel.symm.at?_names] at children
  simp only [Option.bind_some, Entry.at?, Option.bind_fun_some] at children
  cases left : place.entry.child? name with
  | none =>
      rw [left, Option.map_none, eq_comm, Option.map_eq_none_iff] at children
      exact Or.inl ⟨rfl, children⟩
  | some inner =>
      rw [left, Option.map_some, eq_comm, Option.map_eq_some_iff] at children
      obtain ⟨innerTwin, right, -⟩ := children
      exact Or.inr ⟨inner, innerTwin, rfl, right⟩

omit same in
/-- The way up leads from parallel folders to parallel folders, or stays at the root. -/
theorem follow_up (parallel : Location.Parallel root other place twin)
    (folder : place.entry.isFolder = true) (folderTwin : twin.entry.isFolder = true) :
    ∃ next nextTwin, follow place [dot, dot] = .ok next ∧ follow twin [dot, dot] = .ok nextTwin ∧
      Location.Parallel root other next nextTwin ∧ next.names <+: place.names := by
  have solid : Path.isIdle [dot, dot] = false := by decide
  cases parallel with
  | top =>
      exact ⟨_, _, by simp [follow, folder, solid], by simp [follow, folderTwin, solid], .top,
        List.prefix_rfl⟩
  | enter above left right =>
      refine ⟨_, _, by simp [follow, folder, solid], by simp [follow, folderTwin, solid], above, ?_⟩
      simp [Location.names]

/-- One part leads on from parallel locations to parallel locations, or nowhere, or to the
place. -/
theorem follow_cases (parallel : Location.Parallel root other place twin)
    (apart : ¬target <+: place.names) (part : List UInt8) :
    (∃ cause, follow place part = .error cause ∧ follow twin part = .error cause) ∨
      (∃ next nextTwin, follow place part = .ok next ∧ follow twin part = .ok nextTwin ∧
        Location.Parallel root other next nextTwin ∧ ¬target <+: next.names) ∨
      Enters place part target ∧ Enters twin part target := by
  have kind := Entry.isFolder_eq_of_content? (content?_eq same parallel apart)
  cases folder : place.entry.isFolder with
  | false =>
      rw [folder] at kind
      exact Or.inl ⟨.notFolder, by simp [follow, folder], by simp [follow, ← kind]⟩
  | true =>
      rw [folder] at kind
      by_cases idle : Path.isIdle part = true
      · exact Or.inr (Or.inl ⟨place, twin, by simp [follow, folder, idle],
          by simp [follow, ← kind, idle], parallel, apart⟩)
      by_cases up : part = [dot, dot]
      · obtain ⟨next, nextTwin, left, right, above, below⟩ := follow_up parallel folder kind.symm
        rw [up]
        exact Or.inr (Or.inl ⟨next, nextTwin, left, right, above, fun within =>
          apart (within.trans below)⟩)
      have solid : Path.isIdle part = false := by simpa using idle
      by_cases here : place.names ++ [⟨part⟩] = target
      · refine Or.inr (Or.inr ⟨⟨folder, solid, up, here⟩, kind.symm, solid, up, ?_⟩)
        rw [← parallel.names_eq]
        exact here
      have further : ¬target <+: place.names ++ [⟨part⟩] := by
        rw [List.prefix_concat_iff]
        rintro (there | within)
        · exact here there.symm
        · exact apart within
      rw [follow_name folder solid up, follow_name kind.symm solid up]
      rcases child?_cases same parallel further with ⟨left, right⟩ | ⟨_, _, left, right⟩
      · rw [left, right]
        exact Or.inl ⟨.notFound, rfl, rfl⟩
      · rw [left, right]
        refine Or.inr (Or.inl ⟨_, _, rfl, rfl, .enter parallel left right, ?_⟩)
        simpa [Location.names] using further

/-- Parts lead on from parallel locations to parallel locations, or nowhere, until one of them leads
to the place. -/
theorem foldlM_follow_cases (parallel : Location.Parallel root other place twin)
    (apart : ¬target <+: place.names) (parts : List (List UInt8)) :
    (∃ cause, parts.foldlM follow place = .error cause ∧
        parts.foldlM follow twin = .error cause) ∨
      (∃ last lastTwin, parts.foldlM follow place = .ok last ∧
        parts.foldlM follow twin = .ok lastTwin ∧
        Location.Parallel root other last lastTwin ∧ ¬target <+: last.names) ∨
      ∃ front part back mid midTwin, parts = front ++ part :: back ∧
        front.foldlM follow place = .ok mid ∧ front.foldlM follow twin = .ok midTwin ∧
        Enters mid part target ∧ Enters midTwin part target := by
  induction parts generalizing place twin with
  | nil => exact Or.inr (Or.inl ⟨place, twin, rfl, rfl, parallel, apart⟩)
  | cons part rest ih =>
      rcases follow_cases same parallel apart part with
        ⟨cause, left, right⟩ | ⟨next, nextTwin, left, right, onward, outside⟩ | ⟨here, there⟩
      · refine Or.inl ⟨cause, ?_, ?_⟩
        · rw [foldlM_follow_step, left]
          rfl
        · rw [foldlM_follow_step, right]
          rfl
      · have step (parts : List (List UInt8)) :
            (part :: parts).foldlM follow place = parts.foldlM follow next ∧
              (part :: parts).foldlM follow twin = parts.foldlM follow nextTwin := by
          rw [foldlM_follow_step, foldlM_follow_step, left, right]
          exact ⟨rfl, rfl⟩
        rw [(step rest).1, (step rest).2]
        rcases ih onward outside with failed | arrived |
          ⟨front, entered, back, mid, midTwin, rfl, reached, reachedTwin, here, there⟩
        · exact Or.inl failed
        · exact Or.inr (Or.inl arrived)
        · exact Or.inr (Or.inr ⟨part :: front, entered, back, mid, midTwin, rfl,
            (step front).1.trans reached, (step front).2.trans reachedTwin, here, there⟩)
      · exact Or.inr (Or.inr ⟨[], part, rest, place, twin, rfl, rfl, rfl, here, there⟩)

end Steps

section Find

variable {system other : FileSystem} {path : Path}

theorem names_of_follow {next : Location} (enters : Enters place part target)
    (followed : follow place part = .ok next) : next.names = target := by
  obtain ⟨-, solid, name, here⟩ := enters
  rw [names_of_follow_name (by simp [solid]) name followed, here]

/-- A path that gets to the place ends there or leads on through a folder, or it leads nowhere. -/
theorem find_of_enters (solid : path.raw.bytes ≠ []) {front back : List (List UInt8)}
    (route : system.route path = front ++ part :: back)
    (reached : front.foldlM follow system.top = .ok place) (enters : Enters place part target) :
    system.FailsOrMeets target path := by
  have found : system.find path =
      (follow place part).bind fun next => back.foldlM follow next := by
    rw [find_eq system solid, route, foldlM_follow_append reached, foldlM_follow_step]
  rw [FailsOrMeets, names?, found]
  cases step : follow place part with
  | error cause => exact Or.inl ⟨cause, rfl⟩
  | ok next =>
      have there := names_of_follow enters step
      cases back with
      | nil => exact Or.inr (Or.inl (congrArg some there))
      | cons second more =>
          cases folder : next.entry.isFolder with
          | true =>
              refine Or.inr (Or.inr ⟨front ++ [part], second, more, next, ?_, ?_, there, folder⟩)
              · rw [route]
                simp
              · rw [foldlM_follow_append reached, foldlM_follow_step, step]
                rfl
          | false =>
              have stuck : follow next second = .error .notFolder := by simp [follow, folder]
              refine Or.inl ⟨.notFolder, ?_⟩
              show (second :: more).foldlM follow next = _
              rw [foldlM_follow_step, stuck]
              rfl

/-- A path leads to the same content in both file systems, or in each of them it leads nowhere or
gets to the place. -/
theorem find_outside (same : SameOutside target system other) (solid : path.raw.bytes ≠ []) :
    (∃ place twin, system.find path = .ok place ∧ other.find path = .ok twin ∧
        place.entry.content? = twin.entry.content?) ∨
      system.FailsOrMeets target path ∧ other.FailsOrMeets target path := by
  have route : other.route path = system.route path := by
    rw [FileSystem.route, FileSystem.route, same.working_eq]
  have apart : ¬target <+: Location.names ⟨system.root, []⟩ := by
    simpa [Location.names] using same.target_ne
  have found := find_eq system solid
  have foundOther := find_eq other solid
  rw [route] at foundOther
  rcases foldlM_follow_cases same.entries .top apart (system.route path) with
    ⟨cause, left, right⟩ | ⟨last, lastTwin, left, right, parallel, outside⟩ |
    ⟨front, part, back, mid, midTwin, parts, left, right, here, there⟩
  · exact Or.inr ⟨Or.inl ⟨cause, found.trans left⟩, Or.inl ⟨cause, foundOther.trans right⟩⟩
  · exact Or.inl ⟨last, lastTwin, found.trans left, foundOther.trans right,
      content?_eq same.entries parallel outside⟩
  · exact Or.inr ⟨find_of_enters solid parts left here,
      find_of_enters solid (route.trans parts) right there⟩

/-- What is reached at the place is what stands there. -/
theorem at?_of_passesFolder (passes : system.PassesFolder target path) :
    ∃ entry, system.root.at? target = some entry ∧ entry.isFolder = true := by
  obtain ⟨front, part, back, place, -, reached, rfl, folder⟩ := passes
  have same : Entry.SameExcept [] system.root system.root := .same system.root
  have parallel := (foldlM_follow_alike same .top front).parallel_self reached
  exact ⟨place.entry, parallel.at?_names, folder⟩

/-- No path leads on through a place where no folder stands. -/
theorem not_passesFolder
    (plain : ∀ entry, system.root.at? target = some entry → entry.isFolder = false) (path : Path) :
    ¬system.PassesFolder target path := by
  intro passes
  obtain ⟨entry, there, folder⟩ := at?_of_passesFolder passes
  rw [plain entry there] at folder
  cases folder

end Find

end Outside

end FileSystem

end DuplicateLogic
