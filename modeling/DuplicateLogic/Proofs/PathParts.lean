import DuplicateLogic.Path
import Mathlib.Data.List.Basic
import Mathlib.Tactic.Set

/-! # Paths part by part

A path is its start and the parts between its separators. Joining puts the parts of the inner path
behind those of the base, so the components are joined as well, and stripping the base off again
gives the inner path back as it was spelled. -/

namespace DuplicateLogic

namespace Text

section Parts

variable {α : Type} [DecidableEq α]

theorem splitOn_eq (separator : α) (text : List α) :
    splitOn separator text = text.splitOn separator := by
  induction text with
  | nil => rfl
  | cons c rest ih =>
      rw [List.splitOn_cons_eq_if_modifyHead, ← ih]
      by_cases same : c = separator
      · simp [splitOn, same]
      · obtain ⟨part, parts, cut⟩ : ∃ part parts, splitOn separator rest = part :: parts :=
          List.exists_cons_of_ne_nil (by simp [ih])
        rw [cut, if_neg (by simpa using same)]
        simp only [splitOn, List.foldr_cons] at cut ⊢
        rw [cut, if_neg same]
        rfl

theorem splitOn_ne_nil (separator : α) (text : List α) : splitOn separator text ≠ [] := by
  rw [splitOn_eq]
  exact List.splitOn_ne_nil separator text

theorem splitOn_append_separator (separator : α) (front back : List α) :
    splitOn separator (front ++ separator :: back) =
      splitOn separator front ++ splitOn separator back := by
  simp only [splitOn_eq, List.splitOn_append_cons_self]

theorem splitOn_of_notMem {separator : α} {text : List α} (free : separator ∉ text) :
    splitOn separator text = [text] := by
  rw [splitOn_eq, List.splitOn_eq_singleton free]

omit [DecidableEq α] in
theorem joinWith_singleton (separator : α) (part : List α) :
    joinWith separator [part] = part := by
  rw [joinWith, List.intercalate_singleton]

omit [DecidableEq α] in
theorem joinWith_cons_cons (separator : α) (first second : List α)
    (rest : List (List α)) :
    joinWith separator (first :: second :: rest) =
      first ++ separator :: joinWith separator (second :: rest) := by
  simp only [joinWith, List.intercalate_cons_cons, List.append_assoc, List.singleton_append]

theorem splitOn_joinWith {separator : α} {parts : List (List α)} (some : parts ≠ [])
    (free : ∀ part ∈ parts, separator ∉ part) :
    splitOn separator (joinWith separator parts) = parts := by
  rw [splitOn_eq, joinWith, List.splitOn_intercalate separator free some]

theorem joinWith_splitOn (separator : α) (text : List α) :
    joinWith separator (splitOn separator text) = text := by
  rw [splitOn_eq, joinWith, List.intercalate_splitOn]

end Parts

end Text

namespace Path

open RawText (slash dot)

/-- The components that the start of a path stands for. -/
def Lead.components : Lead → List Component
  | root => [.root]
  | current => [.current]
  | bare => []

/-- The parts that name a component. -/
def solidParts (parts : List (List UInt8)) : List (List UInt8) :=
  parts.filter fun part => !isIdle part

@[simp] theorem solidParts_append (front back : List (List UInt8)) :
    solidParts (front ++ back) = solidParts front ++ solidParts back :=
  List.filter_append ..

theorem solidParts_of_idle {parts : List (List UInt8)} (idle : ∀ part ∈ parts, isIdle part = true) :
    solidParts parts = [] := by
  simpa [solidParts] using idle

theorem components_eq_split (path : Path) :
    path.components =
      path.split.1.components ++ (solidParts path.split.2).map Component.ofPart := by
  unfold components
  dsimp only
  cases path.split.1 <;> rfl

theorem split_slash (rest : List UInt8) :
    split ⟨⟨slash :: rest⟩⟩ = (.root, Text.splitOn slash rest) := by
  simp [split]

/-- The start that the parts of a relative path begin with, and the other parts. -/
private def takeLead : List (List UInt8) → Lead × List (List UInt8)
  | [46] :: rest => (.current, rest)
  | parts => (.bare, parts)

private theorem split_of_relative {path : Path} (relative : path.raw.bytes.head? ≠ some slash) :
    path.split = takeLead (Text.splitOn slash path.raw.bytes) := by
  unfold split
  split
  next rest absolute => simp [absolute] at relative
  · rfl

/-- A relative path starts with a dot or with its first part. -/
theorem splitOn_of_relative {path : Path} (relative : path.raw.bytes.head? ≠ some slash) :
    path.split.1 = .current ∧ Text.splitOn slash path.raw.bytes = [dot] :: path.split.2 ∨
      path.split.1 = .bare ∧ Text.splitOn slash path.raw.bytes = path.split.2 := by
  rw [split_of_relative relative]
  unfold takeLead
  split
  next rest dot => exact Or.inl ⟨rfl, dot⟩
  · exact Or.inr ⟨rfl, rfl⟩

private theorem takeLead_of_ne {part : List UInt8} (solid : part ≠ [dot])
    (rest : List (List UInt8)) : takeLead (part :: rest) = (.bare, part :: rest) := by
  unfold takeLead
  split
  next same => exact absurd (List.cons.inj same).1 solid
  · rfl

private theorem takeLead_append {front : List (List UInt8)} (some : front ≠ [])
    (back : List (List UInt8)) :
    takeLead (front ++ back) = ((takeLead front).1, (takeLead front).2 ++ back) := by
  obtain ⟨part, parts, rfl⟩ := List.exists_cons_of_ne_nil some
  by_cases lead : part = [dot]
  · subst lead
    rfl
  · rw [List.cons_append, takeLead_of_ne lead, takeLead_of_ne lead]
    rfl

/-- What follows a separator adds parts and leaves the start as it is. -/
theorem split_append {front : List UInt8} (some : front ≠ []) (back : List UInt8) :
    split ⟨⟨front ++ slash :: back⟩⟩ =
      ((split ⟨⟨front⟩⟩).1, (split ⟨⟨front⟩⟩).2 ++ Text.splitOn slash back) := by
  obtain ⟨c, rest, rfl⟩ := List.exists_cons_of_ne_nil some
  by_cases absolute : c = slash
  · subst absolute
    rw [List.cons_append, split_slash, split_slash, Text.splitOn_append_separator]
  · rw [split_of_relative (by simpa using absolute), split_of_relative (by simpa using absolute),
      Text.splitOn_append_separator, takeLead_append (Text.splitOn_ne_nil slash _)]

/-- A path is written from its start and its parts. -/
theorem ofParts_split (path : Path) : ofParts path.split.1 path.split.2 = path := by
  obtain ⟨⟨bytes⟩⟩ := path
  by_cases absolute : bytes.head? = some slash
  · obtain ⟨rest, rfl⟩ := List.head?_eq_some_iff.mp absolute
    rw [split_slash]
    simp only [ofParts, Text.joinWith_splitOn]
  · have whole := Text.joinWith_splitOn slash bytes
    rw [split_of_relative absolute]
    unfold takeLead
    split
    next rest cut =>
      rw [← whole, cut]
      cases rest with
      | nil => rfl
      | cons next rest =>
          rw [Text.joinWith_cons_cons]
          rfl
    · simp only [ofParts, whole]

/-- Only a dot may have no parts behind it. -/
theorem split_ne_nil {path : Path} (solid : path.split.1 ≠ .current) : path.split.2 ≠ [] := by
  by_cases absolute : path.raw.bytes.head? = some slash
  · obtain ⟨⟨bytes⟩⟩ := path
    obtain ⟨rest, rfl⟩ := List.head?_eq_some_iff.mp absolute
    rw [split_slash]
    exact Text.splitOn_ne_nil slash rest
  · rcases splitOn_of_relative absolute with ⟨lead, -⟩ | ⟨-, parts⟩
    · exact absurd lead solid
    · rw [← parts]
      exact Text.splitOn_ne_nil slash path.raw.bytes

section Join

variable {base inner : Path}

/-- Joining puts a separator between the two spellings unless the base ends with one. -/
theorem exists_bytes_join (solid : base.raw.bytes ≠ [])
    (relative : inner.raw.bytes.head? ≠ some slash) :
    ∃ front, (base.join inner).raw.bytes = front ++ slash :: inner.raw.bytes ∧
      (base.raw.bytes = front ∧ front ≠ [] ∨ base.raw.bytes = front ++ [slash]) := by
  unfold join
  split
  next rest absolute => simp [absolute] at relative
  · split
    next ends =>
      have ends : base.raw.bytes.getLast? = some slash := by simpa [solid] using ends
      obtain ⟨front, text⟩ := List.getLast?_eq_some_iff.mp ends
      exact ⟨front, by simp [text], Or.inr text⟩
    next =>
      exact ⟨base.raw.bytes, rfl, Or.inl ⟨rfl, solid⟩⟩

theorem bytes_join_ne (solid : base.raw.bytes ≠ [])
    (relative : inner.raw.bytes.head? ≠ some slash) : (base.join inner).raw.bytes ≠ [] := by
  obtain ⟨front, bytes, -⟩ := exists_bytes_join solid relative
  simp [bytes]

/-- A joined path has the start of the base. Its parts are those of the base, up to idle ones at
the end, and those of the inner path. -/
theorem split_join (solid : base.raw.bytes ≠ [])
    (relative : inner.raw.bytes.head? ≠ some slash) :
    ∃ parts idle, base.split = ((base.join inner).split.1, parts ++ idle) ∧
      (∀ part ∈ idle, isIdle part = true) ∧
      (base.join inner).split.2 = parts ++ Text.splitOn slash inner.raw.bytes := by
  obtain ⟨front, bytes, here⟩ := exists_bytes_join solid relative
  have joined : base.join inner = ⟨⟨front ++ slash :: inner.raw.bytes⟩⟩ := by rw [← bytes]
  have known {bytes : List UInt8} (same : base.raw.bytes = bytes) : base = ⟨⟨bytes⟩⟩ := by
    rw [← same]
  rcases here with ⟨same, some⟩ | same
  · refine ⟨base.split.2, [], ?_, by simp, ?_⟩
    · rw [joined, split_append some, ← known same, List.append_nil]
    · rw [joined, split_append some, ← known same]
  · have idle : ∀ part ∈ [([] : List UInt8)], isIdle part = true := by simp [isIdle]
    by_cases some : front = []
    · subst some
      refine ⟨[], [[]], ?_, idle, ?_⟩
      · rw [joined, known same, List.nil_append, List.nil_append, split_slash, split_slash]
        rfl
      · rw [joined, List.nil_append, split_slash]
        rfl
    · refine ⟨(split ⟨⟨front⟩⟩).2, [[]], ?_, idle, ?_⟩
      · rw [joined, known same, split_append some, split_append some]
        rfl
      · rw [joined, split_append some]

/-- The components of a joined path are those of the base and those that the inner path names. -/
theorem components_join (solid : base.raw.bytes ≠ [])
    (relative : inner.raw.bytes.head? ≠ some slash) :
    (base.join inner).components = base.components ++
      (solidParts (Text.splitOn slash inner.raw.bytes)).map Component.ofPart := by
  obtain ⟨parts, idle, start, still, joined⟩ := split_join solid relative
  rw [components_eq_split, components_eq_split base, start, joined, solidParts_append,
    solidParts_append, solidParts_of_idle still, List.append_nil, List.map_append,
    List.append_assoc]

end Join

section Names

/-- Whether some bytes are the name of a component. -/
def IsName (name : RawText) : Prop :=
  name.bytes ≠ [] ∧ slash ∉ name.bytes ∧ name.bytes ≠ [dot] ∧ name.bytes ≠ [dot, dot]

instance (name : RawText) : Decidable (IsName name) :=
  inferInstanceAs (Decidable (_ ∧ _ ∧ _ ∧ _))

/-- The relative path of a list of names. -/
def ofNames (names : List RawText) : Path :=
  ofParts .bare (names.map RawText.bytes)

theorem isIdle_bytes {name : RawText} (proper : IsName name) : isIdle name.bytes = false := by
  simp [isIdle, proper.1, proper.2.2.1]

theorem ofPart_bytes {name : RawText} (proper : IsName name) :
    Component.ofPart name.bytes = .name name := by
  rw [Component.ofPart, if_neg proper.2.2.2]

theorem head?_ne_slash {name : RawText} (proper : IsName name) : name.bytes.head? ≠ some slash :=
  fun starts => proper.2.1 (List.mem_of_mem_head? starts)

theorem solidParts_bytes {names : List RawText} (proper : ∀ name ∈ names, IsName name) :
    solidParts (names.map RawText.bytes) = names.map RawText.bytes := by
  rw [solidParts, List.filter_eq_self]
  intro part known
  obtain ⟨name, listed, rfl⟩ := List.mem_map.mp known
  simp [isIdle_bytes (proper name listed)]

theorem bytes_ofNames (names : List RawText) :
    (ofNames names).raw.bytes = Text.joinWith slash (names.map RawText.bytes) := rfl

/-- The parts of a relative path are its names. -/
theorem splitOn_ofNames {names : List RawText} (proper : ∀ name ∈ names, IsName name)
    (some : names ≠ []) :
    Text.splitOn slash (ofNames names).raw.bytes = names.map RawText.bytes := by
  rw [bytes_ofNames, Text.splitOn_joinWith (by simpa using some)]
  intro part known
  obtain ⟨name, listed, rfl⟩ := List.mem_map.mp known
  exact (proper name listed).2.1

variable {base : Path} (solid : base.raw.bytes ≠ [])
include solid

theorem bytes_join_name_ne {name : RawText} (proper : IsName name) :
    (base.join ⟨name⟩).raw.bytes ≠ [] :=
  bytes_join_ne solid (head?_ne_slash proper)

theorem components_join_name {name : RawText} (proper : IsName name) :
    (base.join ⟨name⟩).components = base.components ++ [.name name] := by
  rw [components_join solid (head?_ne_slash proper), Text.splitOn_of_notMem proper.2.1]
  have single : solidParts [name.bytes] = [name.bytes] :=
    @solidParts_bytes [name] (by simpa using proper)
  rw [single, List.map_singleton, ofPart_bytes proper]

end Names

/-- The path that is reached from a path by entering one name after another. -/
def descend (path : Path) (names : List RawText) : Path :=
  names.foldl (fun path name => path.join ⟨name⟩) path

theorem descend_cons (path : Path) (name : RawText) (rest : List RawText) :
    path.descend (name :: rest) = (path.join ⟨name⟩).descend rest := rfl

theorem components_descend {path : Path} (solid : path.raw.bytes ≠ []) {names : List RawText}
    (proper : ∀ name ∈ names, IsName name) :
    (path.descend names).components = path.components ++ names.map Component.name := by
  induction names generalizing path with
  | nil => simp [descend]
  | cons name rest ih =>
      obtain ⟨here, later⟩ := List.forall_mem_cons.mp proper
      rw [descend_cons, ih (bytes_join_name_ne solid here) later,
        components_join_name solid here, List.append_assoc]
      rfl

/-- Different names lead to different paths. -/
theorem descend_inj {path : Path} (solid : path.raw.bytes ≠ []) {names others : List RawText}
    (proper : ∀ name ∈ names, IsName name) (properOthers : ∀ name ∈ others, IsName name)
    (same : (path.descend names).components = (path.descend others).components) :
    names = others := by
  rw [components_descend solid proper, components_descend solid properOthers,
    List.append_cancel_left_eq] at same
  exact List.map_injective_iff.mpr (fun _ _ => Component.name.inj) same

theorem fileName?_descend {path : Path} (solid : path.raw.bytes ≠ []) {names : List RawText}
    (proper : ∀ name ∈ names, IsName name) (some : names ≠ []) :
    (path.descend names).fileName? = names.getLast? := by
  obtain ⟨front, last, rfl⟩ := (List.eq_nil_or_concat names).resolve_left some
  rw [fileName?, components_descend solid proper]
  simp

/-- The folders of a path below a base. -/
def foldersBelow (path base : Path) : List Component :=
  (path.components.drop base.components.length).dropLast

theorem foldersBelow_descend {path : Path} (solid : path.raw.bytes ≠ []) {names : List RawText}
    (proper : ∀ name ∈ names, IsName name) :
    (path.descend names).foldersBelow path = names.dropLast.map Component.name := by
  rw [foldersBelow, components_descend solid proper, List.drop_left, List.map_dropLast]

section Strip

theorem trimEnd_of_solid {parts : List (List UInt8)} (solid : ∀ part ∈ parts, isIdle part = false) :
    trimEnd parts = parts := by
  have kept : parts.reverse.dropWhile isIdle = parts.reverse := by
    cases ends : parts.reverse with
    | nil => rfl
    | cons last front =>
        have known : last ∈ parts := List.mem_reverse.mp (ends ▸ List.mem_cons_self)
        rw [List.dropWhile_cons_of_neg (by simp [solid last known])]
  rw [trimEnd, kept, List.reverse_reverse]

/-- Dropping as many components as some parts name leaves what follows the parts, behind idle
ones. -/
theorem dropWhile_dropComponents (parts rest : List (List UInt8)) :
    (dropComponents (solidParts parts).length (parts ++ rest)).dropWhile isIdle =
      rest.dropWhile isIdle := by
  induction parts with
  | nil => rw [solidParts, List.filter_nil, List.nil_append, List.length_nil, dropComponents]
  | cons part parts ih =>
      cases idle : isIdle part with
      | true =>
          have skipped : solidParts (part :: parts) = solidParts parts := by
            simp [solidParts, idle]
          rw [skipped, List.cons_append]
          cases count : (solidParts parts).length with
          | zero =>
              rw [count] at ih
              rw [dropComponents, List.dropWhile_cons_of_pos idle, ← ih, dropComponents]
          | succ count' =>
              rw [dropComponents, if_pos idle, ← count]
              exact ih
      | false =>
          have counted : (solidParts (part :: parts)).length = (solidParts parts).length + 1 := by
            simp [solidParts, idle]
          rw [counted, List.cons_append, dropComponents, idle]
          exact ih

/-- A path that is not empty has components. -/
theorem components_ne_nil {path : Path} (solid : path.raw.bytes ≠ []) : path.components ≠ [] := by
  intro none
  obtain ⟨start, still⟩ := List.append_eq_nil_iff.mp ((components_eq_split path).symm.trans none)
  have idle : ∀ part ∈ path.split.2, isIdle part = true := by
    simpa [solidParts] using still
  obtain ⟨⟨bytes⟩⟩ := path
  obtain ⟨c, rest, rfl⟩ := List.exists_cons_of_ne_nil solid
  by_cases absolute : c = slash
  · rw [absolute, split_slash] at start
    cases start
  · obtain ⟨part, parts, cut⟩ :
        ∃ part parts, Text.splitOn slash (c :: rest) = (c :: part) :: parts := by
      obtain ⟨part, parts, cut⟩ := List.exists_cons_of_ne_nil (List.splitOn_ne_nil slash rest)
      rw [Text.splitOn_eq, List.splitOn_cons_eq_if_modifyHead, cut]
      simp [absolute]
    rw [split_of_relative (by simpa using absolute), cut] at start idle
    by_cases lead : c :: part = [dot]
    · rw [lead] at start
      cases start
    · rw [takeLead_of_ne lead] at idle
      simpa [isIdle, lead] using idle (c :: part) List.mem_cons_self

/-- Below a base with components, what is left of a path is its parts without those that name
them. -/
theorem stripPrefix?_of_starts {path base : Path} (some : base.components ≠ [])
    (starts : base.components <+: path.components) :
    path.stripPrefix? base = Option.some (ofParts .bare (trimEnd ((dropComponents
      (base.components.length - path.split.1.components.length) path.split.2).dropWhile
        isIdle))) := by
  obtain ⟨first, rest, front⟩ := List.exists_cons_of_ne_nil some
  have within : (first :: rest).isPrefixOf path.components = true := by
    rw [← front]
    exact List.isPrefixOf_iff_prefix.mpr starts
  unfold stripPrefix?
  simp only [front, within, if_true]
  cases path.split.1 <;> rfl

variable {names : List RawText} (proper : ∀ name ∈ names, IsName name)
include proper

theorem head?_ofNames_ne : (ofNames names).raw.bytes.head? ≠ some slash := by
  rw [bytes_ofNames]
  cases names with
  | nil => simp [Text.joinWith]
  | cons name rest =>
      obtain ⟨c, cs, text⟩ := List.exists_cons_of_ne_nil (proper name List.mem_cons_self).1
      have different : c ≠ slash := by
        rintro rfl
        exact (proper name List.mem_cons_self).2.1 (text ▸ List.mem_cons_self)
      cases rest with
      | nil => simpa [Text.joinWith_singleton, text] using different
      | cons next rest => simpa [Text.joinWith_cons_cons, text] using different

/-- The parts of a relative path are its names, up to idle ones. -/
theorem trimEnd_splitOn_ofNames :
    trimEnd (Text.splitOn slash (ofNames names).raw.bytes) = names.map RawText.bytes ∧
      trimEnd ((Text.splitOn slash (ofNames names).raw.bytes).dropWhile isIdle) =
        names.map RawText.bytes := by
  by_cases none : names = []
  · subst none
    decide
  · have solid : ∀ part ∈ names.map RawText.bytes, isIdle part = false := by
      intro part known
      obtain ⟨name, listed, rfl⟩ := List.mem_map.mp known
      exact isIdle_bytes (proper name listed)
    have kept : (names.map RawText.bytes).dropWhile isIdle = names.map RawText.bytes := by
      obtain ⟨name, rest, rfl⟩ := List.exists_cons_of_ne_nil none
      rw [List.map_cons, List.dropWhile_cons_of_neg (by simp [solid name.bytes])]
    rw [splitOn_ofNames proper none, kept]
    exact ⟨trimEnd_of_solid solid, trimEnd_of_solid solid⟩

theorem split_ofNames :
    (ofNames names).split = (.bare, Text.splitOn slash (ofNames names).raw.bytes) := by
  by_cases none : names = []
  · subst none
    decide
  · have parts := splitOn_ofNames proper none
    obtain ⟨name, rest, rfl⟩ := List.exists_cons_of_ne_nil none
    rw [split_of_relative (head?_ofNames_ne proper), parts, List.map_cons,
      takeLead_of_ne (proper name List.mem_cons_self).2.2.1]

/-- Below its root, a joined path is the relative path that was joined, however the root is
spelled. -/
theorem stripPrefix?_join {root base : Path} (same : base.same root = true) :
    (root.join (ofNames names)).stripPrefix? base = some (ofNames names) := by
  have components : base.components = root.components := by simpa [Path.same] using same
  have relative := head?_ofNames_ne proper
  obtain ⟨trimmed, dropped⟩ := trimEnd_splitOn_ofNames proper
  by_cases solid : root.raw.bytes = []
  · obtain rfl : root = ⟨⟨[]⟩⟩ := by rw [← solid]
    have joined : (⟨⟨[]⟩⟩ : Path).join (ofNames names) = ofNames names := by
      unfold join
      split
      · rfl
      · simp
    have empty : (⟨⟨[]⟩⟩ : Path).components = [] := by decide
    unfold stripPrefix?
    simp only [joined, components, empty, split_ofNames proper, List.isPrefixOf_nil_left, if_true,
      trimmed]
    rfl
  · obtain ⟨parts, idle, start, still, joined⟩ := split_join solid relative
    have starts : base.components <+: (root.join (ofNames names)).components := by
      rw [components, components_join solid relative]
      exact List.prefix_append _ _
    have counted : base.components.length - (root.join (ofNames names)).split.1.components.length =
        (solidParts parts).length := by
      rw [components, components_eq_split, start, solidParts_append, solidParts_of_idle still]
      simp
    rw [stripPrefix?_of_starts (components ▸ components_ne_nil solid) starts, counted, joined,
      dropWhile_dropComponents, dropped]
    rfl

end Strip

end Path

end DuplicateLogic
