import DuplicateLogic.Proofs.JsonSkipping
import DuplicateLogic.Proofs.TreeDecoding
import Mathlib.Data.List.Perm.Subperm

/-! # The forms of a tree

A tree can be written in many ways: each node and each position as an object or as a list, with
members left out that have their defaults, with members that nobody asked for, and with blanks
anywhere. All of them are decoded as the same tree, as long as no more brackets are open at once
than a reader may enter. -/

namespace DuplicateLogic

open Json

namespace Position

/-- The members of a position, in order. -/
def fieldNames : List String :=
  ["line", "column"]

/-- The values that may stand for a key: the count that it names, or any value when it names
none. -/
def FieldForm (place : Position) (key : String) (text : List Char) : Prop :=
  if key = "line" then text = Nat.toDigits 10 place.line
  else if key = "column" then text = Nat.toDigits 10 place.column
  else AnyValue text

/-- The ways to write a position; neither count may be missing. -/
def Form (place : Position) (text : List Char) : Prop :=
  RecordForm fieldNames (fun _ => False) place.FieldForm text

theorem startsElement_fieldForm {place : Position} {key : String} {text : List Char}
    (form : place.FieldForm key text) : StartsElement text := by
  unfold FieldForm at form
  split at form
  · exact form ▸ startsElement_toDigits _
  split at form
  · exact form ▸ startsElement_toDigits _
  · exact AnyValue.startsElement form

/-- What is known of a position when the members with some keys have been read. -/
def draftOf (place : Position) (keys : List String) : Draft where
  line? := if "line" ∈ keys then some place.line else none
  column? := if "column" ∈ keys then some place.column else none

/-- A position is written in one of its forms. -/
theorem form_toValue (place : Position) : place.Form place.toValue.compact.toList := by
  refine ⟨fieldNames, by decide, .inl ?_⟩
  rw [toList_toValue]
  apply objectForm_listed
  simp [FieldForm]

variable {place : Position} {fuel : Nat}

theorem Draft.readField_other {draft : Draft} {key : String} (unknown : key ∉ fieldNames)
    {text value rest : List Char} (colon : readColon text = .ok value)
    (skip : skipValue fuel value = .ok rest) :
    draft.readField fuel key text = .ok (draft, rest) := by
  obtain ⟨line, column⟩ : key ≠ "line" ∧ key ≠ "column" := by simpa [fieldNames] using unknown
  simp [readField, line, column, colon, skip, bind, Except.bind, pure, Except.pure]

/-- A member leads from the keys before it to one key more. -/
theorem advances_fieldForm (fits : place.FitsWords) {seen : List String} {key : String}
    {text : List Char} (fresh : key ∈ fieldNames → key ∉ seen) (form : place.FieldForm key text)
    (short : text.length ≤ fuel) :
    Advances (fun draft => Draft.readField fuel draft) (place.draftOf seen) key text
      (place.draftOf (key :: seen)) := by
  intro whole after rest colon blank ends
  unfold FieldForm at form
  split at form
  · subst key form
    have missing : (place.draftOf seen).line? = none := if_neg (fresh (by simp [fieldNames]))
    have read : (place.draftOf seen).readField fuel "line" whole = _ :=
      Draft.readField_line colon missing (accepts_count fits.1 after blank rest ends)
    simpa [draftOf] using read
  split at form
  · subst key form
    have missing : (place.draftOf seen).column? = none := if_neg (fresh (by simp [fieldNames]))
    have read : (place.draftOf seen).readField fuel "column" whole = _ :=
      Draft.readField_column colon missing (accepts_count fits.2 after blank rest ends)
    simpa [draftOf] using read
  next line column =>
    have skip := skipValue_of_anyValue form short blank ends
    have unknown : key ∉ fieldNames := by simp [fieldNames, line, column]
    have read : (place.draftOf seen).readField fuel key whole = _ :=
      Draft.readField_other unknown colon skip
    simpa [draftOf, Ne.symm line, Ne.symm column] using read

/-- A list of both counts is read up to its closing bracket. -/
private theorem readElements_itemsForm (fits : place.FitsWords) {body : List Char}
    (listed : ItemsForm .list place.FieldForm true fieldNames body) (rest : List Char) :
    ∃ before, Blanks before ∧ readElements (body ++ rest) = .ok (place, before ++ ']' :: rest) := by
  have starts : ∀ key text, place.FieldForm key text → StartsElement text :=
    fun _ _ => startsElement_fieldForm
  have line : ∀ text, place.FieldForm "line" text → text.length ≤ body.length →
      Accepts readCount text place.line := by
    rintro _ rfl -
    exact accepts_count fits.1
  obtain ⟨_, others, listed, -, readLine⟩ := listed.reads_next starts line
  have column : ∀ text, place.FieldForm "column" text → text.length ≤ others.length →
      Accepts readCount text place.column := by
    rintro _ rfl -
    exact accepts_count fits.2
  obtain ⟨_, closing, listed, -, readColumn⟩ := listed.reads_next starts column
  cases listed with
  | @close _ blanks blank =>
      refine ⟨blanks, blank, ?_⟩
      simp only [readElements, readLine, readColumn, bind, Except.bind, pure, Except.pure]
      simp [Bracket.closer]

/-- A position is accepted in each of its forms. -/
theorem accepts_form (fits : place.FitsWords) {text : List Char} (form : place.Form text)
    (short : text.length ≤ fuel) : Accepts (read fuel true) text place := by
  obtain ⟨keys, each, shape⟩ := form
  have all : fieldNames ⊆ keys := fun name known => Classical.not_not.mp (each name known).2
  rcases shape with written | ⟨initial, body, rfl, listed⟩
  · apply (memberLoop fuel).accepts_object fieldNames place.draftOf written short
    · intro seen key own fresh form shorter
      exact advances_fieldForm fits fresh form (by omega)
    · exact fun name known => (each name known).1
    · intro rest
      have line : "line" ∈ keys := all (by simp [fieldNames])
      have column : "column" ∈ keys := all (by simp [fieldNames])
      simp [draftOf, line, column, Draft.finish]
  · have longer := ((show fieldNames.Nodup by decide).subperm all).length_le
    obtain rfl : keys = fieldNames := initial.eq_of_length_le longer
    apply accepts_record_list
    exact readElements_itemsForm fits listed

end Position

/-- A kind is accepted in each form of its tag when it is canonical. -/
theorem Kind.accepts_tag {kind : Kind} (canonical : kind.IsCanonical) {text : List Char}
    (form : StringForm kind.tag text) (fuel depth : Nat) :
    Accepts (Kind.read fuel depth) text kind := by
  intro blanks blank rest ends
  have value : Value.read fuel depth (blanks ++ (text ++ rest)) = .ok (.string kind.tag, rest) := by
    cases depth <;> exact accepts_value_string form fuel _ blanks blank rest ends
  simp [Kind.read, value, ofValue?, ofTag_tag canonical, bind, Except.bind, pure, Except.pure]

namespace Node

section Forms

/-- The members of a node, in order. -/
def fieldNames : List String :=
  ["kind", "text", "span", "children"]

/-- Whether a member may be missing because the node has its default there. -/
def MayOmit (node : Node) (name : String) : Prop :=
  (name = "text" ∧ node.text = "") ∨ (name = "span" ∧ node.start = unplaced) ∨
    (name = "children" ∧ node.children = [])

/-- The values that may stand for a key: that of the member that it names, or any value when it
names none. Brackets may be opened inside the node only when the forms of a child are known. -/
def FieldForm (node : Node) (child? : Option (Node → List Char → Prop)) (key : String)
    (text : List Char) : Prop :=
  if key = "kind" then StringForm node.kind.tag text
  else if key = "text" then StringForm node.text text
  else if key = "span" then child?.isSome ∧ node.start.Form text
  else if key = "children" then ∃ child ∈ child?, ListForm child node.children text
  else AnyValue text

section Fields

variable {node : Node} {child? : Option (Node → List Char → Prop)} {text : List Char}

theorem fieldForm_kind : node.FieldForm child? "kind" text ↔ StringForm node.kind.tag text := by
  simp [FieldForm]

theorem fieldForm_text : node.FieldForm child? "text" text ↔ StringForm node.text text := by
  simp [FieldForm]

theorem fieldForm_span :
    node.FieldForm child? "span" text ↔ child?.isSome ∧ node.start.Form text := by
  simp [FieldForm]

theorem fieldForm_children :
    node.FieldForm child? "children" text ↔
      ∃ child ∈ child?, ListForm child node.children text := by
  simp [FieldForm]

theorem fieldForm_other {key : String} (unknown : key ∉ fieldNames) :
    node.FieldForm child? key text ↔ AnyValue text := by
  obtain ⟨kind, own, span, children⟩ :
      key ≠ "kind" ∧ key ≠ "text" ∧ key ≠ "span" ∧ key ≠ "children" := by
    simpa [fieldNames] using unknown
  simp [FieldForm, kind, own, span, children]

end Fields

/-- The ways to write a tree in which at most `room` brackets are open at once, but for those in
the values of other keys. A child stands two brackets deeper than its parent. -/
def Form : Nat → Node → List Char → Prop
  | 0, _, _ => False
  | 1, node, text => RecordForm fieldNames node.MayOmit (node.FieldForm none) text
  | room + 2, node, text =>
      RecordForm fieldNames node.MayOmit (node.FieldForm (some (Form room))) text

theorem startsElement_form {room : Nat} {node : Node} {text : List Char}
    (form : node.Form room text) : StartsElement text := by
  match room, form with
  | 1, form => exact RecordForm.startsElement form
  | _ + 2, form => exact RecordForm.startsElement form

/-- The members of a written node, each in one of its forms. -/
private theorem fieldForm_members {node : Node} {child : Node → List Char → Prop}
    (children : ListForm child node.children node.childrenText) :
    ∀ member ∈ node.frontMembers ++ node.childrenMember,
      node.FieldForm (some child) member.1 member.2 := by
  intro member known
  rcases List.mem_append.mp known with front | last
  · simp only [frontMembers, nameMembers, List.cons_append, List.nil_append, List.mem_cons,
      List.not_mem_nil, or_false] at front
    rcases front with rfl | rfl | rfl <;> dsimp only
    · exact fieldForm_kind.mpr (stringForm_compact node.kind.tag)
    · exact fieldForm_text.mpr (stringForm_compact node.text)
    · exact fieldForm_span.mpr ⟨rfl, node.start.form_toValue⟩
  · unfold childrenMember at last
    split at last
    · cases last
    · obtain rfl := List.mem_singleton.mp last
      exact fieldForm_children.mpr ⟨child, rfl, children⟩

/-- A written node has every member once, but for children when there are none. -/
private theorem keys_members (node : Node) :
    ∀ name ∈ fieldNames,
      ((node.frontMembers ++ node.childrenMember).map Prod.fst).count name ≤ 1 ∧
      (name ∉ (node.frontMembers ++ node.childrenMember).map Prod.fst → node.MayOmit name) := by
  unfold childrenMember
  split
  next leaf =>
    have none : node.children = [] := List.isEmpty_iff.mp leaf
    simp [fieldNames, frontMembers, nameMembers, MayOmit, none]
  · simp [fieldNames, frontMembers, nameMembers]

/-- A tree is written in one of its forms when half the brackets that may be open are as many as
the nodes on each path. -/
theorem form_render {root : Node} {room : Nat} (fits : root.FitsIn (room / 2)) :
    root.Form room root.render.toList := by
  induction root using Node.induction generalizing room with
  | step root ih =>
      match room with
      | 0 => exact absurd fits (not_fitsIn_zero root)
      | 1 => exact absurd fits (not_fitsIn_zero root)
      | room + 2 =>
          have half : (room + 2) / 2 = room / 2 + 1 := by omega
          rw [half, fitsIn_succ_iff] at fits
          have children : ListForm (Form room) root.children root.childrenText :=
            listForm_listed fun child known => ih child known (fits child known)
          have members := objectForm_listed (fieldForm_members children)
          rw [← toList_render] at members
          exact ⟨_, root.keys_members, .inl members⟩

private theorem startsElement_fieldForm {node : Node} {child? : Option (Node → List Char → Prop)}
    {key : String} {text : List Char} (form : node.FieldForm child? key text) :
    StartsElement text := by
  unfold FieldForm at form
  split at form
  · exact form.startsElement
  split at form
  · exact form.startsElement
  split at form
  · exact RecordForm.startsElement form.2
  split at form
  · obtain ⟨child, -, body, rfl, -⟩ := form
    exact ⟨'[', body, rfl, rfl, by decide⟩
  · exact AnyValue.startsElement form

end Forms

/-- What is known of a node when the members with some keys have been read. -/
def draftOf (node : Node) (keys : List String) : Draft where
  kind? := if "kind" ∈ keys then some node.kind else none
  text? := if "text" ∈ keys then some node.text else none
  start? := if "span" ∈ keys then some node.start else none
  children? := if "children" ∈ keys then some node.children else none

theorem Draft.readField_other {fuel depth : Nat} {child? : Option (Reader Node)} {draft : Draft}
    {key : String} (unknown : key ∉ fieldNames) {text value rest : List Char}
    (colon : readColon text = .ok value) (skip : skipValue fuel value = .ok rest) :
    draft.readField fuel depth child? key text = .ok (draft, rest) := by
  obtain ⟨kind, own, span, children⟩ :
      key ≠ "kind" ∧ key ≠ "text" ∧ key ≠ "span" ∧ key ≠ "children" := by
    simpa [fieldNames] using unknown
  simp [readField, kind, own, span, children, colon, skip, bind, Except.bind, pure, Except.pure]

private theorem getD_ite {α : Type} {known : Prop} [Decidable known] {value default : α}
    (missing : ¬known → value = default) :
    (if known then some value else none).getD default = value := by
  by_cases present : known
  · rw [if_pos present, Option.getD_some]
  · rw [if_neg present, Option.getD_none, missing present]

/-- What may be missing has its default, and the kind may not be missing. -/
private theorem defaults_of_mayOmit {node : Node} {keys : List String}
    (known : ∀ name ∈ fieldNames, name ∉ keys → node.MayOmit name) :
    "kind" ∈ keys ∧ ("text" ∉ keys → node.text = "") ∧
      ("span" ∉ keys → node.start = unplaced) ∧ ("children" ∉ keys → node.children = []) := by
  refine ⟨?_, fun missing => ?_, fun missing => ?_, fun missing => ?_⟩
  · by_contra missing
    simpa [MayOmit] using known "kind" (by simp [fieldNames]) missing
  · simpa [MayOmit] using known "text" (by simp [fieldNames]) missing
  · simpa [MayOmit] using known "span" (by simp [fieldNames]) missing
  · simpa [MayOmit] using known "children" (by simp [fieldNames]) missing

/-- Every member is known when those that are missing have their defaults. -/
theorem finish_draftOf {node : Node} {keys : List String}
    (known : ∀ name ∈ fieldNames, name ∉ keys → node.MayOmit name) (rest : List Char) :
    (node.draftOf keys).finish rest = .ok (node, rest) := by
  obtain ⟨tag, own, span, inner⟩ := defaults_of_mayOmit known
  simp only [draftOf, Draft.finish, if_pos tag, getD_ite own, getD_ite span, getD_ite inner]
  cases node
  rfl

/-- An element that may be missing at the end of a list is read as its value either way. What is
left are the elements after it. -/
private theorem readOptional_itemsForm {α : Type} {element : Reader α}
    {form : String → List Char → Prop} (starts : ∀ key text, form key text → StartsElement text)
    {name : String} {names keys : List String} (initial : keys <+: name :: names)
    {body : List Char} (listed : ItemsForm .list form false keys body) {value fallback : α}
    (accepts : ∀ text, form name text → text.length ≤ body.length → Accepts element text value)
    (missing : name ∉ keys → value = fallback) :
    ∃ left later, left <+: names ∧ (∀ other ∈ keys, other ≠ name → other ∈ left) ∧
      ItemsForm .list form false left later ∧ later.length ≤ body.length ∧
      ∀ rest, readOptional element fallback (body ++ rest) = .ok (value, later ++ rest) := by
  rcases List.prefix_cons_iff.mp initial with rfl | ⟨left, rfl, fewer⟩
  · refine ⟨[], [']'], List.nil_prefix, by simp, .close blanks_nil, ?_, fun rest => ?_⟩
    · cases listed with
      | close blank => simp
    · obtain rfl := missing List.not_mem_nil
      cases listed with
      | close blank =>
          rw [List.append_assoc, List.singleton_append]
          simp [readOptional, Bracket.closer, nextElement_close blank, bind, Except.bind, pure,
            Except.pure]
  · obtain ⟨text, later, others, shorter, read⟩ := listed.reads_next starts accepts
    refine ⟨left, later, fewer, ?_, others, shorter, fun rest => ?_⟩
    · intro other known different
      exact (List.mem_cons.mp known).resolve_left different
    · obtain ⟨more, taken⟩ := read rest
      simp [readOptional, more, taken, bind, Except.bind]

section Members

variable {node : Node} (canonical : node.kind.IsCanonical) (fits : node.start.FitsWords)
  {fuel depth : Nat} {form? : Option (Node → List Char → Prop)} {child? : Option (Reader Node)}
  (deeper : form?.isSome → 0 < depth)
  (nested : ∀ form ∈ form?, ∀ text, ListForm form node.children text → text.length ≤ fuel →
    Accepts (readList fuel child?) text node.children)

include fits deeper in
private theorem accepts_span {text : List Char} (form : node.FieldForm form? "span" text)
    (short : text.length ≤ fuel) :
    Accepts (Position.read fuel (0 < depth)) text node.start := by
  obtain ⟨inside, form⟩ := fieldForm_span.mp form
  rw [decide_eq_true (deeper inside)]
  exact Position.accepts_form fits form short

include nested in
private theorem accepts_children {text : List Char} (form : node.FieldForm form? "children" text)
    (short : text.length ≤ fuel) : Accepts (readList fuel child?) text node.children := by
  obtain ⟨child, known, listed⟩ := fieldForm_children.mp form
  exact nested child known text listed short

include canonical fits deeper nested

/-- A member leads from the keys before it to one key more. -/
private theorem advances_fieldForm {seen : List String} {key : String} {text : List Char}
    (fresh : key ∈ fieldNames → key ∉ seen) (form : node.FieldForm form? key text)
    (short : text.length ≤ fuel) :
    Advances (Draft.readField fuel depth child?) (node.draftOf seen) key text
      (node.draftOf (key :: seen)) := by
  intro whole after rest colon blank ends
  by_cases kind : key = "kind"
  · subst kind
    have missing : (node.draftOf seen).kind? = none := if_neg (fresh (by simp [fieldNames]))
    have own := Kind.accepts_tag canonical (fieldForm_kind.mp form) fuel depth
    have read : (node.draftOf seen).readField fuel depth child? "kind" whole = _ :=
      Draft.readField_kind colon missing (own after blank rest ends)
    simpa [draftOf] using read
  by_cases own : key = "text"
  · subst own
    have missing : (node.draftOf seen).text? = none := if_neg (fresh (by simp [fieldNames]))
    have own := accepts_text (fieldForm_text.mp form)
    have read : (node.draftOf seen).readField fuel depth child? "text" whole = _ :=
      Draft.readField_text colon missing (own after blank rest ends)
    simpa [draftOf] using read
  by_cases span : key = "span"
  · subst span
    have missing : (node.draftOf seen).start? = none := if_neg (fresh (by simp [fieldNames]))
    have read : (node.draftOf seen).readField fuel depth child? "span" whole = _ :=
      Draft.readField_span colon missing
    rw [accepts_span fits deeper form short after blank rest ends] at read
    simpa [draftOf, Except.map] using read
  by_cases children : key = "children"
  · subst children
    have missing : (node.draftOf seen).children? = none := if_neg (fresh (by simp [fieldNames]))
    have read : (node.draftOf seen).readField fuel depth child? "children" whole = _ :=
      Draft.readField_children colon missing
    rw [accepts_children nested form short after blank rest ends] at read
    simpa [draftOf, Except.map] using read
  · have unknown : key ∉ fieldNames := by simp [fieldNames, kind, own, span, children]
    have skip := skipValue_of_anyValue ((fieldForm_other unknown).mp form) short blank ends
    have read : (node.draftOf seen).readField fuel depth child? key whole = _ :=
      Draft.readField_other unknown colon skip
    simpa [draftOf, Ne.symm kind, Ne.symm own, Ne.symm span, Ne.symm children] using read

/-- A list of the first few members is read up to its closing bracket, and the others have their
defaults. -/
private theorem readElements_itemsForm {keys : List String} {body : List Char}
    (initial : keys <+: fieldNames)
    (known : ∀ name ∈ fieldNames, name ∉ keys → node.MayOmit name)
    (listed : ItemsForm .list (node.FieldForm form?) true keys body) (short : body.length ≤ fuel)
    (rest : List Char) :
    ∃ before, Blanks before ∧
      readElements fuel depth child? (body ++ rest) = .ok (node, before ++ ']' :: rest) := by
  have starts : ∀ key text, node.FieldForm form? key text → StartsElement text :=
    fun _ _ => startsElement_fieldForm
  obtain ⟨kind, own, span, inner⟩ := defaults_of_mayOmit known
  obtain rfl | ⟨names, rfl, fewer⟩ := List.prefix_cons_iff.mp initial
  · cases kind
  have tag : ∀ text, node.FieldForm form? "kind" text → text.length ≤ body.length →
      Accepts (Kind.read fuel depth) text node.kind := by
    intro text form _
    exact Kind.accepts_tag canonical (fieldForm_kind.mp form) fuel depth
  obtain ⟨first, texts, listed, shorter, readKind⟩ := listed.reads_next starts tag
  have ownText : ∀ text, node.FieldForm form? "text" text → text.length ≤ texts.length →
      Accepts readText text node.text := by
    intro text form _
    exact accepts_text (fieldForm_text.mp form)
  obtain ⟨afterText, spans, fewer, keptText, listed, shorter, readOwn⟩ :=
    readOptional_itemsForm starts fewer listed ownText fun missing => own (by simp [missing])
  have place : ∀ text, node.FieldForm form? "span" text → text.length ≤ spans.length →
      Accepts (Position.read fuel (0 < depth)) text node.start :=
    fun text form fits' => accepts_span fits deeper form (by omega)
  obtain ⟨afterSpan, lists, fewer, keptSpan, listed, shorter, readPlace⟩ :=
    readOptional_itemsForm starts fewer listed place fun missing => span (by
      intro known
      exact missing (keptText _ ((List.mem_cons.mp known).resolve_left (by decide)) (by decide)))
  have below : ∀ text, node.FieldForm form? "children" text → text.length ≤ lists.length →
      Accepts (readList fuel child?) text node.children :=
    fun text form fits' => accepts_children nested form (by omega)
  obtain ⟨none, closing, fewer, -, listed, -, readBelow⟩ :=
    readOptional_itemsForm starts fewer listed below fun missing => inner (by
      intro known
      have named := (List.mem_cons.mp known).resolve_left (by decide)
      exact missing (keptSpan _ (keptText _ named (by decide)) (by decide)))
  obtain rfl := List.prefix_nil.mp fewer
  cases listed with
  | @close _ blanks blank =>
      refine ⟨blanks, blank, ?_⟩
      simp only [readElements, readKind, readOwn, readPlace, readBelow, bind, Except.bind, pure,
        Except.pure, List.append_assoc, List.singleton_append]
      cases node
      rfl

/-- A node is accepted in each of its forms when its children are. -/
private theorem accepts_recordForm {text : List Char}
    (form : RecordForm fieldNames node.MayOmit (node.FieldForm form?) text)
    (short : text.length ≤ fuel) : Accepts (readWith fuel true depth child?) text node := by
  obtain ⟨keys, each, shape⟩ := form
  have known : ∀ name ∈ fieldNames, name ∉ keys → node.MayOmit name :=
    fun name inside => (each name inside).2
  rcases shape with written | ⟨initial, body, rfl, listed⟩
  · apply (memberLoop fuel depth child?).accepts_object fieldNames node.draftOf written short
    · intro seen key own fresh form shorter
      exact advances_fieldForm canonical fits deeper nested fresh form (by omega)
    · exact fun name inside => (each name inside).1
    · apply finish_draftOf
      simpa using known
  · apply accepts_record_list
    rw [List.length_cons] at short
    exact readElements_itemsForm canonical fits deeper nested initial known listed (by omega)

end Members

/-- A tree is accepted in each of its forms. -/
theorem accepts_form {root : Node} (words : root.Everywhere fun node => node.start.FitsWords)
    (canonical : root.IsCanonical) {room : Nat} {text : List Char} (form : root.Form room text)
    {fuel : Nat} (short : text.length ≤ fuel) : Accepts (read fuel room) text root := by
  induction room using Nat.strongRecOn generalizing root text with
  | _ room ih =>
      obtain ⟨fits, wordsBelow⟩ := everywhere_iff.mp words
      obtain ⟨kind, canonicalBelow⟩ := isCanonical_iff.mp canonical
      match room, form with
      | 1, form => exact accepts_recordForm kind fits (by simp) (by simp) form short
      | room + 2, form =>
          refine accepts_recordForm kind fits (fun _ => Nat.succ_pos room) ?_ form short
          rintro _ ⟨⟩ own listed shorter
          apply accepts_list (fun _ _ => startsElement_form) listed shorter
          intro child known text form fits
          exact ih room (by omega) (wordsBelow child known) (canonicalBelow child known) form
            (by omega)

/-- Whether a whole text is a form of a tree among blanks, in which at most 127 brackets are open
at once but for those in the values of other keys. -/
def WrittenAs (root : Node) (text : String) : Prop :=
  ∃ before form after, text.toList = before ++ (form ++ after) ∧ Blanks before ∧ Blanks after ∧
    root.Form 127 form

/-- What a tree is written as is one of the ways to write it. -/
theorem writtenAs_render {root : Node} (fits : root.FitsIn 63) : root.WrittenAs root.render :=
  ⟨[], root.render.toList, [], by simp, blanks_nil, blanks_nil, form_render fits⟩

/-- All ways to write a tree are decoded as this tree. -/
theorem decode_writtenAs {root : Node} (words : root.Everywhere fun node => node.start.FitsWords)
    (canonical : root.IsCanonical) {text : String} (written : root.WrittenAs text) :
    decode text = .ok root := by
  obtain ⟨before, form, after, whole, front, back, form'⟩ := written
  have short : form.length ≤ fuelFor text.toList := by
    rw [fuelFor, whole, List.length_append, List.length_append]
    omega
  have ends : EndsCount after := by
    have none : EndsCount [] := nofun
    simpa using endsCount_append back none
  have accepted := accepts_form words canonical form' short before front after ends
  have rest : skipBlanks after = [] := by
    simpa [skipBlanks] using skipBlanks_append back []
  have parsed : parse text = .ok root := by
    have read : read (fuelFor text.toList) maxDepth text.toList = .ok (root, after) := by
      rw [← whole] at accepted
      exact accepted
    simp [parse, read, readEnd, rest, bind, Except.bind, pure, Except.pure]
  rw [decode, parsed]
  rfl

/-- A block at a place of its own with a single name in it. -/
def namedBlock : Node :=
  ⟨.construct .block, "", ⟨2, 4⟩, [⟨.lexeme .identifier, "x", ⟨0, 0⟩, []⟩]⟩

/-- The block with its place and its child as lists, with an escaped key and a key that nobody
asked for. -/
def namedBlockText : String :=
  " \x7b\"span\": [2, 4],\"more\":[null],\"\\u006bind\":\"block\"" ++
    ",\"children\":[[\"identifier\",\"x\"]]\x7d\n"

private theorem namedBlock_writtenAs : namedBlock.WrittenAs namedBlockText := by
  have blank : Blanks [' '] := by decide
  have place : Position.Form ⟨2, 4⟩ "[2, 4]".toList := by
    have column : ItemsForm .list (Position.FieldForm ⟨2, 4⟩) false ["column"] _ :=
      .next (.comma blanks_nil blank) (show Position.FieldForm _ _ ['4'] from rfl)
        (.close blanks_nil)
    have line : ItemsForm .list (Position.FieldForm ⟨2, 4⟩) true ["line", "column"] _ :=
      .next (.front blanks_nil) (show Position.FieldForm _ _ ['2'] from rfl) column
    exact ⟨_, by decide, .inr ⟨List.prefix_rfl, _, rfl, line⟩⟩
  have leaf : Form 125 ⟨.lexeme .identifier, "x", ⟨0, 0⟩, []⟩ "[\"identifier\",\"x\"]".toList := by
    have text : ItemsForm .list
        (FieldForm ⟨.lexeme .identifier, "x", ⟨0, 0⟩, []⟩ (some (Form 123))) false ["text"] _ :=
      .next (.comma blanks_nil blanks_nil) (fieldForm_text.mpr (stringForm_writeString "x"))
        (.close blanks_nil)
    have kind : ItemsForm .list
        (FieldForm ⟨.lexeme .identifier, "x", ⟨0, 0⟩, []⟩ (some (Form 123))) true
        ["kind", "text"] _ :=
      .next (.front blanks_nil) (fieldForm_kind.mpr (stringForm_writeString "identifier")) text
    exact ⟨_, by simp [fieldNames, MayOmit, unplaced], .inr ⟨by decide, _, rfl, kind⟩⟩
  have more : AnyValue "[null]".toList := by
    have null : ItemsForm .list (fun _ : Unit => ValueForm 0) true [()] _ :=
      .next (.front blanks_nil) (show ValueForm 0 "null".toList from .inl (by simp))
        (.close blanks_nil)
    exact ⟨1, .inr (.inl ⟨_, _, rfl, null⟩)⟩
  have children : ListForm (Form 125) namedBlock.children "[[\"identifier\",\"x\"]]".toList := by
    have only : ItemsForm .list (Form 125) true namedBlock.children _ :=
      .next (.front blanks_nil) leaf (.close blanks_nil)
    exact ⟨_, rfl, only⟩
  have kind : StringForm "kind" "\"\\u006bind\"".toList := by
    have code : UnitForm 'k'.toNat ['0', '0', '6', 'b'] :=
      ⟨_, _, _, _, rfl, ⟨by decide, .inl rfl⟩, ⟨by decide, .inl rfl⟩, ⟨by decide, .inl rfl⟩,
        ⟨by decide, .inl rfl⟩⟩
    have others (c : Char) : CharForm c (escapeChar c) := charForm_escapeChar c
    exact ⟨_, .cons (.code code)
      (.cons (others 'i') (.cons (others 'n') (.cons (others 'd') .nil))), rfl⟩
  have members : ItemsForm .object
      (MemberForm StringForm (namedBlock.FieldForm (some (Form 125)))) true
      ["span", "more", "kind", "children"] _ :=
    .next (.front blanks_nil)
      (.pair (stringForm_writeString "span") blanks_nil blank
        (fieldForm_span.mpr ⟨rfl, place⟩))
    (.next (.comma blanks_nil blanks_nil)
      (.pair (stringForm_writeString "more") blanks_nil blanks_nil
        ((fieldForm_other (by decide)).mpr more))
    (.next (.comma blanks_nil blanks_nil)
      (.pair kind blanks_nil blanks_nil
        (fieldForm_kind.mpr (stringForm_writeString "block")))
    (.next (.comma blanks_nil blanks_nil)
      (.pair (stringForm_writeString "children") blanks_nil blanks_nil
        (fieldForm_children.mpr ⟨_, rfl, children⟩))
    (.close blanks_nil))))
  have form : namedBlock.Form 127 ('{' :: _) :=
    ⟨_, by simp [fieldNames, MayOmit, namedBlock], .inl ⟨_, rfl, members⟩⟩
  exact ⟨[' '], _, ['\n'], rfl, blank, by decide, form⟩

/-- Such a text is decoded as the block. -/
theorem decode_writtenAs_namedBlock :
    (namedBlock.Everywhere fun node => node.start.FitsWords) ∧ namedBlock.IsCanonical ∧
      namedBlock.WrittenAs namedBlockText ∧ decode namedBlockText = .ok namedBlock := by
  have each {holds : Node → Prop} (block : holds namedBlock)
      (name : holds ⟨.lexeme .identifier, "x", ⟨0, 0⟩, []⟩) : namedBlock.Everywhere holds := by
    refine everywhere_iff.mpr ⟨block, fun child known => ?_⟩
    obtain rfl := List.mem_singleton.mp known
    exact everywhere_iff.mpr ⟨name, nofun⟩
  have words : namedBlock.Everywhere fun node => node.start.FitsWords :=
    each ⟨by decide, by decide⟩ ⟨by decide, by decide⟩
  have canonical : namedBlock.IsCanonical := each nofun nofun
  exact ⟨words, canonical, namedBlock_writtenAs,
    decode_writtenAs words canonical namedBlock_writtenAs⟩

end Node

end DuplicateLogic
