import DuplicateLogic.Proofs.JsonReading
import DuplicateLogic.Proofs.Occurrence
import DuplicateLogic.Proofs.Tags

/-! # Reading back written trees

A written tree is read back as it was, with every kind in its canonical form. Each node opens two
brackets, its own and that of its position or of its children, so trees with more nodes on a path
than half the brackets allow are turned away. -/

namespace DuplicateLogic

open Json

namespace Position

/-- Whether both counts have 64 bits. -/
def FitsWords (place : Position) : Prop :=
  place.line ≤ maxWord ∧ place.column ≤ maxWord

instance (place : Position) : Decidable place.FitsWords :=
  inferInstanceAs (Decidable (_ ∧ _))

theorem toList_toValue (place : Position) :
    place.toValue.compact.toList =
      '{' :: (listed true (memberTexts [("line", Nat.toDigits 10 place.line),
        ("column", Nat.toDigits 10 place.column)]) ++ ['}']) := by
  rw [toValue, Value.toList_compact_object, intercalate_eq_listed]
  simp only [memberTexts, List.map_cons, List.map_nil, Value.toList_compact_ofNat]

theorem memberLoop (fuel : Nat) :
    MemberLoop (fun draft => Draft.readField fuel draft) Draft.finish (readFields fuel) where
  next taken := by
    rw [readFields, taken]
    rfl
  last taken := by
    rw [readFields, taken]
    rfl

namespace Draft

variable {fuel : Nat} {draft : Draft} {text value rest : List Char}
  (colon : readColon text = .ok value)
include colon

theorem readField_line (missing : draft.line? = none) {count : Nat}
    (read : readCount value = .ok (count, rest)) :
    draft.readField fuel "line" text = .ok ({ draft with line? := some count }, rest) := by
  simp [readField, missing, colon, read, bind, Except.bind, pure, Except.pure]

theorem readField_column (missing : draft.column? = none) {count : Nat}
    (read : readCount value = .ok (count, rest)) :
    draft.readField fuel "column" text = .ok ({ draft with column? := some count }, rest) := by
  simp [readField, missing, colon, read, bind, Except.bind, pure, Except.pure]

end Draft

/-- A written position is read back where a bracket may be opened. -/
theorem reads_toValue {place : Position} (fits : place.FitsWords) {fuel : Nat} (enough : 2 < fuel) :
    Reads (read fuel true) place.toValue.compact.toList place := by
  have line : ∀ rest, EndsCount rest → Draft.readField fuel {} "line"
      (':' :: (Nat.toDigits 10 place.line ++ rest)) = .ok (⟨some place.line, none⟩, rest) :=
    fun rest ends => Draft.readField_line rfl rfl (readCount_toDigits fits.1 ends)
  have column : ∀ rest, EndsCount rest → Draft.readField fuel ⟨some place.line, none⟩
      "column" (':' :: (Nat.toDigits 10 place.column ++ rest)) =
        .ok (⟨some place.line, some place.column⟩, rest) :=
    fun rest ends => Draft.readField_column rfl rfl (readCount_toDigits fits.2 ends)
  rw [toList_toValue]
  apply reads_record
  intro rest
  exact (memberLoop _).finishes (.member line (.member column .done)) enough true rest

theorem overflows_toValue (place : Position) (fuel : Nat) :
    Overflows (read fuel false) place.toValue.compact.toList := by
  rw [toList_toValue]
  exact overflows_closedRecord _

end Position

theorem Kind.reads_tag (kind : Kind) (fuel depth : Nat) :
    Reads (Kind.read fuel depth) (Value.string kind.tag).compact.toList (ofTag kind.tag) := by
  intro rest
  have value : Value.read fuel depth ((Value.string kind.tag).compact.toList ++ rest) =
      .ok (.string kind.tag, rest) := by
    have quote : isBlank '"' = false := rfl
    rw [Value.toList_compact_string, List.cons_append]
    cases depth with
    | zero =>
        simp [Value.read, Value.readWith, skipBlanks_cons quote, digit?, readString_stringBody,
          Except.map]
    | succ depth =>
        simp [Value.read, Value.readWith, skipBlanks_cons quote, digit?, readString_stringBody,
          Except.map]
  simp [Kind.read, value, ofValue?, bind, Except.bind, pure, Except.pure]

theorem reads_text (text : String) :
    Reads readText (Value.string text).compact.toList text := by
  intro rest
  have quote : isBlank '"' = false := rfl
  simp [Value.toList_compact_string, readText, skipBlanks_cons quote, readString_stringBody]

namespace Node

section Text

theorem toValues_eq_map (nodes : List Node) : toValues nodes = nodes.map toValue := by
  induction nodes with
  | nil => rfl
  | cons node rest ih => rw [toValues, ih, List.map_cons]

/-- The members for the kind and the text of a node. -/
def nameMembers (node : Node) : List (String × List Char) :=
  [("kind", (Value.string node.kind.tag).compact.toList),
    ("text", (Value.string node.text).compact.toList)]

/-- The members that every node has. -/
def frontMembers (node : Node) : List (String × List Char) :=
  node.nameMembers ++ [("span", node.start.toValue.compact.toList)]

/-- The children of a node as they are written. -/
def childrenText (node : Node) : List Char :=
  '[' :: (listed true (node.children.map fun child => child.render.toList) ++ [']'])

/-- The member for the children of a node, unless there are none. -/
def childrenMember (node : Node) : List (String × List Char) :=
  if node.children.isEmpty then [] else [("children", node.childrenText)]

theorem toList_render (node : Node) :
    node.render.toList =
      '{' :: (listed true (memberTexts (node.frontMembers ++ node.childrenMember)) ++ ['}']) := by
  obtain ⟨kind, text, start, children⟩ := node
  cases children with
  | nil =>
      rw [render, toValue.eq_def, Value.toList_compact_object, intercalate_eq_listed]
      simp [frontMembers, nameMembers, childrenMember, memberTexts]
  | cons first rest =>
      rw [render, toValue.eq_def, Value.toList_compact_object, intercalate_eq_listed]
      simp [frontMembers, nameMembers, childrenMember, childrenText, memberTexts,
        Value.toList_compact_array, intercalate_eq_listed, toValues_eq_map, render,
        Function.comp_def]

theorem startsElement_render (node : Node) : StartsElement node.render.toList :=
  ⟨'{', _, node.toList_render, rfl, by decide⟩

/-- A written node is longer than the value of each of its members. -/
theorem length_lt_render {node : Node} {key : String} {value : List Char}
    (known : (key, value) ∈ node.frontMembers ++ node.childrenMember) :
    value.length + 4 < node.render.toList.length := by
  have := length_lt_listed_memberTexts known true
  rw [toList_render, List.length_cons, List.length_append, List.length_singleton]
  omega

theorem length_childrenText_lt_render {node : Node} (inner : node.children ≠ []) :
    node.childrenText.length + 4 < node.render.toList.length := by
  have known : ("children", node.childrenText) ∈ node.frontMembers ++ node.childrenMember := by
    simp [childrenMember, inner]
  exact length_lt_render known

theorem length_members_le (node : Node) :
    (node.frontMembers ++ node.childrenMember).length ≤ 4 := by
  rw [List.length_append, childrenMember]
  split <;> simp [frontMembers, nameMembers]

/-- A written node has more characters than members. -/
theorem four_lt_length_render (node : Node) : 4 < node.render.toList.length := by
  have : 0 + 4 < node.render.toList.length :=
    Nat.lt_of_le_of_lt (by omega) (length_lt_render (List.mem_append_left _ List.mem_cons_self))
  omega

/-- A written node has more characters than children. -/
theorem length_children_lt_render (node : Node) :
    node.children.length < node.render.toList.length := by
  by_cases inner : node.children = []
  · have := four_lt_length_render node
    simp only [inner, List.length_nil]
    omega
  · have whole := length_childrenText_lt_render inner
    have parts := count_le_listed (node.children.map fun child => child.render.toList) true
    simp only [childrenText, List.length_cons, List.length_append, List.length_map] at whole parts
    omega

/-- A written child is shorter than the node above it. -/
theorem length_render_child_lt {node child : Node} (known : child ∈ node.children) :
    child.render.toList.length < node.render.toList.length := by
  have whole := length_childrenText_lt_render (List.ne_nil_of_mem known)
  have inside : child.render.toList ∈ node.children.map fun child => child.render.toList :=
    List.mem_map_of_mem known
  have part := length_le_listed inside true
  simp only [childrenText, List.length_cons, List.length_append] at whole
  omega

end Text

section Members

variable {fuel depth : Nat} {child? : Option (Reader Node)}

theorem memberLoop (fuel depth : Nat) (child? : Option (Reader Node)) :
    MemberLoop (Draft.readField fuel depth child?) Draft.finish (readFields fuel depth child?) where
  next taken := by
    rw [readFields, taken]
    rfl
  last taken := by
    rw [readFields, taken]
    rfl

namespace Draft

variable {draft : Draft} {text value rest : List Char} (colon : readColon text = .ok value)
include colon

theorem readField_kind (missing : draft.kind? = none) {kind : Kind}
    (read : Kind.read fuel depth value = .ok (kind, rest)) :
    draft.readField fuel depth child? "kind" text =
      .ok ({ draft with kind? := some kind }, rest) := by
  simp [readField, missing, colon, read, bind, Except.bind, pure, Except.pure]

theorem readField_text (missing : draft.text? = none) {own : String}
    (read : readText value = .ok (own, rest)) :
    draft.readField fuel depth child? "text" text =
      .ok ({ draft with text? := some own }, rest) := by
  simp [readField, missing, colon, read, bind, Except.bind, pure, Except.pure]

theorem readField_span (missing : draft.start? = none) :
    draft.readField fuel depth child? "span" text =
      (Position.read fuel (0 < depth) value).map fun result =>
        ({ draft with start? := some result.1 }, result.2) := by
  cases read : Position.read fuel (0 < depth) value <;>
    simp_all [readField, bind, Except.bind, pure, Except.pure, Except.map]

theorem readField_children (missing : draft.children? = none) :
    draft.readField fuel depth child? "children" text =
      (readList fuel child? value).map fun result =>
        ({ draft with children? := some result.1 }, result.2) := by
  cases read : readList fuel child? value <;>
    simp_all [readField, bind, Except.bind, pure, Except.pure, Except.map]

end Draft

/-- The kind and the text of a node are read. -/
theorem fills_nameMembers (node : Node) :
    Fills (Draft.readField fuel depth child?) {} node.nameMembers
      ⟨some (Kind.ofTag node.kind.tag), some node.text, none, none⟩ := by
  apply Fills.member
  · intro rest _
    exact Draft.readField_kind rfl rfl (Kind.reads_tag node.kind fuel depth rest)
  apply Fills.member
  · intro rest _
    exact Draft.readField_text rfl rfl (reads_text node.text rest)
  exact Fills.done

/-- The members that every node has are read where the bracket of a position may be opened. -/
theorem fills_frontMembers {node : Node} (fits : node.start.FitsWords) (enough : 2 < fuel)
    (deeper : 0 < depth) :
    Fills (Draft.readField fuel depth child?) {} node.frontMembers
      ⟨some (Kind.ofTag node.kind.tag), some node.text, some node.start, none⟩ := by
  apply (fills_nameMembers node).append
  refine Fills.member (fun rest _ => ?_) Fills.done
  have read := Position.reads_toValue fits enough rest
  rw [Draft.readField_span (readColon_colon _) rfl, decide_eq_true deeper, read]
  rfl

end Members

section Trees

mutual

/-- The tree with every kind as its tag is read. -/
def retagged : Node → Node
  | ⟨kind, text, start, children⟩ => ⟨Kind.ofTag kind.tag, text, start, retaggedAll children⟩

/-- Several trees with every kind as its tag is read. -/
def retaggedAll : List Node → List Node
  | [] => []
  | node :: rest => node.retagged :: retaggedAll rest

end

theorem retaggedAll_eq_map (nodes : List Node) : retaggedAll nodes = nodes.map retagged := by
  induction nodes with
  | nil => rfl
  | cons node rest ih => rw [retaggedAll, ih, List.map_cons]

theorem retagged_eq (node : Node) :
    node.retagged =
      ⟨Kind.ofTag node.kind.tag, node.text, node.start, node.children.map retagged⟩ := by
  cases node
  rw [retagged, retaggedAll_eq_map]

/-- A tree is read as it is when its kinds are canonical. -/
theorem retagged_eq_self {root : Node}
    (canonical : root.Everywhere fun node => node.kind.IsCanonical) : root.retagged = root := by
  induction root using Node.induction with
  | step root ih =>
      obtain ⟨here, below⟩ := everywhere_iff.mp canonical
      have same : root.children.map retagged = root.children :=
        (List.map_congr_left fun child known => ih child known (below child known)).trans
          (List.map_id' _)
      rw [retagged_eq, Kind.ofTag_tag here, same]
      cases root
      rfl

end Trees

section Nesting

variable {fuel depth : Nat} {node : Node}

/-- The member for the children is read when the children are. -/
private theorem fills_childrenMember (enough : node.render.toList.length ≤ fuel)
    {child : Reader Node} {draft : Draft} (missing : draft.children? = none)
    (each : ∀ inner ∈ node.children, Reads child inner.render.toList inner.retagged) :
    ∃ last : Draft, last.kind? = draft.kind? ∧ last.text? = draft.text? ∧
      last.start? = draft.start? ∧ last.children?.getD [] = node.children.map retagged ∧
      Fills (Draft.readField fuel depth (some child)) draft node.childrenMember last := by
  by_cases leaf : node.children = []
  · refine ⟨draft, rfl, rfl, rfl, ?_, ?_⟩
    · rw [missing, leaf]
      rfl
    · rw [childrenMember, leaf]
      exact Fills.done
  · have fewer := length_children_lt_render node
    have list := reads_list (fun inner _ => startsElement_render inner) each
      (show node.children.length < fuel by omega)
    refine ⟨{ draft with children? := some (node.children.map retagged) }, rfl, rfl, rfl, rfl, ?_⟩
    rw [childrenMember, if_neg (by simpa using leaf)]
    refine Fills.member (fun rest _ => ?_) Fills.done
    rw [Draft.readField_children (readColon_colon _) missing, childrenText, list rest]
    rfl

/-- A node is read when its children are. -/
private theorem reads_render_of_children (fits : node.start.FitsWords)
    (enough : node.render.toList.length ≤ fuel) (deeper : 0 < depth) {child : Reader Node}
    (each : ∀ inner ∈ node.children, Reads child inner.render.toList inner.retagged) :
    Reads (readWith fuel true depth (some child)) node.render.toList node.retagged := by
  have long := four_lt_length_render node
  have front : Fills (Draft.readField fuel depth (some child)) {} node.frontMembers _ :=
    fills_frontMembers fits (by omega) deeper
  obtain ⟨last, kind, text, start, children, back⟩ := fills_childrenMember enough
    (show Draft.children? ⟨_, _, _, none⟩ = none from rfl) each
  have rounds : (node.frontMembers ++ node.childrenMember).length < fuel := by
    have := node.length_members_le
    omega
  rw [toList_render]
  apply reads_record
  intro rest
  rw [(memberLoop _ _ _).finishes (front.append back) rounds true rest, Draft.finish, kind, text,
    start, children, retagged_eq]
  rfl

/-- A node whose children may not be entered deeply enough overflows. -/
private theorem overflows_render_of_child (fits : node.start.FitsWords)
    (enough : node.render.toList.length ≤ fuel) (deeper : 0 < depth) {child : Reader Node}
    (each : ∀ inner ∈ node.children, Reads child inner.render.toList inner.retagged ∨
      Overflows child inner.render.toList)
    (broken : ∃ inner ∈ node.children, Overflows child inner.render.toList) :
    Overflows (readWith fuel true depth (some child)) node.render.toList := by
  have long := four_lt_length_render node
  have fewer := length_children_lt_render node
  have front : Fills (Draft.readField fuel depth (some child)) {} node.frontMembers _ :=
    fills_frontMembers fits (by omega) deeper
  have list := overflows_list (fun inner _ => startsElement_render inner) each broken
    (show node.children.length ≤ fuel by omega)
  have inner : node.children ≠ [] := by
    obtain ⟨inner, known, -⟩ := broken
    exact List.ne_nil_of_mem known
  rw [toList_render, childrenMember, if_neg (by simpa using inner)]
  apply overflows_record
  apply (memberLoop _ _ _).overflows front _ [] (show 3 < fuel by omega)
  intro rest
  obtain ⟨unread, fault⟩ := list rest
  refine ⟨unread, ?_⟩
  rw [Draft.readField_children (readColon_colon _) rfl, childrenText, fault]
  rfl

/-- A node overflows where only its own bracket may be opened. -/
private theorem overflows_render_one (enough : node.render.toList.length ≤ fuel) :
    Overflows (readWith fuel true 0 none) node.render.toList := by
  have long := four_lt_length_render node
  rw [toList_render, frontMembers, List.append_assoc]
  apply overflows_record
  apply (memberLoop _ _ _).overflows (fills_nameMembers node) _ node.childrenMember
    (show 2 < fuel by omega)
  intro rest
  obtain ⟨unread, fault⟩ := node.start.overflows_toValue fuel rest
  refine ⟨unread, ?_⟩
  rw [Draft.readField_span (readColon_colon _) rfl, decide_eq_false (Nat.lt_irrefl 0), fault]
  rfl

/-- A written tree is read when half the brackets that may be opened are as many as the nodes on
each path, and overflows otherwise. -/
private theorem reads_or_overflows_render {root : Node}
    (words : root.Everywhere fun node => node.start.FitsWords)
    (enough : root.render.toList.length ≤ fuel) (depth : Nat) :
    (root.FitsIn (depth / 2) → Reads (read fuel depth) root.render.toList root.retagged) ∧
      (¬root.FitsIn (depth / 2) → Overflows (read fuel depth) root.render.toList) := by
  induction root using Node.induction generalizing depth with
  | step root ih =>
      obtain ⟨here, below⟩ := everywhere_iff.mp words
      match depth with
      | 0 =>
          refine ⟨fun fits => absurd fits (not_fitsIn_zero root), fun _ => ?_⟩
          rw [toList_render]
          exact overflows_closedRecord _
      | 1 =>
          exact ⟨fun fits => absurd fits (not_fitsIn_zero root),
            fun _ => overflows_render_one enough⟩
      | depth + 2 =>
          have half : (depth + 2) / 2 = depth / 2 + 1 := by omega
          rw [half, fitsIn_succ_iff]
          have child : ∀ inner ∈ root.children,
              (inner.FitsIn (depth / 2) →
                Reads (read fuel depth) inner.render.toList inner.retagged) ∧
              (¬inner.FitsIn (depth / 2) → Overflows (read fuel depth) inner.render.toList) := by
            intro inner known
            have shorter := length_render_child_lt known
            exact ih inner known (below inner known) (by omega) depth
          constructor
          · intro fits
            apply reads_render_of_children here enough (Nat.succ_pos depth)
            intro inner known
            exact (child inner known).1 (fits inner known)
          · intro deep
            apply overflows_render_of_child here enough (Nat.succ_pos depth)
            · intro inner known
              by_cases fits : inner.FitsIn (depth / 2)
              · exact Or.inl ((child inner known).1 fits)
              · exact Or.inr ((child inner known).2 fits)
            · simp only [Classical.not_forall] at deep
              obtain ⟨inner, known, deep⟩ := deep
              exact ⟨inner, known, (child inner known).2 deep⟩

theorem reads_render {root : Node} (words : root.Everywhere fun node => node.start.FitsWords)
    (enough : root.render.toList.length ≤ fuel) (fits : root.FitsIn (depth / 2)) :
    Reads (read fuel depth) root.render.toList root.retagged :=
  (reads_or_overflows_render words enough depth).1 fits

theorem overflows_render {root : Node} (words : root.Everywhere fun node => node.start.FitsWords)
    (enough : root.render.toList.length ≤ fuel) (deep : ¬root.FitsIn (depth / 2)) :
    Overflows (read fuel depth) root.render.toList :=
  (reads_or_overflows_render words enough depth).2 deep

end Nesting

end Node

end DuplicateLogic
