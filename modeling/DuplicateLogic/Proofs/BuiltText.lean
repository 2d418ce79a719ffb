import DuplicateLogic.Proofs.Subtree
import DuplicateLogic.Syntax.Build

/-! # The text of built trees

A composite node is built with the texts of its children, joined by single spaces, and at the place
of its first child. So everywhere in a built tree a node has the texts of its leaves, joined by
single spaces, and starts where the leftmost of them starts. A leaf with an empty text still counts:
there are spaces on both sides of it. -/

namespace DuplicateLogic

/-- Joining the texts of each group and then the results joins all the texts, when no group is
empty. -/
theorem intercalate_flatten (separator : String) {groups : List (List String)}
    (filled : ∀ group ∈ groups, group ≠ []) :
    separator.intercalate (groups.map separator.intercalate) =
      separator.intercalate groups.flatten := by
  induction groups with
  | nil => rfl
  | cons group rest ih =>
      obtain ⟨here, later⟩ := List.forall_mem_cons.mp filled
      cases rest with
      | nil => simp
      | cons next rest =>
          have more : (next :: rest).flatten ≠ [] := by
            simp [later next List.mem_cons_self]
          rw [List.map_cons, String.intercalate_cons_of_ne_nil (by simp), ih later,
            ← String.intercalate_append_of_ne_nil here more]
          rfl

namespace Node

/-- The leaves of a tree from left to right. A node without children is its own only leaf. -/
def leaves (root : Node) : List Node :=
  root.preorder.filter (·.isToken)

theorem leaves_of_leaf {node : Node} (childless : node.children = []) : node.leaves = [node] := by
  rw [leaves, preorder_eq, descendants, childless]
  simp [isToken, childless]

theorem leaves_of_children {node : Node} (composite : node.children ≠ []) :
    node.leaves = node.children.flatMap leaves := by
  rw [leaves, preorder_eq, List.filter_cons_of_neg (by simpa [isToken] using composite),
    descendants, List.filter_flatMap]
  rfl

theorem leaves_ne_nil (node : Node) : node.leaves ≠ [] := by
  induction node using Node.induction with
  | step node ih =>
      by_cases childless : node.children = []
      · simp [leaves_of_leaf childless]
      · obtain ⟨child, below⟩ := List.exists_mem_of_ne_nil _ childless
        rw [leaves_of_children childless]
        intro none
        exact ih child below (List.flatMap_eq_nil_iff.mp none child below)

/-- The texts of the leaves, joined by single spaces. -/
def leafText (node : Node) : String :=
  " ".intercalate (node.leaves.map (·.text))

/-- Whether a node has the text of its leaves and starts at the first of them. -/
structure CarriesLeaves (node : Node) : Prop where
  text_eq : node.text = node.leafText
  start_eq : node.leaves.head?.map (·.start) = some node.start

theorem carriesLeaves_of_leaf {node : Node} (childless : node.children = []) :
    node.CarriesLeaves := by
  constructor
  · rw [leafText, leaves_of_leaf childless, List.map_singleton, String.intercalate_singleton]
  · rw [leaves_of_leaf childless]
    rfl

/-- What is composed of nodes that carry their leaves carries them as well. -/
theorem carriesLeaves_compose (kind : Kind) {children : List Node}
    (carry : ∀ child ∈ children, child.CarriesLeaves) : (compose kind children).CarriesLeaves := by
  cases children with
  | nil => exact carriesLeaves_of_leaf rfl
  | cons first rest =>
      have leaves_eq : (compose kind (first :: rest)).leaves = (first :: rest).flatMap leaves :=
        leaves_of_children (List.cons_ne_nil first rest)
      constructor
      · have filled : ∀ group ∈ (first :: rest).map fun child => child.leaves.map (·.text),
            group ≠ [] := by
          simp [leaves_ne_nil]
        have texts : (first :: rest).map (·.text) =
            ((first :: rest).map fun child => child.leaves.map (·.text)).map
              " ".intercalate := by
          rw [List.map_map]
          exact List.map_congr_left fun child known => (carry child known).text_eq
        calc
          (compose kind (first :: rest)).text
            = " ".intercalate ((first :: rest).map (·.text)) := rfl
          _ = " ".intercalate
                ((first :: rest).map fun child => child.leaves.map (·.text)).flatten := by
              rw [texts, intercalate_flatten " " filled]
          _ = (compose kind (first :: rest)).leafText := by
              rw [leafText, leaves_eq, List.map_flatMap]
              rfl
      · have head : (compose kind (first :: rest)).leaves.head? = first.leaves.head? := by
          rw [leaves_eq, List.flatMap_cons, List.head?_append_of_ne_nil _ first.leaves_ne_nil]
        rw [head, (carry first List.mem_cons_self).start_eq]
        rfl

/-- What the builders build. Only a leaf is moved to another place, before it is used. -/
inductive Built : Node → Prop
  | token (kind : Kind) (text : String) : Built (token kind text)
  | keyword (kind : Kind) : Built (keyword kind)
  | placedAt {leaf : Node} (built : Built leaf) (childless : leaf.children = [])
      (line column : Nat) : Built (leaf.placedAt line column)
  | compose (kind : Kind) {children : List Node} (built : ∀ child ∈ children, Built child) :
      Built (compose kind children)
  | identifier (name : String) : Built (identifier name)
  | number (text : String) : Built (number text)
  | string (text : String) : Built (string text)
  | expressionStatement {expression : Node} (built : Built expression) :
      Built (expressionStatement expression)
  | call {callee : Node} {arguments : List Node} (built : Built callee)
      (argumentsBuilt : ∀ argument ∈ arguments, Built argument) : Built (call callee arguments)
  | callStatement (name : String) : Built (callStatement name)
  | block {statements : List Node} (built : ∀ statement ∈ statements, Built statement) :
      Built (block statements)
  | ifStatement {condition consequence : Node} {alternative? : Option Node}
      (conditionBuilt : Built condition) (consequenceBuilt : Built consequence)
      (alternativeBuilt : ∀ alternative ∈ alternative?, Built alternative) :
      Built (ifStatement condition consequence alternative?)
  | switchStatement {subject : Node} {clauses : List Node} (subjectBuilt : Built subject)
      (clausesBuilt : ∀ clause ∈ clauses, Built clause) : Built (switchStatement subject clauses)
  | caseClause {label : Node} {statements : List Node} (labelBuilt : Built label)
      (built : ∀ statement ∈ statements, Built statement) : Built (caseClause label statements)
  | defaultClause {statements : List Node} (built : ∀ statement ∈ statements, Built statement) :
      Built (defaultClause statements)
  | breakStatement : Built breakStatement
  | returnStatement {value? : Option Node} (built : ∀ value ∈ value?, Built value) :
      Built (returnStatement value?)
  | binary {left right : Node} (sign : Kind) (leftBuilt : Built left) (rightBuilt : Built right) :
      Built (binary left sign right)
  | assign {target value : Node} (targetBuilt : Built target) (valueBuilt : Built value) :
      Built (assign target value)
  | postfixUnary {operand : Node} (sign : Kind) (built : Built operand) :
      Built (postfixUnary operand sign)
  | prefixUnary {operand : Node} (sign : Kind) (built : Built operand) :
      Built (prefixUnary sign operand)
  | conditional {condition whenTrue whenFalse : Node} (conditionBuilt : Built condition)
      (trueBuilt : Built whenTrue) (falseBuilt : Built whenFalse) :
      Built (conditional condition whenTrue whenFalse)
  | listNode {items : List Node} (built : ∀ item ∈ items, Built item) : Built (listNode items)
  | sourceFile {statements : List Node} (built : ∀ statement ∈ statements, Built statement) :
      Built (sourceFile statements)

@[simp] theorem built_mark (form : Punctuation) : (mark form).Built :=
  .keyword _

@[simp] theorem built_word (form : Keyword) : (word form).Built :=
  .keyword _

theorem mem_of_mem_intersperse {α : Type} {separator item : α} {items : List α}
    (known : item ∈ items.intersperse separator) : item = separator ∨ item ∈ items := by
  induction items with
  | nil => cases known
  | cons first rest ih =>
      cases rest with
      | nil => exact Or.inr known
      | cons next rest =>
          rw [List.intersperse_cons_cons, List.mem_cons, List.mem_cons] at known
          rcases known with rfl | rfl | later
          · exact Or.inr List.mem_cons_self
          · exact Or.inl rfl
          · exact (ih later).imp_right (List.mem_cons_of_mem first)

/-- What is built is a leaf or is composed of what is built. -/
theorem Built.leaf_or_composed {root : Node} (built : root.Built) :
    root.children = [] ∨ ∃ kind children, root = Node.compose kind children ∧
      ∀ child ∈ children, child.Built := by
  cases built with
  | token | keyword | identifier | number | string => exact Or.inl rfl
  | placedAt _ childless => exact Or.inl childless
  | compose kind built => exact Or.inr ⟨kind, _, rfl, built⟩
  | expressionStatement built => exact Or.inr ⟨_, _, rfl, by simp [built]⟩
  | @call callee arguments built argumentsBuilt =>
      refine Or.inr ⟨_, _, rfl, ?_⟩
      have separated : ∀ part ∈ arguments.intersperse (mark .comma), part.Built := by
        intro part known
        rcases mem_of_mem_intersperse known with rfl | listed
        · exact built_mark .comma
        · exact argumentsBuilt part listed
      simpa [built, or_imp, forall_and] using separated
  | callStatement name =>
      have called : (Node.call (Node.identifier name) []).Built :=
        .call (.identifier name) (by simp)
      exact Or.inr ⟨_, _, rfl, by simp [called]⟩
  | @block statements built =>
      refine Or.inr ⟨_, mark .openBrace :: (statements ++ [mark .closeBrace]), rfl, ?_⟩
      simpa [or_imp, forall_and] using built
  | @ifStatement condition consequence alternative? conditionBuilt consequenceBuilt
        alternativeBuilt =>
      refine Or.inr ⟨_, _, rfl, ?_⟩
      cases alternative? with
      | none => simp [conditionBuilt, consequenceBuilt]
      | some alternative =>
          simp [conditionBuilt, consequenceBuilt, alternativeBuilt alternative rfl]
  | @switchStatement subject clauses subjectBuilt clausesBuilt =>
      let block := Node.compose (.construct .caseBlock)
        (mark .openBrace :: (clauses ++ [mark .closeBrace]))
      have blockBuilt : block.Built := by
        apply Built.compose
        simpa [or_imp, forall_and] using clausesBuilt
      refine Or.inr ⟨_, [word .switchKeyword, mark .openParen, subject, mark .closeParen, block],
        rfl, ?_⟩
      simp [subjectBuilt, blockBuilt]
  | caseClause labelBuilt built =>
      exact Or.inr ⟨_, _, rfl, by simpa [labelBuilt] using built⟩
  | defaultClause built => exact Or.inr ⟨_, _, rfl, by simpa using built⟩
  | breakStatement => exact Or.inr ⟨_, _, rfl, by simp⟩
  | @returnStatement value? built =>
      refine Or.inr ⟨_, _, rfl, ?_⟩
      simpa [or_imp, forall_and] using built
  | binary sign leftBuilt rightBuilt =>
      exact Or.inr ⟨_, _, rfl, by simp [leftBuilt, rightBuilt, Built.keyword]⟩
  | assign targetBuilt valueBuilt =>
      exact Or.inr ⟨_, _, rfl, by simp [targetBuilt, valueBuilt, Built.keyword]⟩
  | postfixUnary sign built => exact Or.inr ⟨_, _, rfl, by simp [built, Built.keyword]⟩
  | prefixUnary sign built => exact Or.inr ⟨_, _, rfl, by simp [built, Built.keyword]⟩
  | conditional conditionBuilt trueBuilt falseBuilt =>
      exact Or.inr ⟨_, _, rfl, by simp [conditionBuilt, trueBuilt, falseBuilt]⟩
  | listNode built => exact Or.inr ⟨_, _, rfl, built⟩
  | sourceFile built => exact Or.inr ⟨_, _, rfl, by simpa [or_imp, forall_and] using built⟩

/-- Everywhere in a built tree a node carries its leaves. -/
theorem Built.everywhere_carriesLeaves {root : Node} (built : root.Built) :
    root.Everywhere CarriesLeaves := by
  induction root using Node.induction with
  | step root ih =>
      rcases built.leaf_or_composed with childless | ⟨kind, children, rfl, parts⟩
      · exact everywhere_iff.mpr ⟨carriesLeaves_of_leaf childless, by simp [childless]⟩
      · have below : ∀ child ∈ children, child.Everywhere CarriesLeaves :=
          fun child known => ih child known (parts child known)
        refine everywhere_iff.mpr ⟨carriesLeaves_compose kind fun child known => ?_, below⟩
        exact (everywhere_iff.mp (below child known)).1

/-- Everywhere in a built tree a node has the texts of its leaves, joined by single spaces, starts
where the leftmost leaf starts, and so ends where this text ends from there. -/
theorem Built.everywhere_leafText {root : Node} (built : root.Built) :
    root.Everywhere fun node => ∃ leftmost rest, node.leaves = leftmost :: rest ∧
      node.text = " ".intercalate (node.leaves.map (·.text)) ∧ node.start = leftmost.start ∧
        node.stop = leftmost.start.past (" ".intercalate (node.leaves.map (·.text))) := by
  intro occurrence known
  obtain ⟨text, start⟩ := built.everywhere_carriesLeaves occurrence known
  obtain ⟨leftmost, rest, listed⟩ := List.exists_cons_of_ne_nil occurrence.node.leaves_ne_nil
  have place : occurrence.node.start = leftmost.start := by
    rw [listed] at start
    exact (Option.some.inj start).symm
  refine ⟨leftmost, rest, listed, text, place, ?_⟩
  rw [stop, place, text, leafText]

/-- `x = ;` at line 4, an empty list and the end of the file. -/
def shortFile : Node :=
  sourceFile
    [expressionStatement
      (assign ((identifier "x").placedAt 4 2) (compose (.construct .omittedExpression) [])),
    listNode []]

/-- The leaves without a text leave their spaces. -/
theorem Built.everywhere_leafText_shortFile :
    shortFile.Built ∧ shortFile.leaves.map (·.text) = ["x", "=", "", ";", "", ""] ∧
      shortFile.text = "x =  ;  " ∧ shortFile.start = ⟨4, 2⟩ ∧ shortFile.stop = ⟨4, 10⟩ := by
  have placed : ((Node.identifier "x").placedAt 4 2).Built := .placedAt (.identifier "x") rfl 4 2
  have omitted : (Node.compose (.construct .omittedExpression) []).Built := .compose _ (by simp)
  have list : (Node.listNode []).Built := .listNode (by simp)
  have built : shortFile.Built := by
    apply Built.sourceFile
    simp [list, Built.expressionStatement (placed.assign omitted)]
  have texts : shortFile.leaves.map (·.text) = ["x", "=", "", ";", "", ""] := by decide
  have first : shortFile.leaves.head?.map (·.start) = some ⟨4, 2⟩ := by decide
  obtain ⟨leftmost, rest, listed, text, start, stop⟩ :=
    built.everywhere_leafText ⟨[], none, shortFile⟩ (mem_occurrences_iff.mpr ⟨rfl, rfl⟩)
  have place : leftmost.start = ⟨4, 2⟩ := by
    rw [listed] at first
    exact Option.some.inj first
  rw [texts] at text stop
  rw [place] at start stop
  exact ⟨built, texts, text.trans (by decide), start, stop.trans (by decide)⟩

end Node

end DuplicateLogic
