import DuplicateLogic.Proofs.Reporting
import DuplicateLogic.Proofs.Subtree

/-! # Where findings stand

A finding is about the file that is walked and covers one node of the tree: the conditional it is
about, the sign of an update, or the later of two conditions or labels. The earlier one, to which
the finding refers, comes before it in the tree as well: the conditions of a chain and the labels
of a `switch` are compared in the order in which they stand. -/

namespace DuplicateLogic

section Conditions

variable {node : Node}

theorem Node.operands_sublist_descendants (node : Node) :
    node.operands.Sublist node.descendants :=
  List.filter_sublist.trans node.children_sublist_descendants

theorem Node.firstOperand_sublist_descendants (node : Node) :
    node.operands[0]?.toList.Sublist node.descendants := by
  apply List.Sublist.trans ?_ node.operands_sublist_descendants
  cases node.operands with
  | nil => exact List.Sublist.slnil
  | cons first rest => exact List.singleton_sublist.mpr List.mem_cons_self

theorem Chain.conditions_cons (member : Node) (rest : List Node) (final? : Option Node) :
    conditions ⟨member :: rest, final?⟩ =
      member.operands[0]?.toList ++ conditions ⟨rest, final?⟩ := by
  rw [conditions, List.filterMap_cons]
  cases first : member.operands[0]? <;> simp [conditions, IfStatement.parts, first]

theorem Chain.conditions_singleton (member : Node) (final? : Option Node) :
    conditions ⟨[member], final?⟩ = member.operands[0]?.toList := by
  rw [conditions_cons, conditions, List.filterMap_nil, List.append_nil]

/-- The first operand stands before an operand further on, or is that operand itself. -/
theorem Node.firstOperand_append_sublist {alternative : Node}
    (below : alternative ∈ node.children) (operand : alternative.kind.isSyntaxToken = false)
    {nodes : List Node} (inside : nodes.Sublist alternative.descendants) :
    (node.operands[0]?.toList ++ nodes).Sublist node.descendants := by
  obtain ⟨front, back, listed⟩ := List.append_of_mem below
  have operands_eq : node.operands = (front.filter fun child => !child.kind.isSyntaxToken) ++
      alternative :: back.filter fun child => !child.kind.isSyntaxToken := by
    simp [operands, listed, operand]
  have descendants_eq : node.descendants =
      front.flatMap preorder ++ (alternative.preorder ++ back.flatMap preorder) := by
    rw [descendants, listed, List.flatMap_append, List.flatMap_cons]
  have lower : (alternative :: nodes).Sublist (alternative.preorder ++ back.flatMap preorder) := by
    rw [preorder_eq]
    exact (inside.cons_cons alternative).trans (List.sublist_append_left _ _)
  rw [operands_eq, descendants_eq]
  cases kept : front.filter fun child => !child.kind.isSyntaxToken with
  | nil => exact lower.trans (List.sublist_append_right _ _)
  | cons first more =>
      have known : first ∈ front := List.mem_of_mem_filter (kept ▸ List.mem_cons_self)
      have upper : [first].Sublist (front.flatMap preorder) := by
        apply List.singleton_sublist.mpr
        exact List.mem_flatMap.mpr ⟨first, known, mem_preorder_iff.mpr (Occurs.refl first)⟩
      exact upper.append ((List.sublist_cons_self _ _).trans lower)

/-- The conditions of a chain stand below its first `if` in the order of the chain. -/
theorem Chain.conditions_sublist (node : Node) :
    (startingAt node).conditions.Sublist node.descendants := by
  induction node using Node.induction with
  | step node ih =>
      cases found : node.alternative? with
      | none =>
          rw [startingAt_of_none found, conditions_singleton]
          exact node.firstOperand_sublist_descendants
      | some alternative =>
          by_cases isIf : alternative.kind = .construct .ifStatement
          · have below := Node.mem_children_of_alternative? found
            rw [startingAt_of_if found isIf, conditions_cons]
            apply Node.firstOperand_append_sublist below (isIf ▸ rfl)
            exact ih alternative below
          · rw [startingAt_of_else found isIf, conditions_singleton]
            exact node.firstOperand_sublist_descendants

end Conditions

section Labels

/-- The label of a clause. -/
def Node.label? (node : Node) : Option Node :=
  (Clause.ofNode? node).bind (·.label?)

theorem Node.label?_mem_children {node label : Node} (found : node.label? = some label) :
    label ∈ node.children := by
  obtain ⟨clause, read, found⟩ := Option.bind_eq_some_iff.mp found
  unfold Clause.ofNode? at read
  split at read
  · obtain rfl := Option.some.inj read
    cases found
  split at read
  · obtain rfl := Option.some.inj read
    obtain ⟨front, colon, found⟩ := Option.bind_eq_some_iff.mp found
    unfold beforeColon? at colon
    split at colon
    · obtain rfl := Option.some.inj colon
      exact (List.takeWhile_sublist _).subset (List.mem_of_find?_eq_some found)
    · cases colon
  · cases read

theorem Node.labels_sublist (nodes : List Node) :
    (nodes.filterMap label?).Sublist (nodes.flatMap preorder) := by
  rw [List.filterMap_eq_flatMap_toList]
  apply List.Sublist.flatMap_right
  intro node _
  cases found : node.label? with
  | none => exact List.nil_sublist _
  | some label =>
      apply List.singleton_sublist.mpr
      exact mem_preorder_iff.mpr (Occurs.of_mem_children (label?_mem_children found))

theorem Node.flatMap_preorder_ungroup_sublist (child : Node) :
    ((ungroup [child]).flatMap preorder).Sublist child.preorder := by
  rw [ungroup]
  split
  · rw [preorder_eq child]
    exact List.sublist_cons_self _ _
  · rw [List.flatMap_singleton]

/-- The labels of a `switch` stand below it in the order of its clauses. -/
theorem SwitchStatement.labels_sublist {node : Node} {statement : SwitchStatement}
    (read : SwitchStatement.ofNode? node = some statement) :
    (statement.clauses.filterMap (·.label?)).Sublist node.descendants := by
  unfold ofNode? at read
  split at read
  · obtain rfl := Option.some.inj read
    cases present : node.childOfKind? (.construct .caseBlock) with
    | none => exact List.nil_sublist _
    | some block =>
        have below : block ∈ node.children := List.mem_of_find?_eq_some present
        have labels_eq : (clausesOfBlock block).filterMap (·.label?) =
            block.children.flatMap fun child => (Node.ungroup [child]).filterMap Node.label? := by
          rw [clausesOfBlock, List.filterMap_filterMap, List.filterMap_flatMap]
          rfl
        have inBlock : ((clausesOfBlock block).filterMap (·.label?)).Sublist
            block.descendants := by
          rw [labels_eq, Node.descendants]
          apply List.Sublist.flatMap_right
          intro child _
          exact (Node.labels_sublist _).trans child.flatMap_preorder_ungroup_sublist
        have inPreorder : block.descendants.Sublist block.preorder := by
          rw [Node.preorder_eq]
          exact List.sublist_cons_self _ _
        exact (inBlock.trans inPreorder).trans (Node.preorder_sublist_descendants below)
  · cases read

end Labels

section Repeats

variable {earlier later : Node} {before nodes : List Node}

/-- The first node that is repeated is one of those that are. -/
theorem Conditions.mem_allRepeats_of_mem_firstRepeats
    (known : (earlier, later) ∈ firstRepeats before nodes) :
    (earlier, later) ∈ allRepeats before nodes := by
  induction nodes generalizing before with
  | nil => cases known
  | cons node rest ih =>
      rw [allRepeats, List.mem_append]
      rw [firstRepeats] at known
      split at known
      next first found =>
        rcases List.mem_cons.mp known with same | further
        · obtain ⟨rfl, rfl⟩ := Prod.mk.inj same
          have kept := List.mem_filter.mpr
            ⟨List.mem_of_find?_eq_some found, List.find?_some found⟩
          exact Or.inl (List.mem_map.mpr ⟨_, kept, rfl⟩)
        · exact Or.inr (ih further)
      · exact Or.inr (ih known)

/-- A node and an earlier one that it repeats stand in this order and are equivalent. -/
theorem Conditions.pair_of_mem_allRepeats (known : (earlier, later) ∈ allRepeats before nodes) :
    [earlier, later].Sublist (before ++ nodes) ∧ earlier.equivalent later = true := by
  induction nodes generalizing before with
  | nil => cases known
  | cons node rest ih =>
      rw [allRepeats, List.mem_append] at known
      rcases known with here | further
      · obtain ⟨first, kept, same⟩ := List.mem_map.mp here
        obtain ⟨rfl, rfl⟩ := Prod.mk.inj same
        obtain ⟨inBefore, equivalent⟩ := List.mem_filter.mp kept
        have front := List.singleton_sublist.mpr inBefore
        have back : [node].Sublist (node :: rest) := List.singleton_sublist.mpr List.mem_cons_self
        exact ⟨front.append back, equivalent⟩
      · rw [List.append_cons before node rest]
        exact ih further

end Repeats

section Signs

variable {node : Node}

theorem BinaryExpression.right_mem_children {expression : BinaryExpression}
    (read : BinaryExpression.ofNode? node = some expression) :
    expression.right ∈ node.children := by
  unfold ofNode? at read
  split at read
  next children =>
    split at read
    · obtain rfl := Option.some.inj read
      simp [children]
    · cases read
  · cases read

theorem PostfixExpression.sign_mem_children {expression : PostfixExpression}
    (read : PostfixExpression.ofNode? node = some expression) :
    expression.sign ∈ node.children := by
  unfold ofNode? at read
  split at read
  next children =>
    split at read
    · obtain rfl := Option.some.inj read
      simp [children]
    · cases read
  · cases read

end Signs

/-- What the rules in use report at a node: a finding about one node in it, or that a condition or
a label in it repeats an earlier one. -/
inductive Finding.ReportedAt (context : Context) (node : Node) : Finding → Prop
  | single {message : String} {id : RuleId} {anchor : Node} (inside : anchor.Occurs node)
      (other : id ≠ .duplicatedCondition) :
      ReportedAt context node (Finding.about message id.text context.file anchor)
  | repetition {what : String} {earlier later : Node} (noun : what = "branch" ∨ what = "case")
      (ordered : [earlier, later].Sublist node.preorder)
      (same : earlier.equivalent later = true) :
      ReportedAt context node (Conditions.repetition what context earlier later)

section Reported

variable {context : Context} {node : Node} {found : List Finding}

theorem Branches.reportedAt (answer : visit context node = some found) :
    ∀ finding ∈ found, finding.ReportedAt context node := by
  intro finding reported
  rcases visit_eq_some answer with rfl | rfl
  · obtain rfl := List.mem_singleton.mp reported
    exact .single (Node.Occurs.refl node) (by decide)
  · obtain rfl := List.mem_singleton.mp reported
    exact .single (Node.Occurs.refl node) (by decide)

/-- Among nodes that stand in a statement in this order, repetitions are reported in it. -/
private theorem Conditions.reportedAt_of_report {what : String}
    (noun : what = "branch" ∨ what = "case") {nodes : List Node} {pairs : List (Node × Node)}
    (ordered : nodes.Sublist node.descendants) (repeated : pairs ⊆ allRepeats [] nodes)
    (answer : report what context pairs = some found) :
    ∀ finding ∈ found, finding.ReportedAt context node := by
  intro finding reported
  obtain ⟨-, rfl⟩ := report_eq_some_iff.mp answer
  obtain ⟨⟨earlier, later⟩, known, rfl⟩ := List.mem_map.mp reported
  obtain ⟨listed, same⟩ := pair_of_mem_allRepeats (repeated known)
  have inside : [earlier, later].Sublist node.preorder := by
    rw [Node.preorder_eq]
    exact (listed.trans ordered).trans (List.sublist_cons_self _ _)
  exact .repetition noun inside same

theorem Conditions.reportedAt (answer : visit context node = some found) :
    ∀ finding ∈ found, finding.ReportedAt context node := by
  unfold visit at answer
  split at answer
  · simp only [visitIf, Option.ite_none_right_eq_some] at answer
    exact reportedAt_of_report (Or.inl rfl) (Chain.conditions_sublist node)
      (fun _ known => mem_allRepeats_of_mem_firstRepeats known) answer.2
  · simp only [visitSwitch, Option.bind_eq_bind, Option.bind_eq_some_iff] at answer
    obtain ⟨statement, read, answer⟩ := answer
    exact reportedAt_of_report (Or.inr rfl) (SwitchStatement.labels_sublist read)
      (List.Subset.refl _) answer
  · cases answer

theorem SelfUpdate.reportedAt (answer : visit context node = some found) :
    ∀ finding ∈ found, finding.ReportedAt context node := by
  intro finding reported
  obtain ⟨assignment, read, -, update, readUpdate, -, verdict, known, rfl⟩ :=
    visit_eq_some_iff.mp answer
  obtain rfl := List.mem_singleton.mp reported
  have signIn := Node.Occurs.of_mem_children (PostfixExpression.sign_mem_children readUpdate)
  have updateIn := Node.Occurs.of_mem_children (BinaryExpression.right_mem_children read)
  refine .single (signIn.trans updateIn) ?_
  rcases verdict?_eq_some known with same | same
  · simp [same]
  · simp [same]

/-- The rules in use report one node each or a repetition. -/
theorem reportedAt_of_mem_findings {rule : Rule} (known : rule ∈ duplicateRules)
    {finding : Finding} (reported : finding ∈ rule.findings context node) :
    finding.ReportedAt context node := by
  rcases mem_duplicateRules_iff.mp known with rfl | rfl | rfl
  · obtain ⟨found, answer, listed⟩ := Rule.mem_findings_stateless_iff.mp reported
    exact Branches.reportedAt answer finding listed
  · obtain ⟨found, answer, listed⟩ := Rule.mem_findings_stateless_iff.mp reported
    exact Conditions.reportedAt answer finding listed
  · obtain ⟨found, answer, listed⟩ := Rule.mem_findings_stateless_iff.mp reported
    exact SelfUpdate.reportedAt answer finding listed

end Reported

/-- Whether a finding is about a file and covers a node that stands in a tree. -/
structure Finding.StandsIn (finding : Finding) (file : Path) (root : Node) : Prop where
  file_eq : finding.file = file
  covers : ∃ node : Node, node.Occurs root ∧ finding.start = node.start ∧ finding.stop = node.stop

theorem Finding.ReportedAt.standsIn {context : Context} {node : Node} {finding : Finding}
    (reported : finding.ReportedAt context node) : finding.StandsIn context.file node := by
  cases reported with
  | single inside => exact ⟨rfl, _, inside, rfl, rfl⟩
  | repetition _ ordered _ =>
      exact ⟨rfl, _, Node.mem_preorder_iff.mp (ordered.subset (by simp)), rfl, rfl⟩

/-- Every finding of a walk stands in the tree. -/
theorem standsIn_of_mem_walk {root : Node} {rules : List Rule} {file : Path} {settings : Settings}
    (used : ∀ rule ∈ rules, rule ∈ duplicateRules) {finding : Finding}
    (reported : finding ∈ walk root rules file settings) : finding.StandsIn file root := by
  obtain ⟨visited, known, rule, listed, -, reported⟩ := (mem_walk_iff used).mp reported
  obtain ⟨sameFile, node, inside, start, stop⟩ :=
    (reportedAt_of_mem_findings (used rule listed) reported).standsIn
  have above : visited.node.Occurs root := Node.occurs_iff.mpr ⟨visited, known, rfl⟩
  exact ⟨sameFile, node, inside.trans above, start, stop⟩

end DuplicateLogic
