import DuplicateLogic.Proofs.Walk
import DuplicateLogic.Rules.Enabled

/-! # When rules report

Each rule looks at one node and either reports nothing or gives a list of findings. For every
check it is said here exactly when it reports and what. From that follows for the rules in use
that they keep no state and that their findings carry no identifiers but their own. -/

namespace DuplicateLogic

namespace Branches

theorem visitIf_eq_some_iff {context : Context} {node : Node} {found : List Finding} :
    visitIf context node = some found ↔
      ((context.isChainRoot = true ∧ (Chain.startingAt node).endsWithElse = true) ∧
        allAlike Node.equivalent (Chain.startingAt node).branches = true) ∧
      statementFinding context node = found := by
  simp only [visitIf, Option.ite_none_right_eq_some, Bool.and_eq_true, Option.some.injEq]

theorem visitSwitch_eq_some_iff {context : Context} {node : Node} {found : List Finding} :
    visitSwitch context node = some found ↔
      ∃ statement, SwitchStatement.ofNode? node = some statement ∧
        (statement.clauses.any (·.isDefault) = true ∧
          allAlike Node.allEquivalent (comparedBodies statement.clauses) = true) ∧
        statementFinding context node = found := by
  simp only [visitSwitch, Option.bind_eq_bind, Option.bind_eq_some_iff,
    Option.ite_none_right_eq_some, Bool.and_eq_true, Option.some.injEq]

theorem visitConditional_eq_some_iff {context : Context} {node : Node} {found : List Finding} :
    visitConditional context node = some found ↔
      ∃ expression, ConditionalExpression.ofNode? node = some expression ∧
        ∃ whenTrue, expression.whenTrue? = some whenTrue ∧
          ∃ whenFalse, expression.whenFalse? = some whenFalse ∧
            whenTrue.equivalent whenFalse = true ∧
              [Finding.about conditionalMessage RuleId.duplicatedBranchesConditional.text
                context.file node] = found := by
  simp only [visitConditional, Option.bind_eq_bind, Option.bind_eq_some_iff,
    Option.ite_none_right_eq_some, Option.some.injEq]

/-- The rule reports the node that it was shown, as a statement or as a conditional expression. -/
theorem visit_eq_some {context : Context} {node : Node} {found : List Finding}
    (answer : visit context node = some found) :
    statementFinding context node = found ∨
      [Finding.about conditionalMessage RuleId.duplicatedBranchesConditional.text
        context.file node] = found := by
  unfold visit at answer
  split at answer
  · exact Or.inl (visitIf_eq_some_iff.mp answer).2
  · obtain ⟨-, -, -, same⟩ := visitSwitch_eq_some_iff.mp answer
    exact Or.inl same
  · obtain ⟨-, -, -, -, -, -, -, same⟩ := visitConditional_eq_some_iff.mp answer
    exact Or.inr same
  · cases answer

end Branches

namespace Conditions

theorem report_eq_some_iff {what : String} {context : Context} {pairs : List (Node × Node)}
    {found : List Finding} :
    report what context pairs = some found ↔
      pairs ≠ [] ∧
        (pairs.map fun (earlier, later) => repetition what context earlier later) = found := by
  simp only [report, Option.ite_none_left_eq_some, List.isEmpty_iff, Option.some.injEq, ne_eq]

/-- The rule reports repetitions, at least one when it reports at all. -/
theorem visit_eq_some {context : Context} {node : Node} {found : List Finding}
    (answer : visit context node = some found) :
    ∃ what pairs, report what context pairs = some found := by
  unfold visit at answer
  split at answer
  · simp only [visitIf, Option.ite_none_right_eq_some] at answer
    exact ⟨_, _, answer.2⟩
  · simp only [visitSwitch, Option.bind_eq_bind, Option.bind_eq_some_iff] at answer
    obtain ⟨statement, -, answer⟩ := answer
    exact ⟨_, _, answer⟩
  · cases answer

end Conditions

namespace SelfUpdate

/-- The rule reports an assignment of an updated operand to itself, at the sign of the update. -/
theorem visit_eq_some_iff {context : Context} {node : Node} {found : List Finding} :
    visit context node = some found ↔
      ∃ assignment, BinaryExpression.ofNode? node = some assignment ∧
        assignment.sign.kind = .operator .equals ∧
        ∃ update, PostfixExpression.ofNode? assignment.right = some update ∧
          assignment.left.equivalent update.operand = true ∧
          ∃ verdict, verdict? update.sign.kind = some verdict ∧
            [Finding.about verdict.2 verdict.1.text context.file update.sign] = found := by
  simp only [visit, ne_eq, ite_not, Option.bind_eq_bind, Option.bind_eq_some_iff,
    Option.bind_none, Option.ite_none_left_eq_some, Option.ite_none_right_eq_some,
    Bool.not_eq_true', Bool.not_eq_false, Option.pure_def, Option.some.injEq]

/-- A verdict names an increment or a decrement. -/
theorem verdict?_eq_some {kind : Kind} {verdict : RuleId × String}
    (known : verdict? kind = some verdict) :
    verdict.1 = .uselessSelfIncrement ∨ verdict.1 = .uselessSelfDecrement := by
  unfold verdict? at known
  split at known
  · exact Or.inl (Option.some.inj known ▸ rfl)
  · exact Or.inr (Option.some.inj known ▸ rfl)
  · cases known

end SelfUpdate

/-- Whether everything that a rule reports carries an identifier that it declares. -/
def Rule.Declares (rule : Rule) : Prop :=
  ∀ (context : Context) (node : Node), ∀ finding ∈ rule.findings context node,
    finding.rule ∈ rule.ids

/-- A rule without a state reports what its answer holds. -/
theorem Rule.mem_findings_stateless_iff {name : String} {ids : List RuleId} {kinds : List Kind}
    {visit : Context → Node → Option (List Finding)} {context : Context} {node : Node}
    {finding : Finding} :
    finding ∈ (stateless name ids kinds visit).findings context node ↔
      ∃ found, visit context node = some found ∧ finding ∈ found := by
  rw [findings_stateless]
  cases visit context node <;> simp

/-- A rule without a state declares what it reports when each of its answers does. -/
theorem Rule.declares_stateless {name : String} {ids : List RuleId} {kinds : List Kind}
    {visit : Context → Node → Option (List Finding)}
    (answers : ∀ {context node found}, visit context node = some found →
      ∀ finding ∈ found, ∃ id ∈ ids, finding.rule = id.text) :
    (Rule.stateless name ids kinds visit).Declares := by
  intro context node finding reported
  obtain ⟨found, answer, listed⟩ := mem_findings_stateless_iff.mp reported
  obtain ⟨id, declared, same⟩ := answers answer finding listed
  rw [same]
  exact List.mem_map_of_mem declared

theorem Branches.declares : Branches.rule.Declares := by
  apply Rule.declares_stateless
  intro context node found answer finding reported
  rcases Branches.visit_eq_some answer with rfl | rfl
  · obtain rfl := List.mem_singleton.mp reported
    exact ⟨.duplicatedBranchesStatement, by simp, rfl⟩
  · obtain rfl := List.mem_singleton.mp reported
    exact ⟨.duplicatedBranchesConditional, by simp, rfl⟩

theorem Conditions.declares : Conditions.rule.Declares := by
  apply Rule.declares_stateless
  intro context node found answer finding reported
  obtain ⟨what, pairs, answer⟩ := Conditions.visit_eq_some answer
  obtain ⟨-, rfl⟩ := Conditions.report_eq_some_iff.mp answer
  obtain ⟨⟨earlier, later⟩, -, rfl⟩ := List.mem_map.mp reported
  exact ⟨.duplicatedCondition, by simp, rfl⟩

theorem SelfUpdate.declares : SelfUpdate.rule.Declares := by
  apply Rule.declares_stateless
  intro context node found answer finding reported
  obtain ⟨-, -, -, update, -, -, verdict, known, rfl⟩ := SelfUpdate.visit_eq_some_iff.mp answer
  obtain rfl := List.mem_singleton.mp reported
  refine ⟨verdict.1, ?_, rfl⟩
  rcases SelfUpdate.verdict?_eq_some known with same | same
  · simp [same]
  · simp [same]

theorem mem_duplicateRules_iff {rule : Rule} :
    rule ∈ duplicateRules ↔
      rule = Branches.rule ∨ rule = Conditions.rule ∨ rule = SelfUpdate.rule := by
  simp only [duplicateRules, List.mem_cons, List.not_mem_nil, or_false]

/-- The rules in use keep no state. -/
theorem isStateless_of_mem_duplicateRules {rule : Rule} (known : rule ∈ duplicateRules) :
    rule.IsStateless := by
  rcases mem_duplicateRules_iff.mp known with rfl | rfl | rfl
  · exact Rule.isStateless_stateless _ _ _ _
  · exact Rule.isStateless_stateless _ _ _ _
  · exact Rule.isStateless_stateless _ _ _ _

/-- The rules in use report under their own identifiers only. -/
theorem declares_of_mem_duplicateRules {rule : Rule} (known : rule ∈ duplicateRules) :
    rule.Declares := by
  rcases mem_duplicateRules_iff.mp known with rfl | rfl | rfl
  · exact Branches.declares
  · exact Conditions.declares
  · exact SelfUpdate.declares

/-- A walk with rules in use reports what they report at the occurrences of the kinds they want. -/
theorem mem_walk_iff {root : Node} {rules : List Rule} {file : Path} {settings : Settings}
    (used : ∀ rule ∈ rules, rule ∈ duplicateRules) {finding : Finding} :
    finding ∈ walk root rules file settings ↔
      ∃ visited ∈ root.occurrences, ∃ rule ∈ rules, rule.wants visited.node.kind = true ∧
        finding ∈ rule.findings ⟨file, visited.parent?, settings⟩ visited.node := by
  have constant : ∀ rule ∈ rules, rule.IsStateless :=
    fun rule known => isStateless_of_mem_duplicateRules (used rule known)
  simp only [walk_of_isStateless root file settings constant, List.mem_flatMap, List.mem_filter,
    and_assoc]

end DuplicateLogic
