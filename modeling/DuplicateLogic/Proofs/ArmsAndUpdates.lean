import DuplicateLogic.Proofs.Enabled
import DuplicateLogic.Proofs.Equivalence
import DuplicateLogic.Proofs.WellFormed
import DuplicateLogic.Syntax.Build

/-! # Same arms and wasted updates

A conditional expression whose two values are the same code, and an assignment that gives a target
back the value it had before its own update, are reported wherever they stand in a tree, once each
and in the order of the tree. Nothing else in a tree is reported under their identifiers. -/

namespace DuplicateLogic

namespace Node

/-- Two nodes have the same normal form just when they are equivalent. -/
instance decidableNormEq (first second : Node) : Decidable (first.norm = second.norm) :=
  decidable_of_iff _ (equivalent_iff_norm_eq first second)

/-- Whether a node is a conditional expression whose second and third operands have the same normal
form. -/
def HasSameArms (node : Node) : Prop :=
  node.kind = .construct .conditionalExpression ∧
    ∃ whenTrue ∈ node.operands[1]?, ∃ whenFalse ∈ node.operands[2]?,
      whenTrue.norm = whenFalse.norm

instance : DecidablePred HasSameArms :=
  fun node => inferInstanceAs (Decidable (node.kind = _ ∧ _))

/-- The sign of an update that a node assigns to the target of the update. -/
def wastedSign? (form : Operator) (node : Node) : Option Node :=
  match node.children with
  | [left, equals, update] =>
      match update.children with
      | [operand, sign] =>
          if node.kind = .construct .binaryExpression ∧ equals.kind = .operator .equals ∧
              update.kind = .construct .postfixUnaryExpression ∧ sign.kind = .operator form ∧
              operand.norm = left.norm then
            some sign
          else
            none
      | _ => none
  | _ => none

end Node

section Views

variable {node : Node}

theorem BinaryExpression.ofNode?_eq_some_iff {expression : BinaryExpression} :
    ofNode? node = some expression ↔
      node.kind = .construct .binaryExpression ∧
        node.children = [expression.left, expression.sign, expression.right] := by
  unfold ofNode?
  split
  next left sign right listed =>
    rw [Option.ite_none_right_eq_some, Option.some.injEq, listed]
    cases expression
    simp
  next other =>
    constructor
    · nofun
    · rintro ⟨-, listed⟩
      exact absurd listed (other _ _ _)

theorem PostfixExpression.ofNode?_eq_some_iff {expression : PostfixExpression} :
    ofNode? node = some expression ↔
      node.kind = .construct .postfixUnaryExpression ∧
        node.children = [expression.operand, expression.sign] := by
  unfold ofNode?
  split
  next operand sign listed =>
    rw [Option.ite_none_right_eq_some, Option.some.injEq, listed]
    cases expression
    simp
  next other =>
    constructor
    · nofun
    · rintro ⟨-, listed⟩
      exact absurd listed (other _ _)

theorem Node.wastedSign?_eq_some_iff {form : Operator} {sign : Node} :
    node.wastedSign? form = some sign ↔
      node.kind = .construct .binaryExpression ∧ ∃ left equals update operand,
        node.children = [left, equals, update] ∧ equals.kind = .operator .equals ∧
        update.kind = .construct .postfixUnaryExpression ∧
        update.children = [operand, sign] ∧ sign.kind = .operator form ∧
        operand.norm = left.norm := by
  unfold wastedSign?
  constructor
  · intro found
    split at found
    next left equals update listed =>
      split at found
      next operand last updateListed =>
        split at found
        next holds =>
          obtain rfl := Option.some.inj found
          obtain ⟨isBinary, isEquals, isPostfix, isForm, same⟩ := holds
          exact ⟨isBinary, left, equals, update, operand, listed, isEquals, isPostfix,
            updateListed, isForm, same⟩
        · cases found
      · cases found
    · cases found
  · rintro ⟨isBinary, left, equals, update, operand, listed, isEquals, isPostfix, updateListed,
      isForm, same⟩
    simp only [listed, updateListed]
    rw [if_pos ⟨isBinary, isEquals, isPostfix, isForm, same⟩]

open Node in
/-- `a = a++` wastes the increment and `a = b++` does not. -/
example :
    let increment (name : String) := postfixUnary (identifier name) (.operator .plusPlus)
    (assign (identifier "a") (increment "a")).wastedSign? .plusPlus =
        some (keyword (.operator .plusPlus)) ∧
      (assign (identifier "a") (increment "b")).wastedSign? .plusPlus = none :=
  ⟨rfl, rfl⟩

end Views

namespace SelfUpdate

/-- The rule of a verdict tells the sign that it was passed on. -/
theorem kind_of_verdict? {kind : Kind} {verdict : RuleId × String}
    (known : verdict? kind = some verdict) :
    kind = .operator (if verdict.1 = .uselessSelfIncrement then .plusPlus else .minusMinus) := by
  unfold verdict? at known
  split at known
  · obtain rfl := Option.some.inj known
    rfl
  · obtain rfl := Option.some.inj known
    rfl
  · cases known

variable {context : Context} {node : Node}

/-- The rule reports the wasted sign of an update, under the verdict on the sign. -/
theorem visit_eq_some_iff_wastedSign? {found : List Finding} :
    visit context node = some found ↔
      ∃ form verdict sign, verdict? (.operator form) = some verdict ∧
        node.wastedSign? form = some sign ∧
        [Finding.about verdict.2 verdict.1.text context.file sign] = found := by
  rw [visit_eq_some_iff]
  simp only [Node.wastedSign?_eq_some_iff, BinaryExpression.ofNode?_eq_some_iff,
    PostfixExpression.ofNode?_eq_some_iff, Node.equivalent_iff_norm_eq]
  constructor
  · rintro ⟨⟨left, equals, update⟩, ⟨isBinary, listed⟩, isEquals, ⟨operand, sign⟩,
      ⟨isPostfix, updateListed⟩, same, verdict, known, reported⟩
    have isForm := kind_of_verdict? known
    exact ⟨_, verdict, sign, isForm ▸ known, ⟨isBinary, left, equals, update, operand, listed,
      isEquals, isPostfix, updateListed, isForm, same.symm⟩, reported⟩
  · rintro ⟨form, verdict, sign, known, ⟨isBinary, left, equals, update, operand, listed,
      isEquals, isPostfix, updateListed, isForm, same⟩, reported⟩
    exact ⟨⟨left, equals, update⟩, ⟨isBinary, listed⟩, isEquals, ⟨operand, sign⟩,
      ⟨isPostfix, updateListed⟩, same.symm, verdict, isForm ▸ known, reported⟩

/-- What the rule reports under an identifier is the wasted sign of the form that the identifier is
about. -/
theorem filter_findings {form : Operator} {id : RuleId} {message : String}
    (known : verdict? (.operator form) = some (id, message)) :
    (rule.findings context node).filter (·.rule = id.text) =
      (node.wastedSign? form).toList.map (Finding.about message id.text context.file) := by
  rw [rule, Rule.findings_stateless]
  cases wasted : node.wastedSign? form with
  | some sign =>
      have answer : visit context node =
          some [Finding.about message id.text context.file sign] :=
        visit_eq_some_iff_wastedSign?.mpr ⟨form, _, sign, known, wasted, rfl⟩
      rw [answer, Option.getD_some, List.filter_eq_self.mpr]
      · rfl
      · rintro finding known
        obtain rfl := List.mem_singleton.mp known
        exact decide_eq_true rfl
  | none =>
      rw [Option.toList_none, List.map_nil, List.filter_eq_nil_iff]
      intro finding reported same
      obtain ⟨found, answer⟩ : ∃ found, visit context node = some found := by
        cases answer : visit context node with
        | none => simp [answer] at reported
        | some found => exact ⟨found, rfl⟩
      obtain ⟨form', verdict, sign, known', wasted', rfl⟩ :=
        visit_eq_some_iff_wastedSign?.mp answer
      rw [answer, Option.getD_some, List.mem_singleton] at reported
      subst reported
      -- the same rule passes its verdict on one sign only
      have sameRule : verdict.1 = id := RuleId.text_injective (of_decide_eq_true same)
      have forms := (kind_of_verdict? known').trans
        (sameRule ▸ (kind_of_verdict? known).symm : _ = Kind.operator form)
      obtain rfl := Kind.operator.inj forms
      rw [wasted] at wasted'
      cases wasted'

end SelfUpdate

namespace Branches

variable {context : Context} {node : Node}

theorem visitConditional_eq_some_iff_hasSameArms {found : List Finding}
    (isConditional : node.kind = .construct .conditionalExpression) :
    visitConditional context node = some found ↔
      node.HasSameArms ∧ [Finding.about conditionalMessage
        RuleId.duplicatedBranchesConditional.text context.file node] = found := by
  rw [visitConditional_eq_some_iff, Node.HasSameArms, ConditionalExpression.ofNode?,
    if_pos isConditional]
  simp only [Node.equivalent_iff_norm_eq, Option.some.injEq, exists_eq_left', isConditional,
    true_and, Option.mem_def]
  constructor
  · rintro ⟨whenTrue, isTrue, whenFalse, isFalse, same, reported⟩
    exact ⟨⟨whenTrue, isTrue, whenFalse, isFalse, same⟩, reported⟩
  · rintro ⟨⟨whenTrue, isTrue, whenFalse, isFalse, same⟩, reported⟩
    exact ⟨whenTrue, isTrue, whenFalse, isFalse, same, reported⟩

theorem visit_eq_some_of_ne {found : List Finding}
    (other : node.kind ≠ .construct .conditionalExpression)
    (answer : visit context node = some found) : statementFinding context node = found := by
  unfold visit at answer
  split at answer
  · exact (visitIf_eq_some_iff.mp answer).2
  · obtain ⟨-, -, -, same⟩ := visitSwitch_eq_some_iff.mp answer
    exact same
  next isConditional => exact absurd isConditional other
  · cases answer

/-- What the rule reports as a conditional expression is a node with the same arms. -/
theorem filter_findings :
    (rule.findings context node).filter
        (·.rule = RuleId.duplicatedBranchesConditional.text) =
      if node.HasSameArms then
        [Finding.about conditionalMessage RuleId.duplicatedBranchesConditional.text context.file
          node]
      else [] := by
  have otherRule : RuleId.duplicatedBranchesStatement.text ≠
      RuleId.duplicatedBranchesConditional.text := by decide
  rw [rule, Rule.findings_stateless]
  by_cases isConditional : node.kind = .construct .conditionalExpression
  · have checked : visit context node = visitConditional context node := by
      rw [visit, isConditional]
    split
    next same =>
      rw [checked, (visitConditional_eq_some_iff_hasSameArms isConditional).mpr ⟨same, rfl⟩]
      simp [Finding.about]
    next different =>
      cases answer : visitConditional context node with
      | none =>
          rw [checked, answer]
          rfl
      | some found =>
          exact absurd ((visitConditional_eq_some_iff_hasSameArms isConditional).mp answer).1
            different
  · rw [if_neg fun same => isConditional same.1]
    cases answer : visit context node with
    | none => rfl
    | some found =>
        obtain rfl := visit_eq_some_of_ne isConditional answer
        simp [statementFinding, Finding.about, otherRule]

end Branches

/-- A rule in use reports nothing at a node of a kind that it does not want to see. -/
theorem findings_eq_nil_of_not_wants {context : Context} {node : Node} {rule : Rule}
    (known : rule ∈ duplicateRules) (unwanted : ¬rule.wants node.kind = true) :
    rule.findings context node = [] := by
  rw [Rule.wants_iff] at unwanted
  rcases mem_duplicateRules_iff.mp known with rfl | rfl | rfl
  · have silent : Branches.visit context node = none := by
      unfold Branches.visit
      split <;> simp_all [Branches.rule, Rule.stateless]
    exact Rule.findings_stateless_of_none silent
  · have silent : Conditions.visit context node = none := by
      unfold Conditions.visit
      split <;> simp_all [Conditions.rule, Rule.stateless]
    exact Rule.findings_stateless_of_none silent
  · have silent : SelfUpdate.visit context node = none := by
      rw [Option.eq_none_iff_forall_not_mem]
      intro found answer
      obtain ⟨assignment, read, -⟩ := SelfUpdate.visit_eq_some_iff.mp answer
      have isBinary := (BinaryExpression.ofNode?_eq_some_iff.mp read).1
      exact unwanted (by simp [isBinary, SelfUpdate.rule, Rule.stateless])
    exact Rule.findings_stateless_of_none silent

theorem filter_findings_of_not_mem {rule : Rule} (known : rule ∈ duplicateRules) {id : String}
    (undeclared : id ∉ rule.ids) (context : Context) (node : Node) :
    (rule.findings context node).filter (·.rule = id) = [] := by
  rw [List.filter_eq_nil_iff]
  intro finding reported same
  have declared := declares_of_mem_duplicateRules known context node finding reported
  rw [of_decide_eq_true same] at declared
  exact undeclared declared

namespace Walk

variable (file : Path) (settings : Settings)

/-- What a walk reports under an identifier is what each rule in use reports under it at each
occurrence. -/
theorem filter_walk_eq_flatMap (root : Node) (id : String) :
    (walk root duplicateRules file settings).filter (·.rule = id) =
      root.occurrences.flatMap fun occurrence => duplicateRules.flatMap fun rule =>
        (rule.findings ⟨file, occurrence.parent?, settings⟩ occurrence.node).filter
          (·.rule = id) := by
  rw [walk_of_isStateless root file settings fun _ => isStateless_of_mem_duplicateRules,
    List.filter_flatMap]
  refine List.flatMap_congr fun occurrence _ => ?_
  rw [List.filter_flatMap]
  apply flatMap_filter_of_nil
  intro rule known unwanted
  rw [findings_eq_nil_of_not_wants known (Bool.eq_false_iff.mp unwanted), List.filter_nil]

/-- Under the identifier of a sign a walk reports the wasted signs of the tree. -/
theorem filter_walk_wastedSign? (root : Node) {form : Operator} {id : RuleId} {message : String}
    (known : SelfUpdate.verdict? (.operator form) = some (id, message)) :
    (walk root duplicateRules file settings).filter (·.rule = id.text) =
      (root.occurrences.filterMap (·.node.wastedSign? form)).map
        (Finding.about message id.text file) := by
  have otherRules : id.text ∉ Branches.rule.ids ∧ id.text ∉ Conditions.rule.ids := by
    rcases SelfUpdate.verdict?_eq_some known with rfl | rfl
    · decide
    · decide
  rw [filter_walk_eq_flatMap, List.filterMap_eq_flatMap_toList, List.map_flatMap]
  refine List.flatMap_congr fun occurrence _ => ?_
  rw [duplicateRules, List.flatMap_cons, List.flatMap_cons, List.flatMap_singleton,
    filter_findings_of_not_mem (by simp [duplicateRules]) otherRules.1,
    filter_findings_of_not_mem (by simp [duplicateRules]) otherRules.2,
    SelfUpdate.filter_findings known, List.nil_append, List.nil_append]

private theorem map_filter_eq_flatMap {α β : Type} (kept : α → Prop) [DecidablePred kept]
    (image : α → β) (items : List α) :
    (items.filter fun item => kept item).map image =
      items.flatMap fun item => if kept item then [image item] else [] := by
  induction items with
  | nil => rfl
  | cons item rest ih =>
      rw [List.flatMap_cons, ← ih, List.filter_cons]
      by_cases keep : kept item
      · simp [keep]
      · simp [keep]

/-- As conditional expressions a walk reports the nodes of the tree with the same arms. -/
theorem filter_walk_hasSameArms (root : Node) :
    (walk root duplicateRules file settings).filter
        (·.rule = RuleId.duplicatedBranchesConditional.text) =
      (root.occurrences.filter (·.node.HasSameArms)).map fun occurrence =>
        Finding.about Branches.conditionalMessage RuleId.duplicatedBranchesConditional.text file
          occurrence.node := by
  have otherRules : RuleId.duplicatedBranchesConditional.text ∉ Conditions.rule.ids ∧
      RuleId.duplicatedBranchesConditional.text ∉ SelfUpdate.rule.ids := by decide
  rw [filter_walk_eq_flatMap, map_filter_eq_flatMap]
  refine List.flatMap_congr fun occurrence _ => ?_
  rw [duplicateRules, List.flatMap_cons, List.flatMap_cons, List.flatMap_singleton,
    filter_findings_of_not_mem (by simp [duplicateRules]) otherRules.1,
    filter_findings_of_not_mem (by simp [duplicateRules]) otherRules.2,
    Branches.filter_findings, List.append_nil, List.append_nil]

end Walk

/-- Under three identifiers a walk reports, in the order of the tree and once each, just the
conditional expressions with the same arms and the signs of wasted increments and decrements. -/
theorem walk_sameArms_and_wastedSigns (root : Node) (file : Path) (settings : Settings) :
    let found := walk root duplicateRules file settings
    found.filter (·.rule = RuleId.duplicatedBranchesConditional.text) =
      (root.occurrences.filter (·.node.HasSameArms)).map (fun occurrence =>
        Finding.about Branches.conditionalMessage RuleId.duplicatedBranchesConditional.text file
          occurrence.node) ∧
    found.filter (·.rule = RuleId.uselessSelfIncrement.text) =
      (root.occurrences.filterMap (·.node.wastedSign? .plusPlus)).map
        (Finding.about "Remove this increment or correct the code not to waste it."
          RuleId.uselessSelfIncrement.text file) ∧
    found.filter (·.rule = RuleId.uselessSelfDecrement.text) =
      (root.occurrences.filterMap (·.node.wastedSign? .minusMinus)).map
        (Finding.about "Remove this decrement or correct the code not to waste it."
          RuleId.uselessSelfDecrement.text file) := by
  refine ⟨?_, ?_, ?_⟩
  · exact Walk.filter_walk_hasSameArms file settings root
  · exact Walk.filter_walk_wastedSign? file settings root rfl
  · exact Walk.filter_walk_wastedSign? file settings root rfl

end DuplicateLogic
