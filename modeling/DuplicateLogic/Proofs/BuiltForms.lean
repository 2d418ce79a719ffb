import DuplicateLogic.Proofs.GroupedClauses

/-! # Built forms are read back

A builder puts the operands of a form between tokens of the syntax. The views find them again in
three ways: by counting the children that are no such tokens, by looking for the first `else` or the
first colon, and by a fixed index. As no operand is a token of the syntax, they all find what the
builder was given. Only the statements of a clause and the members of a case block may be anything:
they stand behind the colon or are sorted by their kinds. -/

namespace DuplicateLogic

namespace Node

/-- Whether a node is a `case` or a `default` clause. -/
def isClause (node : Node) : Bool :=
  node.kind = .construct .caseClause ∨ node.kind = .construct .defaultClause

/-- The nodes with the members of each list node in its place. -/
def opened (nodes : List Node) : List Node :=
  nodes.flatMap fun node => if node.kind = .construct .syntaxList then node.children else [node]

/-- Whether some items are the given nodes, or the members of the one list node that is given. -/
structure IsFreed (items nodes : List Node) : Prop where
  members : ∀ list, nodes = [list] → list.kind = .construct .syntaxList → items = list.children
  same : (∀ list, nodes = [list] → list.kind ≠ .construct .syntaxList) → items = nodes

theorem isFreed_ungroup (nodes : List Node) : IsFreed (ungroup nodes) nodes := by
  constructor
  · rintro list rfl isList
    rw [ungroup, if_pos isList]
  · intro plain
    unfold ungroup
    split
    next item => rw [if_neg (plain item rfl)]
    · rfl

theorem opened_eq (nodes : List Node) :
    opened nodes = nodes.flatMap fun node => ungroup [node] := rfl

end Node

namespace Clause

/-- A clause is read from every clause node and from no other, and knows its node. -/
theorem map_node_ofNode? (node : Node) :
    (ofNode? node).map (·.node) = if node.isClause then some node else none := by
  unfold ofNode? Node.isClause
  split
  next isDefault => simp [isDefault]
  · split
    next isCase => simp [isCase]
    next notDefault notCase => simp [notDefault, notCase]

theorem node_of_ofNode? {node : Node} {clause : Clause} (read : ofNode? node = some clause) :
    clause.node = node := by
  have known := map_node_ofNode? node
  rw [read, Option.map_some] at known
  split at known
  · exact Option.some.inj known
  · cases known

theorem map_node_filterMap (nodes : List Node) :
    (nodes.filterMap ofNode?).map (·.node) = nodes.filter Node.isClause := by
  rw [List.map_filterMap, ← List.filterMap_eq_filter]
  congr 1
  funext node
  exact map_node_ofNode? node

end Clause

/-- A built clause is read with its label, if it has one, and with its statements. -/
theorem Clause.ofNode?_caseClause {label : Node} (plain : label.kind.isSyntaxToken = false)
    (statements : List Node) :
    ofNode? (Node.caseClause label statements) =
      some ⟨Node.caseClause label statements, false, some label, Node.ungroup statements⟩ := by
  have noColon : ∀ child ∈ [Node.word .caseKeyword, label], child.kind ≠ .punctuation .colon := by
    intro child known
    rcases List.mem_pair.mp known with rfl | rfl
    · simp [Node.word, Node.keyword, Node.token]
    · intro isColon
      rw [isColon] at plain
      cases plain
  have found : [Node.word .caseKeyword, label].find? (fun child => !child.kind.isSyntaxToken) =
      some label := by
    simp [plain]
  rw [← found]
  exact ofNode?_of_case rfl rfl rfl noColon

theorem Clause.ofNode?_defaultClause (statements : List Node) :
    ofNode? (Node.defaultClause statements) =
      some ⟨Node.defaultClause statements, true, none, Node.ungroup statements⟩ := by
  have noColon : ∀ child ∈ [Node.word .defaultKeyword], child.kind ≠ .punctuation .colon := by
    simp [Node.word, Node.keyword, Node.token]
  exact ofNode?_of_default rfl rfl rfl noColon

/-- A built `switch` is read with its subject and the clauses among its opened members. -/
theorem SwitchStatement.ofNode?_switchStatement {subject : Node}
    (plain : subject.kind.isSyntaxToken = false)
    (noBlock : subject.kind ≠ .construct .caseBlock) (clauses : List Node) :
    ofNode? (Node.switchStatement subject clauses) =
      some ⟨some subject, some ((Node.opened clauses).filterMap Clause.ofNode?)⟩ := by
  let block := Node.compose (.construct .caseBlock)
    (Node.mark .openBrace :: (clauses ++ [Node.mark .closeBrace]))
  have isSwitch : (Node.switchStatement subject clauses).kind = .construct .switchStatement := rfl
  have isBlock : block.kind = .construct .caseBlock := rfl
  have inside : block.children = Node.mark .openBrace :: (clauses ++ [Node.mark .closeBrace]) := rfl
  have listed : (Node.switchStatement subject clauses).children =
      [Node.word .switchKeyword, Node.mark .openParen, subject, Node.mark .closeParen, block] := rfl
  have first : (Node.switchStatement subject clauses).operands[0]? = some subject := by
    simp [Node.operands, listed, plain]
  have found : (Node.switchStatement subject clauses).childOfKind? (.construct .caseBlock) =
      some block := by
    simp [Node.childOfKind?, listed, Node.word, Node.mark, Node.keyword, Node.token, noBlock,
      isBlock]
  rw [ofNode?, if_pos isSwitch, first, found, Option.map_some,
    clausesOfBlock_of_children inside rfl rfl, Node.opened_eq]

/-- The operands of a built conditional expression are read back. -/
theorem ConditionalExpression.ofNode?_conditional {condition whenTrue whenFalse : Node}
    (conditionOk : condition.kind.isSyntaxToken = false)
    (trueOk : whenTrue.kind.isSyntaxToken = false)
    (falseOk : whenFalse.kind.isSyntaxToken = false) :
    ofNode? (Node.conditional condition whenTrue whenFalse) =
      some ⟨some condition, some whenTrue, some whenFalse⟩ := by
  have operands : (Node.conditional condition whenTrue whenFalse).operands =
      [condition, whenTrue, whenFalse] := by
    simp [Node.operands, Node.conditional, Node.compose, conditionOk, trueOk, falseOk]
  unfold ofNode?
  rw [operands]
  rfl

/-- The views give back what the builders were given, as long as the operands are no tokens of the
syntax. An `if` statement has its condition, its body and its alternative; the nested statements of
a written chain have its conditions, its bodies and the body of its `else`, if any. A `switch` has
its subject, unless this is a case block, and the clauses among its members in their order, list
nodes opened. A clause has its label, if it is a `case`, and its statements, whatever tokens are
among them, or the members of the one list node that it is given. Conditional, binary and postfix
expressions have their operands and the token of their sign. -/
theorem Node.views_built :
    (∀ (condition consequence : Node) (alternative? : Option Node),
      (∀ operand ∈ condition :: consequence :: alternative?.toList,
        operand.kind.isSyntaxToken = false) →
      IfStatement.ofNode? (ifStatement condition consequence alternative?) =
        some ⟨some condition, some consequence, alternative?⟩) ∧
    (∀ chain : WrittenChain,
      (Chain.startingAt chain.node).conditions = chain.arms.map (·.1) ∧
        (Chain.startingAt chain.node).branches =
          chain.arms.map (·.2) ++ chain.final?.toList ∧
        (Chain.startingAt chain.node).endsWithElse = chain.final?.isSome) ∧
    (∀ (subject : Node) (clauses : List Node), subject.kind.isSyntaxToken = false →
      subject.kind ≠ .construct .caseBlock →
      ∃ statement, SwitchStatement.ofNode? (switchStatement subject clauses) = some statement ∧
        statement.subject? = some subject ∧
        statement.clauses.map (·.node) = (opened clauses).filter isClause ∧
        ∀ clause ∈ statement.clauses, Clause.ofNode? clause.node = some clause) ∧
    (∀ (label : Node) (statements : List Node), label.kind.isSyntaxToken = false →
      ∃ items, IsFreed items statements ∧
        Clause.ofNode? (caseClause label statements) =
          some ⟨caseClause label statements, false, some label, items⟩) ∧
    (∀ statements : List Node, ∃ items, IsFreed items statements ∧
      Clause.ofNode? (defaultClause statements) =
        some ⟨defaultClause statements, true, none, items⟩) ∧
    (∀ condition whenTrue whenFalse : Node,
      (∀ operand ∈ [condition, whenTrue, whenFalse], operand.kind.isSyntaxToken = false) →
      ConditionalExpression.ofNode? (conditional condition whenTrue whenFalse) =
        some ⟨some condition, some whenTrue, some whenFalse⟩) ∧
    (∀ (left right : Node) (sign : Kind),
      BinaryExpression.ofNode? (binary left sign right) = some ⟨left, keyword sign, right⟩) ∧
    ∀ (operand : Node) (sign : Kind),
      PostfixExpression.ofNode? (postfixUnary operand sign) = some ⟨operand, keyword sign⟩ := by
  refine ⟨?ifs, ?chains, ?switches, ?cases, ?defaults, ?conditionals, fun _ _ _ => rfl,
    fun _ _ => rfl⟩
  case ifs =>
    intro condition consequence alternative? plain
    have parts := parts_ifStatement (plain condition (by simp)) (plain consequence (by simp))
      alternative?
    rw [← parts]
    rfl
  case chains =>
    intro chain
    obtain ⟨conditions, branches, final⟩ := Chain.startingAt_written chain
    exact ⟨conditions, branches, congrArg Option.isSome final⟩
  case switches =>
    intro subject clauses plain noBlock
    refine ⟨_, SwitchStatement.ofNode?_switchStatement plain noBlock clauses, rfl,
      Clause.map_node_filterMap (opened clauses), ?_⟩
    intro clause known
    obtain ⟨node, -, read⟩ := List.mem_filterMap.mp known
    rwa [Clause.node_of_ofNode? read]
  case cases =>
    intro label statements plain
    exact ⟨_, isFreed_ungroup statements, Clause.ofNode?_caseClause plain statements⟩
  case defaults =>
    intro statements
    exact ⟨_, isFreed_ungroup statements, Clause.ofNode?_defaultClause statements⟩
  case conditionals =>
    intro condition whenTrue whenFalse plain
    exact ConditionalExpression.ofNode?_conditional (plain condition (by simp))
      (plain whenTrue (by simp)) (plain whenFalse (by simp))

section Tokens

open Node

/-- `case 1:` with a colon, an `else` and a `case` among what follows. -/
def clauseOfTokens : Node :=
  caseClause (number "1") [mark .colon, word .elseKeyword, word .caseKeyword]

/-- Each form is read back, a clause in a list with tokens among its statements as well. -/
theorem Node.views_built_clauseOfTokens :
    IfStatement.ofNode? (ifStatement (identifier "a") (block []) none) =
        some ⟨some (identifier "a"), some (block []), none⟩ ∧
      (∃ statement, SwitchStatement.ofNode? (switchStatement (identifier "x")
          [listNode [clauseOfTokens, identifier "y"], mark .colon, defaultClause []]) =
            some statement ∧
        statement.subject? = some (identifier "x") ∧
        statement.clauses.map (·.node) = [clauseOfTokens, defaultClause []]) ∧
      Clause.ofNode? clauseOfTokens = some ⟨clauseOfTokens, false, some (number "1"),
        [mark .colon, word .elseKeyword, word .caseKeyword]⟩ ∧
      ConditionalExpression.ofNode?
          (conditional (identifier "a") (identifier "b") (identifier "c")) =
        some ⟨some (identifier "a"), some (identifier "b"), some (identifier "c")⟩ := by
  obtain ⟨ifs, -, switches, cases, -, conditionals, -, -⟩ := views_built
  refine ⟨ifs (identifier "a") (block []) none (by decide), ?_, ?_,
    conditionals (identifier "a") (identifier "b") (identifier "c") (by decide)⟩
  · obtain ⟨statement, read, subject, nodes, -⟩ := switches (identifier "x")
      [listNode [clauseOfTokens, identifier "y"], mark .colon, defaultClause []] rfl (by decide)
    exact ⟨statement, read, subject, nodes⟩
  · obtain ⟨items, freed, read⟩ := cases (number "1")
      [mark .colon, word .elseKeyword, word .caseKeyword] rfl
    rw [freed.same (by simp)] at read
    exact read

end Tokens

end DuplicateLogic
