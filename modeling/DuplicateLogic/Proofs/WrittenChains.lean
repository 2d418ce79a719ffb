import DuplicateLogic.Proofs.Chains

/-! # Chains as they are written

An `if` chain is written as arms, each a condition with its body, and perhaps the body of a plain
`else`. The nested statements that are built for it are read back as the same chain: the
conditions, the bodies and the `else` body stand where the views look for them. -/

namespace DuplicateLogic

namespace Node

@[simp] theorem isSyntaxToken_word (form : Keyword) : (word form).kind.isSyntaxToken = true := rfl

@[simp] theorem isSyntaxToken_mark (form : Punctuation) :
    (mark form).kind.isSyntaxToken = true := rfl

section IfStatement

variable {condition consequence : Node} (conditionOk : condition.kind.isSyntaxToken = false)
  (consequenceOk : consequence.kind.isSyntaxToken = false)
include conditionOk consequenceOk

theorem alternative?_ifStatement (alternative? : Option Node) :
    (ifStatement condition consequence alternative?).alternative? = alternative? := by
  cases alternative? <;>
    simp [Node.alternative?, ifStatement, compose, word, mark, keyword, token,
      ne_elseKeyword conditionOk, ne_elseKeyword consequenceOk]

/-- The parts of a built `if` statement are those that it was built from. -/
theorem parts_ifStatement (alternative? : Option Node) :
    IfStatement.parts (ifStatement condition consequence alternative?) =
      ⟨some condition, some consequence, alternative?⟩ := by
  rw [IfStatement.parts, alternative?_ifStatement conditionOk consequenceOk]
  cases alternative? <;> simp [operands, ifStatement, compose, conditionOk, consequenceOk]

end IfStatement

/-- The nested `if` statements for some arms, at least one, and the body of a plain `else`. -/
def ifChain (arm : Node × Node) : List (Node × Node) → Option Node → Node
  | [], final? => ifStatement arm.1 arm.2 final?
  | next :: rest, final? => ifStatement arm.1 arm.2 (some (ifChain next rest final?))

theorem kind_ifChain (arm : Node × Node) (rest : List (Node × Node)) (final? : Option Node) :
    (ifChain arm rest final?).kind = .construct .ifStatement := by
  cases rest <;> rfl

end Node

/-- An `if` chain as it is written. No part of it is a token of the syntax, and the body of the
plain `else` is no `if`, which would go on with the chain. -/
structure WrittenChain where
  first : Node × Node
  later : List (Node × Node)
  final? : Option Node
  arms_plain : ∀ arm ∈ first :: later,
    arm.1.kind.isSyntaxToken = false ∧ arm.2.kind.isSyntaxToken = false
  final_plain : ∀ final ∈ final?,
    final.kind.isSyntaxToken = false ∧ final.kind ≠ .construct .ifStatement

namespace WrittenChain

/-- The conditions with their bodies. -/
def arms (chain : WrittenChain) : List (Node × Node) :=
  chain.first :: chain.later

/-- All bodies, that of a plain `else` last. -/
def bodies (chain : WrittenChain) : List Node :=
  chain.arms.map (·.2) ++ chain.final?.toList

/-- The statement built for the chain. -/
def node (chain : WrittenChain) : Node :=
  Node.ifChain chain.first chain.later chain.final?

end WrittenChain

namespace Chain

/-- The bodies of the members of a chain, without that of a plain `else`. -/
def consequences (chain : Chain) : List Node :=
  chain.members.filterMap fun member => (IfStatement.parts member).consequence?

section Parts

variable {condition consequence : Node} (conditionOk : condition.kind.isSyntaxToken = false)
  (consequenceOk : consequence.kind.isSyntaxToken = false)
include conditionOk consequenceOk

/-- A built `if` statement puts its condition and its body before those of the rest of its
chain. -/
theorem startingAt_ifStatement_some {alternative : Node}
    (isIf : alternative.kind = .construct .ifStatement) :
    let chain := startingAt (Node.ifStatement condition consequence (some alternative))
    chain.conditions = condition :: (startingAt alternative).conditions ∧
      chain.consequences = consequence :: (startingAt alternative).consequences ∧
        chain.final? = (startingAt alternative).final? := by
  have parts := Node.parts_ifStatement conditionOk consequenceOk (some alternative)
  have found := Node.alternative?_ifStatement conditionOk consequenceOk (some alternative)
  rw [startingAt_of_if found isIf]
  simp [conditions, consequences, parts]

/-- Without another `if` after it, a built `if` statement is a chain on its own. -/
theorem startingAt_ifStatement {final? : Option Node}
    (notIf : ∀ final ∈ final?, final.kind ≠ .construct .ifStatement) :
    let chain := startingAt (Node.ifStatement condition consequence final?)
    chain.conditions = [condition] ∧ chain.consequences = [consequence] ∧
      chain.final? = final? := by
  have parts := Node.parts_ifStatement conditionOk consequenceOk final?
  have found := Node.alternative?_ifStatement conditionOk consequenceOk final?
  cases final? with
  | none =>
      rw [startingAt_of_none found]
      simp [conditions, consequences, parts]
  | some final =>
      rw [startingAt_of_else found (notIf final rfl)]
      simp [conditions, consequences, parts]

end Parts

private theorem startingAt_ifChain {arm : Node × Node} {rest : List (Node × Node)}
    {final? : Option Node}
    (plain : ∀ part ∈ arm :: rest,
      part.1.kind.isSyntaxToken = false ∧ part.2.kind.isSyntaxToken = false)
    (notIf : ∀ final ∈ final?, final.kind ≠ .construct .ifStatement) :
    let chain := startingAt (Node.ifChain arm rest final?)
    chain.conditions = (arm :: rest).map (·.1) ∧ chain.consequences = (arm :: rest).map (·.2) ∧
      chain.final? = final? := by
  obtain ⟨conditionOk, consequenceOk⟩ := plain arm List.mem_cons_self
  induction rest generalizing arm with
  | nil => exact startingAt_ifStatement conditionOk consequenceOk notIf
  | cons next rest ih =>
      have laterPlain := fun other known => plain other (List.mem_cons_of_mem arm known)
      obtain ⟨nextCondition, nextConsequence⟩ := laterPlain next List.mem_cons_self
      obtain ⟨conditions, consequences, last⟩ := ih laterPlain nextCondition nextConsequence
      have step := startingAt_ifStatement_some conditionOk consequenceOk
        (Node.kind_ifChain next rest final?)
      rw [conditions, consequences, last] at step
      exact step

/-- The chain that starts at the statement built for a written chain is that chain. -/
theorem startingAt_written (chain : WrittenChain) :
    (startingAt chain.node).conditions = chain.arms.map (·.1) ∧
      (startingAt chain.node).branches = chain.bodies ∧
        (startingAt chain.node).final? = chain.final? := by
  have parts : (startingAt chain.node).conditions = chain.arms.map (·.1) ∧
      (startingAt chain.node).consequences = chain.arms.map (·.2) ∧
        (startingAt chain.node).final? = chain.final? :=
    startingAt_ifChain chain.arms_plain fun final known => (chain.final_plain final known).2
  obtain ⟨conditions, consequences, last⟩ := parts
  refine ⟨conditions, ?_, last⟩
  calc
    (startingAt chain.node).branches =
        (startingAt chain.node).consequences ++ (startingAt chain.node).final?.toList := rfl
    _ = chain.arms.map (·.2) ++ chain.final?.toList := by rw [consequences, last]

end Chain

end DuplicateLogic
