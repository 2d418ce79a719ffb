import DuplicateLogic.Equivalence
import DuplicateLogic.Proofs.Occurrence

/-! # What equivalence sees

Equivalence compares normal forms. The normal form of a node keeps the kinds of all nodes and the
texts of names and literals; positions, texts of composite nodes and spellings of all other
leaves are gone from it. As equality of normal forms, equivalence is reflexive, symmetric and
transitive, which is why a rule may compare neighbours only, or stop at the first match. -/

namespace DuplicateLogic

/-- A tree without its layout: the kinds, and the texts that carry meaning. -/
inductive NormalForm where
  | node (kind : Kind) (text? : Option String) (children : List NormalForm)

namespace Node

/-- The text of a leaf that is a name or a literal. No other text carries meaning. -/
def meaning? (node : Node) : Option String :=
  if node.isToken && node.kind.isTextSignificant then some node.text else none

mutual

/-- The normal form of a node. -/
def norm : Node → NormalForm
  | ⟨kind, text, start, children⟩ =>
      .node kind (meaning? ⟨kind, text, start, children⟩) (normAll children)

/-- The normal forms of several nodes. -/
def normAll : List Node → List NormalForm
  | [] => []
  | first :: rest => first.norm :: normAll rest

end

theorem normAll_eq_map (nodes : List Node) : normAll nodes = nodes.map norm := by
  induction nodes with
  | nil => rfl
  | cons first rest ih => rw [normAll, ih, List.map_cons]

theorem norm_eq (node : Node) :
    node.norm = .node node.kind node.meaning? (node.children.map norm) := by
  cases node
  rw [norm, normAll_eq_map]

/-- Equivalent nodes have one kind, the same meaning and equivalent children. -/
theorem equivalent_iff (first second : Node) :
    first.equivalent second = true ↔
      first.kind = second.kind ∧ first.meaning? = second.meaning? ∧
        allEquivalent first.children second.children = true := by
  obtain ⟨kind, text, start, children⟩ := first
  obtain ⟨kind', text', start', children'⟩ := second
  cases children with
  | cons => cases children' <;> simp [equivalent, allEquivalent, meaning?, isToken]
  | nil =>
      cases children' with
      | cons => simp [equivalent, allEquivalent]
      | nil =>
          simp only [equivalent, allEquivalent, meaning?, isToken, List.isEmpty_nil,
            Bool.true_and, Bool.and_eq_true, beq_iff_eq, and_true]
          refine and_congr_right fun same => ?_
          subst same
          cases kind.isTextSignificant <;> simp

private theorem allEquivalent_iff_norm_of {first : List Node}
    (exact : ∀ node ∈ first, ∀ other, node.equivalent other = true ↔ node.norm = other.norm)
    (second : List Node) :
    allEquivalent first second = true ↔ first.map norm = second.map norm := by
  induction first generalizing second with
  | nil => cases second <;> simp [allEquivalent]
  | cons node rest ih =>
      have step := ih fun node known => exact node (List.mem_cons_of_mem _ known)
      cases second with
      | nil => simp [allEquivalent]
      | cons other others => simp [allEquivalent, exact node, step]

/-- Two nodes are equivalent exactly when they have the same normal form. -/
theorem equivalent_iff_norm_eq (first second : Node) :
    first.equivalent second = true ↔ first.norm = second.norm := by
  induction first using Node.induction generalizing second with
  | step first ih =>
      rw [equivalent_iff, allEquivalent_iff_norm_of ih, norm_eq first, norm_eq second,
        NormalForm.node.injEq]

/-- Two lists are equivalent exactly when they have the same normal forms in the same order. -/
theorem allEquivalent_iff_norm_eq (first second : List Node) :
    allEquivalent first second = true ↔ first.map norm = second.map norm :=
  allEquivalent_iff_norm_of (fun node _ => equivalent_iff_norm_eq node) second

end Node

namespace Operand

/-- The normal form of an operand: that of its node, or those of its nodes. -/
def norm : Operand → NormalForm ⊕ List NormalForm
  | single node => .inl node.norm
  | sequence nodes => .inr (nodes.map Node.norm)

theorem equivalent_iff_norm_eq (first second : Operand) :
    first.equivalent second = true ↔ first.norm = second.norm := by
  cases first <;> cases second <;>
    simp [equivalent, norm, Node.equivalent_iff_norm_eq, Node.allEquivalent_iff_norm_eq]

end Operand

/-- To be related is an equivalence when it means to have the same image. -/
private theorem equivalence_of_kernel {α β : Type} {related : α → α → Prop} {image : α → β}
    (kernel : ∀ first second, related first second ↔ image first = image second) :
    Equivalence related where
  refl first := (kernel first first).mpr rfl
  symm := by
    intro first second same
    rw [kernel] at same ⊢
    exact same.symm
  trans := by
    intro first second third same same'
    rw [kernel] at same same' ⊢
    exact same.trans same'

theorem Node.equivalence_equivalent :
    Equivalence fun first second : Node => first.equivalent second = true :=
  equivalence_of_kernel Node.equivalent_iff_norm_eq

theorem Operand.equivalence_equivalent :
    Equivalence fun first second : Operand => first.equivalent second = true :=
  equivalence_of_kernel Operand.equivalent_iff_norm_eq

/-- Equivalence is equality of normal forms, member by member for sequences, and a node is never
equivalent to a sequence. So it is an equivalence relation on nodes and on operands. -/
theorem equivalent_kernel :
    (∀ first second : Node, first.equivalent second = true ↔ first.norm = second.norm) ∧
      (∀ first second : Node,
        (Operand.single first).equivalent (.single second) = true ↔
          first.norm = second.norm) ∧
      (∀ first second : List Node,
        (Operand.sequence first).equivalent (.sequence second) = true ↔
          first.map Node.norm = second.map Node.norm) ∧
      (∀ (node : Node) (nodes : List Node),
        (Operand.single node).equivalent (.sequence nodes) = false ∧
          (Operand.sequence nodes).equivalent (.single node) = false) ∧
      Equivalence (fun first second : Node => first.equivalent second = true) ∧
      Equivalence (fun first second : Operand => first.equivalent second = true) := by
  refine ⟨Node.equivalent_iff_norm_eq, Node.equivalent_iff_norm_eq,
    Node.allEquivalent_iff_norm_eq, ?_, Node.equivalence_equivalent,
    Operand.equivalence_equivalent⟩
  intro node nodes
  exact ⟨rfl, rfl⟩

/-- Spellings of keywords and positions do not count, names do. -/
example :
    let call (name mark : String) (line : Nat) : Node :=
      ⟨.construct .expressionStatement, name, ⟨line, 0⟩,
        [⟨.lexeme .identifier, name, ⟨line, 0⟩, []⟩,
          ⟨.punctuation .semicolon, mark, ⟨line, 1⟩, []⟩]⟩
    (call "f" ";" 1).equivalent (call "f" "" 2) = true ∧
      (call "f" ";" 1).equivalent (call "g" ";" 1) = false := by
  decide

end DuplicateLogic
