import DuplicateLogic.Proofs.Occurrence
import DuplicateLogic.Rules.Chain
import Mathlib.Data.List.Forall2

/-! # Trees that correspond node by node

A correspondence relates nodes of the same kind whose children are related one by one. Views read
nothing of a node but its kind and its children, so the views of related nodes have related parts,
whatever the texts and places of the nodes are. -/

namespace DuplicateLogic

section Lists

variable {α β : Type} {R : α → β → Prop} {first : List α} {second : List β}

theorem forall₂_isEmpty (related : List.Forall₂ R first second) :
    first.isEmpty = second.isEmpty := by
  cases related <;> rfl

theorem forall₂_getElem? (related : List.Forall₂ R first second) (index : Nat) :
    Option.Rel R first[index]? second[index]? := by
  induction related generalizing index with
  | nil => exact .none
  | cons head _ ih =>
      cases index with
      | zero => exact .some head
      | succ index => exact ih index

theorem forall₂_head? (related : List.Forall₂ R first second) :
    Option.Rel R first.head? second.head? := by
  rw [List.head?_eq_getElem?, List.head?_eq_getElem?]
  exact forall₂_getElem? related 0

theorem forall₂_getLast? (related : List.Forall₂ R first second) :
    Option.Rel R first.getLast? second.getLast? := by
  rw [List.getLast?_eq_getElem?, List.getLast?_eq_getElem?, related.length_eq]
  exact forall₂_getElem? related _

theorem forall₂_dropLast (related : List.Forall₂ R first second) :
    List.Forall₂ R first.dropLast second.dropLast := by
  rw [List.dropLast_eq_take, List.dropLast_eq_take, related.length_eq]
  exact List.forall₂_take _ related

theorem forall₂_flatMap_same {γ : Type _} {items : List γ} {f : γ → List α} {g : γ → List β}
    (images : ∀ item ∈ items, List.Forall₂ R (f item) (g item)) :
    List.Forall₂ R (items.flatMap f) (items.flatMap g) := by
  induction items with
  | nil => exact .nil
  | cons item rest ih =>
      rw [List.flatMap_cons, List.flatMap_cons]
      exact List.rel_append (images item (by simp))
        (ih fun item known => images item (List.mem_cons_of_mem _ known))

section Test

variable {p : α → Bool} {q : β → Bool} (agree : ∀ a b, R a b → p a = q b)
include agree

theorem forall₂_filter (related : List.Forall₂ R first second) :
    List.Forall₂ R (first.filter p) (second.filter q) :=
  List.rel_filter (fun a b same => by simp only [agree a b same]) related

theorem forall₂_find? (related : List.Forall₂ R first second) :
    Option.Rel R (first.find? p) (second.find? q) := by
  rw [← List.head?_filter, ← List.head?_filter]
  exact forall₂_head? (forall₂_filter agree related)

theorem forall₂_any (related : List.Forall₂ R first second) : first.any p = second.any q := by
  induction related with
  | nil => rfl
  | cons head _ ih => rw [List.any_cons, List.any_cons, agree _ _ head, ih]

theorem forall₂_takeWhile (related : List.Forall₂ R first second) :
    List.Forall₂ R (first.takeWhile p) (second.takeWhile q) := by
  induction related with
  | nil => exact .nil
  | @cons a b _ _ head _ ih =>
      rw [List.takeWhile_cons, List.takeWhile_cons, agree a b head]
      by_cases holds : q b = true
      · rw [if_pos holds, if_pos holds]
        exact .cons head ih
      · rw [if_neg holds, if_neg holds]
        exact .nil

theorem forall₂_dropWhile (related : List.Forall₂ R first second) :
    List.Forall₂ R (first.dropWhile p) (second.dropWhile q) := by
  induction related with
  | nil => exact .nil
  | @cons a b _ _ head tail ih =>
      rw [List.dropWhile_cons, List.dropWhile_cons, agree a b head]
      by_cases holds : q b = true
      · rw [if_pos holds, if_pos holds]
        exact ih
      · rw [if_neg holds, if_neg holds]
        exact .cons head tail

end Test

theorem rel_ite {holds : Prop} [Decidable holds] {a : α} {b : β} (related : R a b) :
    Option.Rel R (if holds then some a else none) (if holds then some b else none) := by
  split
  · exact .some related
  · exact .none

theorem rel_of_none {o : Option α} {o' : Option β} (related : Option.Rel R o o')
    (absent : o = none) : o' = none := by
  cases related with
  | none => rfl
  | some => cases absent

theorem rel_of_some {o : Option α} {o' : Option β} (related : Option.Rel R o o') {a : α}
    (present : o = some a) : ∃ b, o' = some b ∧ R a b := by
  cases related with
  | none => cases present
  | some same =>
      obtain rfl := Option.some.inj present
      exact ⟨_, rfl, same⟩

theorem rel_isSome {o : Option α} {o' : Option β} (related : Option.Rel R o o') :
    o.isSome = o'.isSome := by
  cases related <;> rfl

theorem rel_toList {o : Option α} {o' : Option β} (related : Option.Rel R o o') :
    List.Forall₂ R o.toList o'.toList := by
  cases related with
  | none => exact .nil
  | some same => exact .cons same .nil

theorem rel_getD_nil {o : Option (List α)} {o' : Option (List β)}
    (related : Option.Rel (List.Forall₂ R) o o') : List.Forall₂ R (o.getD []) (o'.getD []) := by
  cases related with
  | none => exact .nil
  | some same => exact same

theorem rel_any {p : α → Bool} {q : β → Bool} {o : Option α} {o' : Option β}
    (agree : ∀ a b, R a b → p a = q b) (related : Option.Rel R o o') : o.any p = o'.any q := by
  cases related with
  | none => rfl
  | some same => exact agree _ _ same

theorem rel_bind {γ δ : Type} {S : γ → δ → Prop} {o : Option α} {o' : Option β}
    {f : α → Option γ} {g : β → Option δ} (related : Option.Rel R o o')
    (images : ∀ a b, R a b → Option.Rel S (f a) (g b)) :
    Option.Rel S (o.bind f) (o'.bind g) := by
  cases related with
  | none => exact .none
  | some same => exact images _ _ same

end Lists

namespace Node

/-- A relation of nodes with one kind whose children are related one by one. -/
structure Correspondence (R : Node → Node → Prop) : Prop where
  kind : ∀ {a b : Node}, R a b → a.kind = b.kind
  children : ∀ {a b : Node}, R a b → List.Forall₂ R a.children b.children

/-- Whether a relation holds between the nodes at the same address throughout two trees. -/
def Throughout (R : Node → Node → Prop) (a b : Node) : Prop :=
  ∀ (address : Address) (x y : Node), a.at? address = some x → b.at? address = some y → R x y

/-- To hold throughout two trees is to hold of the roots and throughout the children, provided
that there are equally many children. -/
theorem throughout_iff {R : Node → Node → Prop} {a b : Node}
    (arity : a.children.length = b.children.length) :
    Throughout R a b ↔ R a b ∧ List.Forall₂ (Throughout R) a.children b.children := by
  constructor
  · intro throughout
    have root : R a b := throughout [] a b rfl rfl
    refine ⟨root, List.forall₂_iff_get.mpr ⟨arity, ?_⟩⟩
    intro index bound bound' address x y found found'
    apply throughout (index :: address) x y
    · simpa [at?_cons, List.getElem?_eq_getElem bound] using found
    · simpa [at?_cons, List.getElem?_eq_getElem bound'] using found'
  · rintro ⟨root, below⟩ address x y found found'
    cases address with
    | nil =>
        obtain rfl := Option.some.inj found
        obtain rfl := Option.some.inj found'
        exact root
    | cons index rest =>
        obtain ⟨child, present, found⟩ := Option.bind_eq_some_iff.mp found
        obtain ⟨child', present', found'⟩ := Option.bind_eq_some_iff.mp found'
        have related := forall₂_getElem? below index
        rw [present, present', Option.rel_some_some] at related
        exact related rest x y found found'

/-- A relation holds throughout two trees when it does of the roots and throughout the children. -/
theorem Throughout.intro {R : Node → Node → Prop} {a b : Node} (root : R a b)
    (below : List.Forall₂ (Throughout R) a.children b.children) : Throughout R a b :=
  (throughout_iff below.length_eq).mpr ⟨root, below⟩

namespace Correspondence

variable {R : Node → Node → Prop} (pairing : Correspondence R) {a b : Node}
include pairing

/-- A test of kinds does not tell related nodes apart. -/
theorem test (accepts : Kind → Bool) (a b : Node) (related : R a b) :
    accepts a.kind = accepts b.kind :=
  congrArg accepts (pairing.kind related)

theorem operands (related : R a b) : List.Forall₂ R a.operands b.operands :=
  forall₂_filter (pairing.test fun kind => !kind.isSyntaxToken) (pairing.children related)

theorem childOfKind? (related : R a b) (kind : Kind) :
    Option.Rel R (a.childOfKind? kind) (b.childOfKind? kind) :=
  forall₂_find? (pairing.test (· == kind)) (pairing.children related)

theorem alternative? (related : R a b) : Option.Rel R a.alternative? b.alternative? :=
  forall₂_head? (List.forall₂_drop 1
    (forall₂_dropWhile (pairing.test (· ≠ .keyword .elseKeyword)) (pairing.children related)))

theorem ungroup {items items' : List Node} (related : List.Forall₂ R items items') :
    List.Forall₂ R (Node.ungroup items) (Node.ungroup items') := by
  cases related with
  | nil => exact .nil
  | @cons item item' _ _ head tail =>
      cases tail with
      | nil =>
          simp only [Node.ungroup, pairing.kind head]
          split
          · exact pairing.children head
          · exact .cons head .nil
      | cons next rest => exact .cons head (.cons next rest)

theorem beforeColon? (related : R a b) :
    Option.Rel (List.Forall₂ R) a.beforeColon? b.beforeColon? := by
  have children := pairing.children related
  rw [Node.beforeColon?, Node.beforeColon?,
    forall₂_any (pairing.test (· = .punctuation .colon)) children]
  exact rel_ite (forall₂_takeWhile (pairing.test (· ≠ .punctuation .colon)) children)

theorem afterColon (related : R a b) : List.Forall₂ R a.afterColon b.afterColon :=
  List.forall₂_drop 1
    (forall₂_dropWhile (pairing.test (· ≠ .punctuation .colon)) (pairing.children related))

end Correspondence

end Node

/-- Clauses of one sort whose labels and statements are related. -/
structure Clause.Related (R : Node → Node → Prop) (clause clause' : Clause) : Prop where
  isDefault : clause.isDefault = clause'.isDefault
  label : Option.Rel R clause.label? clause'.label?
  statements : List.Forall₂ R clause.statements clause'.statements

namespace Node.Correspondence

variable {R : Node → Node → Prop} (pairing : Correspondence R) {a b : Node}
include pairing

theorem clause (related : R a b) :
    Option.Rel (Clause.Related R) (Clause.ofNode? a) (Clause.ofNode? b) := by
  have statements := pairing.ungroup (pairing.afterColon related)
  have label := rel_bind (pairing.beforeColon? related) fun front front' same =>
    forall₂_find? (pairing.test fun kind => !kind.isSyntaxToken) same
  simp only [Clause.ofNode?, pairing.kind related]
  split
  · exact .some ⟨rfl, .none, statements⟩
  · exact rel_ite ⟨rfl, label, statements⟩

theorem clausesOfBlock (related : R a b) :
    List.Forall₂ (Clause.Related R) (SwitchStatement.clausesOfBlock a)
      (SwitchStatement.clausesOfBlock b) := by
  have opened := List.rel_flatMap (pairing.children related)
    fun x y (same : R x y) => pairing.ungroup (.cons same .nil)
  exact List.rel_filterMap (fun x y same => pairing.clause same) opened

theorem clauses (related : R a b) :
    Option.Rel
      (fun statement statement' : SwitchStatement =>
        List.Forall₂ (Clause.Related R) statement.clauses statement'.clauses)
      (SwitchStatement.ofNode? a) (SwitchStatement.ofNode? b) := by
  have blocks := pairing.childOfKind? related (.construct .caseBlock)
  simp only [SwitchStatement.ofNode?, pairing.kind related]
  apply rel_ite
  simp only [SwitchStatement.clauses]
  generalize a.childOfKind? (.construct .caseBlock) = block at blocks ⊢
  generalize b.childOfKind? (.construct .caseBlock) = block' at blocks ⊢
  cases blocks with
  | none => exact .nil
  | some same => exact pairing.clausesOfBlock same

theorem conditional (related : R a b) :
    Option.Rel
      (fun expression expression' : ConditionalExpression =>
        Option.Rel R expression.whenTrue? expression'.whenTrue? ∧
          Option.Rel R expression.whenFalse? expression'.whenFalse?)
      (ConditionalExpression.ofNode? a) (ConditionalExpression.ofNode? b) := by
  have operands := pairing.operands related
  simp only [ConditionalExpression.ofNode?, pairing.kind related]
  exact rel_ite ⟨forall₂_getElem? operands 1, forall₂_getElem? operands 2⟩

theorem binary (related : R a b) :
    Option.Rel
      (fun expression expression' : BinaryExpression =>
        R expression.left expression'.left ∧ R expression.sign expression'.sign ∧
          R expression.right expression'.right)
      (BinaryExpression.ofNode? a) (BinaryExpression.ofNode? b) := by
  have children := pairing.children related
  rw [BinaryExpression.ofNode?, BinaryExpression.ofNode?, pairing.kind related]
  generalize a.children = items at children
  generalize b.children = items' at children
  rcases children with _ | ⟨left, _ | ⟨sign, _ | ⟨right, _ | _⟩⟩⟩
  case cons.cons.cons.nil => exact rel_ite ⟨left, sign, right⟩
  all_goals exact .none

theorem postfixUnary (related : R a b) :
    Option.Rel
      (fun expression expression' : PostfixExpression =>
        R expression.operand expression'.operand ∧ R expression.sign expression'.sign)
      (PostfixExpression.ofNode? a) (PostfixExpression.ofNode? b) := by
  have children := pairing.children related
  rw [PostfixExpression.ofNode?, PostfixExpression.ofNode?, pairing.kind related]
  generalize a.children = items at children
  generalize b.children = items' at children
  rcases children with _ | ⟨operand, _ | ⟨sign, _ | _⟩⟩
  case cons.cons.nil => exact rel_ite ⟨operand, sign⟩
  all_goals exact .none

/-- Chains from related statements have related members and a related body at their ends. -/
theorem chain (related : R a b) :
    List.Forall₂ R (Chain.startingAt a).members (Chain.startingAt b).members ∧
      Option.Rel R (Chain.startingAt a).final? (Chain.startingAt b).final? := by
  induction a using Chain.startingAt.induct generalizing b with
  | case1 a last =>
      have last' := rel_of_none (pairing.alternative? related) last
      rw [Chain.startingAt_of_none last, Chain.startingAt_of_none last']
      exact ⟨.cons related .nil, .none⟩
  | case2 a alternative found isIf ih =>
      obtain ⟨alternative', found', same⟩ := rel_of_some (pairing.alternative? related) found
      have isIf' := (pairing.kind same).symm.trans isIf
      rw [Chain.startingAt_of_if found isIf, Chain.startingAt_of_if found' isIf']
      exact ⟨.cons related (ih same).1, (ih same).2⟩
  | case3 a alternative found notIf =>
      obtain ⟨alternative', found', same⟩ := rel_of_some (pairing.alternative? related) found
      have notIf' := (pairing.kind same) ▸ notIf
      rw [Chain.startingAt_of_else found notIf, Chain.startingAt_of_else found' notIf']
      exact ⟨.cons related .nil, .some same⟩

theorem conditions (related : R a b) :
    List.Forall₂ R (Chain.startingAt a).conditions (Chain.startingAt b).conditions := by
  apply List.rel_filterMap _ (pairing.chain related).1
  intro x y same
  exact forall₂_getElem? (pairing.operands same) 0

theorem branches (related : R a b) :
    List.Forall₂ R (Chain.startingAt a).branches (Chain.startingAt b).branches := by
  obtain ⟨members, final⟩ := pairing.chain related
  refine List.rel_append (List.rel_filterMap ?_ members) (rel_toList final)
  intro x y same
  exact forall₂_getElem? (pairing.operands same) 1

theorem endsWithElse (related : R a b) :
    (Chain.startingAt a).endsWithElse = (Chain.startingAt b).endsWithElse :=
  rel_isSome (pairing.chain related).2

end Node.Correspondence

/-- Occurrences of related nodes, right below related nodes. -/
structure Occurrence.Related (R : Node → Node → Prop) (occurrence occurrence' : Occurrence) :
    Prop where
  parent : Option.Rel R occurrence.parent? occurrence'.parent?
  node : R occurrence.node occurrence'.node

namespace Node.Correspondence

variable {R : Node → Node → Prop}

private theorem occurrencesBelow {children children' : List Node}
    (each : ∀ child ∈ children, ∀ (child' : Node) (address : Address)
      (parent? parent?' : Option Node), R child child' → Option.Rel R parent? parent?' →
      List.Forall₂ (Occurrence.Related R) (child.occurrencesFrom address parent?)
        (child'.occurrencesFrom address parent?'))
    (related : List.Forall₂ R children children') (address : Address) {parent parent' : Node}
    (above : R parent parent') (index : Nat) :
    List.Forall₂ (Occurrence.Related R) (Node.occurrencesBelow address parent index children)
      (Node.occurrencesBelow address parent' index children') := by
  induction related generalizing index with
  | nil => exact .nil
  | cons head _ ih =>
      have others := ih (fun child known => each child (List.mem_cons_of_mem _ known)) (index + 1)
      exact List.rel_append (each _ (by simp) _ _ _ _ head (.some above)) others

variable (pairing : Correspondence R)
include pairing

/-- The occurrences in related nodes are related one by one. -/
theorem occurrencesFrom {a b : Node} (related : R a b) (address : Address)
    {parent? parent?' : Option Node} (parents : Option.Rel R parent? parent?') :
    List.Forall₂ (Occurrence.Related R) (a.occurrencesFrom address parent?)
      (b.occurrencesFrom address parent?') := by
  induction a using Node.induction generalizing b address parent? parent?' with
  | step a ih =>
      rw [occurrencesFrom_eq, occurrencesFrom_eq]
      refine .cons ⟨parents, related⟩ (occurrencesBelow ?_ (pairing.children related) _ related 0)
      intro child known child' address parent? parent?' related parents
      exact ih child known related address parents

theorem occurrences {a b : Node} (related : R a b) :
    List.Forall₂ (Occurrence.Related R) a.occurrences b.occurrences :=
  pairing.occurrencesFrom related [] .none

end Node.Correspondence

end DuplicateLogic
