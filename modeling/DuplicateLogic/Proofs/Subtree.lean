import DuplicateLogic.Proofs.Occurrence
import Mathlib.Data.List.Flatten
import Mathlib.Data.List.Infix

/-! # Subtrees in the listing of a tree

The occurrences in a subtree stand together in the listing of the tree, in the order in which the
subtree lists them on its own. Only their addresses are longer, and only the topmost of them has
another node above it. Without the addresses the listing is the list of nodes, each before those
below it. -/

namespace DuplicateLogic

/-- The same occurrence in a tree that has the present one at an address. -/
def Occurrence.under (front : Address) (occurrence : Occurrence) : Occurrence :=
  { occurrence with address := front ++ occurrence.address }

namespace Node

section Blocks

private theorem occurrencesBelow_under {children : List Node}
    (each : ∀ child ∈ children, ∀ (front back : Address) (parent? : Option Node),
      child.occurrencesFrom (front ++ back) parent? =
        (child.occurrencesFrom back parent?).map (·.under front))
    (front back : Address) (parent : Node) (index : Nat) :
    occurrencesBelow (front ++ back) parent index children =
      (occurrencesBelow back parent index children).map (·.under front) := by
  induction children generalizing index with
  | nil => rfl
  | cons child rest ih =>
      have later := ih (fun other known => each other (List.mem_cons_of_mem _ known)) (index + 1)
      rw [occurrencesBelow, occurrencesBelow, List.map_append, ← later, List.append_assoc,
        each child List.mem_cons_self]

/-- A node lists the same occurrences wherever it stands, further down at longer addresses. -/
theorem occurrencesFrom_under (node : Node) (front back : Address) (parent? : Option Node) :
    node.occurrencesFrom (front ++ back) parent? =
      (node.occurrencesFrom back parent?).map (·.under front) := by
  induction node using Node.induction generalizing front back parent? with
  | step node ih =>
      rw [occurrencesFrom_eq, occurrencesFrom_eq, List.map_cons, occurrencesBelow_under ih]
      rfl

theorem occurrencesFrom_isInfix_below {address : Address} {parent : Node} {index offset : Nat}
    {children : List Node} {child : Node} (present : children[offset]? = some child) :
    child.occurrencesFrom (address ++ [index + offset]) (some parent) <:+:
      occurrencesBelow address parent index children := by
  induction children generalizing index offset with
  | nil => cases present
  | cons first rest ih =>
      rw [occurrencesBelow]
      cases offset with
      | zero =>
          obtain rfl := Option.some.inj present
          exact (List.prefix_append _ _).isInfix
      | succ offset =>
          have later := @ih (index + 1) offset present
          rw [show index + 1 + offset = index + (offset + 1) by omega] at later
          exact later.trans (List.suffix_append _ _).isInfix

/-- The occurrences in what stands at an address follow each other in the listing of the tree. -/
theorem occurrencesFrom_isInfix {root node : Node} {place : Address}
    (found : root.at? place = some node) (address : Address) (parent? : Option Node) :
    node.occurrencesFrom (address ++ place)
        (if place = [] then parent? else root.parentAt? place) <:+:
      root.occurrencesFrom address parent? := by
  induction place generalizing root address parent? with
  | nil =>
      obtain rfl := Option.some.inj found
      rw [List.append_nil, if_pos rfl]
  | cons index rest ih =>
      obtain ⟨child, present, found⟩ := Option.bind_eq_some_iff.mp found
      have inner := ih found (address ++ [0 + index]) (some root)
      have whole := inner.trans (occurrencesFrom_isInfix_below present)
      rw [List.append_assoc, Nat.zero_add, List.singleton_append] at whole
      rw [if_neg (List.cons_ne_nil index rest), parentAt?_cons rest present,
        occurrencesFrom_eq address parent? root]
      exact whole.trans (List.suffix_cons _ _).isInfix

theorem parentAt?_append {root node : Node} {front back : Address}
    (found : root.at? front = some node) :
    root.parentAt? (front ++ back) =
      if back = [] then root.parentAt? front else node.parentAt? back := by
  by_cases here : back = []
  · rw [if_pos here, here, List.append_nil]
  · rw [if_neg here, parentAt?, parentAt?, if_neg here, if_neg (by simp [here]),
      List.dropLast_append_of_ne_nil here, at?_append, found, Option.bind_some]

variable {root : Node} {occurrence : Occurrence} (known : occurrence ∈ root.occurrences)
include known

/-- The occurrences in an occurrence follow each other in the listing of the tree. -/
theorem occurrences_isInfix :
    occurrence.node.occurrencesFrom occurrence.address occurrence.parent? <:+:
      root.occurrences := by
  obtain ⟨found, above⟩ := mem_occurrences_iff.mp known
  have block := occurrencesFrom_isInfix found [] none
  have top : (if occurrence.address = [] then none else root.parentAt? occurrence.address) =
      occurrence.parent? := by
    rw [above]
    split
    next here => rw [here, parentAt?_nil]
    · rfl
  rwa [top] at block

/-- They are the occurrences to which an address leads that goes on from its own. -/
theorem mem_occurrencesFrom_iff_prefix {other : Occurrence} (otherIn : other ∈ root.occurrences) :
    other ∈ occurrence.node.occurrencesFrom occurrence.address occurrence.parent? ↔
      occurrence.address <+: other.address := by
  obtain ⟨found, above⟩ := mem_occurrences_iff.mp known
  obtain ⟨otherFound, otherAbove⟩ := mem_occurrences_iff.mp otherIn
  rw [mem_occurrencesFrom_iff]
  constructor
  · rintro ⟨rest, placed, -, -⟩
    exact ⟨rest, placed.symm⟩
  · rintro ⟨rest, placed⟩
    rw [← placed, at?_append, found] at otherFound
    rw [← placed, parentAt?_append found, ← above] at otherAbove
    exact ⟨rest, placed.symm, otherFound, otherAbove⟩

end Blocks

section Preorder

/-- All nodes of a tree, each before those below it. -/
def preorder (root : Node) : List Node :=
  root.occurrences.map (·.node)

/-- All nodes below the root, each before those below it. -/
def descendants (root : Node) : List Node :=
  root.children.flatMap preorder

theorem map_node_occurrencesFrom (node : Node) (address : Address) (parent? : Option Node) :
    (node.occurrencesFrom address parent?).map (·.node) = node.preorder := by
  have moved := node.occurrencesFrom_under address [] parent?
  rw [List.append_nil] at moved
  rw [moved, List.map_map, preorder, occurrences, occurrencesFrom_eq, occurrencesFrom_eq]
  rfl

theorem map_node_occurrencesBelow (address : Address) (parent : Node) (index : Nat)
    (children : List Node) :
    (occurrencesBelow address parent index children).map (·.node) =
      children.flatMap preorder := by
  induction children generalizing index with
  | nil => rfl
  | cons child rest ih =>
      rw [occurrencesBelow, List.map_append, map_node_occurrencesFrom, ih, List.flatMap_cons]

theorem preorder_eq (root : Node) : root.preorder = root :: root.descendants := by
  rw [preorder, occurrences, occurrencesFrom_eq, List.map_cons, map_node_occurrencesBelow,
    descendants]

theorem mem_preorder_iff {inner root : Node} : inner ∈ root.preorder ↔ inner.Occurs root := by
  rw [occurs_iff, preorder, List.mem_map]

theorem preorder_sublist_descendants {child node : Node} (below : child ∈ node.children) :
    child.preorder.Sublist node.descendants := by
  rw [descendants, ← List.flatMap_singleton preorder child]
  exact (List.singleton_sublist.mpr below).flatMap preorder

theorem children_sublist_descendants (node : Node) :
    node.children.Sublist node.descendants := by
  have each : ∀ child ∈ node.children, [child].Sublist child.preorder := by
    intro child _
    rw [preorder_eq]
    exact List.singleton_sublist.mpr List.mem_cons_self
  have listed := List.Sublist.flatMap_right node.children each
  rwa [List.flatMap_singleton'] at listed

/-- The nodes in an occurrence follow each other in the tree. -/
theorem preorder_isInfix {root : Node} {occurrence : Occurrence}
    (known : occurrence ∈ root.occurrences) : occurrence.node.preorder <:+: root.preorder := by
  rw [← map_node_occurrencesFrom _ occurrence.address occurrence.parent?, preorder]
  exact (occurrences_isInfix known).map _

/-- Two nodes one after the other are two occurrences, the first at the lesser address. -/
theorem exists_occurrences_of_pair {root first second : Node}
    (ordered : [first, second].Sublist root.preorder) :
    ∃ earlier ∈ root.occurrences, ∃ later ∈ root.occurrences,
      earlier.node = first ∧ later.node = second ∧ earlier.address < later.address := by
  obtain ⟨chosen, listed, same⟩ := List.sublist_map_iff.mp ordered
  match chosen, same with
  | [earlier, later], same =>
      simp only [List.map_cons, List.map_nil, List.cons.injEq, and_true] at same
      have sorted := root.occurrences_sorted.sublist (listed.map (·.address))
      rw [List.map_cons, List.map_cons, List.map_nil, List.pairwise_pair] at sorted
      exact ⟨earlier, listed.subset (by simp), later, listed.subset (by simp), same.1.symm,
        same.2.symm, sorted⟩

end Preorder

end Node

end DuplicateLogic
