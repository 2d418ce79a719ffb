import DuplicateLogic.Syntax.Node

/-! # Occurrences of nodes in a tree

An address leads from the root to a node, one child index after another. The same node can stand
at several addresses; each of them is an occurrence of its own. The occurrences are listed every
node before its children, which is the lexicographic order of the addresses. -/

namespace DuplicateLogic

/-- A way down a tree: the index of a child at each step. -/
abbrev Address := List Nat

namespace Node

theorem sizeOf_lt_of_mem_children {node child : Node} (inside : child ∈ node.children) :
    sizeOf child < sizeOf node := by
  have smaller := List.sizeOf_lt_of_mem inside
  cases node
  simp only [Node.mk.sizeOf_spec] at smaller ⊢
  omega

/-- What follows for a node from its children holds of all nodes. -/
@[elab_as_elim]
theorem induction {motive : Node → Prop}
    (step : ∀ node : Node, (∀ child ∈ node.children, motive child) → motive node)
    (node : Node) : motive node :=
  step node fun child _inside => induction step child
termination_by sizeOf node
decreasing_by exact sizeOf_lt_of_mem_children _inside

/-- The node at an address. -/
def at? : Node → Address → Option Node
  | node, [] => some node
  | node, index :: rest => node.children[index]?.bind fun child => child.at? rest

@[simp] theorem at?_nil (node : Node) : node.at? [] = some node := rfl

theorem at?_cons (node : Node) (index : Nat) (rest : Address) :
    node.at? (index :: rest) = node.children[index]?.bind fun child => child.at? rest := rfl

theorem at?_append (root : Node) (front back : Address) :
    root.at? (front ++ back) = (root.at? front).bind fun node => node.at? back := by
  induction front generalizing root with
  | nil => rfl
  | cons index rest ih =>
      rw [List.cons_append, at?_cons, at?_cons, Option.bind_assoc]
      congr 1
      funext child
      exact ih child

/-- The node right above an address; there is none above the root. -/
def parentAt? (root : Node) (address : Address) : Option Node :=
  if address = [] then none else root.at? address.dropLast

@[simp] theorem parentAt?_nil (root : Node) : root.parentAt? [] = none := rfl

/-- Above a child is the root; further down, the node above is the same seen from the child. -/
theorem parentAt?_cons {root child : Node} {index : Nat} (rest : Address)
    (present : root.children[index]? = some child) :
    root.parentAt? (index :: rest) =
      if rest = [] then some root else child.parentAt? rest := by
  cases rest with
  | nil => rfl
  | cons next rest => simp [parentAt?, at?_cons, present]

end Node

/-- A node at its place in a tree, with the node above it. -/
structure Occurrence where
  address : Address
  parent? : Option Node
  node : Node

namespace Node

mutual

/-- The occurrences in a node that itself stands at an address below a parent. -/
def occurrencesFrom (address : Address) (parent? : Option Node) : Node → List Occurrence
  | ⟨kind, text, start, children⟩ =>
      let node : Node := ⟨kind, text, start, children⟩
      ⟨address, parent?, node⟩ :: occurrencesBelow address node 0 children

/-- The occurrences in the children of a node from an index on. -/
def occurrencesBelow (address : Address) (parent : Node) (index : Nat) :
    List Node → List Occurrence
  | [] => []
  | child :: rest =>
      occurrencesFrom (address ++ [index]) (some parent) child ++
        occurrencesBelow address parent (index + 1) rest

end

/-- All occurrences in a tree, every node before its children. -/
def occurrences (root : Node) : List Occurrence :=
  root.occurrencesFrom [] none

theorem occurrencesFrom_eq (address : Address) (parent? : Option Node) (node : Node) :
    node.occurrencesFrom address parent? =
      ⟨address, parent?, node⟩ :: occurrencesBelow address node 0 node.children := by
  cases node
  rfl

/-- The children's occurrences are those of each child at its own index. -/
theorem mem_occurrencesBelow_iff {address : Address} {parent : Node} {index : Nat}
    {children : List Node} {occurrence : Occurrence} :
    occurrence ∈ occurrencesBelow address parent index children ↔
      ∃ (offset : Nat) (child : Node), children[offset]? = some child ∧
        occurrence ∈ child.occurrencesFrom (address ++ [index + offset]) (some parent) := by
  induction children generalizing index with
  | nil => simp [occurrencesBelow]
  | cons first rest ih =>
      simp only [occurrencesBelow, List.mem_append, ih]
      constructor
      · rintro (here | ⟨offset, child, present, inside⟩)
        · exact ⟨0, first, rfl, here⟩
        · refine ⟨offset + 1, child, present, ?_⟩
          rwa [show index + (offset + 1) = index + 1 + offset by omega]
      · rintro ⟨offset, child, present, inside⟩
        cases offset with
        | zero =>
            obtain rfl : first = child := by simpa using present
            exact Or.inl inside
        | succ offset =>
            refine Or.inr ⟨offset, child, present, ?_⟩
            rwa [show index + 1 + offset = index + (offset + 1) by omega]

/-- The occurrences in a node are exactly the nodes that addresses lead to from it. -/
theorem mem_occurrencesFrom_iff {node : Node} {address : Address} {parent? : Option Node}
    {occurrence : Occurrence} :
    occurrence ∈ node.occurrencesFrom address parent? ↔
      ∃ rest, occurrence.address = address ++ rest ∧ node.at? rest = some occurrence.node ∧
        occurrence.parent? = if rest = [] then parent? else node.parentAt? rest := by
  induction node using Node.induction generalizing address parent? with
  | step node ih =>
      rw [occurrencesFrom_eq, List.mem_cons, mem_occurrencesBelow_iff]
      constructor
      · rintro (rfl | ⟨index, child, present, inside⟩)
        · exact ⟨[], by simp⟩
        · have known := List.mem_of_getElem? present
          obtain ⟨rest, placed, found, above⟩ := (ih child known).mp inside
          refine ⟨index :: rest, by simp [placed], by simp [at?_cons, present, found], ?_⟩
          rw [if_neg (List.cons_ne_nil index rest), parentAt?_cons rest present, above]
      · rintro ⟨rest, placed, found, above⟩
        cases rest with
        | nil =>
            left
            cases occurrence
            simp_all
        | cons index rest =>
            obtain ⟨child, present, found⟩ := Option.bind_eq_some_iff.mp found
            have known := List.mem_of_getElem? present
            refine Or.inr ⟨index, child, present, (ih child known).mpr ⟨rest, ?_, found, ?_⟩⟩
            · simp [placed]
            · rw [above, if_neg (List.cons_ne_nil index rest), parentAt?_cons rest present]

/-- An occurrence is a node that an address leads to, together with the node right above. -/
theorem mem_occurrences_iff {root : Node} {occurrence : Occurrence} :
    occurrence ∈ root.occurrences ↔
      root.at? occurrence.address = some occurrence.node ∧
        occurrence.parent? = root.parentAt? occurrence.address := by
  have top (address : Address) :
      (if address = [] then none else root.parentAt? address) = root.parentAt? address := by
    cases address with
    | nil => rfl
    | cons index rest => rw [if_neg (List.cons_ne_nil index rest)]
  rw [occurrences, mem_occurrencesFrom_iff]
  constructor
  · rintro ⟨rest, placed, found, above⟩
    obtain rfl : occurrence.address = rest := placed
    exact ⟨found, above.trans (top _)⟩
  · rintro ⟨found, above⟩
    exact ⟨occurrence.address, rfl, found, above.trans (top _).symm⟩

private theorem address_of_mem_occurrencesFrom {node : Node} {address : Address}
    {parent? : Option Node} {occurrence : Occurrence}
    (inside : occurrence ∈ node.occurrencesFrom address parent?) :
    ∃ rest, occurrence.address = address ++ rest := by
  obtain ⟨rest, placed, -, -⟩ := mem_occurrencesFrom_iff.mp inside
  exact ⟨rest, placed⟩

private theorem occurrencesBelow_sorted {address : Address} {parent : Node} {index : Nat}
    {children : List Node}
    (sorted : ∀ child ∈ children, ∀ address parent?,
      ((child.occurrencesFrom address parent?).map (·.address)).Pairwise (· < ·)) :
    ((occurrencesBelow address parent index children).map (·.address)).Pairwise (· < ·) := by
  induction children generalizing index with
  | nil => exact List.Pairwise.nil
  | cons first rest ih =>
      rw [occurrencesBelow, List.map_append, List.pairwise_append]
      refine ⟨sorted first (by simp) _ _,
        ih fun child known => sorted child (List.mem_cons_of_mem _ known), ?_⟩
      intro earlier inFirst later inRest
      obtain ⟨one, before, rfl⟩ := List.mem_map.mp inFirst
      obtain ⟨other, after, rfl⟩ := List.mem_map.mp inRest
      obtain ⟨offset, child, -, inside⟩ := mem_occurrencesBelow_iff.mp after
      obtain ⟨front, placed⟩ := address_of_mem_occurrencesFrom before
      obtain ⟨back, placed'⟩ := address_of_mem_occurrencesFrom inside
      -- the two addresses part at the index of the child
      rw [placed, placed', List.append_assoc, List.append_assoc]
      apply List.append_left_lt
      rw [List.singleton_append, List.singleton_append, List.cons_lt_cons_iff]
      left
      omega

theorem occurrencesFrom_sorted (node : Node) (address : Address) (parent? : Option Node) :
    ((node.occurrencesFrom address parent?).map (·.address)).Pairwise (· < ·) := by
  induction node using Node.induction generalizing address parent? with
  | step node ih =>
      rw [occurrencesFrom_eq, List.map_cons, List.pairwise_cons]
      refine ⟨?_, occurrencesBelow_sorted ih⟩
      intro lower listed
      obtain ⟨occurrence, below, rfl⟩ := List.mem_map.mp listed
      obtain ⟨offset, child, -, inside⟩ := mem_occurrencesBelow_iff.mp below
      obtain ⟨rest, placed⟩ := address_of_mem_occurrencesFrom inside
      calc
        address = address ++ [] := by simp
        _ < address ++ ([0 + offset] ++ rest) := List.append_left_lt (List.nil_lt_cons _ _)
        _ = occurrence.address := by rw [placed, List.append_assoc]

/-- The occurrences are listed in the lexicographic order of their addresses: each once, every
node before all below it and before its later siblings. -/
theorem occurrences_sorted (root : Node) :
    (root.occurrences.map (·.address)).Pairwise (· < ·) :=
  occurrencesFrom_sorted root [] none

/-- An occurrence with a node above it is a child of that node. -/
theorem exists_of_parent?_eq_some {root : Node} {occurrence : Occurrence}
    (known : occurrence ∈ root.occurrences) {parent : Node}
    (above : occurrence.parent? = some parent) :
    ∃ (front : Address) (index : Nat), occurrence.address = front ++ [index] ∧
      root.at? front = some parent ∧ parent.children[index]? = some occurrence.node := by
  obtain ⟨found, placed⟩ := mem_occurrences_iff.mp known
  rw [above, parentAt?] at placed
  split at placed
  · cases placed
  next below =>
    refine ⟨occurrence.address.dropLast, occurrence.address.getLast below,
      (List.dropLast_concat_getLast below).symm, placed.symm, ?_⟩
    rw [← List.dropLast_concat_getLast below, at?_append, ← placed] at found
    simpa [at?_cons] using found

/-- Whether something holds of every node in a tree. -/
def Everywhere (holds : Node → Prop) (root : Node) : Prop :=
  ∀ occurrence ∈ root.occurrences, holds occurrence.node

theorem everywhere_iff_at? {holds : Node → Prop} {root : Node} :
    root.Everywhere holds ↔
      ∀ (address : Address) (node : Node), root.at? address = some node → holds node := by
  constructor
  · intro everywhere address node found
    exact everywhere ⟨address, root.parentAt? address, node⟩ (mem_occurrences_iff.mpr ⟨found, rfl⟩)
  · intro everywhere occurrence known
    exact everywhere _ _ (mem_occurrences_iff.mp known).1

/-- What holds everywhere holds of the root and everywhere in the children. -/
theorem everywhere_iff {holds : Node → Prop} {root : Node} :
    root.Everywhere holds ↔ holds root ∧ ∀ child ∈ root.children, child.Everywhere holds := by
  simp only [everywhere_iff_at?]
  constructor
  · intro everywhere
    refine ⟨everywhere [] root rfl, fun child known address node found => ?_⟩
    obtain ⟨index, present⟩ := List.getElem?_of_mem known
    exact everywhere (index :: address) node (by rw [at?_cons, present]; exact found)
  · rintro ⟨here, below⟩ address node found
    cases address with
    | nil =>
        obtain rfl : root = node := Option.some.inj found
        exact here
    | cons index rest =>
        obtain ⟨child, present, found⟩ := Option.bind_eq_some_iff.mp found
        exact below child (List.mem_of_getElem? present) rest node found

/-- Whether every way down from the root has at most so many nodes, the root included. -/
def FitsIn (levels : Nat) (root : Node) : Prop :=
  ∀ occurrence ∈ root.occurrences, occurrence.address.length < levels

theorem fitsIn_iff_at? {levels : Nat} {root : Node} :
    root.FitsIn levels ↔
      ∀ (address : Address) (node : Node), root.at? address = some node →
        address.length < levels := by
  constructor
  · intro fits address node found
    exact fits ⟨address, root.parentAt? address, node⟩ (mem_occurrences_iff.mpr ⟨found, rfl⟩)
  · intro fits occurrence known
    exact fits _ _ (mem_occurrences_iff.mp known).1

theorem not_fitsIn_zero (root : Node) : ¬root.FitsIn 0 := by
  rw [fitsIn_iff_at?]
  intro fits
  exact Nat.not_lt_zero _ (fits [] root rfl)

theorem fitsIn_succ_iff {levels : Nat} {root : Node} :
    root.FitsIn (levels + 1) ↔ ∀ child ∈ root.children, child.FitsIn levels := by
  simp only [fitsIn_iff_at?]
  constructor
  · intro fits child known address node found
    obtain ⟨index, present⟩ := List.getElem?_of_mem known
    have bound := fits (index :: address) node (by rw [at?_cons, present]; exact found)
    exact Nat.lt_of_succ_lt_succ bound
  · intro fits address node found
    cases address with
    | nil => exact Nat.succ_pos levels
    | cons index rest =>
        obtain ⟨child, present, found⟩ := Option.bind_eq_some_iff.mp found
        exact Nat.succ_lt_succ (fits child (List.mem_of_getElem? present) rest node found)

/-- Whether a node stands somewhere in a tree. -/
def Occurs (inner root : Node) : Prop :=
  ∃ address : Address, root.at? address = some inner

theorem Occurs.refl (node : Node) : node.Occurs node :=
  ⟨[], rfl⟩

theorem Occurs.of_mem_children {child node : Node} (known : child ∈ node.children) :
    child.Occurs node := by
  obtain ⟨index, present⟩ := List.getElem?_of_mem known
  exact ⟨[index], by rw [at?_cons, present]; rfl⟩

theorem Occurs.trans {inner node root : Node} (below : inner.Occurs node)
    (above : node.Occurs root) : inner.Occurs root := by
  obtain ⟨back, found⟩ := below
  obtain ⟨front, reached⟩ := above
  exact ⟨front ++ back, by rw [at?_append, reached]; exact found⟩

theorem occurs_iff {inner root : Node} :
    inner.Occurs root ↔ ∃ occurrence ∈ root.occurrences, occurrence.node = inner := by
  constructor
  · rintro ⟨address, found⟩
    exact ⟨⟨address, root.parentAt? address, inner⟩, mem_occurrences_iff.mpr ⟨found, rfl⟩, rfl⟩
  · rintro ⟨occurrence, known, rfl⟩
    exact ⟨occurrence.address, (mem_occurrences_iff.mp known).1⟩

end Node

end DuplicateLogic
