import DuplicateLogic.Proofs.AlikeClauses
import DuplicateLogic.Proofs.Classes

/-! # Conditions and labels that repeat earlier ones

A condition of a chain is reported when it is not the first of its class, and against that first
one: the search for an earlier equivalent condition stops at the first it meets, which is never a
reported one. A label of a `switch` is reported against every equivalent label before it. -/

namespace DuplicateLogic

namespace Conditions

open Alike

section Scan

variable {nodes : List Node}

private theorem firstRepeats_of_split {front back : List (Fin nodes.length)}
    (split : front ++ back = List.finRange nodes.length) :
    firstRepeats (front.map nodes.get) (back.map nodes.get) =
      back.filterMap fun later => (before nodes later).head?.map fun first =>
        (nodes.get first, nodes.get later) := by
  induction back generalizing front with
  | nil => rfl
  | cons later rest ih =>
      have step := @ih (front ++ [later]) (by simpa using split)
      rw [List.map_append] at step
      have found : (front.map nodes.get).find? (·.equivalent (nodes.get later)) =
          (before nodes later).head?.map nodes.get := by
        rw [before_eq_filter split, List.head?_filter, List.find?_map]
        rfl
      rw [List.map_cons, List.filterMap_cons, ← step, firstRepeats, found]
      cases (before nodes later).head? with
      | none => rfl
      | some first => rfl

private theorem allRepeats_of_split {front back : List (Fin nodes.length)}
    (split : front ++ back = List.finRange nodes.length) :
    allRepeats (front.map nodes.get) (back.map nodes.get) =
      back.flatMap fun later => (before nodes later).map fun earlier =>
        (nodes.get earlier, nodes.get later) := by
  induction back generalizing front with
  | nil => rfl
  | cons later rest ih =>
      have step := @ih (front ++ [later]) (by simpa using split)
      rw [List.map_append] at step
      rw [List.map_cons, List.flatMap_cons, ← step, allRepeats, List.filter_map, List.map_map,
        before_eq_filter split]
      rfl

/-- The first scan finds the pairs of a place with the first of its class. -/
theorem firstRepeats_eq (nodes : List Node) :
    firstRepeats [] nodes = (firstPairs nodes).map (Prod.map nodes.get nodes.get) := by
  have scanned := firstRepeats_of_split (List.nil_append (List.finRange nodes.length))
  rw [List.map_get_finRange, List.map_nil] at scanned
  rw [scanned, firstPairs, List.map_filterMap]
  simp [Function.comp_def]

/-- The second scan finds all pairs of alike places. -/
theorem allRepeats_eq (nodes : List Node) :
    allRepeats [] nodes = (allPairs nodes).map (Prod.map nodes.get nodes.get) := by
  have scanned := allRepeats_of_split (List.nil_append (List.finRange nodes.length))
  rw [List.map_get_finRange, List.map_nil] at scanned
  rw [scanned, allPairs, List.map_flatMap]
  simp [Function.comp_def]

end Scan

theorem getD_report (what : String) (context : Context) (pairs : List (Node × Node)) :
    (report what context pairs).getD [] =
      pairs.map fun (earlier, later) => repetition what context earlier later := by
  cases pairs <;> rfl

theorem report_eq_none_iff {what : String} {context : Context} {pairs : List (Node × Node)} :
    report what context pairs = none ↔ pairs = [] := by
  cases pairs <;> simp [report]

/-- Shown an `if` that stands below no `if`, the rule reports each condition of its chain that is
not the first of its class once, in the order of the chain and against that first one. So no
condition is reported against a reported one, and the findings are as many as the conditions less
the classes. -/
theorem visit_chain (context : Context) (node : Node)
    (isIf : node.kind = .construct .ifStatement)
    (outermost : ∀ parent, context.parent? = some parent →
      parent.kind ≠ .construct .ifStatement) :
    let conditions := (Chain.startingAt node).conditions
    ∃ pairs : List (Fin conditions.length × Fin conditions.length),
      ((visit context node).getD [] = pairs.map fun (first, later) => {
        rule := "duplicated-condition"
        category := "Bug"
        severity := "HIGH"
        message := "This branch duplicates the one on line " ++
          toString conditions[first].start.line
        file := context.file
        start := conditions[later].start
        stop := conditions[later].stop
        related? := some ⟨conditions[first].start, "Original"⟩ }) ∧
      (pairs.map (·.2)).Pairwise (· < ·) ∧
      (∀ first later, (first, later) ∈ pairs ↔
        IsFirst conditions first later ∧ first ≠ later) ∧
      (∀ place, place ∈ pairs.map (·.2) ↔ ¬IsFirst conditions place place) ∧
      pairs.length + (classes conditions).card = conditions.length ∧
      (∀ pair ∈ pairs, ∀ other ∈ pairs,
        conditions[pair.2].equivalent conditions[other.2] = true → pair.1 = other.1) ∧
      (∀ pair ∈ pairs, ∀ other ∈ pairs, pair.1 ≠ other.2) ∧
      (visit context node = none ↔
        conditions.Pairwise fun earlier later => earlier.equivalent later = false) := by
  intro conditions
  have reported : visit context node =
      report "branch" context
        ((firstPairs conditions).map (Prod.map conditions.get conditions.get)) := by
    rw [visit, isIf, visitIf, if_pos (Context.isChainRoot_iff.mpr outermost),
      firstRepeats_eq conditions]
  refine ⟨firstPairs conditions, ?_, ?_, ?_, ?_, ?_, ?_, ?_, ?_⟩
  · rw [reported, getD_report, List.map_map]
    rfl
  · rw [map_snd_firstPairs]
    exact (List.pairwise_lt_finRange _).filter _
  · intro first later
    exact mem_firstPairs_iff
  · intro place
    exact mem_map_snd_firstPairs_iff
  · exact length_firstPairs_add_card conditions
  · intro pair known other otherKnown same
    have isFirst := (mem_firstPairs_iff.mp known).1
    have otherIsFirst := (mem_firstPairs_iff.mp otherKnown).1
    exact (isFirst.of_alike (Node.code_eq_iff.mpr same)).unique otherIsFirst
  · intro pair known other otherKnown same
    have isFirst := (mem_firstPairs_iff.mp known).1
    obtain ⟨otherIsFirst, apart⟩ := mem_firstPairs_iff.mp otherKnown
    -- the first of a class is its own first
    have own : IsFirst conditions pair.1 pair.1 := isFirst.of_alike isFirst.alike.symm
    exact apart (otherIsFirst.unique (same ▸ own))
  · rw [reported, report_eq_none_iff, List.map_eq_nil_iff, firstPairs_eq_nil_iff]

end Conditions

section TwoNames

open Node

/-- `if (a) f(); else if (b) f(); else if (a) f(); else if (b) f(); else if (a) f();`. -/
def twoNames : WrittenChain where
  first := (identifier "a", callStatement "f")
  later := ["b", "a", "b", "a"].map fun name => (identifier name, callStatement "f")
  final? := none
  arms_plain := by decide
  final_plain := nofun

/-- Of five conditions in two classes three are reported. -/
theorem Conditions.visit_chain_twoNames :
    twoNames.node.kind = .construct .ifStatement ∧
      visit ⟨⟨"a.ts"⟩, none, {}⟩ twoNames.node ≠ none ∧
      ((visit ⟨⟨"a.ts"⟩, none, {}⟩ twoNames.node).getD []).length = 3 := by
  have isIf : twoNames.node.kind = .construct .ifStatement := rfl
  have conditions : (Chain.startingAt twoNames.node).conditions =
      ["a", "b", "a", "b", "a"].map identifier := (Chain.startingAt_written twoNames).1
  have size : (Chain.startingAt twoNames.node).conditions.length = 5 := by
    rw [conditions]
    rfl
  have codes : (Alike.classes (Chain.startingAt twoNames.node).conditions).card = 2 := by
    rw [conditions]
    decide
  obtain ⟨pairs, reported, -, -, -, counted, -, -, silent⟩ :=
    visit_chain ⟨⟨"a.ts"⟩, none, {}⟩ twoNames.node isIf nofun
  refine ⟨isIf, ?_, ?_⟩
  · rw [Ne, silent, conditions]
    decide
  · rw [reported, List.length_map]
    omega

end TwoNames

section Labels

/-- The labels of a `switch` statement in source order. -/
def Node.labels (node : Node) : List Node :=
  node.clauses.filterMap (·.label?)

/-- What stands before the first colon. -/
theorem Node.beforeColon?_eq_some_iff {node : Node} {front : List Node} :
    node.beforeColon? = some front ↔
      ∃ colon back, node.children = front ++ colon :: back ∧
        colon.kind = .punctuation .colon ∧ ∀ child ∈ front, child.kind ≠ .punctuation .colon := by
  have cut {front back : List Node} {colon : Node} (isColon : colon.kind = .punctuation .colon)
      (plain : ∀ child ∈ front, child.kind ≠ .punctuation .colon) :
      (front ++ colon :: back).takeWhile (fun child => child.kind ≠ .punctuation .colon) =
        front := by
    rw [List.takeWhile_append_of_pos fun child known => decide_eq_true (plain child known)]
    simp [isColon]
  rw [beforeColon?, Option.ite_none_right_eq_some, Option.some.injEq]
  constructor
  · rintro ⟨present, rfl⟩
    obtain ⟨colon, found⟩ := Option.isSome_iff_exists.mp (List.find?_isSome.mpr
      (List.any_eq_true.mp present))
    obtain ⟨isColon, front, back, listed, plain⟩ := List.find?_eq_some_iff_append.mp found
    have isColon := of_decide_eq_true isColon
    have plain : ∀ child ∈ front, child.kind ≠ .punctuation .colon := by simpa using plain
    rw [listed, cut isColon plain]
    exact ⟨colon, back, rfl, isColon, plain⟩
  · rintro ⟨colon, back, listed, isColon, plain⟩
    exact ⟨by simp [listed, isColon], by rw [listed, cut isColon plain]⟩

/-- Whether a node is the label of a clause: the clause is no default clause and has a colon, and
before the first colon the node is the first that is no token of the syntax. -/
def Clause.HasLabel (clause : Clause) (label : Node) : Prop :=
  clause.isDefault = false ∧ ∃ front colon back,
    clause.node.children = front ++ colon :: back ∧ colon.kind = .punctuation .colon ∧
    (∀ child ∈ front, child.kind ≠ .punctuation .colon) ∧
    front.find? (fun child => !child.kind.isSyntaxToken) = some label

theorem Clause.label?_eq_some_iff {node : Node} {clause : Clause}
    (read : ofNode? node = some clause) {label : Node} :
    clause.label? = some label ↔ clause.HasLabel label := by
  unfold HasLabel
  unfold ofNode? at read
  split at read
  · obtain rfl := Option.some.inj read
    simp
  split at read
  · obtain rfl := Option.some.inj read
    simp only [Option.bind_eq_some_iff, Node.beforeColon?_eq_some_iff, true_and]
    constructor
    · rintro ⟨front, ⟨colon, back, listed, isColon, plain⟩, found⟩
      exact ⟨front, colon, back, listed, isColon, plain, found⟩
    · rintro ⟨front, colon, back, listed, isColon, plain, found⟩
      exact ⟨front, ⟨colon, back, listed, isColon, plain⟩, found⟩
  · cases read

/-- The clauses of a `switch` statement are nodes read as clauses. -/
theorem Node.exists_of_mem_clauses {node : Node} {clause : Clause}
    (known : clause ∈ node.clauses) : ∃ inner, Clause.ofNode? inner = some clause := by
  unfold clauses SwitchStatement.ofNode? at known
  split at known
  · cases present : node.childOfKind? (.construct .caseBlock) with
    | none => simp [present, SwitchStatement.clauses] at known
    | some block =>
        have listed : clause ∈ SwitchStatement.clausesOfBlock block := by
          simpa [present, SwitchStatement.clauses] using known
        obtain ⟨inner, -, read⟩ := List.mem_filterMap.mp listed
        exact ⟨inner, read⟩
  · cases known

end Labels

/-- Shown a `switch`, the rule reports every label against every equivalent one before it, the
labels in order and for each of them the earlier ones in order. So a label is reported as many times
as members of its class come before it, and a class gives a finding for each two of its members. -/
theorem Conditions.visit_labels (context : Context) (node : Node)
    (isSwitch : node.kind = .construct .switchStatement) :
    let labels := node.labels
    (∀ clause ∈ node.clauses, ∀ label, clause.label? = some label ↔ clause.HasLabel label) ∧
    ∃ pairs : List (Fin labels.length × Fin labels.length),
      ((visit context node).getD [] = pairs.map fun (earlier, later) => {
        rule := "duplicated-condition"
        category := "Bug"
        severity := "HIGH"
        message := "This case duplicates the one on line " ++ toString labels[earlier].start.line
        file := context.file
        start := labels[later].start
        stop := labels[later].stop
        related? := some ⟨labels[earlier].start, "Original"⟩ }) ∧
      (pairs.Pairwise fun pair other =>
        pair.2 < other.2 ∨ pair.2 = other.2 ∧ pair.1 < other.1) ∧
      (∀ earlier later, (earlier, later) ∈ pairs ↔
        earlier < later ∧ labels[earlier].equivalent labels[later] = true) ∧
      (∀ code rank place, (Alike.members labels code)[rank]? = some place →
        (pairs.map (·.2)).count place = rank) ∧
      pairs.length = ∑ code ∈ Alike.classes labels,
        (Alike.members labels code).length * ((Alike.members labels code).length - 1) / 2 ∧
      (visit context node = none ↔
        labels.Pairwise fun earlier later => earlier.equivalent later = false) := by
  intro labels
  have reported : visit context node =
      report "case" context
        ((Alike.allPairs labels).map (Prod.map labels.get labels.get)) := by
    rw [visit, isSwitch, visitSwitch, ← allRepeats_eq labels]
    simp [labels, Node.labels, Node.clauses, SwitchStatement.ofNode?, isSwitch]
  have labelled : ∀ clause ∈ node.clauses, ∀ label,
      clause.label? = some label ↔ clause.HasLabel label := by
    intro clause known label
    obtain ⟨inner, read⟩ := Node.exists_of_mem_clauses known
    exact Clause.label?_eq_some_iff read
  refine ⟨labelled, Alike.allPairs labels, ?_, Alike.allPairs_ascending labels, ?_, ?_, ?_, ?_⟩
  · rw [reported, getD_report, List.map_map]
    rfl
  · intro earlier later
    exact Alike.mem_allPairs_iff
  · intro code rank place member
    rw [Alike.count_map_snd_allPairs, Alike.length_before_of_members member]
  · rw [Alike.length_allPairs, Alike.sum_length_before]
  · rw [reported, report_eq_none_iff, List.map_eq_nil_iff, Alike.allPairs_eq_nil_iff]

section FourLabels

open Node

/-- `switch (x) { case 1: case 2: default: case 1: case 1: }`. -/
def fourLabels : Node :=
  switchStatement (identifier "x")
    [caseClause (number "1") [], caseClause (number "2") [], defaultClause [],
      caseClause (number "1") [], caseClause (number "1") []]

/-- Of four labels three are equal, each two of which give a finding. -/
theorem Conditions.visit_labels_fourLabels :
    fourLabels.kind = .construct .switchStatement ∧
      visit ⟨⟨"a.ts"⟩, none, {}⟩ fourLabels ≠ none ∧
      ((visit ⟨⟨"a.ts"⟩, none, {}⟩ fourLabels).getD []).length = 3 := by
  have isSwitch : fourLabels.kind = .construct .switchStatement := rfl
  obtain ⟨-, pairs, reported, -, -, -, total, silent⟩ :=
    visit_labels ⟨⟨"a.ts"⟩, none, {}⟩ fourLabels isSwitch
  have labels : fourLabels.labels = ["1", "2", "1", "1"].map number := rfl
  refine ⟨isSwitch, ?_, ?_⟩
  · rw [Ne, silent, labels]
    decide
  · rw [reported, List.length_map, total]
    decide

end FourLabels

end DuplicateLogic
