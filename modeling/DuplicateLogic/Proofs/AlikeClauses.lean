import DuplicateLogic.Proofs.AlikeBranches
import DuplicateLogic.Syntax.Build

/-! # Clauses that are all the same

Of a `switch` those bodies are compared that can be left: an empty clause falls through to the
next one, so only the last clause counts without statements, and a `break` at the end of a body is
not part of it. The `switch` is reported exactly when it has a default clause and any two of these
bodies are the same code. So neither another label in front of a clause nor a `break` where there
was none matters. -/

namespace DuplicateLogic

/-- The clauses of a `switch` statement in source order. -/
def Node.clauses (node : Node) : List Clause :=
  ((SwitchStatement.ofNode? node).map (·.clauses)).getD []

namespace Branches

section Bodies

theorem withoutBreak_concat {statements : List Node} {last : Node}
    (isBreak : last.kind = .construct .breakStatement) :
    withoutBreak (statements ++ [last]) = statements := by
  simp [withoutBreak, isBreak]

theorem withoutBreak_of_unbroken {statements : List Node}
    (unbroken : ∀ last ∈ statements.getLast?, last.kind ≠ .construct .breakStatement) :
    withoutBreak statements = statements := by
  unfold withoutBreak
  split
  next last found => rw [if_neg (unbroken last found)]
  · rfl

/-- The clauses that are compared: those with a statement, and the last one. -/
def retained (clauses : List Clause) : List Clause :=
  clauses.dropLast.filter (fun clause => !clause.statements.isEmpty) ++ clauses.getLast?.toList

/-- Of the clauses in front of others those with a statement are retained. -/
theorem retained_append (front : List Clause) {back : List Clause} (more : back ≠ []) :
    retained (front ++ back) =
      front.filter (fun clause => !clause.statements.isEmpty) ++ retained back := by
  rw [retained, retained, List.dropLast_append_of_ne_nil more, List.filter_append,
    List.getLast?_append_of_ne_nil _ more, List.append_assoc]

/-- In front of others, an empty clause is as good as none. -/
theorem retained_cons_of_empty {clause : Clause} (empty : clause.statements = [])
    {back : List Clause} (more : back ≠ []) : retained (clause :: back) = retained back := by
  have skipped := retained_append [clause] more
  simpa [empty] using skipped

/-- A clause with a statement is retained wherever it stands. -/
theorem retained_cons_of_nonempty {clause : Clause} (nonempty : clause.statements ≠ [])
    (back : List Clause) : retained (clause :: back) = clause :: retained back := by
  cases back with
  | nil => rfl
  | cons next rest =>
      have kept := retained_append [clause] (List.cons_ne_nil next rest)
      simpa [nonempty] using kept

/-- The bodies of the retained clauses, each without a `break` at its end. -/
def retainedBodies (clauses : List Clause) : List (List Node) :=
  (retained clauses).map fun clause => withoutBreak clause.statements

theorem comparedBodies_eq (clauses : List Clause) :
    comparedBodies clauses = retainedBodies clauses := by
  induction clauses with
  | nil => rfl
  | cons clause rest ih =>
      cases rest with
      | nil => rfl
      | cons next rest =>
          rw [comparedBodies, ih]
          by_cases empty : clause.statements = []
          · rw [if_pos (List.isEmpty_iff.mpr empty), retainedBodies, retainedBodies,
              retained_cons_of_empty empty (List.cons_ne_nil next rest)]
          · rw [if_neg (mt List.isEmpty_iff.mp empty), retainedBodies, retainedBodies,
              retained_cons_of_nonempty empty, List.map_cons]

end Bodies

/-- A change of clauses that no comparison of their bodies can see. -/
inductive HarmlessEdit : List Clause → List Clause → Prop
  | insert {clause : Clause} (front : List Clause) {back : List Clause}
      (empty : clause.statements = []) (notLast : back ≠ []) :
      HarmlessEdit (front ++ back) (front ++ clause :: back)
  | close {clause closed : Clause} {last : Node} (front back : List Clause)
      (nonempty : clause.statements ≠ [])
      (unbroken : ∀ statement ∈ clause.statements.getLast?,
        statement.kind ≠ .construct .breakStatement)
      (isBreak : last.kind = .construct .breakStatement)
      (appended : closed.statements = clause.statements ++ [last])
      (stillDefault : clause.isDefault = true → closed.isDefault = true) :
      HarmlessEdit (front ++ clause :: back) (front ++ closed :: back)

namespace HarmlessEdit

variable {clauses edited : List Clause}

theorem retainedBodies_eq (edit : HarmlessEdit clauses edited) :
    retainedBodies edited = retainedBodies clauses := by
  cases edit with
  | insert front empty notLast =>
      rw [retainedBodies, retainedBodies, retained_append _ (List.cons_ne_nil _ _),
        retained_append _ notLast, retained_cons_of_empty empty notLast]
  | @close clause closed last front back nonempty unbroken isBreak appended stillDefault =>
      have nonempty' : closed.statements ≠ [] := by simp [appended]
      have sameBody : withoutBreak closed.statements = withoutBreak clause.statements := by
        rw [appended, withoutBreak_concat isBreak, withoutBreak_of_unbroken unbroken]
      rw [retainedBodies, retainedBodies, retained_append _ (List.cons_ne_nil _ _),
        retained_append _ (List.cons_ne_nil _ _), retained_cons_of_nonempty nonempty,
        retained_cons_of_nonempty nonempty']
      simp only [List.map_append, List.map_cons, sameBody]

theorem exists_default (edit : HarmlessEdit clauses edited)
    (closed : ∃ clause ∈ clauses, clause.isDefault = true) :
    ∃ clause ∈ edited, clause.isDefault = true := by
  obtain ⟨clause, known, isDefault⟩ := closed
  cases edit with
  | insert front empty notLast =>
      refine ⟨clause, ?_, isDefault⟩
      rcases List.mem_append.mp known with inFront | inBack
      · exact List.mem_append_left _ inFront
      · exact List.mem_append_right _ (List.mem_cons_of_mem _ inBack)
  | @close before after last front back nonempty unbroken isBreak appended stillDefault =>
      rcases List.mem_append.mp known with inFront | inBack
      · exact ⟨clause, List.mem_append_left _ inFront, isDefault⟩
      rcases List.mem_cons.mp inBack with rfl | inBack
      · exact ⟨after, by simp, stillDefault isDefault⟩
      · exact ⟨clause, List.mem_append_right _ (List.mem_cons_of_mem _ inBack), isDefault⟩

end HarmlessEdit

end Branches

/-- Whether a `switch` has a default clause, retains two bodies at least, and any two of them are
the same code. -/
structure Node.AlikeClauses (node : Node) : Prop where
  hasDefault : ∃ clause ∈ node.clauses, clause.isDefault = true
  several : 2 ≤ (Branches.retainedBodies node.clauses).length
  alike : ∀ first ∈ Branches.retainedBodies node.clauses,
    ∀ second ∈ Branches.retainedBodies node.clauses,
      (Operand.sequence first).equivalent (.sequence second) = true

section Switch

variable {context : Context} {node : Node} (isSwitch : node.kind = .construct .switchStatement)
include isSwitch

theorem Branches.visit_switch_eq_some_iff {found : List Finding} :
    visit context node = some found ↔
      node.AlikeClauses ∧ statementFinding context node = found := by
  have equivalence : Equivalence fun first second => Node.allEquivalent first second = true :=
    Operand.equivalence_equivalent.comap Operand.sequence
  have same : node.AlikeClauses ↔
      node.clauses.any (·.isDefault) = true ∧
        allAlike Node.allEquivalent (comparedBodies node.clauses) = true := by
    rw [List.any_eq_true, comparedBodies_eq, allAlike_iff equivalence]
    exact ⟨fun all => ⟨all.hasDefault, all.several, all.alike⟩,
      fun ⟨closed, several, alike⟩ => ⟨closed, several, alike⟩⟩
  have checked : visit context node = visitSwitch context node := by
    rw [visit, isSwitch]
  rw [checked, visitSwitch_eq_some_iff, same, Node.clauses, SwitchStatement.ofNode?,
    if_pos isSwitch]
  simp

theorem Branches.isSome_visit_switch_iff :
    (visit context node).isSome = true ↔ node.AlikeClauses := by
  rw [Option.isSome_iff_exists]
  simp only [visit_switch_eq_some_iff isSwitch, exists_and_left, exists_eq', and_true]

end Switch

/-- The rule reports a `switch` once, from its start to its end, when it has a default clause and
any two of the bodies that it retains, two at least, are the same code, and nothing otherwise. So
another empty clause that is not the last, or a `break` at the end of a body that had none, does not
change whether a `switch` with a default clause is reported. -/
theorem Branches.visit_switch (context : Context) (node : Node)
    (isSwitch : node.kind = .construct .switchStatement) :
    (node.AlikeClauses → visit context node = some [{
      rule := "duplicated-branches-statement"
      category := "CodeSmell"
      severity := "MEDIUM"
      message := statementMessage
      file := context.file
      start := node.start
      stop := node.stop
      related? := none }]) ∧
    (¬node.AlikeClauses → visit context node = none) ∧
    ∀ edited : Node, edited.kind = .construct .switchStatement →
      HarmlessEdit node.clauses edited.clauses →
        (∃ clause ∈ node.clauses, clause.isDefault = true) →
          (visit context edited).isSome = (visit context node).isSome := by
  refine ⟨?_, ?_, ?_⟩
  · intro alike
    exact (visit_switch_eq_some_iff isSwitch).mpr ⟨alike, rfl⟩
  · intro different
    rw [← Option.not_isSome_iff_eq_none, isSome_visit_switch_iff isSwitch]
    exact different
  · intro edited editedIsSwitch edit hasDefault
    have bodies := edit.retainedBodies_eq
    rw [Bool.eq_iff_iff, isSome_visit_switch_iff editedIsSwitch, isSome_visit_switch_iff isSwitch]
    constructor
    · rintro ⟨-, several, alike⟩
      rw [bodies] at several alike
      exact ⟨hasDefault, several, alike⟩
    · rintro ⟨-, several, alike⟩
      rw [← bodies] at several alike
      exact ⟨edit.exists_default hasDefault, several, alike⟩

section Calls

open Node

/-- `switch (x) { case 1: ... default: ... }` with other clauses in front, for any two bodies. -/
def oneCase (front : List Node) (body otherwise : List Node) : Node :=
  switchStatement (identifier "x")
    (front ++ [caseClause (number "1") body, defaultClause otherwise])

/-- Two calls of one function are reported, also with a `break` after the first or with another
label in front of it, and calls of two functions are not. -/
theorem Branches.visit_switch_oneCase :
    let context : Context := ⟨⟨"a.ts"⟩, none, {}⟩
    let call := callStatement "f"
    let node := oneCase [] [call] [call]
    node.kind = .construct .switchStatement ∧
      visit context node = some [Finding.about statementMessage
        RuleId.duplicatedBranchesStatement.text ⟨"a.ts"⟩ node] ∧
      visit context (oneCase [] [call] [callStatement "g"]) = none ∧
      (visit context (oneCase [] [call, breakStatement] [call])).isSome =
        (visit context node).isSome ∧
      (visit context (oneCase [caseClause (number "2") []] [call] [call])).isSome =
        (visit context node).isSome := by
  intro context call node
  have bodies : retainedBodies node.clauses = [[call], [call]] := rfl
  have hasDefault : ∃ clause ∈ node.clauses, clause.isDefault = true :=
    ⟨_, List.mem_cons_of_mem _ List.mem_cons_self, rfl⟩
  have alike : node.AlikeClauses := by
    refine ⟨hasDefault, ?_, ?_⟩
    · rw [bodies]
      decide
    · rw [bodies]
      decide
  have different : ¬(oneCase [] [call] [callStatement "g"]).AlikeClauses := by
    rintro ⟨-, -, same⟩
    exact absurd (same [call] List.mem_cons_self [callStatement "g"]
      (List.mem_cons_of_mem _ List.mem_cons_self)) (by decide)
  have closed : HarmlessEdit node.clauses (oneCase [] [call, breakStatement] [call]).clauses :=
    .close [] _ (by decide) (by decide) (by decide) rfl nofun
  have labelled : HarmlessEdit node.clauses
      (oneCase [caseClause (number "2") []] [call] [call]).clauses :=
    .insert [] rfl (List.cons_ne_nil _ _)
  have reported := visit_switch context node rfl
  have silent := visit_switch context (oneCase [] [call] [callStatement "g"]) rfl
  exact ⟨rfl, reported.1 alike, silent.2.1 different, reported.2.2 _ rfl closed hasDefault,
    reported.2.2 _ rfl labelled hasDefault⟩

end Calls

end DuplicateLogic
