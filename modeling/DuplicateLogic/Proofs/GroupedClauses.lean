import DuplicateLogic.Proofs.RepeatedConditions

/-! # Grouped clauses

The statements of a clause can stand under one list node, and so can any run of clauses in a case
block. The views open such nodes: what is read from a clause is its label and its statements, and
from a `switch` its clauses in order, however they are grouped. The rules look at nothing else, so
they report the same for every layout of one `switch`. Only the end of a finding at the `switch`
itself can differ, as it is told by the text of the node. -/

namespace DuplicateLogic

section Reading

variable {node colon : Node} {front back : List Node}

theorem Node.afterColon_of_children (listed : node.children = front ++ colon :: back)
    (isColon : colon.kind = .punctuation .colon)
    (plain : ∀ child ∈ front, child.kind ≠ .punctuation .colon) : node.afterColon = back := by
  rw [afterColon, listed,
    List.dropWhile_append_of_pos fun child known => decide_eq_true (plain child known)]
  simp [isColon]

/-- A `case` clause is read around its first colon. -/
theorem Clause.ofNode?_of_case (isCase : node.kind = .construct .caseClause)
    (listed : node.children = front ++ colon :: back)
    (isColon : colon.kind = .punctuation .colon)
    (plain : ∀ child ∈ front, child.kind ≠ .punctuation .colon) :
    ofNode? node = some ⟨node, false, front.find? fun child => !child.kind.isSyntaxToken,
      Node.ungroup back⟩ := by
  have before : node.beforeColon? = some front :=
    Node.beforeColon?_eq_some_iff.mpr ⟨colon, back, listed, isColon, plain⟩
  rw [ofNode?, isCase, if_neg (by decide), if_pos rfl, before,
    Node.afterColon_of_children listed isColon plain]
  rfl

/-- A default clause has no label, whatever stands before its first colon. -/
theorem Clause.ofNode?_of_default (isDefault : node.kind = .construct .defaultClause)
    (listed : node.children = front ++ colon :: back)
    (isColon : colon.kind = .punctuation .colon)
    (plain : ∀ child ∈ front, child.kind ≠ .punctuation .colon) :
    ofNode? node = some ⟨node, true, none, Node.ungroup back⟩ := by
  rw [ofNode?, if_pos isDefault, Node.afterColon_of_children listed isColon plain]

/-- The clauses of a `switch` are those of its first case block. -/
theorem Node.clauses_of_block {block : Node} (isSwitch : node.kind = .construct .switchStatement)
    (found : node.childOfKind? (.construct .caseBlock) = some block) :
    node.clauses = SwitchStatement.clausesOfBlock block := by
  rw [clauses, SwitchStatement.ofNode?, if_pos isSwitch, found]
  rfl

/-- The braces of a case block are no clauses. -/
theorem SwitchStatement.clausesOfBlock_of_children {first last : Node} {items : List Node}
    {opening closing : Punctuation} (listed : node.children = first :: (items ++ [last]))
    (isFirst : first.kind = .punctuation opening) (isLast : last.kind = .punctuation closing) :
    clausesOfBlock node =
      (items.flatMap fun item => Node.ungroup [item]).filterMap Clause.ofNode? := by
  have brace {brace : Node} {form : Punctuation} (isBrace : brace.kind = .punctuation form) :
      (Node.ungroup [brace]).filterMap Clause.ofNode? = [] := by
    simp [Node.ungroup, Clause.ofNode?, isBrace]
  rw [clausesOfBlock, listed, List.flatMap_cons, List.flatMap_append, List.flatMap_singleton,
    List.filterMap_append, List.filterMap_append, brace isFirst, brace isLast, List.nil_append,
    List.append_nil]

end Reading

section Parts

/-- What the rules look at in a clause: all but its node. -/
def Clause.parts (clause : Clause) : Bool × Option Node × List Node :=
  (clause.isDefault, clause.label?, clause.statements)

/-- The bodies that are compared are known from the statements of all clauses. -/
theorem Branches.comparedBodies_congr {one other : List Clause}
    (same : one.map (·.statements) = other.map (·.statements)) :
    comparedBodies one = comparedBodies other := by
  fun_induction comparedBodies one generalizing other with
  | case1 =>
      rw [List.map_eq_nil_iff.mp same.symm]
      rfl
  | case2 last =>
      obtain ⟨last', rfl, here⟩ := List.map_eq_singleton_iff.mp same.symm
      rw [comparedBodies, here]
  | case3 clause next rest empty ih =>
      obtain ⟨clause', back, rfl, here, behind⟩ := List.map_eq_cons_iff.mp same.symm
      obtain ⟨next', rest', rfl, -, -⟩ := List.map_eq_cons_iff.mp behind
      rw [ih behind.symm, comparedBodies, here, if_pos empty]
  | case4 clause next rest nonempty ih =>
      obtain ⟨clause', back, rfl, here, behind⟩ := List.map_eq_cons_iff.mp same.symm
      obtain ⟨next', rest', rfl, -, -⟩ := List.map_eq_cons_iff.mp behind
      rw [ih behind.symm, comparedBodies, here, if_neg nonempty]

theorem Conditions.visit_of_switch {context : Context} {node : Node}
    (isSwitch : node.kind = .construct .switchStatement) :
    visit context node = report "case" context (allRepeats [] node.labels) := by
  rw [visit, isSwitch, visitSwitch]
  simp [Node.labels, Node.clauses, SwitchStatement.ofNode?, isSwitch]

theorem Branches.visit_of_switch {context : Context} {node : Node}
    (isSwitch : node.kind = .construct .switchStatement) :
    visit context node =
      if node.clauses.any (·.isDefault) &&
          allAlike Node.allEquivalent (comparedBodies node.clauses) then
        some (statementFinding context node)
      else none := by
  rw [visit, isSwitch, visitSwitch]
  simp [Node.clauses, SwitchStatement.ofNode?, isSwitch]

variable {one other : Node} (isSwitch : one.kind = .construct .switchStatement)
  (isSwitch' : other.kind = .construct .switchStatement)
  (same : one.clauses.map Clause.parts = other.clauses.map Clause.parts)

/-- The finding with another end. -/
def Finding.endingAt (finding : Finding) (stop : Position) : Finding :=
  { finding with stop := stop }

include isSwitch isSwitch' same

/-- A `switch` with the same clauses gets the same findings at labels. -/
theorem Conditions.visit_congr_parts (context : Context) :
    visit context one = visit context other := by
  have labels : one.labels = other.labels := by
    have listed := congrArg (List.filterMap (·.2.1)) same
    rw [List.filterMap_map, List.filterMap_map] at listed
    exact listed
  rw [visit_of_switch isSwitch, visit_of_switch isSwitch', labels]

/-- A `switch` with the same clauses that starts at the same place gets the same finding, up to
where it ends. -/
theorem Branches.visit_congr_parts (context : Context) (start : one.start = other.start) :
    visit context one =
      (visit context other).map fun found => found.map (·.endingAt one.stop) := by
  have hasDefault : one.clauses.any (·.isDefault) = other.clauses.any (·.isDefault) := by
    have listed := congrArg (List.any · (·.1)) same
    rw [List.any_map, List.any_map] at listed
    exact listed
  have bodies : comparedBodies one.clauses = comparedBodies other.clauses := by
    have listed := congrArg (List.map (·.2.2)) same
    rw [List.map_map, List.map_map] at listed
    exact comparedBodies_congr listed
  have finding : statementFinding context one =
      (statementFinding context other).map (·.endingAt one.stop) := by
    simp [statementFinding, Finding.about, Finding.endingAt, start]
  rw [visit_of_switch isSwitch, visit_of_switch isSwitch', hasDefault, bodies]
  split
  · rw [Option.map_some, finding]
  · rfl

end Parts

section Written

/-- A clause as it is written: the label of a `case`, or none for `default`, and the statements. The
label is no token of the syntax, and the statements are not a single list node. -/
structure WrittenClause where
  label? : Option Node
  statements : List Node
  label_plain : ∀ label ∈ label?, label.kind.isSyntaxToken = false
  ungrouped : ∀ item, statements = [item] → item.kind ≠ .construct .syntaxList

namespace WrittenClause

/-- What the rules look at in the clause. -/
def parts (clause : WrittenClause) : Bool × Option Node × List Node :=
  (clause.label?.isNone, clause.label?, clause.statements)

/-- Whether nodes are the statements of a clause, as they are or as the members of one list node. -/
inductive Body (clause : WrittenClause) : List Node → Prop
  | flat : Body clause clause.statements
  | grouped {list : Node} (isList : list.kind = .construct .syntaxList)
      (members : list.children = clause.statements) : Body clause [list]

/-- Whether a node is a clause, whatever its text and place. -/
inductive Form (clause : WrittenClause) (node : Node) : Prop
  | case {word label colon : Node} {body : List Node} (kind : node.kind = .construct .caseClause)
      (children : node.children = word :: label :: colon :: body)
      (isWord : word.kind = .keyword .caseKeyword) (isLabel : clause.label? = some label)
      (isColon : colon.kind = .punctuation .colon) (isBody : clause.Body body)
  | default {word colon : Node} {body : List Node} (kind : node.kind = .construct .defaultClause)
      (children : node.children = word :: colon :: body)
      (isWord : word.kind = .keyword .defaultKeyword) (noLabel : clause.label? = none)
      (isColon : colon.kind = .punctuation .colon) (isBody : clause.Body body)

theorem Body.ungroup {clause : WrittenClause} {body : List Node} (isBody : clause.Body body) :
    Node.ungroup body = clause.statements := by
  cases isBody with
  | flat =>
      unfold Node.ungroup
      split
      next item single => rw [if_neg (clause.ungrouped item single), single]
      · rfl
  | grouped isList members => rw [Node.ungroup, if_pos isList, members]

/-- The clause is read from its node with its own parts. -/
theorem Form.exists_ofNode? {clause : WrittenClause} {node : Node} (form : clause.Form node) :
    ∃ read, Clause.ofNode? node = some read ∧ read.parts = clause.parts := by
  cases form with
  | @case word label colon body kind children isWord isLabel isColon isBody =>
      have labelPlain : label.kind.isSyntaxToken = false := clause.label_plain label isLabel
      have noColon : ∀ child ∈ [word, label], child.kind ≠ .punctuation .colon := by
        intro child known
        rcases List.mem_pair.mp known with rfl | rfl
        · simp [isWord]
        · intro isColon
          rw [isColon] at labelPlain
          cases labelPlain
      have wordSkipped : word.kind.isSyntaxToken = true := by
        rw [isWord]
        rfl
      have found : [word, label].find? (fun child => !child.kind.isSyntaxToken) = some label := by
        simp [wordSkipped, labelPlain]
      have read := Clause.ofNode?_of_case kind children isColon noColon
      refine ⟨_, read, ?_⟩
      rw [Clause.parts, parts, found, isLabel, isBody.ungroup]
      rfl
  | @default word colon body kind children isWord noLabel isColon isBody =>
      have noColon : ∀ child ∈ [word], child.kind ≠ .punctuation .colon := by
        simp [isWord]
      have read := Clause.ofNode?_of_default kind children isColon noColon
      refine ⟨_, read, ?_⟩
      rw [Clause.parts, parts, noLabel, isBody.ungroup]
      rfl

theorem Form.kind_ne_syntaxList {clause : WrittenClause} {node : Node} (form : clause.Form node) :
    node.kind ≠ .construct .syntaxList := by
  cases form with
  | case kind => simp [kind]
  | default kind => simp [kind]

/-- The node that is built for a clause, its statements grouped or not. -/
def node (clause : WrittenClause) (grouped : Bool) : Node :=
  let body := if grouped then [Node.listNode clause.statements] else clause.statements
  match clause.label? with
  | some label => Node.caseClause label body
  | none => Node.defaultClause body

theorem form_node (clause : WrittenClause) (grouped : Bool) : clause.Form (clause.node grouped) := by
  have isBody : clause.Body
      (if grouped then [Node.listNode clause.statements] else clause.statements) := by
    cases grouped with
    | false => exact .flat
    | true => exact .grouped rfl rfl
  unfold node
  cases labelled : clause.label? with
  | none => exact .default rfl rfl rfl labelled rfl isBody
  | some label => exact .case rfl rfl rfl labelled rfl isBody

end WrittenClause

/-- Whether nodes are some clauses in order: one by one, or any run of them as the members of a list
node. -/
inductive ClauseLayout : List WrittenClause → List Node → Prop
  | nil : ClauseLayout [] []
  | flat {clause : WrittenClause} {clauses : List WrittenClause} {node : Node} {nodes : List Node}
      (form : clause.Form node) (later : ClauseLayout clauses nodes) :
      ClauseLayout (clause :: clauses) (node :: nodes)
  | grouped {run clauses : List WrittenClause} {list : Node} {nodes : List Node}
      (isList : list.kind = .construct .syntaxList)
      (members : List.Forall₂ WrittenClause.Form run list.children)
      (later : ClauseLayout clauses nodes) : ClauseLayout (run ++ clauses) (list :: nodes)

namespace ClauseLayout

variable {run clauses : List WrittenClause} {members nodes : List Node}

/-- The clauses are read from their nodes with their own parts. -/
theorem parts_of_forms (forms : List.Forall₂ WrittenClause.Form run members) :
    (members.filterMap Clause.ofNode?).map Clause.parts = run.map WrittenClause.parts := by
  induction forms with
  | nil => rfl
  | cons form _ ih =>
      obtain ⟨read, found, parts⟩ := form.exists_ofNode?
      rw [List.filterMap_cons_some found, List.map_cons, List.map_cons, parts, ih]

/-- However they are grouped, the clauses are read with their own parts. -/
theorem parts_eq (layout : ClauseLayout clauses nodes) :
    ((nodes.flatMap fun node => Node.ungroup [node]).filterMap Clause.ofNode?).map Clause.parts =
      clauses.map WrittenClause.parts := by
  induction layout with
  | nil => rfl
  | flat form _ ih =>
      obtain ⟨read, found, parts⟩ := form.exists_ofNode?
      rw [List.flatMap_cons, Node.ungroup, if_neg form.kind_ne_syntaxList, List.singleton_append,
        List.filterMap_cons_some found, List.map_cons, List.map_cons, parts, ih]
  | grouped isList members _ ih =>
      rw [List.flatMap_cons, Node.ungroup, if_pos isList, List.filterMap_append, List.map_append,
        List.map_append, parts_of_forms members, ih]

theorem append_flat (forms : List.Forall₂ WrittenClause.Form run members)
    (later : ClauseLayout clauses nodes) : ClauseLayout (run ++ clauses) (members ++ nodes) := by
  induction forms with
  | nil => exact later
  | cons form _ ih => exact .flat form ih

end ClauseLayout

/-- A `switch` as it is written. What it switches on is no token of the syntax and no case
block. -/
structure WrittenSwitch where
  subject : Node
  clauses : List WrittenClause
  subject_plain : subject.kind.isSyntaxToken = false
  subject_ne_caseBlock : subject.kind ≠ .construct .caseBlock

namespace WrittenSwitch

/-- Whether a node is a `switch` in some layout, whatever its text and place and those of its
parts. -/
structure Form (written : WrittenSwitch) (node : Node) : Prop where
  kind_eq : node.kind = .construct .switchStatement
  children_eq : ∃ word opening closing block,
    node.children = [word, opening, written.subject, closing, block] ∧
    word.kind = .keyword .switchKeyword ∧ opening.kind = .punctuation .openParen ∧
    closing.kind = .punctuation .closeParen ∧ block.kind = .construct .caseBlock ∧
    ∃ first nodes last, block.children = first :: (nodes ++ [last]) ∧
      first.kind = .punctuation .openBrace ∧ last.kind = .punctuation .closeBrace ∧
      ClauseLayout written.clauses nodes

/-- In every layout the same clauses are read. -/
theorem Form.parts_eq {written : WrittenSwitch} {node : Node} (form : written.Form node) :
    node.clauses.map Clause.parts = written.clauses.map WrittenClause.parts := by
  obtain ⟨word, opening, closing, block, children, isWord, isOpening, isClosing, isBlock, first,
    nodes, last, inside, isFirst, isLast, layout⟩ := form.children_eq
  have found : node.childOfKind? (.construct .caseBlock) = some block := by
    simp [Node.childOfKind?, children, isWord, isOpening, isClosing, isBlock,
      written.subject_ne_caseBlock]
  rw [Node.clauses_of_block form.kind_eq found,
    SwitchStatement.clausesOfBlock_of_children inside isFirst isLast, layout.parts_eq]

/-- Two layouts of one `switch` that start at the same place get the same findings, up to the end of
those at the `switch` itself. -/
theorem Form.visit_eq {written : WrittenSwitch} {one other : Node} (form : written.Form one)
    (form' : written.Form other) (start : one.start = other.start) (context : Context) :
    Conditions.visit context one = Conditions.visit context other ∧
      Branches.visit context one =
        (Branches.visit context other).map fun found => found.map (·.endingAt one.stop) := by
  have same := form.parts_eq.trans form'.parts_eq.symm
  exact ⟨Conditions.visit_congr_parts form.kind_eq form'.kind_eq same context,
    Branches.visit_congr_parts form.kind_eq form'.kind_eq same context start⟩

end WrittenSwitch

/-- A run of clauses next to one another, under a list node or not, each with its statements under a
list node or not. -/
structure ClauseRun where
  grouped : Bool
  members : List (WrittenClause × Bool)

namespace ClauseRun

/-- The clauses of the run. -/
def clauses (run : ClauseRun) : List WrittenClause :=
  run.members.map (·.1)

/-- The nodes that are built for the run. -/
def nodes (run : ClauseRun) : List Node :=
  let nodes := run.members.map fun (clause, grouped) => clause.node grouped
  if run.grouped then [Node.listNode nodes] else nodes

/-- The nodes of some runs are a layout of their clauses. -/
theorem layout_nodes (runs : List ClauseRun) :
    ClauseLayout (runs.flatMap clauses) (runs.flatMap nodes) := by
  induction runs with
  | nil => exact .nil
  | cons run rest ih =>
      have forms : List.Forall₂ WrittenClause.Form run.clauses
          (run.members.map fun (clause, grouped) => clause.node grouped) := by
        rw [clauses, List.forall₂_map_left_iff, List.forall₂_map_right_iff, List.forall₂_same]
        exact fun member _ => member.1.form_node member.2
      rw [List.flatMap_cons, List.flatMap_cons, nodes]
      split
      · exact .grouped rfl forms ih
      · exact .append_flat forms ih

end ClauseRun

/-- The node that is built for the `switch` with its clauses in some runs. -/
def WrittenSwitch.node (written : WrittenSwitch) (runs : List ClauseRun) : Node :=
  Node.switchStatement written.subject (runs.flatMap ClauseRun.nodes)

/-- The node that is built for the `switch` with nothing grouped. -/
def WrittenSwitch.flat (written : WrittenSwitch) : Node :=
  Node.switchStatement written.subject (written.clauses.map (·.node false))

theorem WrittenSwitch.form_switchStatement (written : WrittenSwitch) {nodes : List Node}
    (layout : ClauseLayout written.clauses nodes) :
    written.Form (Node.switchStatement written.subject nodes) :=
  ⟨rfl, _, _, _, _, rfl, rfl, rfl, rfl, rfl, _, nodes, _, rfl, rfl, rfl, layout⟩

theorem WrittenSwitch.form_flat (written : WrittenSwitch) : written.Form written.flat := by
  apply written.form_switchStatement
  induction written.clauses with
  | nil => exact .nil
  | cons clause rest ih => exact .flat (clause.form_node false) ih

/-- However the clauses of a `switch` are cut into runs, and whichever runs and whichever statements
of clauses are grouped under list nodes, both rules report what they report with nothing grouped, up
to the end of the finding at the `switch` itself. This does not depend on how the nodes are built:
any two layouts get the same findings, whatever texts and places their nodes have, as long as the two
start at the same place. -/
theorem WrittenSwitch.visit_grouped (context : Context) (written : WrittenSwitch)
    (runs : List ClauseRun) (cut : runs.flatMap ClauseRun.clauses = written.clauses) :
    (Conditions.visit context (written.node runs) = Conditions.visit context written.flat ∧
      Branches.visit context (written.node runs) =
        (Branches.visit context written.flat).map fun found =>
          found.map (·.endingAt (written.node runs).stop)) ∧
    ∀ one other : Node, written.Form one → written.Form other → one.start = other.start →
      Conditions.visit context one = Conditions.visit context other ∧
        Branches.visit context one =
          (Branches.visit context other).map fun found => found.map (·.endingAt one.stop) := by
  have form : written.Form (written.node runs) := by
    apply written.form_switchStatement
    rw [← cut]
    exact ClauseRun.layout_nodes runs
  refine ⟨form.visit_eq written.form_flat rfl context, ?_⟩
  intro one other oneForm otherForm start
  exact oneForm.visit_eq otherForm start context

end Written

section TwoCalls

open Node

/-- `case 1: f(); break;`. -/
def callAndBreak : WrittenClause where
  label? := some (number "1")
  statements := [callStatement "f", breakStatement]
  label_plain := by decide
  ungrouped := by simp

/-- `case 1:`. -/
def fallThrough : WrittenClause where
  label? := some (number "1")
  statements := []
  label_plain := by decide
  ungrouped := by simp

/-- `default: f();`. -/
def callByDefault : WrittenClause where
  label? := none
  statements := [callStatement "f"]
  label_plain := by simp
  ungrouped := by
    intro item same
    rw [← (List.cons.inj same).1]
    decide

/-- `switch (x) { case 1: f(); break; case 1: default: f(); }`. -/
def twoCalls : WrittenSwitch where
  subject := identifier "x"
  clauses := [callAndBreak, fallThrough, callByDefault]
  subject_plain := rfl
  subject_ne_caseBlock := by decide

/-- With the first two clauses in one list and the statements of both in lists, the empty clause
still falls through: both rules report. -/
theorem WrittenSwitch.visit_grouped_twoCalls :
    let context : Context := ⟨⟨"a.ts"⟩, none, {}⟩
    let runs : List ClauseRun :=
      [⟨true, [(callAndBreak, true), (fallThrough, true)]⟩, ⟨false, [(callByDefault, false)]⟩]
    runs.flatMap ClauseRun.clauses = twoCalls.clauses ∧
      Conditions.visit context (twoCalls.node runs) =
        some [Conditions.repetition "case" context (number "1") (number "1")] ∧
      Branches.visit context (twoCalls.node runs) =
        some (Branches.statementFinding context (twoCalls.node runs)) := by
  intro context runs
  have cut : runs.flatMap ClauseRun.clauses = twoCalls.clauses := rfl
  have repeated : Conditions.visit context twoCalls.flat =
      some [Conditions.repetition "case" context (number "1") (number "1")] := by decide
  have alike : Branches.visit context twoCalls.flat =
      some (Branches.statementFinding context twoCalls.flat) := by decide
  obtain ⟨⟨conditions, branches⟩, -⟩ := twoCalls.visit_grouped context runs cut
  refine ⟨cut, conditions.trans repeated, ?_⟩
  rw [branches, alike]
  rfl

end TwoCalls

end DuplicateLogic
