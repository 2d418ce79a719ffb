import DuplicateLogic.Proofs.Analysis
import DuplicateLogic.Proofs.TextLines
import DuplicateLogic.Proofs.TreeText
import DuplicateLogic.Report.Text
import DuplicateLogic.Syntax.Build

/-! # What every finding is like

Whatever tree is walked, a finding names a rule of the catalogue with the category and severity
that the catalogue gives, and it covers a node of the tree from its start to its end. Findings
about repeated conditions, and no others, refer to a second node: an earlier one that is the same
code. As every finding is of one of the two categories of the catalogue, the counts by category in
the summary add up.

A finding ends where it starts or later, unless its node reaches past the last line or column that
a counter can show: then the counter starts again from zero, and the end is shown before the
start. -/

namespace DuplicateLogic

namespace Position

/-- Whether a place is not behind another: on an earlier line, or on the same line and in no later
column. -/
def AtMost (first second : Position) : Prop :=
  first.line < second.line ∨ (first.line = second.line ∧ first.column ≤ second.column)

instance (first second : Position) : Decidable (first.AtMost second) :=
  inferInstanceAs (Decidable (_ ∨ _))

theorem lastLineLength_le (text : List Char) : lastLineLength text ≤ text.length := by
  have taken := (List.takeWhile_sublist (fun c => decide (c ≠ '\n')) (l := text.reverse)).length_le
  rwa [List.length_reverse] at taken

/-- A text is shown to end where it starts or later exactly when the counters hold its end. A
counter goes round once at most, as no text has more characters than a counter has values. -/
theorem atMost_past_iff {start : Position} (fits : start.FitsWords) {text : String}
    (short : text.toList.length < word) :
    start.AtMost (start.past text) ↔ (start.advance text).FitsWords := by
  obtain ⟨line, column⟩ := fits
  unfold past advance
  by_cases newline : '\n' ∈ text.toList
  · have counted : 0 < text.toList.count '\n' := List.count_pos_iff.mpr newline
    have fewer : text.toList.count '\n' ≤ text.toList.length := List.count_le_length
    have last := lastLineLength_le text.toList
    simp only [if_pos newline, wrap, AtMost, FitsWords, Json.maxWord, word] at *
    omega
  · simp only [if_neg newline, wrap, AtMost, FitsWords, Json.maxWord, word] at *
    omega

end Position

/-- Every rule of the catalogue is found under its identifier. -/
theorem RuleId.ofText?_text (id : RuleId) : RuleId.ofText? id.text = some id := by
  cases id <;> decide

theorem RuleId.text_injective : Function.Injective RuleId.text := by
  intro first second same
  have found := first.ofText?_text
  rw [same, second.ofText?_text] at found
  exact (Option.some.inj found).symm

/-- Whether a finding refers, if to anything, to an occurrence that is before another and is the
same code, and whose line the message names. -/
def Finding.RefersBack (finding : Finding) (root : Node) (anchor : Occurrence) : Prop :=
  ∀ related, finding.related? = some related →
    ∃ original ∈ root.occurrences, original.address < anchor.address ∧
      original.node.equivalent anchor.node = true ∧ related.place = original.node.start ∧
        ∃ what, (what = "branch" ∨ what = "case") ∧ finding.message =
          "This " ++ what ++ " duplicates the one on line " ++ toString related.place.line

/-- What is true of a finding about an occurrence: it covers the occurrence, it ends where it starts
or later as far as the counters go, and what it refers to is before the occurrence. -/
structure Finding.AnchoredAt (finding : Finding) (root : Node) (anchor : Occurrence) : Prop where
  start_eq : finding.start = anchor.node.start
  stop_eq : finding.stop = anchor.node.stop
  ordered_iff : anchor.node.start.FitsWords → anchor.node.text.toList.length < Position.word →
    (finding.start.AtMost finding.stop ↔
      (anchor.node.start.advance anchor.node.text).FitsWords)
  refersBack : finding.RefersBack root anchor

/-- What is true of a finding of a walk: a rule made it that declares its identifier, the
catalogue knows the identifier and gives the category and the severity, the finding is about the
file and covers a node of the tree, and it refers to another node exactly when it is about a
repetition. -/
structure Finding.WellFormed (finding : Finding) (root : Node) (rules : List Rule) (file : Path)
    (settings : Settings) : Prop where
  produced : ∃ rule ∈ rules, ∃ visited ∈ root.occurrences,
    rule.wants visited.node.kind = true ∧
      finding ∈ rule.findings ⟨file, visited.parent?, settings⟩ visited.node ∧
        finding.rule ∈ rule.ids
  catalogued : ∃ id, RuleId.ofText? finding.rule = some id ∧
    finding.category = id.category.text ∧ finding.severity = id.severity.text
  file_eq : finding.file = file
  related_iff : finding.related?.isSome = true ↔ finding.rule = RuleId.duplicatedCondition.text
  anchored : ∃ anchor ∈ root.occurrences, finding.AnchoredAt root anchor

namespace Finding

theorem RefersBack.anchoredAt {finding : Finding} {root : Node} {anchor : Occurrence}
    (back : finding.RefersBack root anchor) (start : finding.start = anchor.node.start)
    (stop : finding.stop = anchor.node.stop) : finding.AnchoredAt root anchor where
  start_eq := start
  stop_eq := stop
  ordered_iff fits short := by
    rw [start, stop]
    exact Position.atMost_past_iff fits short
  refersBack := back

theorem ReportedAt.catalogued {context : Context} {node : Node} {finding : Finding}
    (reported : finding.ReportedAt context node) :
    ∃ id, RuleId.ofText? finding.rule = some id ∧ finding.category = id.category.text ∧
      finding.severity = id.severity.text := by
  cases reported with
  | @single message id anchor _ _ =>
      refine ⟨id, id.ofText?_text, ?_⟩
      simp [about, id.ofText?_text]
  | repetition _ _ _ =>
      refine ⟨.duplicatedCondition, RuleId.duplicatedCondition.ofText?_text, ?_⟩
      simp [Conditions.repetition, about, relatedTo, RuleId.ofText?_text]

theorem ReportedAt.related_iff {context : Context} {node : Node} {finding : Finding}
    (reported : finding.ReportedAt context node) :
    finding.related?.isSome = true ↔ finding.rule = RuleId.duplicatedCondition.text := by
  cases reported with
  | single _ other =>
      exact ⟨nofun, fun same => absurd (RuleId.text_injective same) other⟩
  | repetition _ _ _ => exact ⟨fun _ => rfl, fun _ => rfl⟩

/-- What is reported at an occurrence covers an occurrence in the tree, and what it refers to is
an occurrence before that one. -/
theorem ReportedAt.anchored {root : Node} {visited : Occurrence}
    (known : visited ∈ root.occurrences) {context : Context} {finding : Finding}
    (reported : finding.ReportedAt context visited.node) :
    ∃ anchor ∈ root.occurrences, finding.AnchoredAt root anchor := by
  have inTree := Node.preorder_isInfix known
  cases reported with
  | @single message id node inside _ =>
      obtain ⟨anchor, listed, rfl⟩ := List.mem_map.mp
        (inTree.subset (Node.mem_preorder_iff.mpr inside))
      have back : (about message id.text context.file anchor.node).RefersBack root anchor := nofun
      exact ⟨anchor, listed, back.anchoredAt rfl rfl⟩
  | @repetition what earlier later noun ordered same =>
      obtain ⟨original, originalIn, anchor, anchorIn, rfl, rfl, before⟩ :=
        Node.exists_occurrences_of_pair (ordered.trans inTree.sublist)
      refine ⟨anchor, anchorIn, RefersBack.anchoredAt ?_ rfl rfl⟩
      rintro related ⟨⟩
      exact ⟨original, originalIn, before, same, rfl, what, noun, rfl⟩

end Finding

theorem wellFormed_of_mem_walk {root : Node} {rules : List Rule} {file : Path}
    {settings : Settings} (used : ∀ rule ∈ rules, rule ∈ duplicateRules) {finding : Finding}
    (found : finding ∈ walk root rules file settings) :
    finding.WellFormed root rules file settings := by
  obtain ⟨visited, known, rule, listed, wanted, made⟩ := (mem_walk_iff used).mp found
  have reported := reportedAt_of_mem_findings (used rule listed) made
  have declared := declares_of_mem_duplicateRules (used rule listed) _ _ finding made
  exact {
    produced := ⟨rule, listed, visited, known, wanted, made, declared⟩
    catalogued := reported.catalogued
    file_eq := reported.standsIn.file_eq
    related_iff := reported.related_iff
    anchored := reported.anchored known }

section Counts

/-- Findings of the two categories of the catalogue are counted once each. -/
theorem Report.countCategory_add {findings : List Finding}
    (known : ∀ finding ∈ findings, ∃ category : Category, finding.category = category.text) :
    countCategory .bug findings + countCategory .codeSmell findings = findings.length := by
  have apart : ∀ finding ∈ findings,
      (finding.category == Category.codeSmell.text) = !(finding.category == Category.bug.text) := by
    intro finding listed
    obtain ⟨category, same⟩ := known finding listed
    rw [same]
    cases category <;> decide
  rw [countCategory, countCategory, List.filter_congr apart]
  exact (List.length_eq_length_filter_add _).symm

/-- The findings of an analysis are of the categories of the catalogue. -/
theorem Analyzer.category_of_mem_findings {analyzer : Analyzer} {system : FileSystem}
    {paths : List Path} {finding : Finding}
    (found : finding ∈ (analyzer.analyzePaths system paths).findings) :
    ∃ category : Category, finding.category = category.text := by
  rw [analyzePaths_eq] at found
  obtain ⟨file, -, found⟩ := List.mem_flatMap.mp found
  obtain ⟨root, -, reported⟩ := mem_walk_of_mem_findingsIn found
  have used : ∀ rule ∈ enabledRules analyzer.settings, rule ∈ duplicateRules :=
    fun _ known => List.mem_of_mem_filter known
  obtain ⟨id, -, category, -⟩ := (wellFormed_of_mem_walk used reported).catalogued
  exact ⟨id.category, category⟩

end Counts

section Repeated

open Node

/-- `switch (x) { case 1: case 1: }`. -/
def repeatedLabel : Node :=
  switchStatement (identifier "x") [caseClause (number "1") [], caseClause (number "1") []]

end Repeated

section FarUpdate

open Node

/-- `a = a++` so far to the right that its second sign is in the last column there is. -/
def farUpdate : Node :=
  let increment := (keyword (.operator .plusPlus)).placedAt 1 18446744073709551615
  let operand := (identifier "a").placedAt 1 18446744073709551614
  let update : Node := ⟨.construct .postfixUnaryExpression, "a++", operand.start,
    [operand, increment]⟩
  let target := (identifier "a").placedAt 1 18446744073709551610
  let sign := (keyword (.operator .equals)).placedAt 1 18446744073709551612
  ⟨.construct .binaryExpression, "a = a++", target.start, [target, sign, update]⟩

end FarUpdate

end DuplicateLogic
