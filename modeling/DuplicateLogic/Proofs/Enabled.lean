import DuplicateLogic.Analyzer
import DuplicateLogic.Proofs.Reporting

/-! # Leaving rules out

A rule that can report only what is off is left out before the walk. Findings of rules that are
off are dropped after the walk in any case, so leaving the rule out changes nothing: every finding
carries an identifier that its rule declares, and without a rule the findings of the others keep
their order. -/

namespace DuplicateLogic

/-- Elements without an image can be left out before the images are taken. -/
theorem flatMap_filter_of_nil {α : Type _} {β : Type _} {kept : α → Bool}
    {image : α → List β} {items : List α}
    (empty : ∀ item ∈ items, kept item = false → image item = []) :
    (items.filter kept).flatMap image = items.flatMap image := by
  induction items with
  | nil => rfl
  | cons item rest ih =>
      have step := ih fun item known => empty item (List.mem_cons_of_mem _ known)
      rw [List.flatMap_cons, ← step, List.filter_cons]
      by_cases keep : kept item = true
      · rw [if_pos keep, List.flatMap_cons]
      · rw [if_neg keep, empty item (by simp) (Bool.eq_false_iff.mpr keep), List.nil_append]

/-- A rule whose identifiers are all off reports nothing that is kept. -/
theorem Rule.filter_findings_eq_nil {rule : Rule} (declares : rule.Declares)
    {off : String → Bool} {keeps : Finding → Bool}
    (drops : ∀ finding, off finding.rule = true → keeps finding = false)
    (useless : rule.ids.all off = true) (context : Context) (node : Node) :
    (rule.findings context node).filter keeps = [] := by
  rw [List.filter_eq_nil_iff]
  intro finding reported
  have disabled := List.all_eq_true.mp useless _ (declares context node finding reported)
  simp [drops finding disabled]

/-- Before findings of rules that are off are dropped, a walk may leave out the rules that can
report nothing else. -/
theorem filter_walk_filter {rules : List Rule} (constant : ∀ rule ∈ rules, rule.IsStateless)
    (declares : ∀ rule ∈ rules, rule.Declares) {off : String → Bool} {keeps : Finding → Bool}
    (drops : ∀ finding, off finding.rule = true → keeps finding = false)
    (root : Node) (file : Path) (settings : Settings) :
    (walk root (rules.filter fun rule => !rule.ids.all off) file settings).filter keeps =
      (walk root rules file settings).filter keeps := by
  have constant' : ∀ rule ∈ rules.filter fun rule => !rule.ids.all off, rule.IsStateless :=
    fun rule known => constant rule (List.mem_of_mem_filter known)
  rw [walk_of_isStateless root file settings constant,
    walk_of_isStateless root file settings constant', List.filter_flatMap, List.filter_flatMap]
  refine congrArg (List.flatMap · root.occurrences) ?_
  funext occurrence
  -- at one occurrence: first who wants the node, then who is left in
  have swapped : ((rules.filter fun rule => !rule.ids.all off).filter
      (·.wants occurrence.node.kind)) =
        (rules.filter (·.wants occurrence.node.kind)).filter fun rule => !rule.ids.all off := by
    simp only [List.filter_filter, Bool.and_comm]
  rw [swapped, List.filter_flatMap, List.filter_flatMap]
  apply flatMap_filter_of_nil
  intro rule known useless
  have known := List.mem_of_mem_filter known
  exact Rule.filter_findings_eq_nil (declares rule known) drops (by simpa using useless) _ _

/-- A rule is on when no listed entry is its identifier, blanks around the entry apart. -/
theorem Settings.not_isDisabled (settings : Settings) (rule : String) :
    (!settings.isDisabled rule) =
      decide (∀ entry ∈ settings.ignore?.getD [], Text.trim entry ≠ rule) := by
  rw [Bool.eq_iff_iff, decide_eq_true_iff]
  simp [isDisabled]

namespace Analyzer

/-- The findings in a tree are what is kept of those that all rules report in it. -/
theorem analyzeTree_eq_filter_keeps (analyzer : Analyzer) (root : Node) (path : Path) :
    analyzer.analyzeTree root path =
      (walk root duplicateRules path analyzer.settings).filter
        (analyzer.keeps (Suppression.lines root.text) path) := by
  apply filter_walk_filter (fun _ => isStateless_of_mem_duplicateRules)
    (fun _ => declares_of_mem_duplicateRules)
  intro finding disabled
  simp [keeps, disabled]

/-- The findings in a tree are those that all rules report in it, without those whose rule is
listed as off, those that are off for the file and those that are silenced on their line. -/
theorem analyzeTree_eq_filter_walk (analyzer : Analyzer) (root : Node) (path : Path) :
    analyzer.analyzeTree root path =
      (walk root duplicateRules path analyzer.settings).filter fun finding =>
        decide (∀ entry ∈ analyzer.settings.ignore?.getD [], Text.trim entry ≠ finding.rule) &&
          !analyzer.isIgnoredFor path finding.rule &&
          !Suppression.isSuppressed (Suppression.lines root.text) finding.start.line
            finding.rule := by
  have drops : ∀ finding : Finding, analyzer.settings.isDisabled finding.rule = true →
      analyzer.keeps (Suppression.lines root.text) path finding = false := by
    intro finding disabled
    simp [keeps, disabled]
  have pruned := filter_walk_filter (fun _ => isStateless_of_mem_duplicateRules)
    (fun _ => declares_of_mem_duplicateRules) drops root path analyzer.settings
  rw [analyzeTree, enabledRules, pruned]
  refine congrArg (List.filter · _) ?_
  funext finding
  rw [keeps, Settings.not_isDisabled]

end Analyzer

end DuplicateLogic
