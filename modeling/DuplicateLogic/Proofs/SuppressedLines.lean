import DuplicateLogic.Analyzer
import DuplicateLogic.Proofs.Anchors
import DuplicateLogic.Proofs.Comments
import DuplicateLogic.Proofs.TextLines
import DuplicateLogic.Syntax.Build

/-! # Suppressed lines

A comment in a source text silences rules on its line. Which line that is, is counted from the
start of the root's text, while the places of nodes are counted from the place of the root. So a
finding is dropped for a comment on its own line when the root starts on the first line, and for a
comment further down when it starts later. -/

namespace DuplicateLogic

namespace Suppression

/-- What numbered lines say is found under their numbers. -/
private theorem lookup_numbered (read? : List Char → Option Suppression)
    (lines : List (List Char)) (start number : Nat) :
    ((lines.zipIdx start).filterMap fun (line, number) =>
        (read? line).map fun suppression => (number, suppression)).lookup number =
      if number < start then none else lines[number - start]?.bind read? := by
  induction lines generalizing start with
  | nil => simp
  | cons line rest ih =>
      have rest' := ih (start + 1)
      rw [List.zipIdx_cons, List.filterMap_cons]
      dsimp only
      by_cases here : number = start
      · subst here
        cases read : read? line with
        | none => simpa [read] using rest'
        | some suppression => simp [read]
      · have later : (if number < start + 1 then none else rest[number - (start + 1)]?.bind read?) =
            if number < start then none else (line :: rest)[number - start]?.bind read? := by
          rcases Nat.lt_or_gt_of_ne here with above | below
          · rw [if_pos above, if_pos (Nat.lt_succ_of_lt above)]
          · rw [if_neg (Nat.not_lt_of_gt below), if_neg (Nat.not_lt.mpr below),
              show number - start = number - (start + 1) + 1 by omega, List.getElem?_cons_succ]
        rw [← later, ← rest']
        cases read? line with
        | none => rfl
        | some suppression =>
            rw [Option.map_some, List.lookup_cons, beq_eq_false_iff_ne.mpr here]

/-- What is found under a number is read from the part of the source between newlines that has this
number, counted from one. -/
theorem lookup_lines {number : Nat} (counted : 1 ≤ number) (source : String) :
    (lines source).lookup number =
      (Text.splitOn '\n' source.toList)[number - 1]?.bind ofLine? := by
  rw [lines, lookup_numbered, if_neg (Nat.not_lt.mpr counted)]
  exact Text.bind_getElem?_lines rfl ofLine?_dropReturn _ _

theorem lookup_lines_zero (source : String) : (lines source).lookup 0 = none := by
  rw [lines, lookup_numbered, if_pos Nat.zero_lt_one]

/-- A rule is silenced on the line with a number when the part of the source between newlines that
has this number, counted from one, silences it. -/
theorem isSuppressed_iff {source rule : String} {number : Nat} (counted : 1 ≤ number) :
    isSuppressed (lines source) number rule = true ↔
      ∃ line, (Text.splitOn '\n' source.toList)[number - 1]? = some line ∧ Silences line rule := by
  simp only [silences_iff]
  rw [isSuppressed, lookup_lines counted]
  cases (Text.splitOn '\n' source.toList)[number - 1]? with
  | none => simp
  | some line => cases read : ofLine? line <;> simp [read]

end Suppression

namespace Node

/-- Whether a place in the source of a tree lies between a front and a back of the root's text. -/
structure CutAt (root : Node) (place : Position) (front back : List Char) : Prop where
  parts : root.text.toList = front ++ back
  place_eq : place = root.start.advance (String.ofList front)

/-- Whether every node of a tree stands where some front of the root's text leads to from the
place of the root. -/
structure FollowsText (root : Node) : Prop where
  line_pos : 1 ≤ root.start.line
  placed : root.Everywhere fun node => ∃ front back, root.CutAt node.start front back

end Node

/-- Whether no rule is off, neither everywhere nor in some files. -/
structure Analyzer.IgnoresNothing (analyzer : Analyzer) : Prop where
  everywhere : analyzer.settings.ignore?.getD [] = []
  inFiles : analyzer.fileIgnores = []

namespace Analyzer

variable {analyzer : Analyzer} {root : Node} {file : Path} {finding : Finding}

/-- Without ignores only a comment drops a finding. -/
theorem not_mem_analyzeTree_iff (ignores : analyzer.IgnoresNothing)
    (reported : finding ∈ walk root (enabledRules analyzer.settings) file analyzer.settings) :
    finding ∉ analyzer.analyzeTree root file ↔
      Suppression.isSuppressed (Suppression.lines root.text) finding.start.line finding.rule =
        true := by
  have kept : analyzer.keeps (Suppression.lines root.text) file finding =
      !Suppression.isSuppressed (Suppression.lines root.text) finding.start.line finding.rule := by
    simp [keeps, Settings.isDisabled, isIgnoredFor, ignores.everywhere, ignores.inFiles]
  rw [analyzeTree, List.mem_filter, kept]
  simp [reported]

/-- Without ignores, a finding in a tree whose places follow its text is dropped when the line of
the text silences its rule that is as many lines below the finding's own as the root is below the
first line. In a tree that starts on the first line this is the finding's own line. -/
theorem analyzeTree_drops_iff (ignores : analyzer.IgnoresNothing) (follows : root.FollowsText)
    (reported : finding ∈ walk root (enabledRules analyzer.settings) file analyzer.settings) :
    (∃ front back, root.CutAt finding.start front back) ∧
      ∀ front back, root.CutAt finding.start front back →
        (finding ∉ analyzer.analyzeTree root file ↔
          ∃ line, (Text.splitOn '\n' root.text.toList)[front.count '\n' + (root.start.line - 1)]? =
            some line ∧ Suppression.Silences line finding.rule) ∧
        (root.start.line = 1 →
          (finding ∉ analyzer.analyzeTree root file ↔
            Suppression.Silences (Text.partAround '\n' front back) finding.rule)) := by
  have used : ∀ rule ∈ enabledRules analyzer.settings, rule ∈ duplicateRules :=
    fun _ known => List.mem_of_mem_filter known
  obtain ⟨node, inside, start, -⟩ := (standsIn_of_mem_walk used reported).covers
  obtain ⟨occurrence, known, rfl⟩ := Node.occurs_iff.mp inside
  constructor
  · rw [start]
    exact follows.placed occurrence known
  intro front back cut
  have line : finding.start.line = root.start.line + front.count '\n' := by
    rw [cut.place_eq, Position.line_advance, String.toList_ofList]
  have counted : 1 ≤ finding.start.line := by
    rw [line]
    exact Nat.le_add_right_of_le follows.line_pos
  have index : finding.start.line - 1 = front.count '\n' + (root.start.line - 1) := by
    have := follows.line_pos
    omega
  have drops :=
    (not_mem_analyzeTree_iff ignores reported).trans (Suppression.isSuppressed_iff counted)
  rw [index] at drops
  refine ⟨drops, ?_⟩
  intro first
  have own : (Text.splitOn '\n' root.text.toList)[front.count '\n']? =
      some (Text.partAround '\n' front back) := by
    rw [cut.parts]
    exact Text.getElem?_splitOn_append front back
  rw [first, Nat.sub_self, Nat.add_zero, own] at drops
  simpa using drops

end Analyzer

section IgnoredUpdate

open Node

/-- `a = a++; // dupscan-ignore` as a file that starts on a line. -/
def ignoredUpdate (line : Nat) : Node :=
  let target := (identifier "a").placedAt line 0
  let sign := (keyword (.operator .equals)).placedAt line 2
  let operand := (identifier "a").placedAt line 4
  let increment := (keyword (.operator .plusPlus)).placedAt line 5
  let update : Node :=
    ⟨.construct .postfixUnaryExpression, "a++", ⟨line, 4⟩, [operand, increment]⟩
  let assignment : Node :=
    ⟨.construct .binaryExpression, "a = a++", ⟨line, 0⟩, [target, sign, update]⟩
  let statement : Node :=
    ⟨.construct .expressionStatement, "a = a++;", ⟨line, 0⟩,
      [assignment, (mark .semicolon).placedAt line 7]⟩
  ⟨.construct .sourceFile, "a = a++; // dupscan-ignore", ⟨line, 0⟩, [statement]⟩

/-- The finding in it: the increment is wasted. -/
def ignoredUpdateFinding (line : Nat) : Finding :=
  Finding.about "Remove this increment or correct the code not to waste it."
    RuleId.uselessSelfIncrement.text ⟨"a.ts"⟩ ((keyword (.operator .plusPlus)).placedAt line 5)

theorem ignoredUpdate_cutAt (line : Nat) {column : Nat} (short : column ≤ 26) :
    (ignoredUpdate line).CutAt ⟨line, column⟩ ("a = a++; // dupscan-ignore".toList.take column)
      ("a = a++; // dupscan-ignore".toList.drop column) := by
  have noNewline : '\n' ∉ "a = a++; // dupscan-ignore".toList.take column := by
    intro inside
    exact absurd (List.mem_of_mem_take inside) (by decide)
  have length : ("a = a++; // dupscan-ignore".toList.take column).length = column := by
    rw [List.length_take]
    exact Nat.min_eq_left short
  refine ⟨(List.take_append_drop column _).symm, ?_⟩
  simp only [Position.advance, String.toList_ofList, if_neg noNewline, length]
  rw [show (ignoredUpdate line).start = ⟨line, 0⟩ from rfl, Nat.zero_add]

theorem ignoredUpdate_followsText {line : Nat} (pos : 1 ≤ line) :
    (ignoredUpdate line).FollowsText := by
  have starts : (ignoredUpdate line).occurrences.map (·.node.start) =
      [0, 0, 0, 0, 2, 4, 4, 5, 7].map (Position.mk line) := rfl
  refine ⟨pos, ?_⟩
  intro occurrence known
  have listed : occurrence.node.start ∈ [0, 0, 0, 0, 2, 4, 4, 5, 7].map (Position.mk line) := by
    rw [← starts]
    exact List.mem_map_of_mem known
  obtain ⟨column, inside, same⟩ := List.mem_map.mp listed
  have short : ∀ column ∈ [0, 0, 0, 0, 2, 4, 4, 5, 7], column ≤ 26 := by decide
  rw [← same]
  exact ⟨_, _, ignoredUpdate_cutAt line (short column inside)⟩

/-- On the first line the comment drops the finding next to it. -/
theorem analyzeTree_drops_iff_firstLine :
    ignoredUpdateFinding 1 ∈ walk (ignoredUpdate 1) (enabledRules {}) ⟨"a.ts"⟩ {} ∧
      ignoredUpdateFinding 1 ∉ Analyzer.default.analyzeTree (ignoredUpdate 1) ⟨"a.ts"⟩ := by
  have ignores : Analyzer.default.IgnoresNothing := ⟨rfl, rfl⟩
  have reported : ignoredUpdateFinding 1 ∈
      walk (ignoredUpdate 1) (enabledRules {}) ⟨"a.ts"⟩ {} := by decide
  have follows := ignoredUpdate_followsText (Nat.le_refl 1)
  have cut := ignoredUpdate_cutAt 1 (show 5 ≤ 26 by decide)
  have silenced : Suppression.Silences
      (Text.partAround '\n' ("a = a++; // dupscan-ignore".toList.take 5)
        ("a = a++; // dupscan-ignore".toList.drop 5)) (ignoredUpdateFinding 1).rule :=
    Suppression.silences_iff.mpr ⟨.all, by decide, rfl⟩
  have drops := (Analyzer.analyzeTree_drops_iff ignores follows reported).2 _ _ cut
  exact ⟨reported, (drops.2 rfl).mpr silenced⟩

/-- On the second line it does not. -/
theorem ignoredUpdate_secondLine :
    Analyzer.default.IgnoresNothing ∧ (ignoredUpdate 2).FollowsText ∧
      ignoredUpdateFinding 2 ∈ walk (ignoredUpdate 2) (enabledRules {}) ⟨"a.ts"⟩ {} ∧
      ∃ front back, (ignoredUpdate 2).CutAt (ignoredUpdateFinding 2).start front back ∧
        Suppression.Silences (Text.partAround '\n' front back) (ignoredUpdateFinding 2).rule ∧
        ignoredUpdateFinding 2 ∈ Analyzer.default.analyzeTree (ignoredUpdate 2) ⟨"a.ts"⟩ := by
  refine ⟨⟨rfl, rfl⟩, ignoredUpdate_followsText (by decide), by decide, ?_⟩
  refine ⟨_, _, ignoredUpdate_cutAt 2 (show 5 ≤ 26 by decide), ?_, by decide⟩
  exact Suppression.silences_iff.mpr ⟨.all, by decide, rfl⟩

end IgnoredUpdate

end DuplicateLogic
