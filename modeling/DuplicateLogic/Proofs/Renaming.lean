import DuplicateLogic.Proofs.Correspondence
import DuplicateLogic.Proofs.Equivalence
import DuplicateLogic.Proofs.Reporting
import DuplicateLogic.Syntax.Build

/-! # Renaming and moving code

When names and literals are renamed one-to-one, and whatever else a tree says besides kinds and
arities is changed at will, the rules report the same in the same order. The texts and places that
findings carry come from the tree, and are the same when the places are.

The rules are followed through with a relation of nodes that equivalence cannot tell apart. The
relation takes a proposition with it, under which related nodes also stand at the same place: both
halves of the main statement are one run of the argument. -/

namespace DuplicateLogic

namespace Node

/-- Lists are compared member by member. -/
theorem allEquivalent_eq {R : Node → Node → Prop} {first first' second second' : List Node}
    (each : ∀ node ∈ first, ∀ node' other other' : Node, R node node' → R other other' →
      node.equivalent other = node'.equivalent other')
    (related : List.Forall₂ R first first') (related' : List.Forall₂ R second second') :
    allEquivalent first second = allEquivalent first' second' := by
  induction related generalizing second second' with
  | nil => cases related' <;> rfl
  | @cons node node' _ _ head _ ih =>
      cases related' with
      | nil => rfl
      | @cons other other' _ _ head' tail' =>
          have rest := ih (fun node known => each node (List.mem_cons_of_mem _ known)) tail'
          rw [allEquivalent, allEquivalent, each node (by simp) node' other other' head head',
            rest]

/-- A correspondence that equivalence respects; under `placed`, related nodes start at the same
place. -/
structure Congruence (placed : Prop) (R : Node → Node → Prop) : Prop extends Correspondence R where
  equivalent : ∀ a a' b b' : Node, R a a' → R b b' → a.equivalent b = a'.equivalent b'
  start : placed → ∀ a b : Node, R a b → a.start = b.start

end Node

/-- Findings under the same rule, of the same category and severity; under `placed`, also at the
same place, with the same message and the same reference. -/
structure Finding.Agree (placed : Prop) (finding finding' : Finding) : Prop where
  rule : finding.rule = finding'.rule
  category : finding.category = finding'.category
  severity : finding.severity = finding'.severity
  start : placed → finding.start = finding'.start
  message : placed → finding.message = finding'.message
  related : placed → finding.related? = finding'.related?

namespace Finding

variable {placed : Prop} {R : Node → Node → Prop} (same : Node.Congruence placed R)
include same

theorem about_agree {message message' : String} (id : String) (file file' : Path)
    {anchor anchor' : Node} (related : R anchor anchor')
    (messages : placed → message = message') :
    Agree placed (about message id file anchor) (about message' id file' anchor') where
  rule := rfl
  category := rfl
  severity := rfl
  start := fun holds => same.start holds _ _ related
  message := messages
  related := fun _ => rfl

end Finding

section Lists

variable {α : Type} {S : α → α → Prop} {compare compare' : α → α → Bool}
  (agree : ∀ x x' y y' : α, S x x' → S y y' → compare x y = compare' x' y')
  {items items' : List α} (related : List.Forall₂ S items items')
include agree related

theorem Branches.eachNext_eq : eachNext compare items = eachNext compare' items' := by
  induction related with
  | nil => rfl
  | cons head tail ih =>
      cases tail with
      | nil => rfl
      | cons next rest => rw [eachNext, eachNext, agree _ _ _ _ head next, ih]

theorem Branches.allAlike_eq : allAlike compare items = allAlike compare' items' := by
  rw [allAlike, allAlike, related.length_eq, eachNext_eq agree related]

end Lists

namespace Node.Congruence

variable {placed : Prop} {R : Node → Node → Prop} (same : Congruence placed R)
include same

theorem allEquivalent {first first' second second' : List Node}
    (related : List.Forall₂ R first first') (related' : List.Forall₂ R second second') :
    Node.allEquivalent first second = Node.allEquivalent first' second' :=
  allEquivalent_eq (fun node _ node' => same.equivalent node node') related related'

theorem withoutBreak {items items' : List Node} (related : List.Forall₂ R items items') :
    List.Forall₂ R (Branches.withoutBreak items) (Branches.withoutBreak items') := by
  have last := forall₂_getLast? related
  rw [Branches.withoutBreak, Branches.withoutBreak]
  generalize items.getLast? = final at last
  generalize items'.getLast? = final' at last
  cases last with
  | none => exact related
  | some ends =>
      simp only [same.kind ends]
      split
      · exact forall₂_dropLast related
      · exact related

theorem comparedBodies {clauses clauses' : List Clause}
    (related : List.Forall₂ (Clause.Related R) clauses clauses') :
    List.Forall₂ (List.Forall₂ R) (Branches.comparedBodies clauses)
      (Branches.comparedBodies clauses') := by
  induction related with
  | nil => exact .nil
  | cons head tail ih =>
      have body := same.withoutBreak head.statements
      cases tail with
      | nil => exact .cons body .nil
      | cons next rest =>
          simp only [Branches.comparedBodies, forall₂_isEmpty head.statements]
          split
          · exact ih
          · exact .cons body ih

end Node.Congruence

section Visits

variable {placed : Prop} {R : Node → Node → Prop} (same : Node.Congruence placed R)
  {context context' : Context} (parents : Option.Rel R context.parent? context'.parent?)
  {node node' : Node} (related : R node node')

include same parents in
theorem isChainRoot_eq : context.isChainRoot = context'.isChainRoot := by
  rw [Context.isChainRoot, Context.isChainRoot, Context.isBelow, Context.isBelow,
    rel_any (same.test (· == .construct .ifStatement)) parents]

include same related in
theorem Branches.statementFinding_agree :
    List.Forall₂ (Finding.Agree placed) (statementFinding context node)
      (statementFinding context' node') :=
  .cons (Finding.about_agree same _ _ _ related fun _ => rfl) .nil

include same parents related in
theorem Branches.visitIf_agree :
    Option.Rel (List.Forall₂ (Finding.Agree placed)) (visitIf context node)
      (visitIf context' node') := by
  simp only [visitIf]
  rw [isChainRoot_eq same parents, same.endsWithElse related,
    allAlike_eq same.equivalent (same.branches related)]
  exact rel_ite (statementFinding_agree same related)

include same related in
theorem Branches.visitSwitch_agree :
    Option.Rel (List.Forall₂ (Finding.Agree placed)) (visitSwitch context node)
      (visitSwitch context' node') := by
  apply rel_bind (same.clauses related)
  intro statement statement' clauses
  have default := forall₂_any (p := (·.isDefault)) (q := (·.isDefault))
    (fun clause clause' (parts : Clause.Related R clause clause') => parts.isDefault) clauses
  have alike := allAlike_eq (S := List.Forall₂ R) (fun _ _ _ _ => same.allEquivalent)
    (same.comparedBodies clauses)
  simp only [default, alike]
  exact rel_ite (statementFinding_agree same related)

include same related in
theorem Branches.visitConditional_agree :
    Option.Rel (List.Forall₂ (Finding.Agree placed)) (visitConditional context node)
      (visitConditional context' node') := by
  apply rel_bind (same.conditional related)
  intro expression expression' parts
  apply rel_bind parts.1
  intro whenTrue whenTrue' first
  apply rel_bind parts.2
  intro whenFalse whenFalse' second
  simp only [same.equivalent _ _ _ _ first second]
  exact rel_ite (.cons (Finding.about_agree same _ _ _ related fun _ => rfl) .nil)

include same parents related in
theorem Branches.visit_agree :
    Option.Rel (List.Forall₂ (Finding.Agree placed)) (visit context node)
      (visit context' node') := by
  simp only [visit, same.kind related]
  split
  · exact visitIf_agree same parents related
  · exact visitSwitch_agree same related
  · exact visitConditional_agree same related
  · exact .none

/-- Pairs whose members are related. -/
def PairsRelated (R : Node → Node → Prop) (pair pair' : Node × Node) : Prop :=
  R pair.1 pair'.1 ∧ R pair.2 pair'.2

namespace Conditions

include same in
theorem firstRepeats_related {before before' nodes nodes' : List Node}
    (seen : List.Forall₂ R before before') (related : List.Forall₂ R nodes nodes') :
    List.Forall₂ (PairsRelated R) (firstRepeats before nodes) (firstRepeats before' nodes') := by
  induction related generalizing before before' with
  | nil => exact .nil
  | @cons later later' rest rest' head _ ih =>
      have first := forall₂_find? (p := fun earlier => earlier.equivalent later)
        (q := fun earlier => earlier.equivalent later')
        (fun _ _ related => same.equivalent _ _ _ _ related head) seen
      have others := ih (List.rel_append seen (.cons head .nil))
      rw [firstRepeats, firstRepeats]
      generalize before.find? (fun earlier => earlier.equivalent later) = hit at first
      generalize before'.find? (fun earlier => earlier.equivalent later') = hit' at first
      cases first with
      | none => exact others
      | some earlier => exact .cons ⟨earlier, head⟩ others

include same in
theorem allRepeats_related {before before' nodes nodes' : List Node}
    (seen : List.Forall₂ R before before') (related : List.Forall₂ R nodes nodes') :
    List.Forall₂ (PairsRelated R) (allRepeats before nodes) (allRepeats before' nodes') := by
  induction related generalizing before before' with
  | nil => exact .nil
  | @cons later later' rest rest' head _ ih =>
      have all := forall₂_filter (p := fun earlier => earlier.equivalent later)
        (q := fun earlier => earlier.equivalent later')
        (fun _ _ related => same.equivalent _ _ _ _ related head) seen
      have others := ih (List.rel_append seen (.cons head .nil))
      rw [allRepeats, allRepeats]
      refine List.rel_append (List.rel_map ?_ all) others
      intro earlier earlier' related
      exact ⟨related, head⟩

include same in
theorem repetition_agree (what : String) {earlier earlier' later later' : Node}
    (first : R earlier earlier') (second : R later later') :
    Finding.Agree placed (repetition what context earlier later)
      (repetition what context' earlier' later') where
  rule := rfl
  category := rfl
  severity := rfl
  start := fun holds => same.start holds _ _ second
  message := fun holds => by
    simp only [repetition, Finding.relatedTo, Finding.about, same.start holds _ _ first]
  related := fun holds => by
    simp only [repetition, Finding.relatedTo, same.start holds _ _ first]

include same in
theorem report_agree (what : String) {pairs pairs' : List (Node × Node)}
    (related : List.Forall₂ (PairsRelated R) pairs pairs') :
    Option.Rel (List.Forall₂ (Finding.Agree placed)) (report what context pairs)
      (report what context' pairs') := by
  simp only [report, forall₂_isEmpty related]
  split
  · exact .none
  · refine .some (List.rel_map ?_ related)
    intro pair pair' parts
    exact repetition_agree same what parts.1 parts.2

include same parents related in
theorem visit_agree :
    Option.Rel (List.Forall₂ (Finding.Agree placed)) (visit context node)
      (visit context' node') := by
  simp only [visit, same.kind related]
  split
  · simp only [visitIf, isChainRoot_eq same parents]
    split
    · exact report_agree same _ (firstRepeats_related same .nil (same.conditions related))
    · exact .none
  · apply rel_bind (same.clauses related)
    intro statement statement' clauses
    refine report_agree same _ (allRepeats_related same .nil (List.rel_filterMap ?_ clauses))
    intro clause clause' parts
    exact parts.label
  · exact .none

end Conditions

include same related in
theorem SelfUpdate.visit_agree :
    Option.Rel (List.Forall₂ (Finding.Agree placed)) (visit context node)
      (visit context' node') := by
  apply rel_bind (same.binary related)
  rintro assignment assignment' ⟨left, sign, right⟩
  simp only [same.kind sign]
  split
  · exact .none
  · apply rel_bind (same.postfixUnary right)
    rintro update update' ⟨operand, mark⟩
    simp only [same.equivalent _ _ _ _ left operand, same.kind mark]
    split
    · exact .none
    · cases verdict? update'.sign.kind with
      | none => exact .none
      | some verdict =>
          exact .some (.cons (Finding.about_agree same _ _ _ mark fun _ => rfl) .nil)

include same parents related in
/-- The rules in use report alike at related nodes below related nodes. -/
theorem findings_agree {rule : Rule} (known : rule ∈ duplicateRules) :
    List.Forall₂ (Finding.Agree placed) (rule.findings context node)
      (rule.findings context' node') := by
  rcases mem_duplicateRules_iff.mp known with rfl | rfl | rfl
  · exact rel_getD_nil (Branches.visit_agree same parents related)
  · exact rel_getD_nil (Conditions.visit_agree same parents related)
  · exact rel_getD_nil (SelfUpdate.visit_agree same related)

end Visits

/-- Related trees are walked alike. -/
theorem walk_agree {placed : Prop} {R : Node → Node → Prop} (same : Node.Congruence placed R)
    {root root' : Node} (related : R root root') (file file' : Path)
    (settings settings' : Settings) :
    List.Forall₂ (Finding.Agree placed) (walk root duplicateRules file settings)
      (walk root' duplicateRules file' settings') := by
  rw [walk_of_isStateless root file settings fun _ => isStateless_of_mem_duplicateRules,
    walk_of_isStateless root' file' settings' fun _ => isStateless_of_mem_duplicateRules]
  refine List.rel_flatMap (same.occurrences related) ?_
  intro occurrence occurrence' parts
  simp only [same.kind parts.node]
  apply forall₂_flatMap_same
  intro rule known
  exact findings_agree same parts.parent parts.node (List.mem_of_mem_filter known)

namespace Node

variable {f : String → String}

/-- A node of the same kind with as many children and, where the text counts, with the text
renamed. -/
structure Renamed (f : String → String) (node node' : Node) : Prop where
  kind : node.kind = node'.kind
  arity : node.children.length = node'.children.length
  text : node.children = [] → node.kind.isTextSignificant = true → node'.text = f node.text

/-- A tree with its names and literals renamed and all else but kinds and arities changed at
will. -/
def Renaming (f : String → String) (root root' : Node) : Prop :=
  Throughout (Renamed f) root root'

/-- Whether the nodes at the same address in two trees start at the same place. -/
def SamePlaces (root root' : Node) : Prop :=
  Throughout (fun node node' => node.start = node'.start) root root'

theorem Renamed.meaning? {node node' : Node} (renamed : Renamed f node node') :
    node'.meaning? = node.meaning?.map f := by
  have arity := renamed.arity
  rw [Node.meaning?, Node.meaning?, isToken, isToken, renamed.kind]
  cases leaf : node.children with
  | nil =>
      have leaf' : node'.children = [] := by
        rw [leaf] at arity
        exact List.eq_nil_of_length_eq_zero arity.symm
      by_cases significant : node'.kind.isTextSignificant = true
      · simp [leaf', significant, renamed.text leaf (renamed.kind ▸ significant)]
      · simp [significant]
  | cons first rest =>
      have inner' : node'.children.isEmpty = false := by
        rw [leaf, List.length_cons] at arity
        rw [List.isEmpty_eq_false_iff]
        intro leaf'
        simp [leaf'] at arity
      simp [inner']

/-- A renaming throughout two trees which, under `placed`, leaves all places alone. -/
private def Follows (f : String → String) (placed : Prop) : Node → Node → Prop :=
  Throughout fun node node' => Renamed f node node' ∧ (placed → node.start = node'.start)

private theorem Follows.root {placed : Prop} {a b : Node} (follows : Follows f placed a b) :
    Renamed f a b ∧ (placed → a.start = b.start) :=
  follows [] a b rfl rfl

private theorem Follows.children {placed : Prop} {a b : Node} (follows : Follows f placed a b) :
    List.Forall₂ (Follows f placed) a.children b.children :=
  ((throughout_iff follows.root.1.arity).mp follows).2

/-- One-to-one renamings keep names apart that were apart, so equivalence does not notice them. -/
private theorem Follows.equivalent (injective : Function.Injective f) {placed : Prop}
    {a a' b b' : Node} (first : Follows f placed a a') (second : Follows f placed b b') :
    a.equivalent b = a'.equivalent b' := by
  induction a using Node.induction generalizing a' b b' with
  | step a ih =>
      have below := allEquivalent_eq
        (fun child known _ _ _ related related' => ih child known related related')
        first.children second.children
      have meaning : a.meaning? = b.meaning? ↔ a'.meaning? = b'.meaning? := by
        rw [first.root.1.meaning?, second.root.1.meaning?,
          (Option.map_injective injective).eq_iff]
      rw [Bool.eq_iff_iff, equivalent_iff, equivalent_iff, below, meaning, first.root.1.kind,
        second.root.1.kind]

private theorem congruence_follows (injective : Function.Injective f) (placed : Prop) :
    Congruence placed (Follows f placed) where
  kind follows := follows.root.1.kind
  children follows := follows.children
  equivalent _ _ _ _ first second := first.equivalent injective second
  start holds _ _ follows := follows.root.2 holds

end Node

/-- Renaming names and literals one-to-one, moving nodes and changing any other text leaves the
findings in number and order, with their rules, categories and severities. Where no node is
moved, the places, messages and references stay as well. -/
theorem walk_renaming {f : String → String} (injective : Function.Injective f)
    {root root' : Node} (renamed : Node.Renaming f root root') (file file' : Path)
    (settings settings' : Settings) :
    List.Forall₂
        (fun finding finding' => finding.rule = finding'.rule ∧
          finding.category = finding'.category ∧ finding.severity = finding'.severity)
        (walk root duplicateRules file settings) (walk root' duplicateRules file' settings') ∧
      (Node.SamePlaces root root' →
        List.Forall₂
          (fun finding finding' => finding.start = finding'.start ∧
            finding.message = finding'.message ∧ finding.related? = finding'.related?)
          (walk root duplicateRules file settings)
          (walk root' duplicateRules file' settings')) := by
  have follows : Node.Follows f (Node.SamePlaces root root') root root' := by
    intro address node node' found found'
    exact ⟨renamed address node node' found found',
      fun places => places address node node' found found'⟩
  have agree := walk_agree (Node.congruence_follows injective _) follows file file' settings
    settings'
  constructor
  · exact agree.imp fun _ _ same => ⟨same.rule, same.category, same.severity⟩
  · intro places
    exact agree.imp fun _ _ same => ⟨same.start places, same.message places, same.related places⟩

namespace Node

/-- The assignment `name = name++` with its update sign at a place of its own. -/
def wastedUpdate (name : String) (place : Position) : Node :=
  assign (identifier name)
    (compose (.construct .postfixUnaryExpression)
      [identifier name, { keyword (.operator .plusPlus) with start := place }])

theorem renaming_wastedUpdate (f : String → String) (name : String) (place place' : Position) :
    Renaming f (wastedUpdate name place) (wastedUpdate (f name) place') := by
  have named : Renaming f (identifier name) (identifier (f name)) :=
    .intro ⟨rfl, rfl, fun _ _ => rfl⟩ .nil
  have sign (form : Operator) (text : String) (place place' : Position) :
      Renaming f ⟨.operator form, text, place, []⟩ ⟨.operator form, text, place', []⟩ :=
    .intro ⟨rfl, rfl, fun _ significant => nomatch significant⟩ .nil
  refine .intro ⟨rfl, rfl, fun leaf => nomatch leaf⟩ (.cons named (.cons ?_ (.cons ?_ .nil)))
  · exact sign _ _ _ _
  · exact .intro ⟨rfl, rfl, fun leaf => nomatch leaf⟩ (.cons named (.cons (sign _ _ _ _) .nil))

theorem samePlaces_wastedUpdate (name name' : String) (place : Position) :
    SamePlaces (wastedUpdate name place) (wastedUpdate name' place) := by
  have leaf (kind : Kind) (text text' : String) (start : Position) :
      SamePlaces ⟨kind, text, start, []⟩ ⟨kind, text', start, []⟩ :=
    .intro rfl .nil
  refine .intro rfl (.cons (leaf _ _ _ _) (.cons (leaf _ _ _ _) (.cons ?_ .nil)))
  exact .intro rfl (.cons (leaf _ _ _ _) (.cons (leaf _ _ _ _) .nil))

end Node

/-- The finding in `x = x++` stays when `x` becomes `_x` and the sign moves, and is the same when
the sign stays. -/
theorem walk_renaming_wastedUpdate :
    let findings := walk (Node.wastedUpdate "x" ⟨1, 5⟩) duplicateRules ⟨""⟩ {}
    let moved := walk (Node.wastedUpdate "_x" ⟨2, 4⟩) duplicateRules ⟨""⟩ {}
    let unmoved := walk (Node.wastedUpdate "_x" ⟨1, 5⟩) duplicateRules ⟨""⟩ {}
    findings.length = 1 ∧
      List.Forall₂
        (fun finding finding' => finding.rule = finding'.rule ∧
          finding.category = finding'.category ∧ finding.severity = finding'.severity)
        findings moved ∧
      List.Forall₂
        (fun finding finding' => finding.start = finding'.start ∧
          finding.message = finding'.message ∧ finding.related? = finding'.related?)
        findings unmoved := by
  have injective : Function.Injective ("_" ++ ·) := fun _ _ => (String.append_right_inj "_").mp
  refine ⟨by decide, ?_, ?_⟩
  · exact (walk_renaming injective (Node.renaming_wastedUpdate _ "x" _ _) _ _ _ _).1
  · exact (walk_renaming injective (Node.renaming_wastedUpdate _ "x" _ _) _ _ _ _).2
      (Node.samePlaces_wastedUpdate _ _ _)

end DuplicateLogic
