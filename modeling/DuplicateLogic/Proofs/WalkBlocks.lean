import DuplicateLogic.Proofs.Chains
import DuplicateLogic.Proofs.Reporting
import DuplicateLogic.Proofs.Subtree

/-! # Walks of a tree and of its parts

The occurrences in a part of a tree follow each other in the walk, so what the walk emits while it
is inside the part is one block of the findings. A walk of the part on its own shows the rules the
same nodes, and below the topmost one also with the same nodes above them. The rules in use ask
only whether an `if` stands right below an `if`; so the topmost node is the only one that they can
judge differently, and only when it is such an `if`: on its own it starts a chain. -/

namespace DuplicateLogic

namespace Walk

/-- Whether a walk emits a block of findings while it is at the occurrences that some condition
chooses: they follow each other in the walk, and the block is what the calls at them report, from
the states in which the calls before leave the rules. -/
def Emits (root : Node) (rules : List Rule) (file : Path) (settings : Settings)
    (chosen : Occurrence → Prop) (block : List Finding) : Prop :=
  ∃ (before inside after : List Occurrence) (front back : List Finding)
      (entered left last : List Rule),
    root.occurrences = before ++ (inside ++ after) ∧
    (∀ occurrence ∈ root.occurrences, occurrence ∈ inside ↔ chosen occurrence) ∧
    Run file settings rules (callsAmong rules before) front entered ∧
    Run file settings entered (callsAmong rules inside) block left ∧
    Run file settings left (callsAmong rules after) back last ∧
    walk root rules file settings = front ++ (block ++ back)

section Blocks

variable {root : Node} {rules : List Rule} (file : Path) (settings : Settings)
  (constant : ∀ rule ∈ rules, rule.IsStateless)
include constant

/-- A walk emits one block at occurrences that follow each other: without states, what the rules
report at each of them. -/
theorem emits_of_isInfix {inside : List Occurrence} (block : inside <:+: root.occurrences) :
    Emits root rules file settings (· ∈ inside) (inside.flatMap (reportsAt rules file settings)) := by
  obtain ⟨before, after, listed⟩ := block
  rw [List.append_assoc] at listed
  have whole := run_walk root rules file settings
  have asked : calls rules root = callsAmong rules before ++
      (callsAmong rules inside ++ callsAmong rules after) := by
    simp only [calls, callsAmong, ← listed, List.flatMap_append]
  rw [asked] at whole
  obtain ⟨front, later, entered, earlier, whole, emitted⟩ := whole.split
  obtain ⟨found, back, left, here, further, rfl⟩ := whole.split
  obtain rfl := earlier.last_eq constant
  obtain rfl := here.eq_flatMap_reportsAt constant
  exact ⟨before, inside, after, front, back, entered, left, _, listed.symm,
    fun _ _ => Iff.rfl, earlier, here, further, emitted⟩

end Blocks

theorem Emits.congr {root : Node} {rules : List Rule} {file : Path} {settings : Settings}
    {chosen chosen' : Occurrence → Prop} {block : List Finding}
    (emits : Emits root rules file settings chosen block)
    (same : ∀ occurrence ∈ root.occurrences, chosen occurrence ↔ chosen' occurrence) :
    Emits root rules file settings chosen' block := by
  obtain ⟨before, inside, after, front, back, entered, left, last, listed, exactly, runs⟩ := emits
  refine ⟨before, inside, after, front, back, entered, left, last, listed, ?_, runs⟩
  intro occurrence known
  exact (exactly occurrence known).trans (same occurrence known)

section Reports

variable (rules : List Rule) (file : Path) (settings : Settings)

/-- What rules report in a tree whose root stands below another node. -/
def reportsIn (parent? : Option Node) (node : Node) : List Finding :=
  (node.occurrencesFrom [] parent?).flatMap (reportsAt rules file settings)

/-- Rules do not see where in the tree a node stands. -/
theorem flatMap_reportsAt_occurrencesFrom (address : Address) (parent? : Option Node)
    (node : Node) :
    (node.occurrencesFrom address parent?).flatMap (reportsAt rules file settings) =
      reportsIn rules file settings parent? node := by
  have moved := node.occurrencesFrom_under address [] parent?
  rw [List.append_nil] at moved
  rw [moved, List.flatMap_map]
  rfl

theorem flatMap_reportsAt_occurrencesBelow (address : Address) (parent : Node) (index : Nat)
    (children : List Node) :
    (Node.occurrencesBelow address parent index children).flatMap
        (reportsAt rules file settings) =
      children.flatMap (reportsIn rules file settings (some parent)) := by
  induction children generalizing index with
  | nil => rfl
  | cons child rest ih =>
      rw [Node.occurrencesBelow, List.flatMap_append, flatMap_reportsAt_occurrencesFrom, ih,
        List.flatMap_cons]

/-- What is reported in a tree is what is reported at the root and then in each child. -/
theorem reportsIn_eq (parent? : Option Node) (node : Node) :
    reportsIn rules file settings parent? node =
      reportsAt rules file settings ⟨[], parent?, node⟩ ++
        node.children.flatMap (reportsIn rules file settings (some node)) := by
  rw [reportsIn, Node.occurrencesFrom_eq, List.flatMap_cons, flatMap_reportsAt_occurrencesBelow]

end Reports

end Walk

section Context

variable {context other : Context} {node : Node} (sameFile : context.file = other.file)
  (sameRoot : node.kind = .construct .ifStatement → context.isChainRoot = other.isChainRoot)

include sameFile sameRoot

theorem Branches.visit_congr_context : visit context node = visit other node := by
  unfold visit
  split
  next isIf => simp only [visitIf, statementFinding, sameFile, sameRoot isIf]
  · simp only [visitSwitch, statementFinding, sameFile]
  · simp only [visitConditional, sameFile]
  · rfl

theorem Conditions.visit_congr_context : visit context node = visit other node := by
  unfold visit
  split
  next isIf => simp only [visitIf, report, repetition, sameFile, sameRoot isIf]
  · simp only [visitSwitch, report, repetition, sameFile]
  · rfl

omit sameRoot in
theorem SelfUpdate.visit_congr_context : visit context node = visit other node := by
  simp only [visit, sameFile]

/-- The rules in use see nothing of a context but the file and, at an `if`, whether another stands
right above. -/
theorem findings_congr_context {rule : Rule} (known : rule ∈ duplicateRules) :
    rule.findings context node = rule.findings other node := by
  rcases mem_duplicateRules_iff.mp known with rfl | rfl | rfl
  · exact congrArg (·.getD []) (Branches.visit_congr_context sameFile sameRoot)
  · exact congrArg (·.getD []) (Conditions.visit_congr_context sameFile sameRoot)
  · exact congrArg (·.getD []) (SelfUpdate.visit_congr_context sameFile)

end Context

/-- The rules in use want to see conditionals and binary expressions only. -/
theorem kinds_subset_of_mem_duplicateRules {rule : Rule} (known : rule ∈ duplicateRules) :
    rule.kinds ⊆ [Kind.construct .ifStatement, .construct .switchStatement,
      .construct .conditionalExpression, .construct .binaryExpression] := by
  rcases mem_duplicateRules_iff.mp known with rfl | rfl | rfl
  · exact List.Sublist.subset (by decide)
  · exact List.Sublist.subset (by decide)
  · exact List.Sublist.subset (by decide)

/-- No rule in use reports an `if` that stands right below another. -/
theorem findings_of_isBelowIf {context : Context} {node : Node}
    (isIf : node.kind = .construct .ifStatement) (inner : context.isChainRoot = false)
    {rule : Rule} (known : rule ∈ duplicateRules) (wanted : rule.wants node.kind = true) :
    rule.findings context node = [] := by
  rcases mem_duplicateRules_iff.mp known with rfl | rfl | rfl
  · have silent : Branches.visit context node = none := by
      simp [Branches.visit, isIf, Branches.visitIf, inner]
    exact Rule.findings_stateless_of_none silent
  · have silent : Conditions.visit context node = none := by
      simp [Conditions.visit, isIf, Conditions.visitIf, inner]
    exact Rule.findings_stateless_of_none silent
  · rw [isIf] at wanted
    cases wanted

namespace Occurrence

/-- Whether an occurrence is an `if` that stands right below another. -/
def IsIfBelowIf (occurrence : Occurrence) : Prop :=
  occurrence.IsIf ∧ ∃ parent, occurrence.parent? = some parent ∧
    parent.kind = .construct .ifStatement

variable {occurrence : Occurrence} (file : Path) (settings : Settings)

/-- At an `if` right below another nothing is reported. -/
theorem IsIfBelowIf.reportsAt_eq (inner : occurrence.IsIfBelowIf) :
    Walk.reportsAt duplicateRules file settings occurrence = [] := by
  obtain ⟨isIf, parent, above, kind⟩ := inner
  have below : Context.isChainRoot ⟨file, occurrence.parent?, settings⟩ = false := by
    rw [Bool.eq_false_iff, Ne, Context.isChainRoot_iff]
    intro apart
    exact apart parent above kind
  rw [Walk.reportsAt, List.flatMap_eq_nil_iff]
  intro rule kept
  obtain ⟨known, wanted⟩ := List.mem_filter.mp kept
  exact findings_of_isBelowIf isIf below known wanted

/-- Anywhere else is reported what is reported when the node is the root. -/
theorem reportsAt_eq_of_not_isIfBelowIf (outer : ¬occurrence.IsIfBelowIf) :
    Walk.reportsAt duplicateRules file settings occurrence =
      Walk.reportsAt duplicateRules file settings ⟨[], none, occurrence.node⟩ := by
  have sameRoot (isIf : occurrence.node.kind = .construct .ifStatement) :
      Context.isChainRoot ⟨file, occurrence.parent?, settings⟩ =
        Context.isChainRoot ⟨file, none, settings⟩ := by
    have first : Context.isChainRoot ⟨file, occurrence.parent?, settings⟩ = true := by
      rw [Context.isChainRoot_iff]
      intro parent above kind
      exact outer ⟨isIf, parent, above, kind⟩
    exact first
  simp only [Walk.reportsAt, List.flatMap]
  refine congrArg List.flatten (List.map_congr_left fun rule kept => ?_)
  have sameFile : Context.file ⟨file, occurrence.parent?, settings⟩ =
      Context.file ⟨file, none, settings⟩ := rfl
  exact findings_congr_context sameFile sameRoot (List.mem_of_mem_filter kept)

end Occurrence

namespace Walk

variable (file : Path) (settings : Settings)

theorem walk_eq_reportsIn (root : Node) :
    walk root duplicateRules file settings =
      reportsIn duplicateRules file settings none root :=
  walk_of_isStateless root file settings fun _ known => isStateless_of_mem_duplicateRules known

/-- What is reported in a part of a tree is what a walk of the part on its own reports, unless the
part is an `if` right below another. -/
theorem reportsIn_eq_walk {occurrence : Occurrence} (outer : ¬occurrence.IsIfBelowIf) :
    reportsIn duplicateRules file settings occurrence.parent? occurrence.node =
      walk occurrence.node duplicateRules file settings := by
  have top : reportsAt duplicateRules file settings ⟨[], occurrence.parent?, occurrence.node⟩ =
      reportsAt duplicateRules file settings ⟨[], none, occurrence.node⟩ :=
    occurrence.reportsAt_eq_of_not_isIfBelowIf file settings outer
  rw [walk_eq_reportsIn, reportsIn_eq, reportsIn_eq _ _ _ none, top]

/-- Below an `if` right below another, the part reports what a walk of it reports after its topmost
node. -/
theorem walk_eq_append_reportsIn {occurrence : Occurrence} (inner : occurrence.IsIfBelowIf) :
    walk occurrence.node duplicateRules file settings =
      reportsAt duplicateRules file settings ⟨[], none, occurrence.node⟩ ++
        reportsIn duplicateRules file settings occurrence.parent? occurrence.node := by
  have top : reportsAt duplicateRules file settings ⟨[], occurrence.parent?, occurrence.node⟩ =
      [] :=
    inner.reportsAt_eq file settings
  rw [walk_eq_reportsIn, reportsIn_eq, reportsIn_eq _ _ _ occurrence.parent?, top,
    List.nil_append]

/-- The walk is at the occurrences in a part of the tree one after the other. -/
theorem emits_part {root : Node} {occurrence : Occurrence}
    (known : occurrence ∈ root.occurrences) :
    Emits root duplicateRules file settings (occurrence.address <+: ·.address)
      (reportsIn duplicateRules file settings occurrence.parent? occurrence.node) := by
  have emits := emits_of_isInfix file settings
    (fun _ used => isStateless_of_mem_duplicateRules used) (Node.occurrences_isInfix known)
  rw [flatMap_reportsAt_occurrencesFrom] at emits
  exact emits.congr fun other inside => Node.mem_occurrencesFrom_iff_prefix known inside

/-- The walk is at the root first and only once. -/
theorem emits_root (root : Node) :
    Emits root duplicateRules file settings (·.address = [])
      (reportsAt duplicateRules file settings ⟨[], none, root⟩) := by
  have first : [⟨[], none, root⟩] <:+: root.occurrences := by
    rw [Node.occurrences, Node.occurrencesFrom_eq]
    exact (List.prefix_append [_] _).isInfix
  have emits := emits_of_isInfix file settings
    (fun _ used => isStateless_of_mem_duplicateRules used) first
  rw [List.flatMap_singleton] at emits
  refine emits.congr fun other inside => ?_
  rw [List.mem_singleton]
  constructor
  · rintro rfl
    rfl
  · exact Occurrence.eq_of_address_eq inside (first.mem List.mem_cons_self)

/-- A node that no rule wants adds nothing to what its children report. -/
theorem walk_eq_flatMap_children {root : Node}
    (other : root.kind ∉ [Kind.construct .ifStatement, .construct .switchStatement,
      .construct .conditionalExpression, .construct .binaryExpression]) :
    walk root duplicateRules file settings =
      root.children.flatMap fun child => walk child duplicateRules file settings := by
  have silent : reportsAt duplicateRules file settings ⟨[], none, root⟩ = [] := by
    have unwanted : duplicateRules.filter (·.wants root.kind) = [] := by
      rw [List.filter_eq_nil_iff]
      intro rule known wanted
      exact other (kinds_subset_of_mem_duplicateRules known ((rule.wants_iff _).mp wanted))
    rw [reportsAt, unwanted, List.flatMap_nil]
  have each (child : Node) : reportsIn duplicateRules file settings (some root) child =
      walk child duplicateRules file settings := by
    have outer : ¬(⟨[], some root, child⟩ : Occurrence).IsIfBelowIf := by
      rintro ⟨-, parent, above, kind⟩
      obtain rfl := Option.some.inj above
      exact other (by simp [kind])
    exact reportsIn_eq_walk file settings outer
  rw [walk_eq_reportsIn, reportsIn_eq, silent, List.nil_append]
  exact congrArg (List.flatMap · root.children) (funext each)

end Walk

/-- What a walk emits while it is inside a part of the tree is one block of its findings. The block
is the walk of the part on its own; if the part is an `if` right below another, it is that walk
without what is emitted at the topmost node. A node that is no `if`, `switch`, conditional or
binary expression adds nothing to the walks of its children. -/
theorem walk_compositional (root : Node) (file : Path) (settings : Settings) :
    (∀ occurrence ∈ root.occurrences, ∃ block,
      Walk.Emits root duplicateRules file settings (occurrence.address <+: ·.address) block ∧
      (¬occurrence.IsIfBelowIf → block = walk occurrence.node duplicateRules file settings) ∧
      (occurrence.IsIfBelowIf → ∃ own,
        Walk.Emits occurrence.node duplicateRules file settings (·.address = []) own ∧
          walk occurrence.node duplicateRules file settings = own ++ block)) ∧
    (root.kind ∉ [Kind.construct .ifStatement, .construct .switchStatement,
        .construct .conditionalExpression, .construct .binaryExpression] →
      walk root duplicateRules file settings =
        root.children.flatMap fun child => walk child duplicateRules file settings) := by
  refine ⟨?_, Walk.walk_eq_flatMap_children file settings⟩
  intro occurrence known
  refine ⟨_, Walk.emits_part file settings known, Walk.reportsIn_eq_walk file settings, ?_⟩
  intro inner
  exact ⟨_, Walk.emits_root file settings occurrence.node,
    Walk.walk_eq_append_reportsIn file settings inner⟩

/-- The `if` that is the body of another, in a block around both. -/
theorem walk_compositional_nestedIf :
    let root := Node.block [nestedIf]
    (∃ occurrence ∈ root.occurrences, occurrence.address = [1, 4] ∧ occurrence.IsIfBelowIf ∧
      ∃ own block,
        Walk.Emits root duplicateRules ⟨"a.ts"⟩ {} ([1, 4] <+: ·.address) block ∧
        Walk.Emits occurrence.node duplicateRules ⟨"a.ts"⟩ {} (·.address = []) own ∧
        walk occurrence.node duplicateRules ⟨"a.ts"⟩ {} = own ++ block) ∧
    walk root duplicateRules ⟨"a.ts"⟩ {} =
      root.children.flatMap fun child => walk child duplicateRules ⟨"a.ts"⟩ {} := by
  intro root
  let inner := Node.ifStatement (Node.identifier "b") (Node.callStatement "f")
    (some (Node.callStatement "f"))
  let occurrence : Occurrence := ⟨[1, 4], some nestedIf, inner⟩
  have known : occurrence ∈ root.occurrences := Node.mem_occurrences_iff.mpr ⟨rfl, rfl⟩
  have below : occurrence.IsIfBelowIf := ⟨rfl, nestedIf, rfl, rfl⟩
  have split := walk_compositional root ⟨"a.ts"⟩ {}
  obtain ⟨block, emits, -, cut⟩ := split.1 occurrence known
  obtain ⟨own, first, whole⟩ := cut below
  exact ⟨⟨occurrence, known, rfl, below, own, block, emits, first, whole⟩, split.2 (by decide)⟩

end DuplicateLogic
