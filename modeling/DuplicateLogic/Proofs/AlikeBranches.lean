import DuplicateLogic.Proofs.Equivalence
import DuplicateLogic.Proofs.Reporting
import DuplicateLogic.Proofs.WrittenChains
import Mathlib.Data.List.Chain
import Mathlib.Data.List.Pairwise

/-! # Branches that are all the same

Only neighbouring branches are compared. As equivalence is reflexive, symmetric and transitive, a
conditional is reported exactly when any two of its branches are the same code, in whatever order
they stand. -/

namespace DuplicateLogic

namespace Branches

section Alike

variable {α : Type} {related : α → α → Bool}

theorem eachNext_iff_isChain {items : List α} :
    eachNext related items = true ↔ items.IsChain fun first second => related first second = true := by
  induction items with
  | nil => simp [eachNext]
  | cons first rest ih =>
      cases rest with
      | nil => simp [eachNext]
      | cons second rest => rw [eachNext, Bool.and_eq_true, ih, List.isChain_cons_cons]

/-- Neighbours are related by an equivalence exactly when any two elements are. -/
theorem eachNext_iff (equivalence : Equivalence fun first second => related first second = true)
    {items : List α} :
    eachNext related items = true ↔
      ∀ first ∈ items, ∀ second ∈ items, related first second = true := by
  have transitive : IsTrans α fun first second => related first second = true :=
    ⟨fun _ _ _ => equivalence.trans⟩
  have symmetric : Std.Symm fun first second => related first second = true :=
    ⟨fun _ _ => equivalence.symm⟩
  rw [eachNext_iff_isChain, List.isChain_iff_pairwise]
  constructor
  · intro ordered
    have same : ∀ item ∈ items, related item item = true := fun item _ => equivalence.refl item
    intro first inFirst second inSecond
    exact ordered.forall_of_forall same inFirst inSecond
  · exact List.pairwise_of_forall_mem_list

theorem allAlike_iff (equivalence : Equivalence fun first second => related first second = true)
    {items : List α} :
    allAlike related items = true ↔
      2 ≤ items.length ∧ ∀ first ∈ items, ∀ second ∈ items, related first second = true := by
  rw [allAlike, Bool.and_eq_true, decide_eq_true_iff, eachNext_iff equivalence]

end Alike

end Branches

namespace WrittenChain

/-- Whether a chain ends with a plain `else` and any two of its bodies are the same code. -/
def AllAlike (chain : WrittenChain) : Prop :=
  chain.final?.isSome = true ∧
    ∀ first ∈ chain.bodies, ∀ second ∈ chain.bodies, first.equivalent second = true

/-- With a plain `else` there are two bodies at least. -/
theorem two_le_length_bodies {chain : WrittenChain} (closed : chain.final?.isSome = true) :
    2 ≤ chain.bodies.length := by
  obtain ⟨final, last⟩ := Option.isSome_iff_exists.mp closed
  simp [bodies, arms, last]

/-- Other bodies in another order, under whatever conditions, are as alike. -/
theorem allAlike_congr {chain other : WrittenChain} (bodies : other.bodies.Perm chain.bodies)
    (final : other.final?.isSome = chain.final?.isSome) : other.AllAlike ↔ chain.AllAlike := by
  simp only [AllAlike, final, bodies.mem_iff]

/-- The rule reports the outermost `if` of a chain exactly when all its bodies are alike. -/
theorem visit_eq_some_iff (chain : WrittenChain) {context : Context}
    (outermost : context.isChainRoot = true) {found : List Finding} :
    Branches.visit context chain.node = some found ↔
      chain.AllAlike ∧ Branches.statementFinding context chain.node = found := by
  have isIf : chain.node.kind = .construct .ifStatement := Node.kind_ifChain _ _ _
  obtain ⟨-, branches, final⟩ := Chain.startingAt_written chain
  have checked : Branches.visit context chain.node = Branches.visitIf context chain.node := by
    rw [Branches.visit, isIf]
  rw [checked, Branches.visitIf_eq_some_iff, Chain.endsWithElse, branches, final,
    Branches.allAlike_iff Node.equivalence_equivalent, AllAlike]
  refine and_congr_left fun _ => ?_
  constructor
  · rintro ⟨⟨-, closed⟩, -, alike⟩
    exact ⟨closed, alike⟩
  · rintro ⟨closed, alike⟩
    exact ⟨⟨outermost, closed⟩, two_le_length_bodies closed, alike⟩

theorem isSome_visit_iff (chain : WrittenChain) {context : Context}
    (outermost : context.isChainRoot = true) :
    (Branches.visit context chain.node).isSome = true ↔ chain.AllAlike := by
  rw [Option.isSome_iff_exists]
  simp only [chain.visit_eq_some_iff outermost, exists_and_left, exists_eq', and_true]

end WrittenChain

/-- Shown the outermost `if` of a chain that stands below no `if`, the rule reports it once, from
its start to its end, when the chain ends with a plain `else` and any two of all its bodies are the
same code, and nothing otherwise. So neither the order of the bodies nor the conditions matter. -/
theorem Branches.visit_writtenChain (chain : WrittenChain) (context : Context)
    (outermost : ∀ parent, context.parent? = some parent →
      parent.kind ≠ .construct .ifStatement) :
    (chain.AllAlike → visit context chain.node = some [{
      rule := "duplicated-branches-statement"
      category := "CodeSmell"
      severity := "MEDIUM"
      message := statementMessage
      file := context.file
      start := chain.node.start
      stop := chain.node.stop
      related? := none }]) ∧
    (¬chain.AllAlike → visit context chain.node = none) ∧
    ∀ other : WrittenChain, other.bodies.Perm chain.bodies →
      other.final?.isSome = chain.final?.isSome →
        (visit context other.node).isSome = (visit context chain.node).isSome := by
  have first : context.isChainRoot = true := Context.isChainRoot_iff.mpr outermost
  refine ⟨?_, ?_, ?_⟩
  · intro alike
    exact (chain.visit_eq_some_iff first).mpr ⟨alike, rfl⟩
  · intro different
    rw [← Option.not_isSome_iff_eq_none, chain.isSome_visit_iff first]
    exact different
  · intro other bodies final
    rw [Bool.eq_iff_iff, other.isSome_visit_iff first, chain.isSome_visit_iff first]
    exact WrittenChain.allAlike_congr bodies final

section Calls

open Node

/-- `if (a) first(); else if (b) second(); else third();`, for any three names. -/
def threeCalls (first second third : String) : WrittenChain where
  first := (identifier "a", callStatement first)
  later := [(identifier "b", callStatement second)]
  final? := some (callStatement third)
  arms_plain := by
    intro arm known
    rcases List.mem_pair.mp known with rfl | rfl
    · exact ⟨rfl, rfl⟩
    · exact ⟨rfl, rfl⟩
  final_plain := by
    rintro _ ⟨⟩
    exact ⟨rfl, nofun⟩

/-- Three calls of one function are reported. If only the second calls another function nothing is
reported, so nothing is either if only the third does. -/
theorem Branches.visit_writtenChain_threeCalls :
    visit ⟨⟨"a.ts"⟩, none, {}⟩ (threeCalls "f" "f" "f").node =
      some [Finding.about statementMessage RuleId.duplicatedBranchesStatement.text ⟨"a.ts"⟩
        (threeCalls "f" "f" "f").node] ∧
    visit ⟨⟨"a.ts"⟩, none, {}⟩ (threeCalls "f" "g" "f").node = none ∧
    (visit ⟨⟨"a.ts"⟩, none, {}⟩ (threeCalls "f" "f" "g").node).isSome =
      (visit ⟨⟨"a.ts"⟩, none, {}⟩ (threeCalls "f" "g" "f").node).isSome := by
  have alike : (threeCalls "f" "f" "f").AllAlike := ⟨rfl, by decide⟩
  have different : ¬(threeCalls "f" "g" "f").AllAlike := by
    rintro ⟨-, same⟩
    have bodies : (threeCalls "f" "g" "f").bodies =
        [callStatement "f", callStatement "g", callStatement "f"] := rfl
    rw [bodies] at same
    exact absurd (same (callStatement "f") (by simp) (callStatement "g") (by simp)) (by decide)
  have reported := visit_writtenChain (threeCalls "f" "f" "f") ⟨⟨"a.ts"⟩, none, {}⟩ nofun
  have silent := visit_writtenChain (threeCalls "f" "g" "f") ⟨⟨"a.ts"⟩, none, {}⟩ nofun
  have moved : (threeCalls "f" "f" "g").bodies.Perm (threeCalls "f" "g" "f").bodies :=
    (List.Perm.swap _ _ _).cons _
  exact ⟨reported.1 alike, silent.2.1 different,
    silent.2.2 (threeCalls "f" "f" "g") moved rfl⟩

end Calls

end DuplicateLogic
