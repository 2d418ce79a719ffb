import DuplicateLogic.Proofs.Chains
import DuplicateLogic.Proofs.Reporting

/-! # Chains do not overlap

The conditions and bodies that a chain compares stand right below its members. As no `if` is on two
chains, no condition and no body is compared in two of them, and what is found out about a chain is
reported at its first `if` only. None of this asks for well-formed statements: where an `if` has
several `else` keywords, only what stands right after the first of them goes on with the chain, and
every other `if` below it is neither on the chain nor the first of another. -/

namespace DuplicateLogic

namespace Node

variable {node next : Node}

/-- The indices of the children that fill operand slots. -/
def operandIndices (node : Node) : List Nat :=
  node.children.findIdxs fun child => !child.kind.isSyntaxToken

/-- The operand in a slot is the child at the index of the slot. -/
theorem map_getElem?_operandIndices (node : Node) (slot : Nat) :
    (node.operandIndices[slot]?.map fun index => node.children[index]?) =
      node.operands[slot]?.map some := by
  have same : node.operandIndices.length = node.operands.length := by
    rw [operandIndices, operands, List.length_findIdxs, List.countP_eq_length_filter]
  by_cases inside : slot < node.operands.length
  · have inside' : slot < node.operandIndices.length := same ▸ inside
    have chosen : node.children[node.operandIndices[slot]]? = some node.operands[slot] := by
      rw [List.getElem?_eq_some_iff]
      exact ⟨_, (List.getElem_filter_eq_getElem_getElem_findIdxs inside).symm⟩
    rw [List.getElem?_eq_getElem inside, List.getElem?_eq_getElem inside', Option.map_some,
      Option.map_some, chosen]
  · have outside := Nat.le_of_not_lt inside
    rw [List.getElem?_eq_none outside, List.getElem?_eq_none (same ▸ outside)]
    rfl

theorem elseIndex_of_children {front back : List Node} {word : Node}
    (listed : node.children = front ++ word :: back) (isElse : word.kind = .keyword .elseKeyword)
    (plain : ∀ child ∈ front, child.kind ≠ .keyword .elseKeyword) :
    node.elseIndex = front.length + 1 := by
  have notBefore : front.findIdx (fun child => child.kind = .keyword .elseKeyword) =
      front.length := by
    rw [List.findIdx_eq_length]
    simpa using plain
  rw [elseIndex, listed, List.findIdx_append, notBefore]
  simp [List.findIdx_cons, isElse]

/-- What a chain goes on with stands right after the first `else`. -/
theorem alternative?_eq_some_iff :
    node.alternative? = some next ↔
      ∃ front word back, node.children = front ++ word :: next :: back ∧
        word.kind = .keyword .elseKeyword ∧
          ∀ child ∈ front, child.kind ≠ .keyword .elseKeyword := by
  rw [alternative?_eq_getElem?]
  constructor
  · intro present
    cases found : node.children.find? fun child => child.kind = .keyword .elseKeyword with
    | none =>
        have beyond : node.elseIndex = node.children.length + 1 := by
          rw [elseIndex, List.findIdx_eq_length.mpr (by simpa using found)]
        rw [beyond, List.getElem?_eq_none (Nat.le_succ _)] at present
        cases present
    | some word =>
        obtain ⟨isElse, front, rest, listed, plain⟩ := List.find?_eq_some_iff_append.mp found
        have isElse := of_decide_eq_true isElse
        have plain : ∀ child ∈ front, child.kind ≠ .keyword .elseKeyword := by simpa using plain
        have first : rest.head? = some next := by
          rw [elseIndex_of_children listed isElse plain, listed] at present
          simpa [List.getElem?_append_right, List.head?_eq_getElem?] using present
        obtain ⟨back, rfl⟩ := List.head?_eq_some_iff.mp first
        exact ⟨front, word, back, listed, isElse, plain⟩
  · rintro ⟨front, word, back, listed, isElse, plain⟩
    rw [elseIndex_of_children listed isElse plain, listed]
    simp

end Node

namespace Chain

/-- Where the operands in a slot stand when each node is in the `else` of the one before it. -/
def slotPlaces (slot : Nat) : List Node → List Address
  | [] => []
  | node :: rest =>
      node.operandIndices[slot]?.toList.map ([·]) ++
        (slotPlaces slot rest).map (node.elseIndex :: ·)

/-- Where the conditions of a chain stand in its first `if`. -/
def conditionPlaces (chain : Chain) : List Address :=
  slotPlaces 0 chain.members

/-- Where the bodies of a chain stand in its first `if`, that of a plain `else` last. -/
def branchPlaces (chain : Chain) : List Address :=
  slotPlaces 1 chain.members ++
    chain.final?.toList.map fun _ => chain.members.map (·.elseIndex)

theorem map_at?_operandIndices (node : Node) (slot : Nat) :
    (node.operandIndices[slot]?.toList.map ([·])).map node.at? =
      node.operands[slot]?.toList.map some := by
  have chosen := congrArg Option.toList (node.map_getElem?_operandIndices slot)
  rw [Option.toList_map, Option.toList_map] at chosen
  rw [List.map_map, ← chosen]
  congr 1
  funext index
  simp [Node.at?_cons]

/-- What stands after the `else` of a node, seen from the node. -/
theorem map_at?_elseIndex {node alternative : Node} (found : node.alternative? = some alternative)
    (places : List Address) :
    (places.map (node.elseIndex :: ·)).map node.at? = places.map alternative.at? := by
  rw [List.map_map]
  congr 1
  funext place
  rw [Function.comp_apply, Node.at?_cons, ← Node.alternative?_eq_getElem?, found, Option.bind_some]

/-- The operands in a slot of the members of a chain are what stands at the places of the slot. -/
theorem map_at?_slotPlaces (node : Node) (slot : Nat) :
    (slotPlaces slot (startingAt node).members).map node.at? =
      ((startingAt node).members.filterMap fun member => member.operands[slot]?).map some := by
  rw [List.filterMap_eq_flatMap_toList]
  induction node using Node.induction with
  | step node ih =>
      have alone : (slotPlaces slot [node]).map node.at? =
          ([node].flatMap fun member => member.operands[slot]?.toList).map some := by
        simpa [slotPlaces] using map_at?_operandIndices node slot
      cases found : node.alternative? with
      | none => rwa [startingAt_of_none found]
      | some alternative =>
          by_cases isIf : alternative.kind = .construct .ifStatement
          · have later := ih alternative (Node.mem_children_of_alternative? found)
            rw [startingAt_of_if found isIf, slotPlaces, List.map_append, map_at?_operandIndices,
              map_at?_elseIndex found, later, List.flatMap_cons, List.map_append]
          · rwa [startingAt_of_else found isIf]

/-- The body of a plain `else` stands in the `else` of the last member. -/
theorem at?_final {node final : Node} (last : (startingAt node).final? = some final) :
    node.at? ((startingAt node).members.map (·.elseIndex)) = some final := by
  induction node using Node.induction with
  | step node ih =>
      cases found : node.alternative? with
      | none =>
          rw [startingAt_of_none found] at last
          cases last
      | some alternative =>
          by_cases isIf : alternative.kind = .construct .ifStatement
          · rw [startingAt_of_if found isIf] at last ⊢
            rw [List.map_cons, Node.at?_cons, ← Node.alternative?_eq_getElem?, found,
              Option.bind_some]
            exact ih alternative (Node.mem_children_of_alternative? found) last
          · rw [startingAt_of_else found isIf] at last ⊢
            rw [List.map_cons, Node.at?_cons, ← Node.alternative?_eq_getElem?, found]
            exact last

/-- The conditions of a chain are what stands at their places. -/
theorem map_at?_conditionPlaces (node : Node) :
    (startingAt node).conditionPlaces.map node.at? = (startingAt node).conditions.map some :=
  map_at?_slotPlaces node 0

/-- The bodies of a chain are what stands at their places. -/
theorem map_at?_branchPlaces (node : Node) :
    (startingAt node).branchPlaces.map node.at? = (startingAt node).branches.map some := by
  have closing : ((startingAt node).final?.toList.map fun _ =>
      (startingAt node).members.map (·.elseIndex)).map node.at? =
        (startingAt node).final?.toList.map some := by
    cases last : (startingAt node).final? with
    | none => rfl
    | some final => simp [at?_final last]
  rw [branchPlaces, branches, List.map_append, List.map_append, closing, map_at?_slotPlaces]
  rfl

/-- Whether a place is right below one of some others. -/
def RightBelow (places : List Address) (place : Address) : Prop :=
  ∃ above ∈ places, ∃ index, place = above ++ [index]

theorem rightBelow_of_mem_slotPlaces {slot : Nat} {nodes : List Node} {place : Address}
    (known : place ∈ slotPlaces slot nodes) : RightBelow (placesOf nodes) place := by
  induction nodes generalizing place with
  | nil => cases known
  | cons node rest ih =>
      rcases List.mem_append.mp known with here | later
      · obtain ⟨index, -, rfl⟩ := List.mem_map.mp here
        exact ⟨[], List.mem_cons_self, index, rfl⟩
      · obtain ⟨inner, inside, rfl⟩ := List.mem_map.mp later
        obtain ⟨above, listed, index, rfl⟩ := ih inside
        exact ⟨_, List.mem_cons_of_mem _ (List.mem_map_of_mem listed), index, rfl⟩

theorem rightBelow_elseIndices (node : Node) (rest : List Node) :
    RightBelow (placesOf (node :: rest)) ((node :: rest).map (·.elseIndex)) := by
  induction rest generalizing node with
  | nil => exact ⟨[], List.mem_cons_self, node.elseIndex, rfl⟩
  | cons next rest ih =>
      obtain ⟨above, listed, index, reached⟩ := ih next
      refine ⟨node.elseIndex :: above, ?_, index, ?_⟩
      · exact List.mem_cons_of_mem _ (List.mem_map_of_mem listed)
      · rw [List.map_cons, reached, List.cons_append]

theorem exists_members_eq (node : Node) : ∃ rest, (startingAt node).members = node :: rest := by
  rw [startingAt]
  split
  · exact ⟨[], rfl⟩
  · split
    · exact ⟨_, rfl⟩
    · exact ⟨[], rfl⟩

/-- Every condition and every body stands right below a member of its chain. -/
theorem rightBelow_places {node : Node} {place : Address}
    (known : place ∈ (startingAt node).conditionPlaces ++ (startingAt node).branchPlaces) :
    RightBelow (startingAt node).places place := by
  rcases List.mem_append.mp known with condition | branch
  · exact rightBelow_of_mem_slotPlaces condition
  rcases List.mem_append.mp branch with body | final
  · exact rightBelow_of_mem_slotPlaces body
  · obtain ⟨_, -, rfl⟩ := List.mem_map.mp final
    obtain ⟨rest, members⟩ := exists_members_eq node
    rw [places, members]
    exact rightBelow_elseIndices node rest

end Chain

namespace Occurrence

variable {root : Node} {first second later above next part : Occurrence}

/-- Whether an occurrence is a condition or a body that the chain from an `if` compares. -/
def ComparedFrom (part first : Occurrence) : Prop :=
  ∃ place ∈ (Chain.startingAt first.node).conditionPlaces ++
      (Chain.startingAt first.node).branchPlaces,
    part.address = first.address ++ place

/-- Whether an occurrence stands right after the first `else` keyword of another. -/
def FollowsElse (next above : Occurrence) : Prop :=
  ∃ front word back, above.node.children = front ++ word :: next.node :: back ∧
    word.kind = .keyword .elseKeyword ∧ (∀ child ∈ front, child.kind ≠ .keyword .elseKeyword) ∧
      next.address = above.address ++ [front.length + 1]

theorem followsElse_iff :
    next.FollowsElse above ↔
      above.node.alternative? = some next.node ∧
        next.address = above.address ++ [above.node.elseIndex] := by
  rw [Node.alternative?_eq_some_iff]
  constructor
  · rintro ⟨front, word, back, listed, isElse, plain, reached⟩
    refine ⟨⟨front, word, back, listed, isElse, plain⟩, ?_⟩
    rw [reached, Node.elseIndex_of_children listed isElse plain]
  · rintro ⟨⟨front, word, back, listed, isElse, plain⟩, reached⟩
    rw [Node.elseIndex_of_children listed isElse plain] at reached
    exact ⟨front, word, back, listed, isElse, plain, reached⟩

/-- What is compared stands right below a member of the chain. -/
theorem ComparedFrom.onChainOf_above (compared : part.ComparedFrom first)
    (right : above.address = part.address.dropLast) : above.OnChainOf first := by
  obtain ⟨place, known, placed⟩ := compared
  obtain ⟨upper, listed, index, rfl⟩ := Chain.rightBelow_places known
  refine ⟨upper, listed, ?_⟩
  rw [right, placed, ← List.append_assoc, List.dropLast_concat]

/-- The chain from an `if` consists of this `if` and of each that stands right after the first
`else` of a member. -/
theorem onChainOf_iff (firstIn : first ∈ root.occurrences) (isIf : first.IsIf)
    (laterIn : later ∈ root.occurrences) :
    later.OnChainOf first ↔
      later = first ∨ ∃ above ∈ root.occurrences, above.OnChainOf first ∧ later.IsIf ∧
        later.FollowsElse above := by
  constructor
  · rintro ⟨place, known, placed⟩
    have leads := Chain.mem_places_iff.mp known
    by_cases here : place = []
    · rw [here, List.append_nil] at placed
      exact Or.inl (eq_of_address_eq laterIn firstIn placed)
    obtain ⟨front, index, rfl⟩ : ∃ front index, place = front ++ [index] :=
      ⟨place.dropLast, place.getLast here, (List.dropLast_concat_getLast here).symm⟩
    obtain ⟨firstFound, -⟩ := Node.mem_occurrences_iff.mp firstIn
    obtain ⟨laterFound, -⟩ := Node.mem_occurrences_iff.mp laterIn
    obtain ⟨parent, found, -⟩ := leads.of_append.kind_eq isIf
    obtain ⟨last, reached, lastIf⟩ := leads.kind_eq isIf
    obtain ⟨rfl, -⟩ := leads.last_link found
    obtain rfl : last = later.node := by
      rw [placed, Node.at?_append, firstFound, Option.bind_some, reached] at laterFound
      exact Option.some.inj laterFound
    let above : Occurrence :=
      ⟨first.address ++ front, root.parentAt? (first.address ++ front), parent⟩
    have aboveFound : root.at? above.address = some parent := by
      rw [Node.at?_append, firstFound, Option.bind_some, found]
    have link : parent.alternative? = some later.node := by
      rw [Node.at?_append, found, Option.bind_some, Node.at?_cons,
        ← Node.alternative?_eq_getElem?] at reached
      simpa using reached
    refine Or.inr ⟨above, Node.mem_occurrences_iff.mpr ⟨aboveFound, rfl⟩,
      ⟨front, Chain.mem_places_iff.mpr leads.of_append, rfl⟩, lastIf, ?_⟩
    rw [followsElse_iff]
    exact ⟨link, by rw [placed, List.append_assoc]⟩
  · rintro (rfl | ⟨above, aboveIn, onFirst, laterIf, follows⟩)
    · exact onChainOf_self later
    · obtain ⟨link, reached⟩ := followsElse_iff.mp follows
      exact onFirst.append_link firstIn aboveIn link laterIf reached

end Occurrence

/-- Whether a finding says of the chain that starts at an `if` that its bodies are all alike. -/
structure Finding.ComesFromChain (finding : Finding) (file : Path) (first : Occurrence) :
    Prop where
  starts : first.StartsChain
  closed : (Chain.startingAt first.node).endsWithElse = true
  alike : Branches.allAlike Node.equivalent (Chain.startingAt first.node).branches = true
  about : finding = Finding.about Branches.statementMessage
    RuleId.duplicatedBranchesStatement.text file first.node

/-- What the rules report of an `if` as a statement with duplicated branches comes from the chain
that this `if` starts. -/
theorem comesFromChain_of_mem_findings {rule : Rule} (used : rule ∈ duplicateRules)
    {visited : Occurrence} (isIf : visited.IsIf) {file : Path} {settings : Settings}
    {finding : Finding}
    (reported : finding ∈ rule.findings ⟨file, visited.parent?, settings⟩ visited.node)
    (id : finding.rule = RuleId.duplicatedBranchesStatement.text) :
    finding.ComesFromChain file visited := by
  have declared := declares_of_mem_duplicateRules used _ _ finding reported
  rw [id] at declared
  rcases mem_duplicateRules_iff.mp used with rfl | rfl | rfl
  · obtain ⟨found, answer, listed⟩ := Rule.mem_findings_stateless_iff.mp reported
    rw [Branches.visit, isIf] at answer
    obtain ⟨⟨⟨starts, closed⟩, alike⟩, rfl⟩ := Branches.visitIf_eq_some_iff.mp answer
    have first := Occurrence.startsChain_iff.mpr ⟨isIf, Context.isChainRoot_iff.mp starts⟩
    exact ⟨first, closed, alike, List.mem_singleton.mp listed⟩
  · exact absurd declared (by decide)
  · exact absurd declared (by decide)

/-- An `if` that starts a chain shares nothing with another that does: no occurrence is on both
chains, and none is compared in both. What a chain compares is what stands at its places. No
other member of the chain starts one; the members are the first `if` and each `if` right after the
first `else` of a member. A finding of duplicated branches at an `if` comes from the chain that this
`if` starts, so among the members only the first gets one. -/
theorem Occurrence.StartsChain.shares_nothing {root : Node} {first : Occurrence}
    (firstIn : first ∈ root.occurrences) (starts : first.StartsChain) :
    (∀ second ∈ root.occurrences, second.StartsChain → second ≠ first → ∀ other : Occurrence,
      ¬(other.OnChainOf first ∧ other.OnChainOf second) ∧
        ¬(other.ComparedFrom first ∧ other.ComparedFrom second)) ∧
    ((Chain.startingAt first.node).places.map first.node.at? =
        (Chain.startingAt first.node).members.map some ∧
      (Chain.startingAt first.node).conditionPlaces.map first.node.at? =
        (Chain.startingAt first.node).conditions.map some ∧
      (Chain.startingAt first.node).branchPlaces.map first.node.at? =
        (Chain.startingAt first.node).branches.map some) ∧
    (∀ later ∈ root.occurrences, later.OnChainOf first → later.StartsChain → later = first) ∧
    (∀ later ∈ root.occurrences, later.OnChainOf first ↔
      later = first ∨ ∃ above ∈ root.occurrences, above.OnChainOf first ∧ later.IsIf ∧
        later.FollowsElse above) ∧
    ∀ (file : Path) (settings : Settings), ∀ visited ∈ root.occurrences, visited.IsIf →
      ∀ rule ∈ duplicateRules,
        ∀ finding ∈ rule.findings ⟨file, visited.parent?, settings⟩ visited.node,
          finding.rule = RuleId.duplicatedBranchesStatement.text →
            finding.ComesFromChain file visited ∧
              (visited.OnChainOf first → visited = first) := by
  have alone : ∀ later ∈ root.occurrences, later.OnChainOf first → later.StartsChain →
      later = first := by
    intro later laterIn onFirst laterStarts
    exact laterStarts.unique laterIn firstIn starts later.onChainOf_self onFirst
  refine ⟨?_, ⟨Chain.at?_places _, Chain.map_at?_conditionPlaces _, Chain.map_at?_branchPlaces _⟩,
    alone, fun later laterIn => onChainOf_iff firstIn starts.1 laterIn, ?_⟩
  · intro second secondIn secondStarts different other
    constructor
    · rintro ⟨onFirst, onSecond⟩
      exact different (secondStarts.unique secondIn firstIn starts onSecond onFirst)
    · rintro ⟨fromFirst, fromSecond⟩
      -- both chains step through what stands right above
      let above : Occurrence := { other with address := other.address.dropLast }
      have onFirst : above.OnChainOf first := fromFirst.onChainOf_above rfl
      have onSecond : above.OnChainOf second := fromSecond.onChainOf_above rfl
      exact different (secondStarts.unique secondIn firstIn starts onSecond onFirst)
  · intro file settings visited visitedIn isIf rule used finding reported id
    have comes := comesFromChain_of_mem_findings used isIf reported id
    exact ⟨comes, fun onFirst => alone visited visitedIn onFirst comes.starts⟩

section Malformed

open Node

/-- An `if` of a condition alone. -/
def bareIf (name : String) : Node :=
  compose (.construct .ifStatement) [identifier name]

/-- An `if` with `else` twice, an `if` after both, and another in a block in front of them. -/
def twoElses : Node :=
  compose (.construct .ifStatement)
    [block [bareIf "a"], word .elseKeyword, bareIf "b", word .elseKeyword, bareIf "c"]

/-- The chain of the whole statement has the `if` after the first `else`, which the chain of the
`if` in the block has not. -/
theorem Occurrence.StartsChain.shares_nothing_twoElses :
    ∃ first ∈ twoElses.occurrences, ∃ second ∈ twoElses.occurrences,
      first.StartsChain ∧ second.StartsChain ∧ second ≠ first ∧
        ∃ later ∈ twoElses.occurrences, later.address = [2] ∧ later.OnChainOf first ∧
          ¬later.OnChainOf second ∧ ¬later.StartsChain := by
  let first : Occurrence := ⟨[], none, twoElses⟩
  let second : Occurrence := ⟨[0, 1], some (block [bareIf "a"]), bareIf "a"⟩
  let later : Occurrence := ⟨[2], some twoElses, bareIf "b"⟩
  have firstIn : first ∈ twoElses.occurrences := mem_occurrences_iff.mpr ⟨rfl, rfl⟩
  have secondIn : second ∈ twoElses.occurrences := mem_occurrences_iff.mpr ⟨rfl, rfl⟩
  have laterIn : later ∈ twoElses.occurrences := mem_occurrences_iff.mpr ⟨rfl, rfl⟩
  have firstStarts : first.StartsChain := startsChain_iff.mpr ⟨rfl, by simp [first]⟩
  have secondStarts : second.StartsChain :=
    startsChain_iff.mpr ⟨rfl, by rintro _ ⟨⟩; decide⟩
  have different : second ≠ first := fun same => absurd (congrArg address same) (by decide)
  have follows : later.FollowsElse first :=
    ⟨[block [bareIf "a"]], word .elseKeyword, [word .elseKeyword, bareIf "c"], rfl, rfl,
      by simp [block, compose], rfl⟩
  obtain ⟨apart, -, alone, members, -⟩ := firstStarts.shares_nothing firstIn
  have onFirst : later.OnChainOf first := (members later laterIn).mpr
    (Or.inr ⟨first, firstIn, first.onChainOf_self, rfl, follows⟩)
  refine ⟨first, firstIn, second, secondIn, firstStarts, secondStarts, different, later, laterIn,
    rfl, onFirst, ?_, ?_⟩
  · exact fun onSecond => (apart second secondIn secondStarts different later).1 ⟨onFirst, onSecond⟩
  · intro laterStarts
    have same := alone later laterIn onFirst laterStarts
    exact absurd (congrArg address same) (by decide)

end Malformed

end DuplicateLogic
