import DuplicateLogic.Proofs.Occurrence
import DuplicateLogic.Rules.Chain
import DuplicateLogic.Syntax.Build

/-! # Which chain an `if` belongs to

A chain follows the links through `else`; a chain starts at an `if` that no `if` stands right
above. No `if` is on two chains. One that is itself the condition or the body of an `if`, without
a block between, starts no chain and no link leads to it, so it and all that follows it through
`else` are on no chain at all. -/

namespace DuplicateLogic

namespace Node

/-- The index of the child right after the first `else`. -/
def elseIndex (node : Node) : Nat :=
  node.children.findIdx (fun child => child.kind = .keyword .elseKeyword) + 1

theorem alternative?_eq_getElem? (node : Node) :
    node.alternative? = node.children[node.elseIndex]? := by
  have skipped : (node.children.dropWhile fun child => child.kind ≠ .keyword .elseKeyword) =
      node.children.drop
        (node.children.findIdx fun child => child.kind = .keyword .elseKeyword) := by
    rw [List.dropWhile_eq_drop_findIdx_not]
    simp
  rw [alternative?, skipped, List.drop_drop, List.head?_drop, elseIndex]

/-- Whether links through `else` lead from a node to an `if` at an address in it. -/
inductive LeadsTo : Node → Address → Prop
  | here (node : Node) : LeadsTo node []
  | onward {node alternative : Node} {rest : Address}
      (found : node.alternative? = some alternative)
      (isIf : alternative.kind = .construct .ifStatement) (later : LeadsTo alternative rest) :
      LeadsTo node (node.elseIndex :: rest)

namespace LeadsTo

variable {node : Node}

theorem iff_link {place : Address} :
    node.LeadsTo place ↔
      place = [] ∨ ∃ alternative rest, node.alternative? = some alternative ∧
        alternative.kind = .construct .ifStatement ∧ alternative.LeadsTo rest ∧
          place = node.elseIndex :: rest := by
  constructor
  · intro leads
    cases leads with
    | here => exact Or.inl rfl
    | onward found isIf later => exact Or.inr ⟨_, _, found, isIf, later, rfl⟩
  · rintro (rfl | ⟨alternative, rest, found, isIf, later, rfl⟩)
    · exact .here node
    · exact .onward found isIf later

theorem of_append {front back : Address} (leads : node.LeadsTo (front ++ back)) :
    node.LeadsTo front := by
  induction front generalizing node with
  | nil => exact .here node
  | cons index front ih =>
      cases leads with
      | onward found isIf later => exact .onward found isIf (ih later)

/-- Links lead only to what is there, from an `if` to an `if`. -/
theorem kind_eq (isIf : node.kind = .construct .ifStatement) {place : Address}
    (leads : node.LeadsTo place) :
    ∃ last, node.at? place = some last ∧ last.kind = .construct .ifStatement := by
  induction leads with
  | here node => exact ⟨node, rfl, isIf⟩
  | @onward node alternative rest found nextIsIf _ ih =>
      obtain ⟨last, reached, kind⟩ := ih nextIsIf
      refine ⟨last, ?_, kind⟩
      rw [at?_cons, ← alternative?_eq_getElem?, found]
      exact reached

/-- The last link leads from the node right above through its `else`. -/
theorem last_link {front : Address} {index : Nat} (leads : node.LeadsTo (front ++ [index]))
    {above : Node} (reached : node.at? front = some above) :
    index = above.elseIndex ∧ ∃ alternative, above.alternative? = some alternative := by
  induction front generalizing node with
  | nil =>
      obtain rfl : node = above := Option.some.inj reached
      cases leads with
      | onward found _ _ => exact ⟨rfl, _, found⟩
  | cons first front ih =>
      cases leads with
      | @onward _ alternative _ found _ later =>
          apply ih later
          rwa [at?_cons, ← alternative?_eq_getElem?, found] at reached

/-- Links lead one further where the `else` of the last `if` is an `if` again. -/
theorem append_link {front : Address} (leads : node.LeadsTo front) {above alternative : Node}
    (reached : node.at? front = some above) (found : above.alternative? = some alternative)
    (isIf : alternative.kind = .construct .ifStatement) :
    node.LeadsTo (front ++ [above.elseIndex]) := by
  induction leads with
  | here node =>
      obtain rfl : node = above := Option.some.inj reached
      exact .onward found isIf (.here alternative)
  | @onward node next rest nextFound nextIsIf _ ih =>
      rw [at?_cons, ← alternative?_eq_getElem?, nextFound] at reached
      exact .onward nextFound nextIsIf (ih reached)

end LeadsTo

end Node

namespace Chain

/-- Where nodes stand when each of them is in the `else` of the one before it. -/
def placesOf : List Node → List Address
  | [] => []
  | node :: rest => [] :: (placesOf rest).map (node.elseIndex :: ·)

/-- Where the members of a chain stand in the first of them. -/
def places (chain : Chain) : List Address :=
  placesOf chain.members

/-- The members of a chain are what stands at its places. -/
theorem at?_places (node : Node) :
    (startingAt node).places.map node.at? = (startingAt node).members.map some := by
  induction node using Node.induction with
  | step node ih =>
      cases found : node.alternative? with
      | none =>
          rw [startingAt_of_none found]
          rfl
      | some alternative =>
          by_cases isIf : alternative.kind = .construct .ifStatement
          · have later := ih alternative (Node.mem_children_of_alternative? found)
            rw [startingAt_of_if found isIf, places, placesOf, List.map_cons, List.map_cons,
              List.map_map, ← later, Node.at?_nil, places]
            congr 2
            funext place
            rw [Function.comp_apply, Node.at?_cons, ← Node.alternative?_eq_getElem?, found]
            rfl
          · rw [startingAt_of_else found isIf]
            rfl

/-- The places of a chain are those that links lead to. -/
theorem mem_places_iff {node : Node} {place : Address} :
    place ∈ (startingAt node).places ↔ node.LeadsTo place := by
  induction node using Node.induction generalizing place with
  | step node ih =>
      rw [Node.LeadsTo.iff_link]
      cases found : node.alternative? with
      | none =>
          rw [startingAt_of_none found]
          simp [places, placesOf]
      | some alternative =>
          by_cases isIf : alternative.kind = .construct .ifStatement
          · have below := Node.mem_children_of_alternative? found
            have places_eq : (startingAt node).places =
                [] :: (startingAt alternative).places.map (node.elseIndex :: ·) := by
              rw [startingAt_of_if found isIf]
              rfl
            rw [places_eq, List.mem_cons, List.mem_map]
            refine or_congr_right ⟨?_, ?_⟩
            · rintro ⟨rest, known, rfl⟩
              exact ⟨alternative, rest, rfl, isIf, (ih alternative below).mp known, rfl⟩
            · rintro ⟨_, rest, ⟨⟩, -, later, rfl⟩
              exact ⟨rest, (ih alternative below).mpr later, rfl⟩
          · rw [startingAt_of_else found isIf]
            have apart (other : Node) (same : some alternative = some other) :
                other.kind ≠ .construct .ifStatement := by
              obtain rfl := Option.some.inj same
              exact isIf
            constructor
            · intro known
              exact Or.inl (by simpa [places, placesOf] using known)
            · rintro (rfl | ⟨other, _, same, kind, -⟩)
              · simp [places, placesOf]
              · exact absurd kind (apart other same)

end Chain

/-- An `if` is the first of its chain unless the node right above is an `if` as well. -/
theorem Context.isChainRoot_iff {context : Context} :
    context.isChainRoot = true ↔
      ∀ parent, context.parent? = some parent → parent.kind ≠ .construct .ifStatement := by
  cases above : context.parent? with
  | none => simp [isChainRoot, isBelow, above]
  | some parent => simp [isChainRoot, isBelow, above]

namespace Occurrence

/-- Whether an occurrence is an `if` statement. -/
def IsIf (occurrence : Occurrence) : Prop :=
  occurrence.node.kind = .construct .ifStatement

/-- Whether the rules examine a chain from here: at an `if` that is the first of its chain in
every context in which the walk shows it. -/
def StartsChain (occurrence : Occurrence) : Prop :=
  occurrence.IsIf ∧ ∀ (file : Path) (settings : Settings),
    Context.isChainRoot ⟨file, occurrence.parent?, settings⟩ = true

/-- Whether the chain that starts at an `if` steps through an occurrence. -/
def OnChainOf (occurrence first : Occurrence) : Prop :=
  ∃ place ∈ (Chain.startingAt first.node).places, occurrence.address = first.address ++ place

theorem startsChain_iff {occurrence : Occurrence} :
    occurrence.StartsChain ↔
      occurrence.IsIf ∧ ∀ parent, occurrence.parent? = some parent →
        parent.kind ≠ .construct .ifStatement := by
  refine and_congr_right fun _ => ?_
  simp only [Context.isChainRoot_iff]
  exact ⟨fun first => first ⟨""⟩ {}, fun apart _ _ => apart⟩

variable {root : Node} {first second later : Occurrence}

theorem eq_of_address_eq (firstIn : first ∈ root.occurrences) (secondIn : second ∈ root.occurrences)
    (same : first.address = second.address) : first = second := by
  obtain ⟨found, above⟩ := Node.mem_occurrences_iff.mp firstIn
  obtain ⟨found', above'⟩ := Node.mem_occurrences_iff.mp secondIn
  obtain ⟨address, parent?, node⟩ := first
  obtain ⟨address', parent?', node'⟩ := second
  obtain rfl : address = address' := same
  obtain rfl := Option.some.inj (found.symm.trans found')
  obtain rfl := above.trans above'.symm
  rfl

/-- Where links lead further down, an `if` stands right above and goes on there in its `else`. -/
theorem parent_of_leadsTo (firstIn : first ∈ root.occurrences) (isIf : first.IsIf)
    (secondIn : second ∈ root.occurrences) {place : Address} (further : place ≠ [])
    (leads : first.node.LeadsTo place) (reached : second.address = first.address ++ place) :
    ∃ parent, second.parent? = some parent ∧ parent.kind = .construct .ifStatement ∧
      second.address.getLast? = some parent.elseIndex := by
  obtain ⟨front, index, rfl⟩ : ∃ front index, place = front ++ [index] :=
    ⟨place.dropLast, place.getLast further, (List.dropLast_concat_getLast further).symm⟩
  obtain ⟨parent, found, kind⟩ := leads.of_append.kind_eq isIf
  obtain ⟨rfl, -⟩ := leads.last_link found
  obtain ⟨firstFound, -⟩ := Node.mem_occurrences_iff.mp firstIn
  obtain ⟨-, above⟩ := Node.mem_occurrences_iff.mp secondIn
  refine ⟨parent, ?_, kind, ?_⟩
  · have dropped : second.address.dropLast = first.address ++ front := by
      rw [reached, ← List.append_assoc, List.dropLast_concat]
    rw [above, Node.parentAt?, if_neg (by simp [reached]), dropped, Node.at?_append, firstFound]
    exact found
  · rw [reached, ← List.append_assoc, List.getLast?_concat]

/-- A chain that starts where links lead from another `if` starts at this `if`. -/
private theorem eq_of_leadsTo (firstIn : first ∈ root.occurrences) (isIf : first.IsIf)
    (secondIn : second ∈ root.occurrences) (starts : second.StartsChain) {place : Address}
    (leads : first.node.LeadsTo place) (reached : second.address = first.address ++ place) :
    first = second := by
  by_cases further : place = []
  · rw [further, List.append_nil] at reached
    exact eq_of_address_eq firstIn secondIn reached.symm
  · obtain ⟨parent, above, kind, -⟩ :=
      parent_of_leadsTo firstIn isIf secondIn further leads reached
    exact absurd kind ((startsChain_iff.mp starts).2 parent above)

/-- Two `if` statements whose chains step through the same occurrence: one of them is on the
chain of the other. -/
private theorem comparable (onFirst : later.OnChainOf first) (onSecond : later.OnChainOf second) :
    (∃ place, first.node.LeadsTo place ∧ second.address = first.address ++ place) ∨
      ∃ place, second.node.LeadsTo place ∧ first.address = second.address ++ place := by
  obtain ⟨firstPlace, firstKnown, firstReached⟩ := onFirst
  obtain ⟨secondPlace, secondKnown, secondReached⟩ := onSecond
  rw [Chain.mem_places_iff] at firstKnown secondKnown
  rcases List.append_eq_append_iff.mp (firstReached.symm.trans secondReached) with
    ⟨middle, address, rfl⟩ | ⟨middle, address, rfl⟩
  · exact Or.inl ⟨middle, firstKnown.of_append, address⟩
  · exact Or.inr ⟨middle, secondKnown.of_append, address⟩

/-- No occurrence is on two chains. -/
theorem StartsChain.unique (firstIn : first ∈ root.occurrences)
    (secondIn : second ∈ root.occurrences) (firstStarts : first.StartsChain)
    (secondStarts : second.StartsChain) (onFirst : later.OnChainOf first)
    (onSecond : later.OnChainOf second) : first = second := by
  rcases comparable onFirst onSecond with ⟨place, leads, reached⟩ | ⟨place, leads, reached⟩
  · exact eq_of_leadsTo firstIn firstStarts.1 secondIn secondStarts leads reached
  · exact (eq_of_leadsTo secondIn secondStarts.1 firstIn firstStarts leads reached).symm

end Occurrence

section Shape

/-- The children of an `if` statement as they are documented: `if ( condition ) consequence`, with
`else alternative` if there is one. No operand is a token of the syntax. -/
inductive IfShape : List Node → Prop
  | withoutElse {word opening condition closing consequence : Node}
      (wordKind : word.kind = .keyword .ifKeyword)
      (openingKind : opening.kind = .punctuation .openParen)
      (conditionKind : condition.kind.isSyntaxToken = false)
      (closingKind : closing.kind = .punctuation .closeParen)
      (consequenceKind : consequence.kind.isSyntaxToken = false) :
      IfShape [word, opening, condition, closing, consequence]
  | withElse {word opening condition closing consequence elseWord alternative : Node}
      (wordKind : word.kind = .keyword .ifKeyword)
      (openingKind : opening.kind = .punctuation .openParen)
      (conditionKind : condition.kind.isSyntaxToken = false)
      (closingKind : closing.kind = .punctuation .closeParen)
      (consequenceKind : consequence.kind.isSyntaxToken = false)
      (elseKind : elseWord.kind = .keyword .elseKeyword)
      (alternativeKind : alternative.kind.isSyntaxToken = false) :
      IfShape [word, opening, condition, closing, consequence, elseWord, alternative]

/-- Whether every `if` statement in a tree has the documented shape. -/
def Node.HasIfShapes (root : Node) : Prop :=
  root.Everywhere fun node => node.kind = .construct .ifStatement → IfShape node.children

theorem Node.hasIfShapes_iff {root : Node} :
    root.HasIfShapes ↔
      (root.kind = .construct .ifStatement → IfShape root.children) ∧
        ∀ child ∈ root.children, child.HasIfShapes :=
  everywhere_iff

theorem Node.hasIfShapes_token {kind : Kind} (plain : kind ≠ .construct .ifStatement)
    (text : String) : (token kind text).HasIfShapes :=
  hasIfShapes_iff.mpr ⟨fun isIf => absurd isIf plain, by simp [token]⟩

theorem Node.hasIfShapes_compose {kind : Kind} (plain : kind ≠ .construct .ifStatement)
    {children : List Node} (below : ∀ child ∈ children, child.HasIfShapes) :
    (compose kind children).HasIfShapes :=
  hasIfShapes_iff.mpr ⟨fun isIf => absurd isIf plain, below⟩

/-- Whether a tree can be an operand of a built `if` statement. -/
structure Node.IsOperand (node : Node) : Prop where
  kind : node.kind.isSyntaxToken = false
  shapes : node.HasIfShapes

/-- A built `if` statement has the documented shape when its operands are no tokens of the
syntax. -/
theorem Node.isOperand_ifStatement {condition consequence : Node} {alternative? : Option Node}
    (conditionOk : condition.IsOperand) (consequenceOk : consequence.IsOperand)
    (alternativeOk : ∀ alternative ∈ alternative?, alternative.IsOperand) :
    (ifStatement condition consequence alternative?).IsOperand := by
  have leaf (form : Kind) (plain : form ≠ .construct .ifStatement) : (keyword form).HasIfShapes :=
    hasIfShapes_token plain _
  refine ⟨rfl, hasIfShapes_iff.mpr ⟨fun _ => ?_, ?_⟩⟩
  · cases alternative? with
    | none => exact .withoutElse rfl rfl conditionOk.kind rfl consequenceOk.kind
    | some alternative =>
        exact .withElse rfl rfl conditionOk.kind rfl consequenceOk.kind rfl
          (alternativeOk alternative rfl).kind
  · cases alternative? with
    | none =>
        simp [ifStatement, compose, word, mark, leaf, conditionOk.shapes, consequenceOk.shapes]
    | some alternative =>
        have last := (alternativeOk alternative rfl).shapes
        simp [ifStatement, compose, word, mark, leaf, conditionOk.shapes, consequenceOk.shapes,
          last]

theorem ne_elseKeyword {kind : Kind} (operand : kind.isSyntaxToken = false) :
    kind ≠ .keyword .elseKeyword := by
  rintro rfl
  cases operand

/-- The `else` part comes after the five others. -/
theorem IfShape.elseIndex_eq {node : Node} (shape : IfShape node.children) :
    node.elseIndex = 6 := by
  obtain ⟨kind, text, start, children⟩ := node
  cases shape with
  | withoutElse wordKind openingKind conditionKind closingKind consequenceKind =>
      simp [Node.elseIndex, List.findIdx_cons, wordKind, openingKind, closingKind,
        ne_elseKeyword conditionKind, ne_elseKeyword consequenceKind]
  | withElse wordKind openingKind conditionKind closingKind consequenceKind elseKind _ =>
      simp [Node.elseIndex, List.findIdx_cons, wordKind, openingKind, closingKind, elseKind,
        ne_elseKeyword conditionKind, ne_elseKeyword consequenceKind]

/-- An `if` right in another stands as its condition, as its body or after its `else`. -/
theorem IfShape.index_cases {node child : Node} (shape : IfShape node.children) {index : Nat}
    (present : node.children[index]? = some child)
    (isIf : child.kind = .construct .ifStatement) :
    index = 2 ∨ index = 4 ∨ (index = node.elseIndex ∧ node.alternative? = some child) := by
  have six := shape.elseIndex_eq
  have last (there : index = 6) :
      index = 2 ∨ index = 4 ∨ (index = node.elseIndex ∧ node.alternative? = some child) := by
    refine Or.inr (Or.inr ⟨there.trans six.symm, ?_⟩)
    rw [Node.alternative?_eq_getElem?, six, ← there]
    exact present
  generalize node.children = children at shape present
  cases shape with
  | withoutElse wordKind openingKind _ closingKind _ =>
      match index with
      | 0 | 1 | 3 =>
          obtain rfl := Option.some.inj present
          simp_all
      | 2 => exact Or.inl rfl
      | 4 => exact Or.inr (Or.inl rfl)
      | index + 5 => simp at present
  | withElse wordKind openingKind _ closingKind _ elseKind _ =>
      match index with
      | 0 | 1 | 3 | 5 =>
          obtain rfl := Option.some.inj present
          simp_all
      | 2 => exact Or.inl rfl
      | 4 => exact Or.inr (Or.inl rfl)
      | 6 => exact last rfl
      | index + 7 => simp at present

end Shape

namespace Occurrence

/-- Whether an occurrence is the condition or the body of an `if`, without a block between. -/
def IsInner (occurrence : Occurrence) : Prop :=
  ∃ parent, occurrence.parent? = some parent ∧ parent.kind = .construct .ifStatement ∧
    (occurrence.address.getLast? = some 2 ∨ occurrence.address.getLast? = some 4)

variable {root : Node} {first later above : Occurrence}

/-- An `if` is on its own chain. -/
theorem onChainOf_self (occurrence : Occurrence) : occurrence.OnChainOf occurrence :=
  ⟨[], Chain.mem_places_iff.mpr (.here _), (List.append_nil _).symm⟩

/-- The `if` in the `else` of another is on every chain that this one is on. -/
theorem OnChainOf.append_link (firstIn : first ∈ root.occurrences)
    (aboveIn : above ∈ root.occurrences) (onFirst : above.OnChainOf first)
    (found : above.node.alternative? = some later.node) (isIf : later.IsIf)
    (reached : later.address = above.address ++ [above.node.elseIndex]) :
    later.OnChainOf first := by
  obtain ⟨place, known, placed⟩ := onFirst
  obtain ⟨firstFound, -⟩ := Node.mem_occurrences_iff.mp firstIn
  obtain ⟨aboveFound, -⟩ := Node.mem_occurrences_iff.mp aboveIn
  have within : first.node.at? place = some above.node := by
    rw [placed, Node.at?_append, firstFound] at aboveFound
    exact aboveFound
  have leads := (Chain.mem_places_iff.mp known).append_link within found isIf
  refine ⟨_, Chain.mem_places_iff.mpr leads, ?_⟩
  rw [reached, placed, List.append_assoc]

/-- What is on a chain was not reached through the condition or the body of an `if`. -/
theorem StartsChain.not_isInner (shapes : root.HasIfShapes) (firstIn : first ∈ root.occurrences)
    (starts : first.StartsChain) (onFirst : later.OnChainOf first) {other : Occurrence}
    (otherIn : other ∈ root.occurrences) (isIf : other.IsIf) (onOther : later.OnChainOf other) :
    ¬other.IsInner := by
  rintro ⟨parent, above, kind, inner⟩
  have different : first ≠ other := by
    rintro rfl
    exact (startsChain_iff.mp starts).2 parent above kind
  rcases comparable onFirst onOther with ⟨place, leads, reached⟩ | ⟨place, leads, reached⟩
  · have further : place ≠ [] := by
      rintro rfl
      rw [List.append_nil] at reached
      exact different (eq_of_address_eq firstIn otherIn reached.symm)
    obtain ⟨same, above', -, last⟩ :=
      parent_of_leadsTo firstIn starts.1 otherIn further leads reached
    obtain rfl : parent = same := Option.some.inj (above.symm.trans above')
    obtain ⟨front, _, -, found, -⟩ := Node.exists_of_parent?_eq_some otherIn above
    have six := (Node.everywhere_iff_at?.mp shapes front parent found kind).elseIndex_eq
    rw [last, six] at inner
    rcases inner with inner | inner
    · cases inner
    · cases inner
  · exact different (eq_of_leadsTo otherIn isIf firstIn starts leads reached).symm

/-- What was not reached through the condition or the body of an `if` is on a chain. -/
theorem exists_startsChain (shapes : root.HasIfShapes) (laterIn : later ∈ root.occurrences)
    (isIf : later.IsIf)
    (outer : ∀ other ∈ root.occurrences, other.IsIf → later.OnChainOf other → ¬other.IsInner) :
    ∃ first ∈ root.occurrences, first.StartsChain ∧ later.OnChainOf first := by
  -- upwards along the links, each of which shortens the address
  induction length : later.address.length using Nat.strongRecOn generalizing later with
  | _ count ih =>
      by_cases starts : later.StartsChain
      · exact ⟨later, laterIn, starts, onChainOf_self later⟩
      obtain ⟨parent, above, kind⟩ : ∃ parent, later.parent? = some parent ∧
          parent.kind = .construct .ifStatement := by
        rw [startsChain_iff] at starts
        simpa [isIf] using starts
      obtain ⟨front, index, placed, found, present⟩ := Node.exists_of_parent?_eq_some laterIn above
      have last : later.address.getLast? = some index := by rw [placed, List.getLast?_concat]
      have notInner := outer later laterIn isIf (onChainOf_self later)
      have shape := Node.everywhere_iff_at?.mp shapes front parent found kind
      rcases shape.index_cases present isIf with rfl | rfl | ⟨rfl, link⟩
      · exact absurd ⟨parent, above, kind, Or.inl last⟩ notInner
      · exact absurd ⟨parent, above, kind, Or.inr last⟩ notInner
      · let upper : Occurrence := ⟨front, root.parentAt? front, parent⟩
        have upperIn : upper ∈ root.occurrences := Node.mem_occurrences_iff.mpr ⟨found, rfl⟩
        have shorter : upper.address.length < count := by
          rw [← length, placed, List.length_append]
          exact Nat.lt_succ_self _
        have linked (first : Occurrence) (firstIn : first ∈ root.occurrences)
            (onFirst : upper.OnChainOf first) : later.OnChainOf first :=
          onFirst.append_link firstIn upperIn link isIf placed
        have upperOuter : ∀ other ∈ root.occurrences, other.IsIf → upper.OnChainOf other →
            ¬other.IsInner := by
          intro other otherIn otherIf onOther
          exact outer other otherIn otherIf (linked other otherIn onOther)
        obtain ⟨first, firstIn, starts, onFirst⟩ := ih _ shorter upperIn kind upperOuter rfl
        exact ⟨first, firstIn, starts, linked first firstIn onFirst⟩

/-- Where every `if` has the documented shape, an `if` is on one chain at most, and it is on one
exactly when no `if` whose chain steps through it is itself the condition or the body of an
`if`. -/
theorem onOneChain_iff (shapes : root.HasIfShapes) (laterIn : later ∈ root.occurrences)
    (isIf : later.IsIf) :
    (∀ first ∈ root.occurrences, ∀ second ∈ root.occurrences, first.StartsChain →
      second.StartsChain → later.OnChainOf first → later.OnChainOf second → first = second) ∧
    ((∃ first ∈ root.occurrences, first.StartsChain ∧ later.OnChainOf first) ↔
      ∀ other ∈ root.occurrences, other.IsIf → later.OnChainOf other → ¬other.IsInner) := by
  refine ⟨?_, ?_, ?_⟩
  · intro first firstIn second secondIn firstStarts secondStarts onFirst onSecond
    exact firstStarts.unique firstIn secondIn secondStarts onFirst onSecond
  · rintro ⟨first, firstIn, starts, onFirst⟩ other otherIn otherIf onOther
    exact starts.not_isInner shapes firstIn onFirst otherIn otherIf onOther
  · intro outer
    exact exists_startsChain shapes laterIn isIf outer

end Occurrence

section Nested

open Node

/-- `if (a) if (b) f(); else f();`, where the inner `if` is the body of the outer one. -/
def nestedIf : Node :=
  ifStatement (identifier "a")
    (ifStatement (identifier "b") (callStatement "f") (some (callStatement "f"))) none

/-- `if (a) f(); else if (b) g();`. -/
def elseIf : Node :=
  ifStatement (identifier "a") (callStatement "f")
    (some (ifStatement (identifier "b") (callStatement "g") none))

private theorem isOperand_identifier (name : String) : (identifier name).IsOperand :=
  ⟨rfl, hasIfShapes_token (by decide) name⟩

private theorem isOperand_callStatement (name : String) : (callStatement name).IsOperand := by
  have leaf (form : Punctuation) : (mark form).HasIfShapes := by
    apply hasIfShapes_token
    simp
  have callee : (call (identifier name) []).HasIfShapes := by
    apply hasIfShapes_compose (by decide)
    simp [leaf, (isOperand_identifier name).shapes]
  refine ⟨rfl, hasIfShapes_compose (by decide) ?_⟩
  simp [leaf, callee]

private theorem isOperand_nestedIf : nestedIf.IsOperand := by
  apply isOperand_ifStatement (isOperand_identifier "a") ?_ (by simp)
  apply isOperand_ifStatement (isOperand_identifier "b") (isOperand_callStatement "f")
  rintro _ ⟨⟩
  exact isOperand_callStatement "f"

private theorem isOperand_elseIf : elseIf.IsOperand := by
  apply isOperand_ifStatement (isOperand_identifier "a") (isOperand_callStatement "f")
  rintro _ ⟨⟩
  exact isOperand_ifStatement (isOperand_identifier "b") (isOperand_callStatement "g")
    (by simp)

/-- The inner `if` is on no chain: no rule examines it. -/
theorem nestedIf_onNoChain :
    nestedIf.HasIfShapes ∧ ∃ later ∈ nestedIf.occurrences, later.IsIf ∧
      ¬∃ first ∈ nestedIf.occurrences, first.StartsChain ∧ later.OnChainOf first := by
  let later : Occurrence := ⟨[4], some nestedIf,
    ifStatement (identifier "b") (callStatement "f") (some (callStatement "f"))⟩
  have laterIn : later ∈ nestedIf.occurrences := mem_occurrences_iff.mpr ⟨rfl, rfl⟩
  have inner : later.IsInner := ⟨nestedIf, rfl, rfl, Or.inr rfl⟩
  refine ⟨isOperand_nestedIf.shapes, later, laterIn, rfl, ?_⟩
  rintro ⟨first, firstIn, starts, onFirst⟩
  exact starts.not_isInner isOperand_nestedIf.shapes firstIn onFirst laterIn rfl
    later.onChainOf_self inner

/-- The `if` after `else` is on the chain of the first. -/
theorem onOneChain_iff_elseIf :
    ∃ later ∈ elseIf.occurrences, later.address = [6] ∧ later.IsIf ∧
      ∃ first ∈ elseIf.occurrences, first.StartsChain ∧ later.OnChainOf first := by
  let later : Occurrence := ⟨[6], some elseIf,
    ifStatement (identifier "b") (callStatement "g") none⟩
  have laterIn : later ∈ elseIf.occurrences := mem_occurrences_iff.mpr ⟨rfl, rfl⟩
  have outer : ∀ other ∈ elseIf.occurrences, other.IsIf → later.OnChainOf other →
      ¬other.IsInner := by
    rintro other - - ⟨place, -, reached⟩ ⟨_, -, -, inner⟩
    rcases List.singleton_eq_append_iff.mp reached with ⟨here, -⟩ | ⟨here, -⟩
    · simp [here] at inner
    · simp [here] at inner
  have chained := (Occurrence.onOneChain_iff isOperand_elseIf.shapes laterIn rfl).2.mpr outer
  exact ⟨later, laterIn, rfl, rfl, chained⟩

end Nested

end DuplicateLogic
