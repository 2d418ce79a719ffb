import DuplicateLogic.Proofs.Occurrence
import DuplicateLogic.Rules.Walk
import Mathlib.Data.List.Basic

/-! # What a walk calls

A walk shows every occurrence of a node to every rule that wants its kind. The calls that a rule
list asks for on a tree can be written down without a table: the occurrences in order, and at
each the rules in order whose kinds contain the kind of the node. A run makes calls one after
the other, each to the rule in the state in which the calls before have left it. -/

namespace DuplicateLogic

/-- Whether a rule wants to see nodes of a kind. -/
def Rule.wants (rule : Rule) (kind : Kind) : Bool :=
  rule.kinds.contains kind

theorem Rule.wants_iff (rule : Rule) (kind : Kind) :
    rule.wants kind = true ↔ kind ∈ rule.kinds :=
  List.contains_iff_mem

namespace Dispatch

@[simp] theorem interested_nil (key : Kind) : interested [] key = [] := rfl

theorem interested_cons (known : Kind) (indices : List Nat) (rest : Dispatch) (key : Kind) :
    interested ((known, indices) :: rest) key =
      if key = known then indices else interested rest key := by
  by_cases same : key = known
  · simp [interested, same]
  · simp [interested, List.lookup_cons, beq_eq_false_iff_ne.mpr same, same]

/-- Noting a rule for a kind appends it to what is noted for that kind, unless it is there. -/
theorem interested_note (index : Nat) (kind key : Kind) (table : Dispatch) :
    (note index kind table).interested key =
      if key = kind ∧ index ∉ table.interested key then table.interested key ++ [index]
      else table.interested key := by
  induction table with
  | nil =>
      by_cases same : key = kind
      · simp [note, interested_cons, same]
      · simp [note, interested_cons, same]
  | cons entry rest ih =>
      obtain ⟨known, indices⟩ := entry
      by_cases found : known = kind
      · by_cases same : key = kind
        · by_cases noted : index ∈ indices
          · simp [note, interested_cons, found, same, noted]
          · simp [note, interested_cons, found, same, noted]
        · simp [note, interested_cons, found, same]
      · by_cases same : key = known
        · have other : key ≠ kind := fun equal => found (same.symm.trans equal)
          simp [note, interested_cons, found, same]
        · simp [note, interested_cons, found, same, ih]

/-- Noting a rule for several kinds notes it once for each of them, repeated or not. -/
theorem interested_foldl_note (index : Nat) (kinds : List Kind) (key : Kind)
    (table : Dispatch) :
    (kinds.foldl (fun table kind => note index kind table) table).interested key =
      if key ∈ kinds ∧ index ∉ table.interested key then table.interested key ++ [index]
      else table.interested key := by
  induction kinds generalizing table with
  | nil => simp
  | cons kind rest ih =>
      rw [List.foldl_cons, ih, interested_note]
      by_cases same : key = kind
      · by_cases noted : index ∈ table.interested key
        · simp [noted]
        · subst same
          simp [noted]
      · simp [same]

/-- The rules from an index on are noted for a kind once each and in order. -/
theorem interested_ofRulesFrom {table : Dispatch} {index : Nat} (rules : List Rule) (key : Kind)
    (earlier : ∀ known ∈ table.interested key, known < index) :
    (ofRulesFrom table index rules).interested key =
      table.interested key ++ rules.findIdxs (·.wants key) index := by
  induction rules generalizing table index with
  | nil => simp [ofRulesFrom]
  | cons rule rest ih =>
      have fresh : index ∉ table.interested key := fun noted => Nat.lt_irrefl _ (earlier _ noted)
      have step := interested_foldl_note index rule.kinds key table
      rw [ofRulesFrom, List.findIdxs_cons]
      by_cases wanted : rule.wants key = true
      · rw [if_pos ⟨(rule.wants_iff key).mp wanted, fresh⟩] at step
        rw [ih, step, if_pos wanted, List.append_assoc, List.singleton_append]
        intro known noted
        rw [step, List.mem_append, List.mem_singleton] at noted
        rcases noted with noted | rfl
        · exact Nat.lt_succ_of_lt (earlier known noted)
        · exact Nat.lt_succ_self _
      · rw [if_neg fun both => wanted ((rule.wants_iff key).mpr both.1)] at step
        rw [ih, step, if_neg wanted]
        intro known noted
        rw [step] at noted
        exact Nat.lt_succ_of_lt (earlier known noted)

/-- The table gives for a kind exactly the rules whose kinds contain it, in order. -/
theorem interested_ofRules (rules : List Rule) (key : Kind) :
    (ofRules rules).interested key = rules.findIdxs (·.wants key) := by
  have none : ∀ known ∈ interested [] key, known < 0 := by simp
  rw [ofRules, interested_ofRulesFrom rules key none, interested_nil, List.nil_append]

end Dispatch

namespace Walk

/-- One call of a rule: its position in the list of rules, the node shown to it and the node
above. -/
structure Call where
  rule : Nat
  parent? : Option Node
  node : Node

/-- The calls that show an occurrence to the rules at some positions. -/
def callsAt (occurrence : Occurrence) (indices : List Nat) : List Call :=
  indices.map fun index => ⟨index, occurrence.parent?, occurrence.node⟩

/-- The calls that rules ask for on a tree: at each occurrence, in order, every rule that wants
the kind of the node, in order. -/
def calls (rules : List Rule) (root : Node) : List Call :=
  root.occurrences.flatMap fun occurrence =>
    callsAt occurrence (rules.findIdxs (·.wants occurrence.node.kind))

/-- Calls made one after the other from a list of rules: what they report together, and the
rules in the states in which the calls leave them. -/
inductive Run (file : Path) (settings : Settings) :
    List Rule → List Call → List Finding → List Rule → Prop
  | done {rules : List Rule} : Run file settings rules [] [] rules
  | call {rules last : List Rule} {call : Call} {rest : List Call} {later : List Finding}
      {rule : Rule} {found : Option (List Finding)} {state : rule.State}
      (present : rules[call.rule]? = some rule)
      (answer : rule.visit rule.state ⟨file, call.parent?, settings⟩ call.node = (found, state))
      (tail : Run file settings (rules.set call.rule { rule with state := state }) rest later
        last) :
      Run file settings rules (call :: rest) (found.getD [] ++ later) last

section Run

variable {file : Path} {settings : Settings}

/-- The calls determine what is reported and the final states. -/
theorem Run.deterministic {rules last : List Rule} {made : List Call} {found : List Finding}
    (run : Run file settings rules made found last) :
    ∀ {found' : List Finding} {last' : List Rule},
      Run file settings rules made found' last' → found = found' ∧ last = last' := by
  induction run with
  | done =>
      intro found' last' run'
      cases run'
      exact ⟨rfl, rfl⟩
  | call present answer _ ih =>
      intro found' last' run'
      cases run' with
      | call present' answer' tail' =>
          obtain rfl := Option.some.inj (present.symm.trans present')
          obtain ⟨rfl, rfl⟩ := Prod.mk.inj (answer.symm.trans answer')
          obtain ⟨rfl, rfl⟩ := ih tail'
          exact ⟨rfl, rfl⟩

/-- Calls after calls report one after the other; the later ones start where the first end. -/
theorem Run.append {rules middle last : List Rule} {first second : List Call}
    {found found' : List Finding} (run : Run file settings rules first found middle)
    (run' : Run file settings middle second found' last) :
    Run file settings rules (first ++ second) (found ++ found') last := by
  induction run with
  | done => exact run'
  | call present answer _ ih =>
      rw [List.append_assoc]
      exact .call present answer (ih run')

/-- What calls after calls report and leave is what the first and then the later ones do. -/
theorem Run.split {rules last : List Rule} {first second : List Call} {found : List Finding}
    (run : Run file settings rules (first ++ second) found last) :
    ∃ front back middle, Run file settings rules first front middle ∧
      Run file settings middle second back last ∧ found = front ++ back := by
  induction first generalizing rules found with
  | nil => exact ⟨[], found, rules, .done, run, rfl⟩
  | cons call rest ih =>
      cases run with
      | call present answer tail =>
          obtain ⟨front, back, middle, earlier, later, rfl⟩ := ih tail
          exact ⟨_, back, middle, .call present answer earlier, later, (List.append_assoc ..).symm⟩

theorem Run.length_eq {rules last : List Rule} {made : List Call} {found : List Finding}
    (run : Run file settings rules made found last) : last.length = rules.length := by
  induction run with
  | done => rfl
  | call _ _ _ ih => rw [ih, List.length_set]

end Run

/-- Showing an occurrence to the rules at some positions makes a call for each. -/
theorem run_inspectAll (file : Path) (settings : Settings) (occurrence : Occurrence)
    {indices : List Nat} {rules : List Rule} (inside : ∀ index ∈ indices, index < rules.length) :
    let shown := inspectAll ⟨file, occurrence.parent?, settings⟩ occurrence.node indices rules
    Run file settings rules (callsAt occurrence indices) shown.1 shown.2 := by
  induction indices generalizing rules with
  | nil => exact .done
  | cons index rest ih =>
      have bound : index < rules.length := inside index (by simp)
      have present : rules[index]? = some rules[index] := List.getElem?_eq_getElem bound
      simp only [inspectAll, inspectAt, present, Rule.inspect]
      apply Run.call present rfl
      apply ih
      intro later known
      rw [List.length_set]
      exact inside later (List.mem_cons_of_mem _ known)

section Visit

variable (table : Dispatch) (file : Path) (settings : Settings)

/-- The calls that a table asks for at the occurrences in a list. -/
def callsOf (occurrences : List Occurrence) : List Call :=
  occurrences.flatMap fun occurrence =>
    callsAt occurrence (table.interested occurrence.node.kind)

private theorem run_visitNodes {size : Nat} {children : List Node}
    (each : ∀ child ∈ children, ∀ (address : Address) (parent? : Option Node)
      (rules : List Rule), rules.length = size →
      Run file settings rules (callsOf table (child.occurrencesFrom address parent?))
        (visitNode table file settings parent? child rules).1
        (visitNode table file settings parent? child rules).2)
    (address : Address) (parent : Node) (index : Nat) {rules : List Rule}
    (sized : rules.length = size) :
    Run file settings rules (callsOf table (Node.occurrencesBelow address parent index children))
      (visitNodes table file settings parent children rules).1
      (visitNodes table file settings parent children rules).2 := by
  induction children generalizing index rules with
  | nil => exact .done
  | cons child rest ih =>
      have first := each child (by simp) (address ++ [index]) (some parent) rules sized
      have later := ih (fun child known => each child (List.mem_cons_of_mem _ known))
        (index + 1) (first.length_eq.trans sized)
      simpa only [callsOf, Node.occurrencesBelow, List.flatMap_append, visitNodes] using
        first.append later

/-- Walking a node makes the calls that the table asks for at the occurrences in it. -/
theorem run_visitNode {size : Nat}
    (inside : ∀ kind, ∀ index ∈ table.interested kind, index < size) (node : Node)
    (address : Address) (parent? : Option Node) (rules : List Rule)
    (sized : rules.length = size) :
    Run file settings rules (callsOf table (node.occurrencesFrom address parent?))
      (visitNode table file settings parent? node rules).1
      (visitNode table file settings parent? node rules).2 := by
  induction node using Node.induction generalizing address parent? rules with
  | step node ih =>
      have here := run_inspectAll file settings ⟨address, parent?, node⟩ fun index noted =>
        sized ▸ inside node.kind index noted
      have below := run_visitNodes table file settings ih address node 0
        (here.length_eq.trans sized)
      cases node
      simpa only [callsOf, Node.occurrencesFrom, List.flatMap_cons, visitNode] using
        here.append below

end Visit

/-- A walk makes exactly the calls that its rules ask for. -/
theorem run_walk (root : Node) (rules : List Rule) (file : Path) (settings : Settings) :
    Run file settings rules (calls rules root) (walk root rules file settings)
      (visitNode (Dispatch.ofRules rules) file settings none root rules).2 := by
  have inside : ∀ kind, ∀ index ∈ (Dispatch.ofRules rules).interested kind,
      index < rules.length := by
    intro kind index noted
    rw [Dispatch.interested_ofRules] at noted
    simpa using List.lt_add_of_mem_findIdxs index noted
  have asked : callsOf (Dispatch.ofRules rules) root.occurrences = calls rules root := by
    simp only [callsOf, Dispatch.interested_ofRules, calls]
  rw [← asked]
  exact run_visitNode (Dispatch.ofRules rules) file settings inside root [] none rules rfl

end Walk

/-- A walk makes exactly the calls that its rules ask for on the occurrences in the tree: the
occurrences stand in the order of their addresses, each with the node right above it, and what
the calls report and the states they leave are the result of the walk. -/
theorem walk_makes_calls (root : Node) (rules : List Rule) (file : Path) (settings : Settings) :
    (root.occurrences.map (·.address)).Pairwise (· < ·) ∧
      (∀ occurrence : Occurrence, occurrence ∈ root.occurrences ↔
        root.at? occurrence.address = some occurrence.node ∧
          occurrence.parent? = root.parentAt? occurrence.address) ∧
      ∀ (found : List Finding) (last : List Rule),
        Walk.Run file settings rules (Walk.calls rules root) found last ↔
          walk root rules file settings = found ∧
            (Walk.visitNode (Dispatch.ofRules rules) file settings none root rules).2 = last := by
  refine ⟨root.occurrences_sorted, fun _ => Node.mem_occurrences_iff, ?_⟩
  intro found last
  have made := Walk.run_walk root rules file settings
  constructor
  · intro run
    exact made.deterministic run
  · rintro ⟨rfl, rfl⟩
    exact made

namespace Rule

/-- What a rule in its present state reports at a node. -/
def findings (rule : Rule) (context : Context) (node : Node) : List Finding :=
  (rule.inspect context node).1.getD []

/-- Whether no node changes the state of a rule. -/
def IsStateless (rule : Rule) : Prop :=
  ∀ (context : Context) (node : Node), (rule.inspect context node).2 = rule

theorem isStateless_stateless (name : String) (ids : List RuleId) (kinds : List Kind)
    (visit : Context → Node → Option (List Finding)) :
    (stateless name ids kinds visit).IsStateless := fun _ _ => rfl

theorem findings_stateless (name : String) (ids : List RuleId) (kinds : List Kind)
    (visit : Context → Node → Option (List Finding)) (context : Context) (node : Node) :
    (stateless name ids kinds visit).findings context node = (visit context node).getD [] := rfl

theorem findings_stateless_of_none {name : String} {ids : List RuleId} {kinds : List Kind}
    {visit : Context → Node → Option (List Finding)} {context : Context} {node : Node}
    (silent : visit context node = none) :
    (stateless name ids kinds visit).findings context node = [] := by
  rw [findings_stateless, silent, Option.getD_none]

end Rule

namespace Walk

/-- Without a state, a rule is the same after it was shown a node. -/
theorem set_of_isStateless {file : Path} {settings : Settings} {rules : List Rule} {call : Call}
    {rule : Rule} {found : Option (List Finding)} {state : rule.State}
    (constant : ∀ rule ∈ rules, rule.IsStateless) (present : rules[call.rule]? = some rule)
    (answer : rule.visit rule.state ⟨file, call.parent?, settings⟩ call.node = (found, state)) :
    rules.set call.rule { rule with state := state } = rules := by
  have same : { rule with state := state } = rule := by
    simpa only [Rule.inspect, answer] using
      constant rule (List.mem_of_getElem? present) ⟨file, call.parent?, settings⟩ call.node
  rw [same]
  obtain ⟨bound, rfl⟩ := List.getElem?_eq_some_iff.mp present
  exact List.set_getElem_self bound

/-- Without states, calls leave the rules as they were. -/
theorem Run.last_eq {file : Path} {settings : Settings} {rules last : List Rule}
    {made : List Call} {found : List Finding} (run : Run file settings rules made found last)
    (constant : ∀ rule ∈ rules, rule.IsStateless) : last = rules := by
  induction run with
  | done => rfl
  | call present answer _ ih =>
      have kept := set_of_isStateless constant present answer
      rw [kept] at ih
      exact ih constant

/-- Without states, what calls report is what each call reports on its own. -/
theorem Run.of_isStateless {file : Path} {settings : Settings} {rules last : List Rule}
    {made : List Call} {found : List Finding}
    (run : Run file settings rules made found last)
    (constant : ∀ rule ∈ rules, rule.IsStateless) :
    found = made.flatMap fun call =>
      (rules[call.rule]?.map fun rule =>
        rule.findings ⟨file, call.parent?, settings⟩ call.node).getD [] := by
  induction run with
  | done => rfl
  | @call rules last call rest later rule found state present answer tail ih =>
      have kept := set_of_isStateless constant present answer
      rw [kept] at ih
      rw [List.flatMap_cons, ← ih constant, present, Option.map_some, Option.getD_some,
        Rule.findings, Rule.inspect, answer]

/-- The elements at the positions that `findIdxs` gives are those that `filter` keeps. -/
private theorem flatMap_findIdxs {α : Type _} {β : Type _} (wanted : α → Bool)
    (image : α → List β) (items : List α) :
    ((items.findIdxs wanted).flatMap fun index => (items[index]?.map image).getD []) =
      (items.filter wanted).flatMap image := by
  induction items with
  | nil => rfl
  | cons item rest ih =>
      have shifted : ((rest.findIdxs wanted 1).flatMap fun index =>
          ((item :: rest)[index]?.map image).getD []) = (rest.filter wanted).flatMap image := by
        rw [List.findIdxs_start, List.flatMap_map, ← ih]
        rfl
      rw [List.findIdxs_cons, List.filter_cons]
      by_cases keep : wanted item = true
      · rw [if_pos keep, if_pos keep, List.flatMap_cons, List.flatMap_cons, Nat.zero_add, shifted]
        rfl
      · rw [if_neg keep, if_neg keep, Nat.zero_add, shifted]

/-- The calls that rules ask for at some occurrences. -/
def callsAmong (rules : List Rule) (occurrences : List Occurrence) : List Call :=
  occurrences.flatMap fun occurrence =>
    callsAt occurrence (rules.findIdxs (·.wants occurrence.node.kind))

/-- What rules in their present states report at an occurrence. -/
def reportsAt (rules : List Rule) (file : Path) (settings : Settings) (occurrence : Occurrence) :
    List Finding :=
  (rules.filter (·.wants occurrence.node.kind)).flatMap fun rule =>
    rule.findings ⟨file, occurrence.parent?, settings⟩ occurrence.node

/-- Rules without a state report at each of several occurrences on their own. -/
theorem Run.eq_flatMap_reportsAt {file : Path} {settings : Settings} {rules last : List Rule}
    {occurrences : List Occurrence} {found : List Finding}
    (run : Run file settings rules (callsAmong rules occurrences) found last)
    (constant : ∀ rule ∈ rules, rule.IsStateless) :
    found = occurrences.flatMap (reportsAt rules file settings) := by
  rw [run.of_isStateless constant, callsAmong, List.flatMap_assoc]
  refine congrArg (List.flatMap · occurrences) ?_
  funext occurrence
  rw [callsAt, List.flatMap_map]
  exact flatMap_findIdxs (·.wants occurrence.node.kind)
    (fun rule => rule.findings ⟨file, occurrence.parent?, settings⟩ occurrence.node) rules

end Walk

/-- Rules without a state report at every occurrence on their own: the walk appends what each
rule that wants the node reports there. -/
theorem walk_of_isStateless (root : Node) {rules : List Rule} (file : Path) (settings : Settings)
    (constant : ∀ rule ∈ rules, rule.IsStateless) :
    walk root rules file settings =
      root.occurrences.flatMap fun occurrence =>
        (rules.filter (·.wants occurrence.node.kind)).flatMap fun rule =>
          rule.findings ⟨file, occurrence.parent?, settings⟩ occurrence.node :=
  (Walk.run_walk root rules file settings).eq_flatMap_reportsAt constant

end DuplicateLogic
