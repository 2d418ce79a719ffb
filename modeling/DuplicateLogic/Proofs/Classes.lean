import DuplicateLogic.Proofs.Equivalence
import Mathlib.Algebra.BigOperators.Fin
import Mathlib.Algebra.BigOperators.Intervals
import Mathlib.Data.List.FinRange
import Mathlib.Data.List.Sort

/-! # Classes of equivalent nodes

The places in a list of nodes fall into classes: two are alike when equivalent nodes stand there.
Every place but the first of its class has that first one before it, so there are as many of them
as there are places less classes. A place has as many alike places before it as members of its
class come before it, so the classes together have one pair of alike places for each two members
of each class. -/

namespace DuplicateLogic

/-- Nodes up to equivalence. -/
def Code : Type :=
  Quotient ⟨fun first second : Node => first.equivalent second = true,
    Node.equivalence_equivalent⟩

namespace Node

/-- The class of a node. -/
def code (node : Node) : Code :=
  Quotient.mk _ node

theorem code_eq_iff {first second : Node} :
    first.code = second.code ↔ first.equivalent second = true :=
  Quotient.eq

end Node

instance : DecidableEq Code :=
  fun first second => Quotient.recOnSubsingleton₂ first second fun _ _ =>
    decidable_of_iff _ Node.code_eq_iff.symm

section Ascending

variable {α : Type} [LinearOrder α]

/-- The head of an ascending list is its least element. -/
theorem head?_eq_some_iff_of_ascending {items : List α} (ascending : items.Pairwise (· < ·))
    {item : α} : items.head? = some item ↔ item ∈ items ∧ ∀ other ∈ items, item ≤ other := by
  cases items with
  | nil => simp
  | cons first rest =>
      have after := (List.pairwise_cons.mp ascending).1
      rw [List.head?_cons, Option.some.injEq]
      constructor
      · rintro rfl
        refine ⟨List.mem_cons_self, fun other known => ?_⟩
        rcases List.mem_cons.mp known with rfl | further
        · exact le_rfl
        · exact (after other further).le
      · rintro ⟨known, least⟩
        rcases List.mem_cons.mp known with rfl | further
        · rfl
        · exact absurd (least first List.mem_cons_self) (after item further).not_ge

/-- What is less than an element of an ascending list is what stands before it. -/
theorem filter_lt_of_ascending {front back : List α} {item : α}
    (ascending : (front ++ item :: back).Pairwise (· < ·)) :
    (front ++ item :: back).filter (· < item) = front := by
  obtain ⟨-, later, earlier⟩ := List.pairwise_append.mp ascending
  have inFront : front.filter (· < item) = front := by
    rw [List.filter_eq_self]
    intro other known
    exact decide_eq_true (earlier other known item List.mem_cons_self)
  have inBack : (item :: back).filter (· < item) = [] := by
    rw [List.filter_eq_nil_iff]
    intro other known less
    rcases List.mem_cons.mp known with rfl | further
    · exact absurd (of_decide_eq_true less) (lt_irrefl _)
    · exact absurd (of_decide_eq_true less) ((List.pairwise_cons.mp later).1 other further).not_gt
  rw [List.filter_append, inFront, inBack, List.append_nil]

end Ascending

namespace Alike

variable (nodes : List Node)

/-- The places before a place at which an equivalent node stands, in order. -/
def before (place : Fin nodes.length) : List (Fin nodes.length) :=
  (List.finRange nodes.length).filter fun earlier =>
    earlier < place && nodes[earlier].equivalent nodes[place]

/-- Whether a place is the first member of the class of a place. -/
structure IsFirst (first place : Fin nodes.length) : Prop where
  alike : nodes[first].code = nodes[place].code
  least : ∀ other : Fin nodes.length, nodes[other].code = nodes[place].code → first ≤ other

/-- The members of a class in order. -/
def members (code : Code) : List (Fin nodes.length) :=
  (List.finRange nodes.length).filter fun place => nodes[place].code = code

/-- The classes of the nodes. -/
def classes : Finset Code :=
  (nodes.map Node.code).toFinset

variable {nodes} {first second place : Fin nodes.length}

theorem mem_before_iff {earlier : Fin nodes.length} :
    earlier ∈ before nodes place ↔
      earlier < place ∧ nodes[earlier].code = nodes[place].code := by
  simp [before, Node.code_eq_iff]

theorem before_ascending (place : Fin nodes.length) : (before nodes place).Pairwise (· < ·) :=
  (List.pairwise_lt_finRange _).filter _

theorem mem_members_iff {code : Code} :
    place ∈ members nodes code ↔ nodes[place].code = code := by
  simp [members]

theorem members_ascending (code : Code) : (members nodes code).Pairwise (· < ·) :=
  (List.pairwise_lt_finRange _).filter _

theorem mem_classes (place : Fin nodes.length) : nodes[place].code ∈ classes nodes :=
  List.mem_toFinset.mpr (List.mem_map_of_mem (List.getElem_mem place.isLt))

section First

/-- A class has one first member. -/
theorem IsFirst.unique (isFirst : IsFirst nodes first place)
    (isFirst' : IsFirst nodes second place) : first = second :=
  le_antisymm (isFirst.least second isFirst'.alike) (isFirst'.least first isFirst.alike)

theorem IsFirst.le (isFirst : IsFirst nodes first place) : first ≤ place :=
  isFirst.least place rfl

/-- Alike places have the same first member. -/
theorem IsFirst.of_alike (isFirst : IsFirst nodes first place)
    (same : nodes[place].code = nodes[second].code) : IsFirst nodes first second where
  alike := isFirst.alike.trans same
  least other alike := isFirst.least other (alike.trans same.symm)

/-- The first alike place before a place is the first of the class, unless that is the place
itself. -/
theorem head?_before_eq_some_iff :
    (before nodes place).head? = some first ↔ IsFirst nodes first place ∧ first ≠ place := by
  rw [head?_eq_some_iff_of_ascending (before_ascending place)]
  simp only [mem_before_iff]
  constructor
  · rintro ⟨⟨earlier, alike⟩, least⟩
    refine ⟨⟨alike, fun other same => ?_⟩, earlier.ne⟩
    by_cases inFront : other < place
    · exact least other ⟨inFront, same⟩
    · exact earlier.le.trans (not_lt.mp inFront)
  · rintro ⟨isFirst, apart⟩
    exact ⟨⟨lt_of_le_of_ne isFirst.le apart, isFirst.alike⟩,
      fun other known => isFirst.least other known.2⟩

theorem before_eq_nil_iff : before nodes place = [] ↔ IsFirst nodes place place := by
  simp only [List.eq_nil_iff_forall_not_mem, mem_before_iff, not_and]
  constructor
  · intro none
    exact ⟨rfl, fun other same => not_lt.mp fun earlier => none other earlier same⟩
  · intro isFirst other earlier same
    exact absurd (isFirst.least other same) earlier.not_ge

/-- Every class that occurs has a first member. -/
theorem exists_isFirst (place : Fin nodes.length) : ∃ first, IsFirst nodes first place := by
  cases found : (before nodes place).head? with
  | none => exact ⟨place, before_eq_nil_iff.mp (List.head?_eq_none_iff.mp found)⟩
  | some first => exact ⟨first, (head?_before_eq_some_iff.mp found).1⟩

/-- There are as many places without an alike one before them as classes. -/
theorem length_filter_isEmpty (nodes : List Node) :
    ((List.finRange nodes.length).filter fun place => (before nodes place).isEmpty).length =
      (classes nodes).card := by
  let firsts := (List.finRange nodes.length).filter fun place => (before nodes place).isEmpty
  have mem_firsts (place : Fin nodes.length) :
      place ∈ firsts ↔ IsFirst nodes place place := by
    simp [firsts, before_eq_nil_iff]
  have distinct : (firsts.map fun place => nodes[place].code).Nodup := by
    apply List.Nodup.map_on ?_ ((List.nodup_finRange _).filter _)
    intro place known other otherKnown same
    exact (((mem_firsts place).mp known).of_alike same).unique ((mem_firsts other).mp otherKnown)
  have all : (firsts.map fun place => nodes[place].code).toFinset = classes nodes := by
    ext code
    simp only [List.mem_toFinset, List.mem_map, classes]
    constructor
    · rintro ⟨place, -, rfl⟩
      exact ⟨nodes[place], List.getElem_mem place.isLt, rfl⟩
    · rintro ⟨node, known, rfl⟩
      obtain ⟨index, bound, rfl⟩ := List.getElem_of_mem known
      obtain ⟨first, isFirst⟩ := exists_isFirst ⟨index, bound⟩
      exact ⟨first, (mem_firsts first).mpr (isFirst.of_alike isFirst.alike.symm), isFirst.alike⟩
  calc
    firsts.length = (firsts.map fun place => nodes[place].code).length := (List.length_map _).symm
    _ = (classes nodes).card := by rw [← List.toFinset_card_of_nodup distinct, all]

end First

section Rank

/-- Among all places in order, the alike ones before a place are those in front of it. -/
theorem before_eq_filter {front back : List (Fin nodes.length)}
    (split : front ++ place :: back = List.finRange nodes.length) :
    before nodes place = front.filter fun earlier => nodes[earlier].equivalent nodes[place] := by
  have ascending : (front ++ place :: back).Pairwise (· < ·) :=
    split ▸ List.pairwise_lt_finRange _
  have swapped : before nodes place =
      ((front ++ place :: back).filter (· < place)).filter fun earlier =>
        nodes[earlier].equivalent nodes[place] := by
    rw [split, List.filter_filter, before]
    exact List.filter_congr fun _ _ => Bool.and_comm _ _
  rw [swapped, filter_lt_of_ascending ascending]

variable {code : Code}

/-- Before a member of a class come the members that are less. -/
theorem before_eq_filter_members (member : nodes[place].code = code) :
    before nodes place = (members nodes code).filter (· < place) := by
  rw [before, members, List.filter_filter]
  apply List.filter_congr
  intro other _
  rw [Bool.eq_iff_iff]
  simp [← member, Node.code_eq_iff]

/-- A member has as many alike places before it as members of its class come before it. -/
theorem length_before_of_members {rank : Nat}
    (member : (members nodes code)[rank]? = some place) :
    (before nodes place).length = rank := by
  obtain ⟨bound, rfl⟩ := List.getElem?_eq_some_iff.mp member
  have split : members nodes code = (members nodes code).take rank ++
      (members nodes code)[rank] :: (members nodes code).drop (rank + 1) := by
    simp
  have ascending : (members nodes code).Pairwise (· < ·) := members_ascending code
  rw [split] at ascending
  have earlier := filter_lt_of_ascending ascending
  rw [← split] at earlier
  rw [before_eq_filter_members (mem_members_iff.mp (List.getElem_mem bound)), earlier,
    List.length_take, min_eq_left bound.le]

/-- The members of a class have none, one, two and so on alike places before them. -/
theorem map_length_before_members (nodes : List Node) (code : Code) :
    ((members nodes code).map fun place => (before nodes place).length) =
      List.range (members nodes code).length := by
  apply List.ext_getElem (by simp)
  intro rank bound _
  rw [List.getElem_map, List.getElem_range]
  exact length_before_of_members (List.getElem?_eq_getElem _)

theorem sum_length_before (nodes : List Node) :
    ∑ place, (before nodes place).length =
      ∑ code ∈ classes nodes,
        (members nodes code).length * ((members nodes code).length - 1) / 2 := by
  have grouped := Finset.sum_fiberwise_of_maps_to (s := Finset.univ) (t := classes nodes)
    (fun place _ => mem_classes place) fun place => (before nodes place).length
  rw [← grouped]
  refine Finset.sum_congr rfl fun code _ => ?_
  have listed : Finset.univ.filter (fun place : Fin nodes.length => nodes[place].code = code) =
      (members nodes code).toFinset := by
    ext place
    simp [mem_members_iff]
  have distinct : (members nodes code).Nodup := (List.nodup_finRange _).filter _
  rw [listed, List.sum_toFinset _ distinct, map_length_before_members, ← Finset.sum_range_id,
    ← List.toFinset_range, List.sum_toFinset _ List.nodup_range, List.map_id']

end Rank

section Pairs

/-- Every place with an alike one before it, after the first of those. -/
def firstPairs (nodes : List Node) : List (Fin nodes.length × Fin nodes.length) :=
  (List.finRange nodes.length).filterMap fun later =>
    (before nodes later).head?.map fun first => (first, later)

/-- Every two alike places, the later ones in order and for each of them the earlier ones. -/
def allPairs (nodes : List Node) : List (Fin nodes.length × Fin nodes.length) :=
  (List.finRange nodes.length).flatMap fun later =>
    (before nodes later).map fun earlier => (earlier, later)

variable {earlier later : Fin nodes.length}

theorem pairwise_not_equivalent_iff :
    (nodes.Pairwise fun earlier later => earlier.equivalent later = false) ↔
      ∀ place, before nodes place = [] := by
  simp only [List.eq_nil_iff_forall_not_mem, mem_before_iff, Node.code_eq_iff, not_and,
    Bool.not_eq_true, List.pairwise_iff_getElem]
  constructor
  · intro apart later earlier inFront
    exact apart earlier later earlier.isLt later.isLt inFront
  · intro apart earlier later earlierLt laterLt inFront
    exact apart ⟨later, laterLt⟩ ⟨earlier, earlierLt⟩ inFront

theorem mem_firstPairs_iff :
    (first, later) ∈ firstPairs nodes ↔ IsFirst nodes first later ∧ first ≠ later := by
  rw [← head?_before_eq_some_iff]
  simp [firstPairs]

/-- The places that are named second are those with an alike one before them. -/
theorem map_snd_firstPairs (nodes : List Node) :
    (firstPairs nodes).map (·.2) =
      (List.finRange nodes.length).filter fun place => !(before nodes place).isEmpty := by
  rw [firstPairs, List.map_filterMap, ← List.filterMap_eq_filter]
  refine congrArg (List.filterMap · _) (funext fun place => ?_)
  cases alike : before nodes place <;> simp [Option.guard, alike]

theorem mem_map_snd_firstPairs_iff :
    place ∈ (firstPairs nodes).map (·.2) ↔ ¬IsFirst nodes place place := by
  rw [map_snd_firstPairs, ← before_eq_nil_iff]
  simp

theorem length_firstPairs_add_card (nodes : List Node) :
    (firstPairs nodes).length + (classes nodes).card = nodes.length := by
  have parts := List.length_eq_length_filter_add (l := List.finRange nodes.length)
    fun place => (before nodes place).isEmpty
  rw [List.length_finRange, length_filter_isEmpty, ← map_snd_firstPairs, List.length_map] at parts
  omega

theorem firstPairs_eq_nil_iff :
    firstPairs nodes = [] ↔
      nodes.Pairwise fun earlier later => earlier.equivalent later = false := by
  rw [pairwise_not_equivalent_iff, firstPairs, List.filterMap_eq_nil_iff]
  simp

theorem mem_allPairs_iff :
    (earlier, later) ∈ allPairs nodes ↔
      earlier < later ∧ nodes[earlier].equivalent nodes[later] = true := by
  rw [← Node.code_eq_iff, ← mem_before_iff]
  simp [allPairs]

theorem allPairs_ascending (nodes : List Node) :
    (allPairs nodes).Pairwise fun pair other =>
      pair.2 < other.2 ∨ pair.2 = other.2 ∧ pair.1 < other.1 := by
  rw [allPairs, List.pairwise_flatMap]
  constructor
  · intro later _
    rw [List.pairwise_map]
    exact (before_ascending later).imp fun less => Or.inr ⟨rfl, less⟩
  · refine (List.pairwise_lt_finRange _).imp fun less pair known other otherKnown => ?_
    obtain ⟨-, -, rfl⟩ := List.mem_map.mp known
    obtain ⟨-, -, rfl⟩ := List.mem_map.mp otherKnown
    exact Or.inl less

theorem length_allPairs (nodes : List Node) :
    (allPairs nodes).length = ∑ place, (before nodes place).length := by
  rw [allPairs, List.length_flatMap, Fin.sum_univ_def]
  simp

/-- A place is named second once for each alike one before it. -/
theorem count_map_snd_allPairs (place : Fin nodes.length) :
    ((allPairs nodes).map (·.2)).count place = (before nodes place).length := by
  have each (later : Fin nodes.length) :
      (((before nodes later).map fun earlier => (earlier, later)).map (·.2)).count place =
        if later = place then (before nodes later).length else 0 := by
    rw [List.map_map, Function.comp_def, List.map_const', List.count_replicate]
    simp
  rw [allPairs, List.map_flatMap, List.count_flatMap, Function.comp_def]
  simp only [each]
  rw [← Fin.sum_univ_def, Finset.sum_ite_eq', if_pos (Finset.mem_univ place)]

theorem allPairs_eq_nil_iff :
    allPairs nodes = [] ↔
      nodes.Pairwise fun earlier later => earlier.equivalent later = false := by
  rw [pairwise_not_equivalent_iff, allPairs, List.flatMap_eq_nil_iff]
  simp

end Pairs

end Alike

end DuplicateLogic
