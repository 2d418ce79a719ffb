import DuplicateLogic.Syntax.Position
import DuplicateLogic.Text.Split
import Mathlib.Data.List.DropRight

/-! # The lines of a text

A cut of a text into a front and a back lies on one line of it: the line that has as many newlines
before it as the front. That line is the end of the front after its last newline, with the start
of the back up to its first. The place past the front is as many lines further down. -/

namespace DuplicateLogic

namespace Text

section Parts

variable {α : Type} [DecidableEq α] {separator : α}

theorem splitOn_cons_separator (rest : List α) :
    splitOn separator (separator :: rest) = [] :: splitOn separator rest := by
  simp [splitOn]

theorem splitOn_cons_of_ne {c : α} (different : c ≠ separator) {rest part : List α}
    {parts : List (List α)} (split : splitOn separator rest = part :: parts) :
    splitOn separator (c :: rest) = (c :: part) :: parts := by
  unfold splitOn at split ⊢
  rw [List.foldr_cons, split, if_neg different]

/-- The first part ends before the first separator. -/
theorem exists_splitOn_eq_cons (separator : α) (text : List α) :
    ∃ parts, splitOn separator text = text.takeWhile (· ≠ separator) :: parts := by
  induction text with
  | nil => exact ⟨[], rfl⟩
  | cons c rest ih =>
      obtain ⟨parts, split⟩ := ih
      by_cases same : c = separator
      · refine ⟨splitOn separator rest, ?_⟩
        rw [same, splitOn_cons_separator, List.takeWhile_cons_of_neg (by simp)]
      · refine ⟨parts, ?_⟩
        rw [splitOn_cons_of_ne same split, List.takeWhile_cons_of_pos (by simpa using same)]

end Parts

variable {separator : Char}

private theorem passes_of_not_mem {text : List Char} (none : separator ∉ text) :
    ∀ c ∈ text, decide (c ≠ separator) = true := by
  intro c known
  simpa using ne_of_mem_of_not_mem known none

/-- The part of a text around a cut, between the separators next to it. -/
def partAround (separator : Char) (front back : List Char) : List Char :=
  front.rtakeWhile (· ≠ separator) ++ back.takeWhile (· ≠ separator)

/-- What stands before another separator is not around the cut. -/
theorem partAround_cons_of_mem {front : List Char} (known : separator ∈ front) (c : Char)
    (back : List Char) :
    partAround separator (c :: front) back = partAround separator front back := by
  have stops : ¬(front.reverse.takeWhile (· ≠ separator)).length = front.reverse.length := by
    intro whole
    have all := (List.takeWhile_prefix _).eq_of_length whole
    have passes := List.takeWhile_eq_self_iff.mp all separator (List.mem_reverse.mpr known)
    simp at passes
  rw [partAround, List.rtakeWhile, List.reverse_cons, List.takeWhile_append, if_neg stops]
  rfl

theorem partAround_of_not_mem {front : List Char} (none : separator ∉ front) (back : List Char) :
    partAround separator front back = front ++ back.takeWhile (· ≠ separator) := by
  rw [partAround, List.rtakeWhile_eq_self_iff.mpr (passes_of_not_mem none)]

theorem partAround_cons_separator (front back : List Char) :
    partAround separator (separator :: front) back = partAround separator front back := by
  by_cases further : separator ∈ front
  · exact partAround_cons_of_mem further separator back
  · have all : ∀ c ∈ front.reverse, decide (c ≠ separator) = true :=
      passes_of_not_mem (by simpa using further)
    rw [partAround_of_not_mem further, partAround, List.rtakeWhile, List.reverse_cons,
      List.takeWhile_append_of_pos all]
    simp

/-- The part around a cut has as many separators before it as the front. -/
theorem getElem?_splitOn_append (front back : List Char) :
    (splitOn separator (front ++ back))[front.count separator]? =
      some (partAround separator front back) := by
  induction front with
  | nil =>
      obtain ⟨parts, split⟩ := exists_splitOn_eq_cons separator back
      rw [List.nil_append, split, partAround_of_not_mem (by simp)]
      rfl
  | cons c rest ih =>
      by_cases same : c = separator
      · subst same
        rw [List.cons_append, splitOn_cons_separator, List.count_cons_self,
          List.getElem?_cons_succ, ih, partAround_cons_separator]
      · obtain ⟨parts, split⟩ := exists_splitOn_eq_cons separator (rest ++ back)
        rw [List.cons_append, splitOn_cons_of_ne same split, List.count_cons_of_ne same]
        by_cases further : separator ∈ rest
        · obtain ⟨before, counted⟩ :=
            Nat.exists_eq_succ_of_ne_zero (List.count_pos_iff.mpr further).ne'
          rw [split, counted, List.getElem?_cons_succ] at ih
          rw [counted, List.getElem?_cons_succ, ih, partAround_cons_of_mem further]
        · have none : separator ∉ c :: rest := by
            simpa [further] using Ne.symm same
          rw [List.count_eq_zero_of_not_mem further, partAround_of_not_mem none,
            List.takeWhile_append_of_pos (passes_of_not_mem further)]
          rfl

/-- Every part stands in the text behind as many separators as its number says, and holds none. -/
theorem exists_of_getElem?_splitOn {text part : List Char} {index : Nat}
    (found : (splitOn separator text)[index]? = some part) :
    ∃ front back, text = front ++ (part ++ back) ∧ front.count separator = index ∧
      separator ∉ part := by
  induction text generalizing index with
  | nil =>
      obtain ⟨rfl, rfl⟩ : index = 0 ∧ part = [] := by
        cases index <;> simp_all [splitOn]
      exact ⟨[], [], rfl, rfl, by simp⟩
  | cons c rest ih =>
      cases index with
      | zero =>
          obtain ⟨parts, split⟩ := exists_splitOn_eq_cons separator (c :: rest)
          rw [split, List.getElem?_cons_zero] at found
          obtain rfl := Option.some.inj found
          refine ⟨[], (c :: rest).dropWhile (· ≠ separator), ?_, rfl, ?_⟩
          · rw [List.nil_append, List.takeWhile_append_dropWhile]
          · intro known
            simpa using List.mem_takeWhile_imp known
      | succ index =>
          by_cases same : c = separator
          · subst same
            rw [splitOn_cons_separator, List.getElem?_cons_succ] at found
            obtain ⟨front, back, cut, counted, free⟩ := ih found
            exact ⟨c :: front, back, by rw [cut]; rfl, by rw [List.count_cons_self, counted], free⟩
          · obtain ⟨parts, split⟩ := exists_splitOn_eq_cons separator rest
            rw [splitOn_cons_of_ne same split, List.getElem?_cons_succ] at found
            have found' : (splitOn separator rest)[index + 1]? = some part := by
              rw [split, List.getElem?_cons_succ, found]
            obtain ⟨front, back, cut, counted, free⟩ := ih found'
            refine ⟨c :: front, back, by rw [cut]; rfl, ?_, free⟩
            rw [List.count_cons_of_ne same, counted]

/-- The lines are the parts between newlines, with a return taken off where a newline follows. An
empty part at the end is no line. -/
theorem lines_eq {text last : List Char} {ended : List (List Char)}
    (split : splitOn '\n' text = ended ++ [last]) :
    lines text = ended.map dropReturn ++ if last = [] then [] else [last] := by
  simp only [lines, split, List.dropLast_concat, List.getLast?_concat]
  cases last with
  | nil => simp
  | cons c rest => simp

/-- What can be read from a line, whether or not it ends with a return, can be read from the part
with the same number. -/
theorem bind_getElem?_lines {α : Type _} {read? : List Char → Option α}
    (empty : read? [] = none) (returns : ∀ line, read? (dropReturn line) = read? line)
    (text : List Char) (index : Nat) :
    (lines text)[index]?.bind read? = (splitOn '\n' text)[index]?.bind read? := by
  obtain ⟨parts, split⟩ := exists_splitOn_eq_cons '\n' text
  obtain ⟨ended, last, split⟩ : ∃ ended last, splitOn '\n' text = ended ++ [last] :=
    ⟨_, _, (List.dropLast_concat_getLast (by simp [split])).symm⟩
  rw [lines_eq split, split]
  by_cases inside : index < ended.length
  · rw [List.getElem?_append_left (by simpa using inside), List.getElem?_append_left inside,
      List.getElem?_map, List.getElem?_eq_getElem inside]
    exact returns _
  · have beyond : ended.length ≤ index := Nat.le_of_not_lt inside
    rw [List.getElem?_append_right (by simpa using beyond), List.getElem?_append_right beyond,
      List.length_map]
    cases last with
    | nil => cases index - ended.length <;> simp [empty]
    | cons c rest => simp

end Text

namespace Position

/-- A text leads as many lines down as it has newlines. -/
theorem line_advance (start : Position) (text : String) :
    (start.advance text).line = start.line + text.toList.count '\n' := by
  simp only [advance]
  split
  · rfl
  next none => rw [List.count_eq_zero_of_not_mem none, Nat.add_zero]

end Position

end DuplicateLogic
