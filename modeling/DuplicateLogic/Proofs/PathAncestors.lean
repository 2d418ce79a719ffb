import DuplicateLogic.Files.SettingsFile
import DuplicateLogic.Proofs.PathParts
import Mathlib.Data.List.DropRight

/-! # The paths above a path

The path above another is shorter, so going up comes to an end: at the root, at the empty path, or
at a path that leads out of the tree. The ancestors of a path are all the paths on this way. -/

namespace DuplicateLogic

namespace Text

variable {α : Type}

/-- How much room some parts take, each with a separator. -/
def spread (parts : List (List α)) : Nat :=
  parts.flatten.length + parts.length

theorem spread_cons (part : List α) (rest : List (List α)) :
    spread (part :: rest) = part.length + 1 + spread rest := by
  simp only [spread, List.flatten_cons, List.length_append, List.length_cons]
  omega

theorem spread_append (front back : List (List α)) :
    spread (front ++ back) = spread front + spread back := by
  simp only [spread, List.flatten_append, List.length_append]
  omega

theorem length_joinWith (separator : α) {parts : List (List α)} (some : parts ≠ []) :
    (joinWith separator parts).length + 1 = spread parts := by
  induction parts with
  | nil => exact absurd rfl some
  | cons part rest ih =>
      cases rest with
      | nil => simp [joinWith_singleton, spread]
      | cons next rest =>
          have below := ih (List.cons_ne_nil next rest)
          rw [joinWith_cons_cons, List.length_append, List.length_cons, spread_cons, ← below]
          omega

theorem length_joinWith_le (separator : α) (parts : List (List α)) :
    (joinWith separator parts).length ≤ spread parts := by
  by_cases none : parts = []
  · rw [none]
    exact Nat.le_refl 0
  · have counted := length_joinWith separator none
    omega

end Text

namespace Path

open RawText (slash)

theorem trimEnd_eq (parts : List (List UInt8)) : trimEnd parts = parts.rdropWhile isIdle := rfl

/-- What is left when idle parts at the end are dropped is empty, or ends with another part. -/
theorem exists_trimEnd {parts : List (List UInt8)} (some : trimEnd parts ≠ []) :
    ∃ front last back, parts = front ++ last :: back ∧ trimEnd parts = front ++ [last] ∧
      isIdle last = false := by
  obtain ⟨front, last, body⟩ := (List.eq_nil_or_concat' (trimEnd parts)).resolve_left some
  rw [trimEnd_eq] at some body
  have solid := List.rdropWhile_last_not isIdle parts some
  obtain ⟨back, whole⟩ := List.rdropWhile_prefix isIdle (l := parts)
  simp only [body, List.getLast_concat, Bool.not_eq_true] at solid
  rw [body, List.append_assoc] at whole
  exact ⟨front, last, back, whole.symm, body, solid⟩

/-- Parts that take less room make a shorter path. -/
theorem length_ofParts_lt {lead : Lead} {shorter parts : List (List UInt8)} (some : parts ≠ [])
    (less : Text.spread shorter + 1 < Text.spread parts) :
    (ofParts lead shorter).raw.bytes.length < (ofParts lead parts).raw.bytes.length := by
  have long := Text.length_joinWith slash some
  have short := Text.length_joinWith_le slash shorter
  cases lead with
  | root =>
      simp only [ofParts, List.length_cons]
      omega
  | current =>
      have whole : parts.isEmpty = false := by simpa using some
      simp only [ofParts, whole]
      split
      · simp
      · simp
        omega
  | bare =>
      simp only [ofParts]
      omega

/-- Going up drops the last part that is not idle, or a dot that is all there is. -/
theorem eq_of_parent? {path upper : Path} (above : path.parent? = some upper) :
    path.split.1 = .current ∧ upper = ⟨""⟩ ∨
      ∃ front last back, path.split.2 = front ++ last :: back ∧ isIdle last = false ∧
        upper = ofParts path.split.1 (trimEnd front) := by
  unfold parent? at above
  dsimp only at above
  split at above
  next lead => exact Or.inl ⟨lead, (Option.some.inj above).symm⟩
  next => cases above
  next first rest body =>
    have some : trimEnd path.split.2 ≠ [] := by simp [body]
    obtain ⟨front, last, back, parts, kept, solid⟩ := exists_trimEnd some
    refine Or.inr ⟨front, last, back, parts, solid, ?_⟩
    rw [kept, List.dropLast_concat] at above
    exact (Option.some.inj above).symm

/-- The path above another one is shorter. -/
theorem length_lt_of_parent? {path upper : Path} (above : path.parent? = some upper) :
    upper.raw.bytes.length < path.raw.bytes.length := by
  rw [← path.ofParts_split]
  rcases eq_of_parent? above with ⟨lead, rfl⟩ | ⟨front, last, back, parts, solid, rfl⟩
  · rw [lead]
    have empty : (RawText.ofString "").bytes = [] := rfl
    simp only [ofParts, empty]
    split <;> simp
  · have inner : 0 < last.length := by
      apply List.length_pos_of_ne_nil
      rintro rfl
      cases solid
    obtain ⟨idle, cut⟩ : trimEnd front <+: front := List.rdropWhile_prefix isIdle front
    have counted := congrArg Text.spread cut
    rw [Text.spread_append] at counted
    apply length_ofParts_lt
    · simp [parts]
    · rw [parts, Text.spread_append, Text.spread_cons]
      omega

/-- When there is no path above, nothing but idle parts follow the start. -/
theorem idle_of_parent? {path : Path} (top : path.parent? = none) :
    path.split.2 ≠ [] ∧ ∀ part ∈ path.split.2, isIdle part = true := by
  unfold parent? at top
  dsimp only at top
  split at top
  · cases top
  next body lead =>
    exact ⟨split_ne_nil lead, List.rdropWhile_eq_nil_iff.mp body⟩
  · cases top

theorem ancestorsFrom_of_none {path : Path} (top : path.parent? = none) (fuel : Nat) :
    ancestorsFrom fuel path = [path] := by
  cases fuel with
  | zero => rfl
  | succ fuel => rw [ancestorsFrom, top]

/-- With enough fuel the ancestors do not depend on it. -/
theorem ancestorsFrom_eq {fuel : Nat} {path : Path} (enough : path.raw.bytes.length ≤ fuel) :
    ancestorsFrom fuel path = path.ancestors := by
  induction fuel using Nat.strong_induction_on generalizing path with
  | _ fuel ih =>
      rw [ancestors]
      cases above : path.parent? with
      | none => rw [ancestorsFrom_of_none above, ancestorsFrom_of_none above]
      | some upper =>
          have shorter := length_lt_of_parent? above
          obtain ⟨less, length⟩ := Nat.exists_eq_add_one_of_ne_zero (Nat.ne_zero_of_lt shorter)
          obtain ⟨rest, rfl⟩ := Nat.exists_eq_add_one_of_ne_zero
            (Nat.ne_zero_of_lt (Nat.lt_of_lt_of_le shorter enough))
          rw [length, ancestorsFrom, ancestorsFrom, above]
          dsimp only
          rw [ih rest (Nat.lt_succ_self rest) (by omega), ih less (by omega) (by omega)]

theorem ancestors_of_parent? {path upper : Path} (above : path.parent? = some upper) :
    path.ancestors = path :: upper.ancestors := by
  have shorter := length_lt_of_parent? above
  obtain ⟨less, length⟩ := Nat.exists_eq_add_one_of_ne_zero (Nat.ne_zero_of_lt shorter)
  rw [ancestors, length, ancestorsFrom, above]
  dsimp only
  rw [ancestorsFrom_eq (by omega)]

theorem ancestors_of_none {path : Path} (top : path.parent? = none) : path.ancestors = [path] :=
  ancestorsFrom_of_none top _

/-- The ancestors are the paths from this one up to one that has none above it, each followed by
the one above it. -/
theorem ancestors_chain (path : Path) :
    path.ancestors.head? = some path ∧
      path.ancestors.IsChain (fun lower upper => lower.parent? = some upper) ∧
      ∀ last ∈ path.ancestors.getLast?, last.parent? = none := by
  induction length : path.raw.bytes.length using Nat.strong_induction_on generalizing path with
  | _ length ih =>
      cases above : path.parent? with
      | none =>
          rw [ancestors_of_none above]
          exact ⟨rfl, .singleton path, by simpa using above⟩
      | some upper =>
          have shorter := length_lt_of_parent? above
          obtain ⟨start, chain, ends⟩ := ih upper.raw.bytes.length (by omega) upper rfl
          obtain ⟨rest, more⟩ := List.head?_eq_some_iff.mp start
          rw [ancestors_of_parent? above]
          rw [more] at chain ends ⊢
          exact ⟨rfl, chain.cons_cons above, by simpa using ends⟩

end Path

end DuplicateLogic
