import DuplicateLogic.Proofs.JsonValues

/-! # Values over several lines

A value that is written over several lines is one of its forms: the line breaks and the blanks at
their ends stand where blanks may stand. So it is read back. -/

namespace DuplicateLogic.Json.Value

/-- Whether a value has no brackets and is not a number other than a count of 64 bits. -/
def OwnFits : Value → Prop
  | number (.natural count) => count ≤ maxWord
  | null => True
  | bool _ => True
  | string _ => True
  | _ => False

/-- Whether at most `depth` brackets of a value are open at once and its numbers are counts of 64
bits. -/
def FitsIn : Nat → Value → Prop
  | depth + 1, array items => ∀ item ∈ items, FitsIn depth item
  | depth + 1, object members => ∀ member ∈ members, FitsIn depth member.2
  | _, value => value.OwnFits

theorem OwnFits.fitsIn {value : Value} (own : value.OwnFits) (depth : Nat) :
    value.FitsIn depth := by
  cases depth with
  | zero => cases value <;> exact own
  | succ depth =>
      cases value with
      | array | object => exact own.elim
      | null | bool | number | string => exact own

section Lines

theorem prettyItems_eq_map (level : Nat) (items : List Value) :
    prettyItems level items = items.map (prettyAt level) := by
  induction items with
  | nil => rfl
  | cons item rest ih => rw [prettyItems, ih, List.map_cons]

theorem prettyMembers_eq_map (level : Nat) (members : List (String × Value)) :
    prettyMembers level members =
      members.map fun member => writeString member.1 ++ ": " ++ prettyAt level member.2 := by
  induction members with
  | nil => rfl
  | cons member rest ih => rw [prettyMembers, ih, List.map_cons]

theorem blanks_lineBreak (level : Nat) : Blanks (lineBreak level).toList := by
  intro c known
  rw [lineBreak, String.toList_append, List.mem_append] at known
  rcases known with newline | space
  · obtain rfl : c = '\n' := by simpa using newline
    rfl
  · rw [String.toList_ofList] at space
    obtain rfl := (List.mem_replicate.mp space).2
    rfl

section Brackets

variable {ι : Type} (bracket : Bracket) {form : ι → List Char → Prop} {written : ι → List Char}
  {inside outside : List Char} (inner : Blanks inside) (outer : Blanks outside)
include inner outer

/-- Items with a comma and blanks between any two, and blanks before the closing bracket. -/
private theorem itemsForm_intercalate {items : List ι} {item : ι}
    (each : ∀ other ∈ item :: items, form other (written other)) {first : Bool}
    {gap : List Char} (apart : Gap first gap) :
    ItemsForm bracket form first (item :: items)
      (gap ++ ((',' :: inside).intercalate ((item :: items).map written) ++
        (outside ++ [bracket.closer]))) := by
  induction items generalizing item first gap with
  | nil =>
      have last : ItemsForm bracket form false [] _ := .close outer
      have whole := ItemsForm.next apart (each item List.mem_cons_self) last
      simpa using whole
  | cons next items ih =>
      have others := ih (fun other known => each other (List.mem_cons_of_mem _ known))
        (.comma blanks_nil inner)
      have whole := ItemsForm.next apart (each item List.mem_cons_self) others
      simpa [List.intercalate_cons_cons] using whole

end Brackets

/-- Parts that are each written in their form stand in their brackets as they may. -/
private theorem itemsForm_bracketed {ι : Type} (bracket : Bracket) {form : ι → List Char → Prop}
    {written : ι → String} {items : List ι}
    (each : ∀ item ∈ items, form item (written item).toList) (level : Nat)
    (opener closer : String) (closes : closer.toList = [bracket.closer]) :
    ∃ body, (bracketed level opener closer (items.map written)).toList = opener.toList ++ body ∧
      ItemsForm bracket form true items body := by
  cases items with
  | nil =>
      refine ⟨[bracket.closer], ?_, ?_⟩
      · simp [bracketed, closes]
      · exact .close blanks_nil
  | cons item items =>
      have inner := blanks_lineBreak (level + 1)
      have listed := itemsForm_intercalate bracket inner (blanks_lineBreak level) each
        (.front inner)
      refine ⟨_, ?_, listed⟩
      simp [bracketed, closes, Function.comp_def]

end Lines

section Forms

/-- A value without brackets is written as its own form. -/
private theorem ownForm_prettyAt {value : Value} (fits : value.OwnFits) (level : Nat) :
    value.OwnForm (prettyAt level value).toList := by
  cases value with
  | null => rfl
  | bool value => cases value <;> rfl
  | number number =>
      cases number with
      | natural count => exact ⟨fits, Nat.toList_repr⟩
      | negative | double => exact fits.elim
  | string value => exact stringForm_writeString value
  | array | object => exact fits.elim

/-- A value that is written over several lines is written in one of its forms. -/
theorem form_prettyAt {depth : Nat} {value : Value} (fits : value.FitsIn depth) (level : Nat) :
    value.Form depth (prettyAt level value).toList := by
  induction depth generalizing value level with
  | zero =>
      have own : value.OwnFits := by cases value <;> exact fits
      have form := ownForm_prettyAt own level
      cases value <;> exact form
  | succ depth ih =>
      cases value with
      | array items =>
          have each : ∀ item ∈ items, item.Form depth (prettyAt (level + 1) item).toList :=
            fun item known => ih (fits item known) (level + 1)
          rw [prettyAt, prettyItems_eq_map]
          exact itemsForm_bracketed .list each level "[" "]" rfl
      | object members =>
          have each : ∀ member ∈ members, MemberForm (fun member => StringForm member.1)
              (fun member => member.2.Form depth) member
              (writeString member.1 ++ ": " ++ prettyAt (level + 1) member.2).toList := by
            intro member known
            have named := stringForm_writeString member.1
            have valued := ih (fits member known) (level + 1)
            have space : Blanks [' '] := by decide
            have pair : MemberForm (fun member : String × Value => StringForm member.1)
                (fun member => member.2.Form depth) member _ :=
              .pair named blanks_nil space valued
            simpa using pair
          rw [prettyAt, prettyMembers_eq_map]
          exact itemsForm_bracketed .object each level "\x7b" "\x7d" rfl
      | null | bool | number | string => exact ownForm_prettyAt fits level

/-- A value that is written over several lines is read back, also before more blanks. -/
theorem parse_pretty {value : Value} (fits : value.FitsIn maxDepth) {blanks : String}
    (blank : Blanks blanks.toList) : Value.parse (value.pretty ++ blanks) = .ok value :=
  parse_of_form (form_prettyAt fits 0) blank (String.toList_append ..)

end Forms

end DuplicateLogic.Json.Value
