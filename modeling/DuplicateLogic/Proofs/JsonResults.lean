import DuplicateLogic.Json.Layout
import DuplicateLogic.Syntax.Decode

/-! # What readers give

A property of all values that a reader gives, whatever text it is applied to. It is carried from
the elements to a list and from the two forms of a record to the record. -/

namespace DuplicateLogic.Json

/-- Whether something holds of what a reader gives, if it gives anything. -/
def Yields {α : Type} (holds : α → Prop) (result : Except Fault α) : Prop :=
  ∀ value, result = .ok value → holds value

section Yields

variable {α β : Type} {given : α → Prop} {holds : β → Prop}

theorem yields_error (fault : Fault) : Yields holds (.error fault) := by
  intro value same
  cases same

theorem yields_ok {value : β} (known : holds value) : Yields holds (.ok value) := by
  rintro _ ⟨⟩
  exact known

theorem Yields.bind {result : Except Fault α} {next : α → Except Fault β}
    (first : Yields given result) (second : ∀ value, given value → Yields holds (next value)) :
    Yields holds (result >>= next) := by
  cases result with
  | error fault => exact yields_error fault
  | ok value => exact second value (first value rfl)

/-- Whatever a reader gives, what follows it decides. -/
theorem yields_bind {result : Except Fault α} {next : α → Except Fault β}
    (second : ∀ value, Yields holds (next value)) : Yields holds (result >>= next) := by
  cases result with
  | error fault => exact yields_error fault
  | ok value => exact second value

theorem yields_map {result : Except Fault α} {change : α → β}
    (changed : ∀ value, holds (change value)) : Yields holds (result.map change) := by
  cases result with
  | error fault => exact yields_error fault
  | ok value => exact yields_ok (changed value)

end Yields

section Readers

variable {α : Type} {holds : α → Prop}

/-- Whether something holds of every value that a reader takes off a text. -/
def Gives (holds : α → Prop) (reader : Reader α) : Prop :=
  ∀ text, Yields (fun result => holds result.1) (reader text)

theorem gives_elements {element : Reader α} (each : Gives holds element) (fuel : Nat)
    (first : Bool) {front : List α} (before : ∀ item ∈ front, holds item) :
    Gives (fun items => ∀ item ∈ items, holds item) (readElements element fuel first front) := by
  induction fuel generalizing first front with
  | zero =>
      intro text
      exact yields_error _
  | succ fuel ih =>
      intro text
      refine yields_bind ?_
      rintro ⟨more, text⟩
      cases more with
      | false =>
          simp only [Bool.false_eq_true, if_false]
          apply yields_ok
          intro item known
          exact before item (List.mem_reverse.mp known)
      | true =>
          simp only [if_true]
          refine Yields.bind (each text) ?_
          rintro ⟨item, text⟩ known
          apply ih
          intro other inside
          rcases List.mem_cons.mp inside with rfl | inside
          · exact known
          · exact before other inside

theorem gives_list {element? : Option (Reader α)}
    (each : ∀ element, element? = some element → Gives holds element) (fuel : Nat) :
    Gives (fun items => ∀ item ∈ items, holds item) (readList fuel element?) := by
  intro text
  unfold readList
  split
  · exact yields_error _
  split
  · cases element? with
    | none => exact yields_error _
    | some element => exact gives_elements (each element rfl) fuel true (by simp) _
  · exact yields_error _

theorem gives_optional {element : Reader α} (each : Gives holds element) {fallback : α}
    (default : holds fallback) : Gives holds (readOptional element fallback) := by
  intro text
  refine yields_bind ?_
  rintro ⟨more, text⟩
  cases more with
  | false => exact yields_ok default
  | true => exact each text

private theorem gives_closed {contents : Reader α} (each : Gives holds contents)
    (close : List Char → Except Fault (List Char)) (past : List Char → List Char) :
    Gives holds fun text =>
      match contents text with
      | .ok (value, rest) => (close rest).map fun rest => (value, rest)
      | .error fault => .error (fault.settle past) := by
  intro text
  dsimp only
  cases read : contents text with
  | error fault => exact yields_error _
  | ok result =>
      have known := each text result read
      exact yields_map fun _ => known

theorem gives_record {name : String} {deeper : Bool} {asList asObject : Reader α}
    (list : Gives holds asList) (object : Gives holds asObject) :
    Gives holds (readRecord name deeper asList asObject) := by
  intro text
  unfold readRecord
  split
  · exact yields_error _
  split
  · split
    · exact gives_closed list closeList pastListEnd _
    · exact yields_error _
  split
  · split
    · exact gives_closed object closeObject pastObjectEnd _
    · exact yields_error _
  · exact yields_error _

end Readers

end DuplicateLogic.Json
