import DuplicateLogic.Proofs.JsonSkipping

/-! # Reading general values

A value of which the numbers are counts is read in every form: a scalar as its word, its digits or
its string, a list or object with the forms of what is in it. Every such form is one of a JSON
value. -/

namespace DuplicateLogic.Json

namespace Value

/-- A form of a value without brackets. Of the numbers only counts of 64 bits have one here. -/
def OwnForm : Value → List Char → Prop
  | null, text => text = "null".toList
  | bool value, text => text = (if value then "true" else "false").toList
  | number (.natural count), text => count ≤ maxWord ∧ text = Nat.toDigits 10 count
  | string value, text => StringForm value text
  | _, _ => False

/-- A form of a value in which at most `depth` brackets are open at once. -/
def Form : Nat → Value → List Char → Prop
  | depth + 1, array items, text => ListForm (Form depth) items text
  | depth + 1, object members, text =>
      ObjectForm (fun member => StringForm member.1) (fun member => Form depth member.2) members
        text
  | _, value, text => value.OwnForm text

end Value

section Grammar

theorem ItemsForm.map {ι κ : Type} {bracket : Bracket} {form : ι → List Char → Prop}
    {form' : κ → List Char → Prop} {image : ι → κ} {first : Bool} {items : List ι}
    {body : List Char} (each : ∀ item text, form item text → form' (image item) text)
    (listed : ItemsForm bracket form first items body) :
    ItemsForm bracket form' first (items.map image) body := by
  induction listed with
  | close blank => exact .close blank
  | next apart own _ ih => exact .next apart (each _ _ own) ih

theorem StringForm.rawString {value : String} {text : List Char} (form : StringForm value text) :
    RawString text := by
  obtain ⟨parts, forms, rfl⟩ := form
  refine ⟨parts, fun part known => Or.inl ?_, rfl⟩
  generalize value.toList = chars at forms
  induction forms with
  | nil => cases known
  | cons form _ ih =>
      rcases List.mem_cons.mp known with rfl | later
      · exact ⟨_, form⟩
      · exact ih later

/-- A count is a number without sign, fraction and exponent. -/
theorem numberForm_toDigits (count : Nat) : NumberForm (Nat.toDigits 10 count) := by
  have whole : IntegerPart (Nat.toDigits 10 count) := by
    rcases Nat.eq_zero_or_pos count with rfl | positive
    · exact Or.inl rfl
    · obtain ⟨c, digits, written, nonzero⟩ := toDigits_eq_cons positive
      have areDigits : ∀ c ∈ Nat.toDigits 10 count, c.isDigit = true :=
        fun c known => Nat.isDigit_of_mem_toDigits (by omega) (by omega) known
      refine Or.inr ⟨⟨Nat.toDigits_ne_nil, areDigits⟩, ?_⟩
      rw [written, List.head?_cons, ne_eq, Option.some.injEq]
      exact nonzero
  exact ⟨[], _, [], [], by simp, whole, Or.inl rfl, Or.inl rfl, by simp⟩

theorem Value.OwnForm.scalarForm {value : Value} {text : List Char}
    (form : value.OwnForm text) : ScalarForm text := by
  cases value with
  | null => exact Or.inl (by simp [show text = _ from form])
  | bool value =>
      obtain rfl : text = _ := form
      cases value
      · exact Or.inl (by simp)
      · exact Or.inl (by simp)
  | number number =>
      cases number with
      | natural count =>
          obtain ⟨-, rfl⟩ := form
          exact Or.inr (Or.inl (numberForm_toDigits count))
      | negative | double => exact form.elim
  | string value => exact Or.inr (Or.inr (StringForm.rawString form))
  | array | object => exact form.elim

/-- The forms of a value are JSON values. -/
theorem Value.Form.valueForm {depth : Nat} {value : Value} {text : List Char}
    (form : value.Form depth text) : ValueForm depth text := by
  induction depth generalizing value text with
  | zero =>
      have own : value.OwnForm text := by cases value <;> exact form
      exact own.scalarForm
  | succ depth ih =>
      cases value with
      | array items =>
          obtain ⟨body, rfl, listed⟩ : ListForm (Form depth) items text := form
          have each : ∀ (item : Value) (text : List Char), item.Form depth text →
              ValueForm depth text := fun _ _ => ih
          exact Or.inr (Or.inl ⟨items.map fun _ => (), body, rfl, listed.map each⟩)
      | object members =>
          obtain ⟨body, rfl, listed⟩ : ObjectForm _ _ members text := form
          have each : ∀ (member : String × Value) (text : List Char),
              MemberForm (fun member : String × Value => StringForm member.1)
                (fun member => Form depth member.2) member text →
              MemberForm (fun _ : Unit => RawString) (fun _ => ValueForm depth) () text := by
            rintro member _ ⟨named, front, back, valued⟩
            exact .pair (StringForm.rawString named) front back (ih valued)
          exact Or.inr (Or.inr ⟨members.map fun _ => (), body, rfl, listed.map each⟩)
      | null | bool | number | string => exact Or.inl (OwnForm.scalarForm form)

end Grammar

section Reading

/-- A count is accepted as a value. -/
theorem accepts_value_count {count : Nat} (fits : count ≤ maxWord) (fuel : Nat)
    (inner? : Option (Reader Value)) :
    Accepts (Value.readWith fuel inner?) (Nat.toDigits 10 count) (.number (.natural count)) := by
  intro blanks blank rest ends
  have read := readNumber_toDigits fits ends
  obtain ⟨c, tail, written⟩ : ∃ c tail, Nat.toDigits 10 count = c :: tail :=
    List.exists_cons_of_ne_nil Nat.toDigits_ne_nil
  have isDigit : c.isDigit = true :=
    Nat.isDigit_of_mem_toDigits (b := 10) (n := count) (by omega) (by omega) (by simp [written])
  have digit := digit?_of_isDigit isDigit
  have other (mark : Char) (noDigit : mark.isDigit = false) : c ≠ mark :=
    ne_of_isDigit isDigit noDigit
  rw [written, List.cons_append] at read
  rw [written, List.cons_append, Value.readWith,
    skipBlanks_append_cons blank (isBlank_of_isDigit isDigit)]
  simp [other 'n' rfl, other 't' rfl, other 'f' rfl, other '-' rfl, digit, read, Except.map]

/-- A value without brackets is accepted in each of its forms. -/
theorem accepts_ownForm {value : Value} {text : List Char} (form : value.OwnForm text)
    (fuel : Nat) (inner? : Option (Reader Value)) :
    Accepts (Value.readWith fuel inner?) text value := by
  cases value with
  | null =>
      intro blanks blank rest _
      obtain rfl : text = "null".toList := form
      have solid : isBlank 'n' = false := rfl
      simp [Value.readWith, skipBlanks_append_cons blank solid, readWord, Except.map]
  | bool value =>
      intro blanks blank rest _
      obtain rfl : text = _ := form
      have yes : isBlank 't' = false := rfl
      have no : isBlank 'f' = false := rfl
      cases value
      · simp [Value.readWith, skipBlanks_append_cons blank no, readWord, Except.map]
      · simp [Value.readWith, skipBlanks_append_cons blank yes, readWord, Except.map]
  | number number =>
      cases number with
      | natural count =>
          obtain ⟨fits, rfl⟩ := form
          exact accepts_value_count fits fuel inner?
      | negative | double => exact form.elim
  | string value => exact accepts_value_string form fuel inner?
  | array | object => exact form.elim

/-- A list is accepted as a value when its elements are. -/
theorem accepts_array {inner : Reader Value} {fuel : Nat} {text : List Char} {items : List Value}
    (list : Accepts (readList fuel (some inner)) text items) {body : List Char}
    (opened : text = '[' :: body) :
    Accepts (Value.readWith fuel (some inner)) text (.array items) := by
  intro blanks blank rest ends
  subst opened
  have opener : isBlank '[' = false := rfl
  have read := list blanks blank rest ends
  rw [List.cons_append, readList, skipBlanks_append_cons blank opener] at read
  simp at read
  simp [Value.readWith, skipBlanks_append_cons blank opener, digit?, read, Except.map]

/-- Members are read up to the closing brace when their values are accepted. -/
private theorem readMembers_itemsForm {inner : Reader Value} {form : Value → List Char → Prop}
    {first : Bool} {members : List (String × Value)} {body : List Char}
    (listed : ItemsForm .object
      (MemberForm (fun member => StringForm member.1) fun member => form member.2) first members
      body)
    {room : Nat} (short : body.length ≤ room)
    (each : ∀ member ∈ members, ∀ text, form member.2 text → text.length ≤ room →
      Accepts inner text member.2)
    {rounds : Nat} (enough : members.length < rounds) (front : List (String × Value))
    (rest : List Char) :
    Value.readMembers inner rounds first front (body ++ rest) =
      .ok (front.reverse ++ members, rest) := by
  induction listed generalizing rounds front with
  | close blank =>
      obtain ⟨rounds, rfl⟩ := Nat.exists_eq_add_of_lt enough
      rw [Value.readMembers, List.append_assoc, List.singleton_append]
      simp [Bracket.closer, nextKey_close blank, bind, Except.bind, pure, Except.pure]
  | @next first gap text later member members apart own others ih =>
      rw [List.length_cons] at enough
      obtain ⟨rounds, rfl⟩ : ∃ left, rounds = left + 1 := ⟨rounds - 1, by omega⟩
      cases own with
      | @pair name before after text named front' back valued =>
          have shorter : text.length ≤ room ∧ later.length ≤ room := by
            simp at short
            omega
          have taken := nextKey_gap apart named
            (before ++ ':' :: (after ++ (text ++ (later ++ rest))))
          have colon := readColon_append front' (after ++ (text ++ (later ++ rest)))
          have read := each member List.mem_cons_self text valued shorter.1 after back
            (later ++ rest) (others.endsCount rest)
          have tail := ih shorter.2 (fun other known => each other (List.mem_cons_of_mem _ known))
            (show members.length < rounds by omega) (member :: front)
          simpa [Value.readMembers, taken, colon, read, bind, Except.bind] using tail

/-- An object is accepted when the values of its members are. -/
theorem accepts_object {inner : Reader Value} {form : Value → List Char → Prop} {fuel : Nat}
    {text : List Char} {members : List (String × Value)}
    (written : ObjectForm (fun member => StringForm member.1) (fun member => form member.2) members
      text)
    (short : text.length ≤ fuel)
    (each : ∀ member ∈ members, ∀ own, form member.2 own → own.length < text.length →
      Accepts inner own member.2) :
    Accepts (Value.readWith fuel (some inner)) text (.object members) := by
  obtain ⟨body, rfl, listed⟩ := written
  intro blanks blank rest _
  have opener : isBlank '\x7b' = false := rfl
  have fewer := listed.length_le
  rw [List.length_cons] at short
  have read := readMembers_itemsForm listed (Nat.le_refl _)
    (fun member known own valued fits => each member known own valued (Nat.lt_succ_of_le fits))
    (show members.length < fuel by omega) [] rest
  simp [Value.readWith, skipBlanks_append_cons blank opener, digit?, read, Except.map]

/-- A value is accepted in each of its forms. -/
theorem accepts_form {fuel depth : Nat} {value : Value} {text : List Char}
    (form : value.Form depth text) (short : text.length ≤ fuel) :
    Accepts (Value.read fuel depth) text value := by
  induction depth generalizing value text with
  | zero =>
      have own : value.OwnForm text := by cases value <;> exact form
      exact accepts_ownForm own fuel none
  | succ depth ih =>
      have starts : ∀ (item : Value) (own : List Char), item.Form depth own → StartsElement own :=
        fun _ _ form => form.valueForm.startsElement
      cases value with
      | array items =>
          have written : ListForm (Value.Form depth) items text := form
          have list := accepts_list starts written short
            fun item known own form fits => ih form (by omega)
          obtain ⟨body, opened, -⟩ := written
          exact accepts_array list opened
      | object members =>
          exact accepts_object form short fun member known own form fits => ih form (by omega)
      | null | bool | number | string => exact accepts_ownForm form fuel _

/-- A text is read as a value when it is a form of the value among blanks. -/
theorem Value.parse_of_form {value : Value} {text : String} {own after : List Char}
    (form : value.Form maxDepth own) (blank : Blanks after) (written : text.toList = own ++ after) :
    Value.parse text = .ok value := by
  have ends : EndsCount after := by
    have before : EndsCount (after ++ []) := endsCount_append blank nofun
    rwa [List.append_nil] at before
  have short : own.length ≤ fuelFor text.toList := by
    rw [fuelFor, written, List.length_append]
    omega
  have read := accepts_form form short [] blanks_nil after ends
  have skipped : skipBlanks after = [] := by
    rw [← List.append_nil after, skipBlanks_append blank]
    rfl
  rw [List.nil_append, ← written] at read
  simp [Value.parse, read, readEnd, skipped, bind, Except.bind, pure, Except.pure]

end Reading

end DuplicateLogic.Json
