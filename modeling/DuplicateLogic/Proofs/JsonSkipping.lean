import DuplicateLogic.Proofs.JsonAccepting
import Mathlib.Data.List.TakeDrop

/-! # Skipping every value

The skipper takes any JSON value off the front of a text, whatever its depth. Each scalar and each
opening bracket of the value costs it one round, and what it does after the value is what it does
whenever a value has just ended inside the same open brackets. -/

namespace DuplicateLogic.Json

section Numbers

/-- Whether digits that are read up to here end here. -/
private def EndsDigits (rest : List Char) : Prop :=
  ∀ c ∈ rest.head?, digit? c = none

private theorem endsDigits_cons {c : Char} (other : digit? c = none) (rest : List Char) :
    EndsDigits (c :: rest) := by
  rintro _ ⟨⟩
  exact other

private theorem EndsCount.endsDigits {rest : List Char} (ends : EndsCount rest) :
    EndsDigits rest :=
  fun c known => (ends c known).1

private theorem splitDigits_append {digits rest : List Char}
    (areDigits : ∀ c ∈ digits, c.isDigit = true) (ends : EndsDigits rest) :
    splitDigits (digits ++ rest) = (digits, rest) := by
  have taken : ∀ c ∈ digits, (digit? c).isSome = true := by
    intro c known
    rw [digit?_of_isDigit (areDigits c known), Option.isSome_some]
  have stops : rest.takeWhile (fun c => (digit? c).isSome) = [] ∧
      rest.dropWhile (fun c => (digit? c).isSome) = rest := by
    cases rest with
    | nil => exact ⟨rfl, rfl⟩
    | cons c rest =>
        have none := ends c (by simp)
        simp [none]
  rw [splitDigits, List.span_eq_takeWhile_dropWhile, List.takeWhile_append_of_pos taken,
    List.dropWhile_append_of_pos taken, stops.1, stops.2, List.append_nil]

private theorem Digits.exists_cons {text : List Char} (digits : Digits text) :
    ∃ c tail, text = c :: tail ∧ c.isDigit = true ∧ (digit? c).isSome = true := by
  obtain ⟨nonempty, areDigits⟩ := digits
  obtain ⟨c, tail, rfl⟩ := List.exists_cons_of_ne_nil nonempty
  have front := areDigits c List.mem_cons_self
  exact ⟨c, tail, rfl, front, by rw [digit?_of_isDigit front, Option.isSome_some]⟩

variable {rest : List Char} (ends : EndsCount rest)
include ends

private theorem skipScale_rest : skipScale rest = .ok rest := by
  cases rest with
  | nil => rfl
  | cons c rest =>
      obtain ⟨-, -, lower, upper⟩ := ends c (by simp)
      simp [skipScale, lower, upper]

private theorem skipExponent_digits {sign digits : List Char} (signed : sign ∈ [[], ['+'], ['-']])
    (areDigits : Digits digits) : skipExponent (sign ++ (digits ++ rest)) = .ok rest := by
  have split := splitDigits_append areDigits.2 ends.endsDigits
  obtain ⟨c, tail, rfl, front, digit⟩ := areDigits.exists_cons
  have plus := ne_of_isDigit front (show '+'.isDigit = false from rfl)
  have minus := ne_of_isDigit front (show '-'.isDigit = false from rfl)
  rw [List.cons_append] at split
  simp only [List.mem_cons, List.not_mem_nil, or_false] at signed
  rcases signed with rfl | rfl | rfl <;>
    simp [skipExponent, exponentSign, plus, minus, digit, split]

private theorem skipScale_exponent {exponent : List Char} (form : ExponentPart exponent) :
    skipScale (exponent ++ rest) = .ok rest := by
  obtain rfl | ⟨letter, sign, digits, known, signed, areDigits, rfl⟩ := form
  · exact skipScale_rest ends
  · have skipped := skipExponent_digits ends signed areDigits
    simp only [List.mem_cons, List.not_mem_nil, or_false] at known
    rcases known with rfl | rfl <;> simpa [skipScale] using skipped

private theorem endsDigits_exponent {exponent : List Char} (form : ExponentPart exponent) :
    EndsDigits (exponent ++ rest) := by
  obtain rfl | ⟨letter, sign, digits, known, -, -, rfl⟩ := form
  · exact ends.endsDigits
  · simp only [List.mem_cons, List.not_mem_nil, or_false] at known
    rcases known with rfl | rfl <;> exact endsDigits_cons (by decide) _

private theorem skipTail_fraction {fraction exponent : List Char} (form : FractionPart fraction)
    (scale : ExponentPart exponent) : skipTail (fraction ++ (exponent ++ rest)) = .ok rest := by
  have skipped := skipScale_exponent ends scale
  obtain rfl | ⟨digits, areDigits, rfl⟩ := form
  · obtain rfl | ⟨letter, sign, digits, known, -, -, rfl⟩ := scale
    · cases rest with
      | nil => rfl
      | cons c rest =>
          have point := (ends c (by simp)).2.1
          simpa [skipTail, point] using skipped
    · simp only [List.mem_cons, List.not_mem_nil, or_false] at known
      rcases known with rfl | rfl <;> simpa [skipTail] using skipped
  · have split := splitDigits_append areDigits.2 (endsDigits_exponent ends scale)
    simp [skipTail, split, areDigits.1, skipped]

private theorem endsDigits_fraction {fraction exponent : List Char} (form : FractionPart fraction)
    (scale : ExponentPart exponent) : EndsDigits (fraction ++ (exponent ++ rest)) := by
  obtain rfl | ⟨digits, -, rfl⟩ := form
  · exact endsDigits_exponent ends scale
  · exact endsDigits_cons (by decide) _

/-- A number is skipped from its first digit on. -/
private theorem skipNumber_integer {integer fraction exponent : List Char}
    (whole : IntegerPart integer) (form : FractionPart fraction) (scale : ExponentPart exponent) :
    skipNumber (integer ++ (fraction ++ (exponent ++ rest))) = .ok rest := by
  have skipped := skipTail_fraction ends form scale
  have stops := endsDigits_fraction ends form scale
  obtain rfl | ⟨digits, nonzero⟩ := whole
  · cases left : fraction ++ (exponent ++ rest) with
    | nil =>
        rw [left] at skipped
        exact skipped
    | cons c tail =>
        rw [left] at skipped stops
        have noDigit := stops c (by simp)
        simpa [skipNumber, noDigit] using skipped
  · have areDigits := digits.2
    obtain ⟨c, tail, rfl, front, digit⟩ := digits.exists_cons
    have nonzero : c ≠ '0' := by simpa using nonzero
    have split := splitDigits_append
      (fun d known => areDigits d (List.mem_cons_of_mem _ known)) stops
    rw [List.cons_append, skipNumber.eq_4 _ _ nonzero, if_pos digit, split]
    exact skipped

end Numbers

section Strings

variable (rest : List Char)

private theorem skipString_unit {unit : Nat} {digits : List Char} (form : UnitForm unit digits) :
    skipString ('\\' :: 'u' :: (digits ++ rest)) = skipString rest := by
  obtain ⟨a, b, c, d, rfl, known⟩ := hexUnit?_of_unitForm form
  simp [skipString, known]

private theorem skipString_charForm {c : Char} {text : List Char} (form : CharForm c text) :
    skipString (text ++ rest) = skipString rest := by
  cases form with
  | plain quote backslash printable =>
      rw [List.singleton_append, skipString.eq_def]
      simp [quote, backslash, Nat.not_lt.mpr printable]
  | letter known =>
      have plain := simpleEscape?_of_mem known
      rw [escapeLetters] at known
      simp only [List.mem_cons, Prod.mk.injEq, List.not_mem_nil, or_false] at known
      rcases known with ⟨rfl, rfl⟩ | ⟨rfl, rfl⟩ | ⟨rfl, rfl⟩ | ⟨rfl, rfl⟩ | ⟨rfl, rfl⟩ |
        ⟨rfl, rfl⟩ | ⟨rfl, rfl⟩ | ⟨rfl, rfl⟩ <;> simp [skipString, plain]
  | code form => exact skipString_unit rest form
  | @pair high low _ first second =>
      have opening := skipString_unit ('\\' :: 'u' :: (low ++ rest)) first
      simpa [skipString_unit rest second] using opening

/-- A string is skipped after its opening quote, also when half a surrogate pair stands alone. -/
theorem skipString_of_rawString {text : List Char} (raw : RawString text) :
    ∃ body, text = '"' :: body ∧ ∀ rest, skipString (body ++ rest) = .ok rest := by
  obtain ⟨parts, forms, rfl⟩ := raw
  refine ⟨_, rfl, fun rest => ?_⟩
  induction parts with
  | nil =>
      rw [List.flatten_nil, List.nil_append, List.singleton_append, skipString.eq_def]
      simp
  | cons part parts ih =>
      have step (rest : List Char) : skipString (part ++ rest) = skipString rest := by
        obtain ⟨c, form⟩ | ⟨unit, digits, form, rfl⟩ := forms part List.mem_cons_self
        · exact skipString_charForm rest form
        · exact skipString_unit rest form
      rw [List.flatten_cons, List.append_assoc, List.append_assoc, step, ← List.append_assoc]
      exact ih fun other known => forms other (List.mem_cons_of_mem _ known)

end Strings

section Opening

private theorem IntegerPart.exists_cons {text : List Char} (whole : IntegerPart text) :
    ∃ c tail, text = c :: tail ∧ c.isDigit = true ∧ (digit? c).isSome = true := by
  obtain rfl | ⟨digits, -⟩ := whole
  · exact ⟨'0', [], rfl, rfl, rfl⟩
  · exact digits.exists_cons

theorem readWord_append (letters rest : List Char) :
    readWord letters (letters ++ rest) = .ok rest := by
  induction letters with
  | nil => rfl
  | cons letter letters ih => simp [readWord, ih]

variable {blanks : List Char} (blank : Blanks blanks) (stack : List Bracket) {rest : List Char}
include blank

private theorem skipOpening_word {letter : Char} {letters : List Char}
    (known : (letter, letters) ∈ [('n', "ull".toList), ('t', "rue".toList), ('f', "alse".toList)]) :
    skipOpening stack (blanks ++ letter :: (letters ++ rest)) = .ok (true, stack, rest) := by
  have read := readWord_append letters rest
  simp only [List.mem_cons, Prod.mk.injEq, List.not_mem_nil, or_false] at known
  rcases known with ⟨rfl, rfl⟩ | ⟨rfl, rfl⟩ | ⟨rfl, rfl⟩
  all_goals
    rw [skipOpening, skipBlanks_append_cons blank rfl]
    simp only [read]
    rfl

private theorem skipOpening_number {text : List Char} (number : NumberForm text)
    (ends : EndsCount rest) :
    skipOpening stack (blanks ++ (text ++ rest)) = .ok (true, stack, rest) := by
  obtain ⟨sign, integer, fraction, exponent, signed, whole, part, scale, rfl⟩ := number
  have skipped := skipNumber_integer ends whole part scale
  simp only [List.mem_cons, List.not_mem_nil, or_false] at signed
  rcases signed with rfl | rfl
  · obtain ⟨c, tail, rfl, front, digit⟩ := whole.exists_cons
    have other (mark : Char) (noDigit : mark.isDigit = false) : c ≠ mark :=
      ne_of_isDigit front noDigit
    simp only [List.nil_append, List.append_assoc, List.cons_append] at skipped ⊢
    rw [skipOpening, skipBlanks_append_cons blank (isBlank_of_isDigit front)]
    simp [other 'n' rfl, other 't' rfl, other 'f' rfl, other '-' rfl, digit, skipped, Except.map]
  · have minus : isBlank '-' = false := rfl
    simp [skipOpening, skipBlanks_append_cons blank minus, skipped, Except.map]

private theorem skipOpening_string {text : List Char} (raw : RawString text) :
    skipOpening stack (blanks ++ (text ++ rest)) = .ok (true, stack, rest) := by
  obtain ⟨body, rfl, skipped⟩ := skipString_of_rawString raw
  simp [skipOpening, skipBlanks_append_cons blank isBlank_quote, digit?, skipped, Except.map]

/-- A value without brackets is skipped, and a value has then just ended. -/
private theorem skipOpening_scalar {text : List Char} (form : ScalarForm text)
    (ends : EndsCount rest) :
    skipOpening stack (blanks ++ (text ++ rest)) = .ok (true, stack, rest) := by
  rcases form with word | number | raw
  · simp only [List.mem_cons, List.not_mem_nil, or_false] at word
    rcases word with rfl | rfl | rfl
    · exact skipOpening_word blank stack (show ('n', "ull".toList) ∈ _ by simp)
    · exact skipOpening_word blank stack (show ('t', "rue".toList) ∈ _ by simp)
    · exact skipOpening_word blank stack (show ('f', "alse".toList) ∈ _ by simp)
  · exact skipOpening_number blank stack number ends
  · exact skipOpening_string blank stack raw

private theorem skipOpening_list :
    skipOpening stack (blanks ++ '[' :: rest) = .ok (false, .list :: stack, rest) := by
  have opener : isBlank '[' = false := rfl
  simp [skipOpening, skipBlanks_append_cons blank opener, digit?]

private theorem skipOpening_object :
    skipOpening stack (blanks ++ '{' :: rest) = .ok (false, .object :: stack, rest) := by
  have opener : isBlank '{' = false := rfl
  simp [skipOpening, skipBlanks_append_cons blank opener, digit?]

end Opening

section Nesting

/-- Skips what an open bracket holds next: a value of a list, or a member of an object. -/
def skipInside (fuel : Nat) (outer : List Bracket) (text : List Char) :
    Bracket → Except Fault (List Char)
  | .list => skipNested fuel (.list :: outer) text
  | .object => (skipKey text).bind fun text => skipNested fuel (.object :: outer) text

/-- Goes on after a value or an opening bracket: closes brackets and skips what the innermost of
those still open holds next. -/
def resume (fuel : Nat) (afterValue : Bool) (stack : List Bracket) (text : List Char) :
    Except Fault (List Char) :=
  (closeBrackets afterValue stack text).bind fun result =>
    match result.1 with
    | [] => .ok result.2
    | bracket :: outer => skipInside fuel outer result.2 bracket

theorem skipNested_succ (fuel : Nat) (stack : List Bracket) (text : List Char) :
    skipNested (fuel + 1) stack text =
      (skipOpening stack text).bind fun result => resume fuel result.1 result.2.1 result.2.2 := by
  rw [skipNested]
  cases skipOpening stack text with
  | error fault => rfl
  | ok opened =>
      cases closed : closeBrackets opened.1 opened.2.1 opened.2.2 with
      | error fault => simp [resume, closed, bind, Except.bind]
      | ok result =>
          obtain ⟨left, text⟩ := result
          cases left with
          | nil => simp [resume, closed, bind, Except.bind, pure, Except.pure]
          | cons bracket outer =>
              cases bracket <;> simp [resume, closed, skipInside, bind, Except.bind]

section Brackets

variable {bracket : Bracket} {first : Bool} (fuel : Nat) (outer : List Bracket)

private theorem resume_close (afterValue : Bool) {blanks : List Char} (blank : Blanks blanks)
    (rest : List Char) :
    resume fuel afterValue (bracket :: outer) (blanks ++ bracket.closer :: rest) =
      resume fuel true outer rest := by
  have comma : bracket.closer ≠ ',' := by cases bracket <;> decide
  simp [resume, closeBrackets, skipBlanks_append_cons blank (isBlank_closer bracket), comma]

private theorem resume_gap {gap text : List Char} (apart : Gap first gap)
    (starts : ∃ c tail, text = c :: tail ∧ isBlank c = false ∧ c ≠ bracket.closer)
    (rest : List Char) :
    ∃ blanks, Blanks blanks ∧ resume fuel (!first) (bracket :: outer) (gap ++ (text ++ rest)) =
      skipInside fuel outer (blanks ++ (text ++ rest)) bracket := by
  obtain ⟨c, tail, rfl, solid, inside⟩ := starts
  cases apart with
  | front blank =>
      refine ⟨[], blanks_nil, ?_⟩
      simp [resume, closeBrackets, skipBlanks_append_cons blank solid, inside, Except.bind]
  | comma front back =>
      have comma : isBlank ',' = false := rfl
      refine ⟨_, back, ?_⟩
      simp [resume, closeBrackets, skipBlanks_append_cons front comma, Except.bind]

end Brackets

/-- Whether the skipper takes a text as it takes a value: it costs at most a round for each of its
characters, and a value has then just ended. -/
def SkipsValue (text : List Char) : Prop :=
  ∃ used ≤ text.length, ∀ blanks, Blanks blanks → ∀ spare stack rest, EndsCount rest →
    skipNested (spare + used) stack (blanks ++ (text ++ rest)) = resume spare true stack rest

/-- Whether the skipper takes a text as it takes what an open bracket holds next. -/
def SkipsItem (bracket : Bracket) (text : List Char) : Prop :=
  ∃ used ≤ text.length, ∀ blanks, Blanks blanks → ∀ spare outer rest, EndsCount rest →
    skipInside (spare + used) outer (blanks ++ (text ++ rest)) bracket =
      resume spare true (bracket :: outer) rest

theorem SkipsValue.item {text : List Char} (skips : SkipsValue text) : SkipsItem .list text := by
  obtain ⟨used, short, skip⟩ := skips
  exact ⟨used, short, fun blanks blank spare outer rest ends =>
    skip blanks blank spare (.list :: outer) rest ends⟩

theorem skipsItem_member {κ : Type} {value : κ → List Char → Prop} {key : κ} {text : List Char}
    (form : MemberForm (fun _ => RawString) value key text)
    (skips : ∀ own, value key own → SkipsValue own) : SkipsItem .object text := by
  cases form with
  | @pair name before after own named front back valued =>
      obtain ⟨used, short, skip⟩ := skips own valued
      obtain ⟨body, rfl, skipped⟩ := skipString_of_rawString named
      refine ⟨used, by simp; omega, fun blanks blank spare outer rest ends => ?_⟩
      have inner := skip after back spare (.object :: outer) rest ends
      simpa [skipInside, skipKey, skipBlanks_append_cons blank isBlank_quote, skipped,
        readColon_append front, Except.bind] using inner

/-- The skipper takes what stands inside an open bracket, item by item, and closes it. -/
theorem resume_itemsForm {ι : Type} {bracket : Bracket} {form : ι → List Char → Prop}
    (starts : ∀ item text, form item text →
      ∃ c tail, text = c :: tail ∧ isBlank c = false ∧ c ≠ bracket.closer)
    (each : ∀ item text, form item text → SkipsItem bracket text) {first : Bool} {items : List ι}
    {body : List Char} (listed : ItemsForm bracket form first items body) :
    ∃ used ≤ body.length, ∀ spare outer rest,
      resume (spare + used) (!first) (bracket :: outer) (body ++ rest) =
        resume spare true outer rest := by
  induction listed with
  | close blank =>
      refine ⟨0, Nat.zero_le _, fun spare outer rest => ?_⟩
      rw [List.append_assoc, List.singleton_append]
      exact resume_close spare outer _ blank rest
  | @next first gap text later item items apart own others ih =>
      obtain ⟨used, short, skip⟩ := each item text own
      obtain ⟨more, shorter, finish⟩ := ih
      refine ⟨used + more, by simp; omega, fun spare outer rest => ?_⟩
      obtain ⟨blanks, blank, entered⟩ :=
        resume_gap (spare + (used + more)) outer apart (starts item text own) (later ++ rest)
      rw [List.append_assoc, List.append_assoc, entered, Nat.add_left_comm, Nat.add_comm used,
        skip blanks blank _ outer _ (others.endsCount rest)]
      exact finish spare outer rest

end Nesting

section Values

private theorem NumberForm.startsElement {text : List Char} (number : NumberForm text) :
    StartsElement text := by
  obtain ⟨sign, integer, fraction, exponent, signed, whole, -, -, rfl⟩ := number
  simp only [List.mem_cons, List.not_mem_nil, or_false] at signed
  rcases signed with rfl | rfl
  · obtain ⟨c, tail, rfl, front, -⟩ := whole.exists_cons
    exact ⟨c, _, rfl, isBlank_of_isDigit front, ne_of_isDigit front rfl⟩
  · exact ⟨'-', _, rfl, rfl, by decide⟩

private theorem ScalarForm.startsElement {text : List Char} (form : ScalarForm text) :
    StartsElement text := by
  rcases form with word | number | ⟨parts, -, rfl⟩
  · simp only [List.mem_cons, List.not_mem_nil, or_false] at word
    rcases word with rfl | rfl | rfl
    · exact ⟨'n', _, rfl, rfl, by decide⟩
    · exact ⟨'t', _, rfl, rfl, by decide⟩
    · exact ⟨'f', _, rfl, rfl, by decide⟩
  · exact number.startsElement
  · exact ⟨'"', _, rfl, rfl, by decide⟩

/-- No value starts with a blank or a closing bracket. -/
theorem ValueForm.startsElement {depth : Nat} {text : List Char} (form : ValueForm depth text) :
    StartsElement text := by
  cases depth with
  | zero => exact ScalarForm.startsElement form
  | succ depth =>
      rcases form with scalar | ⟨items, body, rfl, -⟩ | ⟨keys, body, rfl, -⟩
      · exact scalar.startsElement
      · exact ⟨'[', _, rfl, rfl, by decide⟩
      · exact ⟨'{', _, rfl, rfl, by decide⟩

private theorem skipsValue_scalar {text : List Char} (form : ScalarForm text) :
    SkipsValue text := by
  obtain ⟨c, tail, front, -⟩ := form.startsElement
  refine ⟨1, by simp [front], fun blanks blank spare stack rest ends => ?_⟩
  rw [skipNested_succ, skipOpening_scalar blank stack form ends]
  rfl

private theorem skipsValue_list {ι : Type} {form : ι → List Char → Prop}
    (starts : ∀ item text, form item text → StartsElement text)
    (each : ∀ item text, form item text → SkipsValue text) {items : List ι} {text : List Char}
    (written : ListForm form items text) : SkipsValue text := by
  obtain ⟨body, rfl, listed⟩ := written
  obtain ⟨used, short, finish⟩ := resume_itemsForm starts
    (fun item text own => (each item text own).item) listed
  refine ⟨used + 1, by simpa using short, fun blanks blank spare stack rest ends => ?_⟩
  rw [← Nat.add_assoc, skipNested_succ, List.cons_append, skipOpening_list blank]
  exact finish spare stack rest

private theorem skipsValue_object {κ : Type} {value : κ → List Char → Prop}
    (each : ∀ key text, value key text → SkipsValue text) {keys : List κ} {text : List Char}
    (written : ObjectForm (fun _ => RawString) value keys text) : SkipsValue text := by
  obtain ⟨body, rfl, listed⟩ := written
  have starts : ∀ key text, MemberForm (fun _ => RawString) value key text →
      ∃ c tail, text = c :: tail ∧ isBlank c = false ∧ c ≠ Bracket.object.closer := by
    intro key text member
    cases member with
    | pair named =>
        obtain ⟨parts, -, rfl⟩ := named
        exact ⟨'"', _, rfl, rfl, by decide⟩
  obtain ⟨used, short, finish⟩ := resume_itemsForm starts
    (fun key text member => skipsItem_member member (each key)) listed
  refine ⟨used + 1, by simpa using short, fun blanks blank spare stack rest ends => ?_⟩
  rw [← Nat.add_assoc, skipNested_succ, List.cons_append, skipOpening_object blank]
  exact finish spare stack rest

theorem skipsValue_of_form {depth : Nat} {text : List Char} (form : ValueForm depth text) :
    SkipsValue text := by
  induction depth generalizing text with
  | zero => exact skipsValue_scalar form
  | succ depth ih =>
      rcases form with scalar | ⟨items, written⟩ | ⟨keys, written⟩
      · exact skipsValue_scalar scalar
      · exact skipsValue_list (fun _ _ own => own.startsElement) (fun _ _ own => ih own) written
      · exact skipsValue_object (fun _ _ own => ih own) written

theorem AnyValue.startsElement {text : List Char} (any : AnyValue text) : StartsElement text := by
  obtain ⟨depth, form⟩ := any
  exact form.startsElement

/-- Any value is skipped with as much fuel as it has characters. -/
theorem skipValue_of_anyValue {text : List Char} (any : AnyValue text) {fuel : Nat}
    (enough : text.length ≤ fuel) {blanks : List Char} (blank : Blanks blanks) {rest : List Char}
    (ends : EndsCount rest) : skipValue fuel (blanks ++ (text ++ rest)) = .ok rest := by
  obtain ⟨depth, form⟩ := any
  obtain ⟨used, short, skip⟩ := skipsValue_of_form form
  obtain ⟨spare, rfl⟩ := Nat.exists_eq_add_of_le' (Nat.le_trans short enough)
  exact skip blanks blank spare [] rest ends

end Values

end DuplicateLogic.Json
