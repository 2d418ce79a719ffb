import DuplicateLogic.Proofs.JsonReading

/-! # Reading every form

A reader accepts a text when it gives the value after any blanks and leaves what follows the text.
Strings and counts are accepted in every form. A list is accepted when its elements are, and
members are when each of them leads from one state of what is known to the next. -/

namespace DuplicateLogic.Json

section Blank

theorem skipBlanks_append {blanks : List Char} (blank : Blanks blanks) (text : List Char) :
    skipBlanks (blanks ++ text) = skipBlanks text :=
  List.dropWhile_append_of_pos blank

/-- What skips blanks first reads a character after blanks as it reads the character. -/
theorem skipBlanks_append_cons {blanks : List Char} (blank : Blanks blanks) {c : Char}
    (solid : isBlank c = false) (rest : List Char) :
    skipBlanks (blanks ++ c :: rest) = c :: rest :=
  (skipBlanks_append blank _).trans (skipBlanks_cons solid rest)

theorem endsCount_append {blanks rest : List Char} (blank : Blanks blanks)
    (ends : EndsCount rest) : EndsCount (blanks ++ rest) := by
  cases blanks with
  | nil => exact ends
  | cons c blanks =>
      have front : isBlank c = true := blank c List.mem_cons_self
      apply endsCount_cons
      rcases by simpa [isBlank] using front with ((rfl | rfl) | rfl) | rfl <;> decide

theorem endsCount_closer (bracket : Bracket) (rest : List Char) :
    EndsCount (bracket.closer :: rest) := by
  apply endsCount_cons
  cases bracket <;> decide

theorem isBlank_closer (bracket : Bracket) : isBlank bracket.closer = false := by
  cases bracket <;> rfl

end Blank

/-- Whether a reader gives a value for a text after any blanks, and leaves what follows. -/
def Accepts {α : Type} (reader : Reader α) (text : List Char) (value : α) : Prop :=
  ∀ blanks, Blanks blanks → ∀ rest, EndsCount rest →
    reader (blanks ++ (text ++ rest)) = .ok (value, rest)

section Leaves

theorem isBlank_quote : isBlank '"' = false := rfl

/-- A string is accepted in each of its forms. -/
theorem accepts_text {value : String} {text : List Char} (form : StringForm value text) :
    Accepts readText text value := by
  intro blanks blank rest _
  obtain ⟨body, rfl, read⟩ := readString_of_form form
  simp [readText, skipBlanks_append_cons blank isBlank_quote, read]

/-- A count is accepted in decimal digits. -/
theorem accepts_count {number : Nat} (fits : number ≤ maxWord) :
    Accepts readCount (Nat.toDigits 10 number) number := by
  intro blanks blank rest ends
  rw [← readCount_toDigits fits ends, readCount, readCount, skipBlanks_append blank]

/-- A value that is a string is accepted in each form of the string. -/
theorem accepts_value_string {value : String} {text : List Char} (form : StringForm value text)
    (fuel : Nat) (inner? : Option (Reader Value)) :
    Accepts (Value.readWith fuel inner?) text (.string value) := by
  intro blanks blank rest _
  obtain ⟨body, rfl, read⟩ := readString_of_form form
  simp [Value.readWith, skipBlanks_append_cons blank isBlank_quote, digit?, read, Except.map]

end Leaves

namespace ItemsForm

section Lengths

variable {ι : Type} {bracket : Bracket} {form : ι → List Char → Prop} {first : Bool}
  {items : List ι} {body : List Char}

/-- What follows an item ends a count. -/
theorem endsCount (listed : ItemsForm bracket form false items body) (rest : List Char) :
    EndsCount (body ++ rest) := by
  cases listed with
  | close blank =>
      rw [List.append_assoc, List.singleton_append]
      exact endsCount_append blank (endsCount_closer bracket rest)
  | next apart own others =>
      cases apart with
      | comma front back =>
          rw [List.append_assoc, List.append_assoc, List.cons_append]
          exact endsCount_append front (endsCount_comma _)

private theorem length_lt_add (listed : ItemsForm bracket form first items body) :
    items.length < body.length + first.toNat := by
  induction listed with
  | close blank =>
      rw [List.length_nil, List.length_append, List.length_singleton]
      omega
  | next apart own others ih =>
      cases apart <;> simp at ih ⊢ <;> omega

/-- There is a comma or a bracket for each item. -/
theorem length_le (listed : ItemsForm bracket form first items body) :
    items.length ≤ body.length := by
  have := listed.length_lt_add
  have := Bool.toNat_le first
  omega

end Lengths

end ItemsForm

section Starts

theorem StringForm.startsElement {value : String} {text : List Char}
    (form : StringForm value text) : StartsElement text := by
  obtain ⟨parts, -, rfl⟩ := form
  exact ⟨'"', _, rfl, rfl, by decide⟩

theorem startsElement_toDigits (number : Nat) : StartsElement (Nat.toDigits 10 number) := by
  obtain ⟨c, tail, written⟩ : ∃ c tail, Nat.toDigits 10 number = c :: tail :=
    List.exists_cons_of_ne_nil Nat.toDigits_ne_nil
  have isDigit : c.isDigit = true :=
    Nat.isDigit_of_mem_toDigits (n := number) (b := 10) (by omega) (by omega) (by simp [written])
  exact ⟨c, tail, written, isBlank_of_isDigit isDigit, ne_of_isDigit isDigit rfl⟩

/-- A record starts with its bracket. -/
theorem RecordForm.startsElement {names : List String} {optional : String → Prop}
    {value : String → List Char → Prop} {text : List Char}
    (form : RecordForm names optional value text) : StartsElement text := by
  obtain ⟨keys, -, ⟨body, rfl, -⟩ | ⟨-, body, rfl, -⟩⟩ := form
  · exact ⟨'{', body, rfl, rfl, by decide⟩
  · exact ⟨'[', body, rfl, rfl, by decide⟩

end Starts

section Written

theorem stringForm_compact (text : String) :
    StringForm text (Value.string text).compact.toList := by
  rw [Value.toList_compact_string, ← writeString_toList]
  exact stringForm_writeString text

/-- Items that are written on one line stand in their brackets as they may. -/
theorem itemsForm_listed {κ ι : Type} {bracket : Bracket} {form : ι → List Char → Prop}
    {item : κ → ι} {written : κ → List Char} {sources : List κ}
    (each : ∀ source ∈ sources, form (item source) (written source)) (first : Bool) :
    ItemsForm bracket form first (sources.map item)
      (listed first (sources.map written) ++ [bracket.closer]) := by
  induction sources generalizing first with
  | nil => exact .close blanks_nil
  | cons source sources ih =>
      have others := ih (fun other known => each other (List.mem_cons_of_mem _ known)) false
      have own := each source List.mem_cons_self
      rw [List.map_cons, List.map_cons, listed, List.append_assoc]
      cases first with
      | true =>
          have whole := ItemsForm.next (.front blanks_nil) own others
          exact whole
      | false =>
          have whole := ItemsForm.next (.comma blanks_nil blanks_nil) own others
          exact whole

theorem listForm_listed {ι : Type} {form : ι → List Char → Prop} {written : ι → List Char}
    {items : List ι} (each : ∀ item ∈ items, form item (written item)) :
    ListForm form items ('[' :: (listed true (items.map written) ++ [']'])) := by
  refine ⟨_, rfl, ?_⟩
  have listed : ItemsForm .list form true (items.map id) _ := itemsForm_listed each true
  rwa [List.map_id] at listed

theorem objectForm_listed {value : String → List Char → Prop}
    {members : List (String × List Char)}
    (each : ∀ member ∈ members, value member.1 member.2) :
    ObjectForm StringForm value (members.map Prod.fst)
      ('{' :: (listed true (memberTexts members) ++ ['}'])) := by
  refine ⟨_, rfl, itemsForm_listed (fun member known => ?_) true⟩
  have pair := MemberForm.pair (stringForm_writeString member.1) blanks_nil blanks_nil
    (each member known)
  exact pair

end Written

section Elements

variable {α : Type} {ι : Type} {element : Reader α} {form : ι → List Char → Prop} {first : Bool}

theorem nextElement_gap {gap text : List Char} (apart : Gap first gap)
    (starts : StartsElement text) (rest : List Char) :
    nextElement first (gap ++ (text ++ rest)) = .ok (true, text ++ rest) := by
  obtain ⟨c, tail, rfl, solid, opens⟩ := starts
  cases apart with
  | front blank => simp [nextElement, skipBlanks_append_cons blank solid, opens]
  | comma front back =>
      have comma : isBlank ',' = false := rfl
      simp [nextElement, skipBlanks_append_cons front comma, skipBlanks_append_cons back solid,
        opens]

theorem nextElement_close {blanks : List Char} (blank : Blanks blanks) (rest : List Char) :
    nextElement first (blanks ++ ']' :: rest) = .ok (false, ']' :: rest) := by
  have closer : isBlank ']' = false := rfl
  simp [nextElement, skipBlanks_append_cons blank closer]

variable (starts : ∀ item text, form item text → StartsElement text)
include starts

/-- The next element of a list is found, and read when it is accepted. -/
theorem ItemsForm.reads_next {item : ι} {items : List ι} {body : List Char} {value : α}
    (listed : ItemsForm .list form first (item :: items) body)
    (accepts : ∀ text, form item text → text.length ≤ body.length → Accepts element text value) :
    ∃ text later, ItemsForm .list form false items later ∧ later.length ≤ body.length ∧
      ∀ rest, nextElement first (body ++ rest) = .ok (true, text ++ (later ++ rest)) ∧
        element (text ++ (later ++ rest)) = .ok (value, later ++ rest) := by
  cases listed with
  | @next _ gap text later _ _ apart own others =>
      refine ⟨text, later, others, by simp; omega, fun rest => ⟨?_, ?_⟩⟩
      · rw [List.append_assoc, List.append_assoc]
        exact nextElement_gap apart (starts _ _ own) _
      · have short : text.length ≤ (gap ++ (text ++ later)).length := by simp; omega
        exact accepts text own short [] blanks_nil _ (others.endsCount rest)

end Elements

section Lists

variable {α : Type} {element : Reader α} {form : α → List Char → Prop}
  (starts : ∀ item text, form item text → StartsElement text) {items : List α}
include starts

private theorem readElements_itemsForm {first : Bool} {body : List Char}
    (listed : ItemsForm .list form first items body) {room : Nat} (short : body.length ≤ room)
    (each : ∀ item ∈ items, ∀ text, form item text → text.length ≤ room →
      Accepts element text item)
    {rounds : Nat} (enough : items.length < rounds) (front : List α) (rest : List Char) :
    readElements element rounds first front (body ++ rest) =
      .ok (front.reverse ++ items, rest) := by
  induction items generalizing first body rounds front with
  | nil =>
      obtain ⟨rounds, rfl⟩ := Nat.exists_eq_add_of_lt enough
      cases listed with
      | close blank =>
          rw [readElements, List.append_assoc, List.singleton_append]
          simp [Bracket.closer, nextElement_close blank, bind, Except.bind, pure, Except.pure]
  | cons item items ih =>
      rw [List.length_cons] at enough
      obtain ⟨rounds, rfl⟩ : ∃ left, rounds = left + 1 := ⟨rounds - 1, by omega⟩
      obtain ⟨text, later, others, shorter, read⟩ := listed.reads_next starts
        fun text own fits => each item List.mem_cons_self text own (by omega)
      obtain ⟨more, taken⟩ := read rest
      have tail := ih others (by omega)
        (fun item known => each item (List.mem_cons_of_mem _ known))
        (show items.length < rounds by omega) (item :: front)
      simpa [readElements, more, taken, bind, Except.bind] using tail

/-- A list is accepted when its elements are. -/
theorem accepts_list {text : List Char} (listed : ListForm form items text) {fuel : Nat}
    (short : text.length ≤ fuel)
    (each : ∀ item ∈ items, ∀ own, form item own → own.length < text.length →
      Accepts element own item) :
    Accepts (readList fuel (some element)) text items := by
  obtain ⟨body, rfl, listed⟩ := listed
  intro blanks blank rest _
  have opener : isBlank '[' = false := rfl
  have fewer := listed.length_le
  rw [List.length_cons] at short
  rw [List.cons_append, readList, skipBlanks_append_cons blank opener]
  exact readElements_itemsForm starts listed (Nat.le_refl _)
    (fun item known own written fits => each item known own written (Nat.lt_succ_of_le fits))
    (by omega) [] rest

end Lists

section Members

theorem nextKey_gap {first : Bool} {gap text : List Char} (apart : Gap first gap) {key : String}
    (named : StringForm key text) (rest : List Char) :
    nextKey first (gap ++ (text ++ rest)) = .ok (some key, rest) := by
  obtain ⟨body, rfl, read⟩ := readString_of_form named
  cases apart with
  | front blank => simp [nextKey, skipBlanks_append_cons blank isBlank_quote, read, Except.map]
  | comma front back =>
      have comma : isBlank ',' = false := rfl
      simp [nextKey, skipBlanks_append_cons front comma,
        skipBlanks_append_cons back isBlank_quote, read, Except.map]

theorem nextKey_close {first : Bool} {blanks : List Char} (blank : Blanks blanks)
    (rest : List Char) : nextKey first (blanks ++ '}' :: rest) = .ok (none, '}' :: rest) := by
  have closer : isBlank '}' = false := rfl
  simp [nextKey, skipBlanks_append_cons blank closer]

theorem readColon_append {before : List Char} (blank : Blanks before) (rest : List Char) :
    readColon (before ++ ':' :: rest) = .ok rest := by
  have colon : isBlank ':' = false := rfl
  simp [readColon, skipBlanks_append_cons blank colon]

variable {σ α : Type} {field : σ → String → Reader σ}

/-- Whether the value of a member leads from one state of what is known to the next. -/
def Advances (field : σ → String → Reader σ) (known : σ) (key : String) (value : List Char)
    (next : σ) : Prop :=
  ∀ text after rest, readColon text = .ok (after ++ (value ++ rest)) → Blanks after →
    EndsCount rest → field known key text = .ok (next, rest)

variable {finish : σ → Reader α} {loop : Nat → Bool → σ → Reader α}
  {value : String → List Char → Prop} {names : List String} {state : List String → σ}

/-- A loop finishes with the state of all keys when each member leads to the state of one more
key. Members with a name of a field may be read once only. -/
theorem MemberLoop.finishes_itemsForm (reader : MemberLoop field finish loop) {room : Nat}
    (step : ∀ seen key text, (key ∈ names → key ∉ seen) → value key text → text.length ≤ room →
      Advances field (state seen) key text (state (key :: seen)))
    {first : Bool} {keys : List String} {body : List Char}
    (listed : ItemsForm .object (MemberForm StringForm value) first keys body)
    (short : body.length ≤ room) (once : ∀ name ∈ names, keys.count name ≤ 1)
    {seen : List String} (apart : ∀ name ∈ names, name ∈ keys → name ∉ seen) {rounds : Nat}
    (enough : keys.length < rounds) (rest : List Char) :
    loop rounds first (state seen) (body ++ rest) =
      finish (state (keys.reverse ++ seen)) ('}' :: rest) := by
  induction listed generalizing seen rounds with
  | close blank =>
      obtain ⟨rounds, rfl⟩ := Nat.exists_eq_add_of_lt enough
      rw [List.append_assoc, List.singleton_append]
      exact reader.last (nextKey_close blank rest)
  | @next first gap text later key keys gapped own others ih =>
      rw [List.length_cons] at enough
      obtain ⟨rounds, rfl⟩ : ∃ left, rounds = left + 1 := ⟨rounds - 1, by omega⟩
      cases own with
      | @pair name before after text named front back valued =>
          have advances := step seen key text
            (fun known => apart key known List.mem_cons_self) valued (by simp at short; omega)
          have fresh : ∀ name ∈ names, name ∈ keys → name ∉ key :: seen := by
            intro name known later
            have single := once name known
            have before := apart name known (List.mem_cons_of_mem _ later)
            have present := List.count_pos_iff.mpr later
            rw [List.count_cons] at single
            rw [List.mem_cons, not_or]
            refine ⟨?_, before⟩
            rintro rfl
            simp at single
            omega
          have single : ∀ name ∈ names, keys.count name ≤ 1 := fun name known =>
            Nat.le_trans List.count_le_count_cons (once name known)
          have tail := ih (by simp at short; omega) single fresh
            (show keys.length < rounds by omega)
          have taken := nextKey_gap gapped named
            (before ++ ':' :: (after ++ (text ++ (later ++ rest))))
          have read := advances _ after (later ++ rest) (readColon_append front _) back
            (others.endsCount rest)
          simp only [List.append_assoc, List.cons_append, reader.next taken, read, Except.bind,
            List.reverse_cons]
          exact tail

end Members

section Records

variable {α : Type} {name : String} {asList asObject : Reader α} {body : List Char} {value : α}

theorem accepts_record_object
    (reads : ∀ rest, asObject (body ++ rest) = .ok (value, '}' :: rest)) :
    Accepts (readRecord name true asList asObject) ('{' :: body) value := by
  intro blanks blank rest _
  have opener : isBlank '{' = false := rfl
  have closer : isBlank '}' = false := rfl
  simp [readRecord, skipBlanks_append_cons blank opener, reads, closeObject,
    skipBlanks_cons closer, Except.map]

theorem accepts_record_list
    (reads : ∀ rest, ∃ before, Blanks before ∧
      asList (body ++ rest) = .ok (value, before ++ ']' :: rest)) :
    Accepts (readRecord name true asList asObject) ('[' :: body) value := by
  intro blanks blank rest _
  obtain ⟨before, closing, read⟩ := reads rest
  have opener : isBlank '[' = false := rfl
  have closer : isBlank ']' = false := rfl
  simp [readRecord, skipBlanks_append_cons blank opener, read, closeList,
    skipBlanks_append_cons closing closer, Except.map]

/-- An object is accepted when each member leads to the state of one more key and the state of
all its keys is complete. -/
theorem MemberLoop.accepts_object {σ : Type} {field : σ → String → Reader σ} {finish : σ → Reader α}
    {loop : Nat → Bool → σ → Reader α} (reader : MemberLoop field finish loop)
    (names : List String) (state : List String → σ) {form : String → List Char → Prop}
    {keys : List String} {text : List Char} (written : ObjectForm StringForm form keys text)
    {fuel : Nat} (short : text.length ≤ fuel)
    (step : ∀ seen key own, (key ∈ names → key ∉ seen) → form key own → own.length < text.length →
      Advances field (state seen) key own (state (key :: seen)))
    (once : ∀ name ∈ names, keys.count name ≤ 1)
    (complete : ∀ rest, finish (state keys.reverse) rest = .ok (value, rest)) :
    Accepts (readRecord name true asList (loop fuel true (state []))) text value := by
  obtain ⟨body, rfl, listed⟩ := written
  have fewer := listed.length_le
  rw [List.length_cons] at short
  apply accepts_record_object
  intro rest
  rw [reader.finishes_itemsForm
    (fun seen key own fresh valued fits => step seen key own fresh valued (Nat.lt_succ_of_le fits))
    listed (Nat.le_refl _) once (by simp) (by omega) rest, List.append_nil]
  exact complete _

end Records

end DuplicateLogic.Json
