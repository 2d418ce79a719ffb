import DuplicateLogic.Proofs.JsonText

/-! # Reading back written values

A reader reads a text when it takes exactly this text off the front of any longer one. It
overflows on a text when it meets a bracket too many inside it, again whatever follows. Both
notions are carried from the elements to a list and from the members to a record. -/

namespace DuplicateLogic.Json

section Compact

/-- A member of an object on one line. -/
def memberText (key : String) (value : List Char) : List Char :=
  (writeString key).toList ++ ':' :: value

namespace Value

theorem compactItems_eq_map (items : List Value) : compactItems items = items.map compact := by
  induction items with
  | nil => rfl
  | cons item rest ih => rw [compactItems, ih, List.map_cons]

theorem compactMembers_eq_map (members : List (String × Value)) :
    compactMembers members =
      members.map fun member => writeString member.1 ++ ":" ++ member.2.compact := by
  induction members with
  | nil => rfl
  | cons member rest ih => rw [compactMembers, ih, List.map_cons]

theorem toList_compact_string (text : String) :
    (string text).compact.toList = '"' :: stringBody text :=
  writeString_toList text

theorem toList_compact_ofNat (number : Nat) :
    (ofNat number).compact.toList = Nat.toDigits 10 number :=
  Nat.toList_repr

theorem toList_compact_array (items : List Value) :
    (array items).compact.toList =
      '[' :: ([','].intercalate (items.map fun item => item.compact.toList) ++ [']']) := by
  simp [compact, compactItems_eq_map, Function.comp_def]

theorem toList_compact_object (members : List (String × Value)) :
    (object members).compact.toList =
      '{' :: ([','].intercalate
        (members.map fun member => memberText member.1 member.2.compact.toList) ++ ['}']) := by
  simp [compact, compactMembers_eq_map, memberText, Function.comp_def]

end Value

end Compact

/-- Whether a reader takes exactly a text off the front and gives a value, whatever follows. -/
def Reads {α : Type} (reader : Reader α) (text : List Char) (value : α) : Prop :=
  ∀ rest, reader (text ++ rest) = .ok (value, rest)

/-- Whether a reader meets a bracket too many in a text, whatever follows. -/
def Overflows {α : Type} (reader : Reader α) (text : List Char) : Prop :=
  ∀ rest, ∃ unread, reader (text ++ rest) = .error (.placed .tooDeep unread)

/-- One of several parts, with the comma before it unless it is the first. -/
def separated (first : Bool) (text : List Char) : List Char :=
  if first then text else ',' :: text

/-- Several parts with commas between them, and one before them unless they are the first. -/
def listed (first : Bool) : List (List Char) → List Char
  | [] => []
  | text :: rest => separated first text ++ listed false rest

theorem intercalate_eq_listed (texts : List (List Char)) :
    [','].intercalate texts = listed true texts := by
  have further (first : List Char) (rest : List (List Char)) :
      [','].intercalate (first :: rest) = first ++ listed false rest := by
    induction rest generalizing first with
    | nil => simp [listed]
    | cons second rest ih => simp [List.intercalate_cons_cons, listed, separated, ih]
  cases texts with
  | nil => rfl
  | cons first rest => exact further first rest

theorem length_le_listed {texts : List (List Char)} {text : List Char} (known : text ∈ texts)
    (first : Bool) : text.length ≤ (listed first texts).length := by
  induction texts generalizing first with
  | nil => cases known
  | cons other rest ih =>
      rw [listed, List.length_append]
      rcases List.mem_cons.mp known with rfl | later
      · have : text.length ≤ (separated first text).length := by
          cases first <;> simp [separated]
        omega
      · have := ih later false
        omega

/-- Several parts are at least as long as there are commas between them. -/
theorem count_le_listed (texts : List (List Char)) (first : Bool) :
    texts.length ≤ (listed first texts).length + 1 := by
  have further (texts : List (List Char)) : texts.length ≤ (listed false texts).length := by
    induction texts with
    | nil => exact Nat.zero_le _
    | cons text rest ih =>
        simp only [listed, separated, List.length_append, List.length_cons, Bool.false_eq_true,
          if_false]
        omega
  cases texts with
  | nil => exact Nat.zero_le _
  | cons text rest =>
      have := further rest
      rw [listed, List.length_append, List.length_cons]
      omega

section Lists

variable {α : Type} {ι : Type} {element : Reader α}

/-- Whether an element of a list can start with a text. -/
def StartsElement (text : List Char) : Prop :=
  ∃ c rest, text = c :: rest ∧ isBlank c = false ∧ c ≠ ']'

/-- An element is read, and then those that follow it. -/
theorem readElements_separated {text : List Char} (starts : StartsElement text) (fuel : Nat)
    (first : Bool) (front : List α) (rest : List Char) :
    readElements element (fuel + 1) first front (separated first text ++ rest) =
      (element (text ++ rest)).bind fun result =>
        readElements element fuel false (result.1 :: front) result.2 := by
  have more : nextElement first (separated first text ++ rest) = .ok (true, text ++ rest) := by
    obtain ⟨c, tail, rfl, solid, opens⟩ := starts
    cases first with
    | true => simp [separated, nextElement, skipBlanks_cons solid, opens]
    | false =>
        have comma : isBlank ',' = false := rfl
        simp [separated, nextElement, skipBlanks_cons comma, skipBlanks_cons solid, opens]
  rw [readElements, more]
  rfl

theorem readElements_end (fuel : Nat) (first : Bool) (front : List α) (rest : List Char) :
    readElements element (fuel + 1) first front (']' :: rest) = .ok (front.reverse, rest) := by
  have closer : isBlank ']' = false := rfl
  simp [readElements, nextElement, skipBlanks_cons closer, bind, Except.bind, pure, Except.pure]

variable {written : ι → List Char} {value : ι → α}

private theorem readElements_listed {items : List ι}
    (starts : ∀ item ∈ items, StartsElement (written item))
    (each : ∀ item ∈ items, Reads element (written item) (value item)) (spare : Nat)
    (first : Bool) (front : List α) (rest : List Char) :
    readElements element (items.length + spare + 1) first front
        (listed first (items.map written) ++ ']' :: rest) =
      .ok (front.reverse ++ items.map value, rest) := by
  induction items generalizing first front with
  | nil => simpa [listed] using readElements_end _ first front rest
  | cons item items ih =>
      have later := ih (fun item known => starts item (List.mem_cons_of_mem _ known))
        (fun item known => each item (List.mem_cons_of_mem _ known)) false (value item :: front)
      rw [List.length_cons, Nat.add_right_comm _ 1 spare, List.map_cons, listed,
        List.append_assoc, readElements_separated (starts item (by simp)), each item (by simp)]
      simpa [Except.bind] using later

/-- A list is read when each of its elements is. -/
theorem reads_elements {items : List ι}
    (starts : ∀ item ∈ items, StartsElement (written item))
    (each : ∀ item ∈ items, Reads element (written item) (value item)) {fuel : Nat}
    (enough : items.length < fuel) :
    Reads (readElements element fuel true []) (listed true (items.map written) ++ [']'])
      (items.map value) := by
  intro rest
  obtain ⟨spare, rfl⟩ := Nat.exists_eq_add_of_lt enough
  rw [List.append_assoc, List.singleton_append]
  exact readElements_listed starts each spare true [] rest

/-- A list overflows when one of its elements does and those before it are read. -/
theorem overflows_elements {items : List ι}
    (starts : ∀ item ∈ items, StartsElement (written item))
    (each : ∀ item ∈ items, Reads element (written item) (value item) ∨
      Overflows element (written item))
    (broken : ∃ item ∈ items, Overflows element (written item)) {fuel : Nat}
    (enough : items.length ≤ fuel) (first : Bool) (front : List α) (tail : List Char) :
    Overflows (readElements element fuel first front)
      (listed first (items.map written) ++ tail) := by
  intro rest
  induction items generalizing fuel first front with
  | nil => simp at broken
  | cons item items ih =>
      obtain ⟨fuel, rfl⟩ := Nat.exists_eq_add_of_lt enough
      rw [List.map_cons, listed, List.append_assoc, List.append_assoc,
        readElements_separated (starts item (by simp))]
      by_cases here : Overflows element (written item)
      · obtain ⟨unread, fault⟩ := here (listed false (items.map written) ++ (tail ++ rest))
        exact ⟨unread, by rw [fault]; rfl⟩
      · have reads := (each item (by simp)).resolve_right here
        have later : ∃ item ∈ items, Overflows element (written item) := by
          obtain ⟨other, known, overflows⟩ := broken
          rcases List.mem_cons.mp known with rfl | known
          · exact absurd overflows here
          · exact ⟨other, known, overflows⟩
        rw [reads, ← List.append_assoc]
        exact ih (fun item known => starts item (List.mem_cons_of_mem _ known))
          (fun item known => each item (List.mem_cons_of_mem _ known)) later (by omega) false
          (value item :: front)

/-- A list in its brackets is read when each of its elements is. -/
theorem reads_list {items : List ι}
    (starts : ∀ item ∈ items, StartsElement (written item))
    (each : ∀ item ∈ items, Reads element (written item) (value item)) {fuel : Nat}
    (enough : items.length < fuel) :
    Reads (readList fuel (some element)) ('[' :: (listed true (items.map written) ++ [']']))
      (items.map value) := by
  intro rest
  have opener : isBlank '[' = false := rfl
  rw [List.cons_append, readList, skipBlanks_cons opener]
  exact reads_elements starts each enough rest

/-- A list in its brackets overflows when one of its elements does and the others are read. -/
theorem overflows_list {items : List ι}
    (starts : ∀ item ∈ items, StartsElement (written item))
    (each : ∀ item ∈ items, Reads element (written item) (value item) ∨
      Overflows element (written item))
    (broken : ∃ item ∈ items, Overflows element (written item)) {fuel : Nat}
    (enough : items.length ≤ fuel) :
    Overflows (readList fuel (some element)) ('[' :: (listed true (items.map written) ++ [']']))
      := by
  intro rest
  have opener : isBlank '[' = false := rfl
  rw [List.cons_append, readList, skipBlanks_cons opener]
  exact overflows_elements starts each broken enough true [] [']'] rest

end Lists

section Members

/-- The key of a member is taken, and its colon and value are left. -/
theorem nextKey_separated (first : Bool) (key : String) (value rest : List Char) :
    nextKey first (separated first (memberText key value) ++ rest) =
      .ok (some key, ':' :: (value ++ rest)) := by
  have quote : isBlank '"' = false := rfl
  have comma : isBlank ',' = false := rfl
  have taken := readString_stringBody (':' :: (value ++ rest)) key
  cases first with
  | true =>
      simp [separated, memberText, writeString_toList, nextKey, skipBlanks_cons quote, taken,
        Except.map]
  | false =>
      simp [separated, memberText, writeString_toList, nextKey, skipBlanks_cons quote,
        skipBlanks_cons comma, taken, Except.map]

theorem nextKey_end (first : Bool) (rest : List Char) :
    nextKey first ('}' :: rest) = .ok (none, '}' :: rest) := by
  have closer : isBlank '}' = false := rfl
  simp [nextKey, skipBlanks_cons closer]

theorem readColon_colon (rest : List Char) : readColon (':' :: rest) = .ok rest := rfl

/-- The members of an object, each as it is written. -/
def memberTexts (members : List (String × List Char)) : List (List Char) :=
  members.map fun member => memberText member.1 member.2

/-- A member is at least as long as its value, its colon and the quotes of its key. -/
theorem length_lt_listed_memberTexts {members : List (String × List Char)} {key : String}
    {value : List Char} (known : (key, value) ∈ members) (first : Bool) :
    value.length + 2 < (listed first (memberTexts members)).length := by
  have inside : memberText key value ∈ memberTexts members := by
    rw [memberTexts, List.mem_map]
    exact ⟨(key, value), known, rfl⟩
  have longer : value.length + 2 < (memberText key value).length := by
    simp only [memberText, writeString_toList, stringBody, List.length_append, List.length_cons,
      List.length_nil]
    omega
  exact Nat.lt_of_lt_of_le longer (length_le_listed inside first)

variable {σ α : Type} {field : σ → String → Reader σ}

/-- Members that are read one after the other, from one state of what is known to another. What
follows a member must only not continue a number. -/
inductive Fills (field : σ → String → Reader σ) : σ → List (String × List Char) → σ → Prop
  | done {known : σ} : Fills field known [] known
  | member {known next last : σ} {key : String} {value : List Char}
      {members : List (String × List Char)}
      (read : ∀ rest, EndsCount rest → field known key (':' :: (value ++ rest)) = .ok (next, rest))
      (tail : Fills field next members last) :
      Fills field known ((key, value) :: members) last

theorem Fills.append {known next last : σ} {front back : List (String × List Char)}
    (first : Fills field known front next) (second : Fills field next back last) :
    Fills field known (front ++ back) last := by
  induction first with
  | done => exact second
  | member read _ ih => exact .member read (ih second)

/-- A loop that reads members as long as there are any. -/
structure MemberLoop (field : σ → String → Reader σ) (finish : σ → Reader α)
    (loop : Nat → Bool → σ → Reader α) : Prop where
  next : ∀ {rounds first known text key rest}, nextKey first text = .ok (some key, rest) →
    loop (rounds + 1) first known text =
      (field known key rest).bind fun result => loop rounds false result.1 result.2
  last : ∀ {rounds first known text rest}, nextKey first text = .ok (none, rest) →
    loop (rounds + 1) first known text = finish known rest

private theorem endsCount_listed (members : List (String × List Char)) (rest : List Char) :
    EndsCount (listed false (memberTexts members) ++ '}' :: rest) := by
  cases members with
  | nil => exact endsCount_brace rest
  | cons member members => exact endsCount_comma _

namespace MemberLoop

variable {finish : σ → Reader α} {loop : Nat → Bool → σ → Reader α}
  (reader : MemberLoop field finish loop) {known last : σ} {members : List (String × List Char)}
include reader

/-- A loop finishes with what the members have filled in. -/
theorem finishes (fills : Fills field known members last) {rounds : Nat}
    (enough : members.length < rounds) (first : Bool) (rest : List Char) :
    loop rounds first known (listed first (memberTexts members) ++ '}' :: rest) =
      finish last ('}' :: rest) := by
  induction fills generalizing first rounds with
  | done =>
      obtain ⟨rounds, rfl⟩ := Nat.exists_eq_add_of_lt enough
      exact reader.last (nextKey_end first rest)
  | @member known next last key value members read _ ih =>
      rw [List.length_cons] at enough
      obtain ⟨rounds, rfl⟩ : ∃ left, rounds = left + 1 := ⟨rounds - 1, by omega⟩
      rw [memberTexts, List.map_cons, listed, List.append_assoc,
        reader.next (nextKey_separated first key value _), ← memberTexts,
        read _ (endsCount_listed members rest)]
      exact ih (by omega) false

/-- A loop overflows at a member that does, when those before it are read. -/
theorem overflows (fills : Fills field known members last) {key : String} {value : List Char}
    (broken : ∀ rest, ∃ unread,
      field last key (':' :: (value ++ rest)) = .error (.placed .tooDeep unread))
    (later : List (String × List Char)) {rounds : Nat} (enough : members.length < rounds)
    (first : Bool) :
    Overflows (loop rounds first known)
      (listed first (memberTexts (members ++ (key, value) :: later)) ++ ['}']) := by
  intro rest
  rw [List.append_assoc, List.singleton_append]
  induction fills generalizing first rounds with
  | done =>
      obtain ⟨rounds, rfl⟩ := Nat.exists_eq_add_of_lt enough
      obtain ⟨unread, fault⟩ := broken (listed false (memberTexts later) ++ '}' :: rest)
      refine ⟨unread, ?_⟩
      rw [List.nil_append, memberTexts, List.map_cons, listed, List.append_assoc,
        reader.next (nextKey_separated first key value _)]
      exact congrArg (Except.bind · _) fault
  | @member known next last key' value' members read _ ih =>
      rw [List.length_cons] at enough
      obtain ⟨rounds, rfl⟩ : ∃ left, rounds = left + 1 := ⟨rounds - 1, by omega⟩
      rw [List.cons_append, memberTexts, List.map_cons, listed, List.append_assoc,
        reader.next (nextKey_separated first key' value' _), ← memberTexts,
        read _ (endsCount_listed _ rest)]
      exact ih broken (by omega) false

end MemberLoop

end Members

section Records

variable {α : Type} {name : String} {asList asObject : Reader α} {body : List Char}

/-- An object is read when its members are, up to the closing brace. -/
theorem reads_record {value : α}
    (reads : ∀ rest, asObject (body ++ '}' :: rest) = .ok (value, '}' :: rest)) :
    Reads (readRecord name true asList asObject) ('{' :: (body ++ ['}'])) value := by
  intro rest
  have opener : isBlank '{' = false := rfl
  have closer : isBlank '}' = false := rfl
  simp [readRecord, skipBlanks_cons opener, reads, closeObject, skipBlanks_cons closer, Except.map]

/-- An object overflows when its members do. -/
theorem overflows_record (overflows : Overflows asObject body) :
    Overflows (readRecord name true asList asObject) ('{' :: body) := by
  intro rest
  obtain ⟨unread, fault⟩ := overflows rest
  have opener : isBlank '{' = false := rfl
  exact ⟨unread, by simp [readRecord, skipBlanks_cons opener, fault, Fault.settle]⟩

/-- An object that may not be entered overflows. -/
theorem overflows_closedRecord (text : List Char) :
    Overflows (readRecord name false asList asObject) ('{' :: text) := by
  intro rest
  have opener : isBlank '{' = false := rfl
  exact ⟨_, by simp [readRecord, skipBlanks_cons opener, Fault.ahead]; rfl⟩

end Records

end DuplicateLogic.Json
