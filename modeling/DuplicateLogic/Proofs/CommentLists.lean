import DuplicateLogic.Proofs.SuppressedLines

/-! # Lists of rules in comments

A list is written as words with commas between them, and blanks around the commas. What is read
behind a marker is the longest list that stands there: a list that ends where no word goes on and
no comma with a word behind it follows cannot be made longer, and the words that are read are those
of such a list. -/

namespace DuplicateLogic

namespace Suppression

section Lists

variable {words words' : List (List Char)} {list text rest blanks word : List Char} {c : Char}

/-- How a list of words is written. -/
inductive ListForm : List (List Char) → List Char → Prop
  | one {word : List Char} (isWord : IsWord word) : ListForm [word] word
  | more {word blanks blanks' list : List Char} {words : List (List Char)} (isWord : IsWord word)
      (blank : IsBlank blanks) (blank' : IsBlank blanks') (later : ListForm words list) :
      ListForm (word :: words) (word ++ (blanks ++ ',' :: (blanks' ++ list)))

namespace ListForm

theorem ne_nil (form : ListForm words list) : words ≠ [] := by
  cases form <;> exact List.cons_ne_nil _ _

theorem isWord_of_mem (form : ListForm words list) {word : List Char} (known : word ∈ words) :
    IsWord word := by
  induction form with
  | one isWord => rwa [List.mem_singleton.mp known]
  | more isWord _ _ _ ih =>
      rcases List.mem_cons.mp known with rfl | later
      · exact isWord
      · exact ih later

/-- The last word of a list can be longer by a character. -/
theorem append_char (form : ListForm words list) (letter : isIdChar c = true) :
    ∃ words', ListForm words' (list ++ [c]) := by
  induction form with
  | @one word isWord =>
      refine ⟨_, .one ⟨by simp, ?_⟩⟩
      intro d known
      rcases List.mem_append.mp known with inside | last
      · exact isWord.chars d inside
      · rwa [List.mem_singleton.mp last]
  | more isWord blank blank' later ih =>
      obtain ⟨words', longer⟩ := ih
      have form := ListForm.more isWord blank blank' longer
      exact ⟨_, by simpa only [List.append_assoc, List.cons_append] using form⟩

/-- A list can be longer by a word behind a comma. -/
theorem append_word (form : ListForm words list) {blanks blanks' word : List Char}
    (blank : IsBlank blanks) (blank' : IsBlank blanks') (isWord : IsWord word) :
    ListForm (words ++ [word]) (list ++ (blanks ++ ',' :: (blanks' ++ word))) := by
  induction form with
  | one first => exact .more first blank blank' (.one isWord)
  | more first before behind later ih =>
      simpa only [List.append_assoc, List.cons_append] using ListForm.more first before behind ih

end ListForm

/-- Whether a list that is followed by a text could go on: with another character of its last word,
or with a comma and a word. -/
structure EndsList (rest : List Char) : Prop where
  word : EndsWord rest
  comma : ∀ blanks blanks' word further, IsBlank blanks → IsBlank blanks' → IsWord word →
    rest ≠ blanks ++ ',' :: (blanks' ++ (word ++ further))

/-- Whether the longest list at the start of a text has some words. -/
def LongestList (text : List Char) (words : List (List Char)) : Prop :=
  ∃ list rest, text = list ++ rest ∧ ListForm words list ∧
    ∀ words' list' rest', text = list' ++ rest' → ListForm words' list' →
      list'.length ≤ list.length

theorem exists_longestList (form : ListForm words list) (cut : text = list ++ rest) :
    ∃ words', LongestList text words' := by
  -- a list that is not the longest leaves more of the text over than a longer one
  induction remaining : rest.length using Nat.strong_induction_on generalizing words list rest with
  | _ length ih =>
      by_cases most : ∀ words' list' rest', text = list' ++ rest' → ListForm words' list' →
          list'.length ≤ list.length
      · exact ⟨words, list, rest, cut, form, most⟩
      · push Not at most
        obtain ⟨words', list', rest', cut', form', longer⟩ := most
        have total := congrArg List.length (cut.symm.trans cut')
        rw [List.length_append, List.length_append] at total
        exact ih rest'.length (by omega) form' cut' rfl

/-- What follows the longest list ends it. -/
theorem LongestList.endsList (longest : LongestList text words) :
    ∃ list rest, text = list ++ rest ∧ ListForm words list ∧ EndsList rest := by
  obtain ⟨list, rest, cut, form, most⟩ := longest
  refine ⟨list, rest, cut, form, ?_, ?_⟩
  · intro c head
    by_contra letter
    obtain ⟨tail, rfl⟩ := List.head?_eq_some_iff.mp (Option.mem_def.mp head)
    obtain ⟨words', longer⟩ := form.append_char (by simpa using letter)
    have shorter := most words' (list ++ [c]) tail (by simpa using cut) longer
    rw [List.length_append, List.length_singleton] at shorter
    omega
  · rintro blanks blanks' word further blank blank' isWord rfl
    have longer := form.append_word blank blank' isWord
    have shorter := most _ _ further (by simpa using cut) longer
    rw [List.length_append, List.length_append, List.length_cons] at shorter
    omega

theorem moreIds_of_endsList {fuel : Nat} (ends : EndsList rest) : moreIds fuel rest = [] := by
  by_cases comma : ∃ behind, rest.dropWhile Text.isSpace = ',' :: behind
  · obtain ⟨behind, skipped⟩ := comma
    obtain ⟨blanks', blank', parts, chars, -⟩ := readWord_spec behind
    have noWord : (readWord behind).1 = [] := by
      by_contra someWord
      apply ends.comma (rest.takeWhile Text.isSpace) blanks' _ _
        (fun c => List.mem_takeWhile_imp) blank' ⟨someWord, chars⟩
      rw [← parts, ← skipped, List.takeWhile_append_dropWhile]
    cases fuel with
    | zero => rfl
    | succ fuel =>
        rw [moreIds_of_comma skipped, noWord]
        rfl
  · exact moreIds_of_no_comma fun behind skipped => comma ⟨behind, skipped⟩

/-- The words that are read from a list that ends are its words. -/
theorem ListForm.read_append {fuel : Nat} (form : ListForm words list) (ends : EndsList rest)
    (blank : IsBlank blanks) (enough : (readWord (blanks ++ (list ++ rest))).2.length ≤ fuel) :
    (readWord (blanks ++ (list ++ rest))).1 ::
      moreIds fuel (readWord (blanks ++ (list ++ rest))).2 = words := by
  induction form generalizing blanks fuel with
  | one isWord => rw [readWord_append blank isWord ends.word, moreIds_of_endsList ends]
  | @more word before behind list words isWord blankBefore blankBehind later ih =>
      have cut : (word ++ (before ++ ',' :: (behind ++ list))) ++ rest =
          word ++ (before ++ ',' :: (behind ++ (list ++ rest))) := by simp
      rw [cut, readWord_append blank isWord (endsWord_of_comma blankBefore _)] at enough ⊢
      dsimp only at enough ⊢
      cases fuel with
      | zero => simp at enough
      | succ fuel =>
          have below : (readWord (behind ++ (list ++ rest))).2.length ≤ fuel := by
            have shorter := length_readWord_le (behind ++ (list ++ rest))
            rw [List.length_append, List.length_cons] at enough
            omega
          have read := ih blankBehind below
          have someWord : (readWord (behind ++ (list ++ rest))).1 ≠ [] :=
            (later.isWord_of_mem (read ▸ List.mem_cons_self)).ne_nil
          rw [moreIds_of_comma (dropWhile_blanks blankBefore (by decide) _),
            if_neg (by simpa using someWord), read]

/-- Whether the longest list behind a marker has some words: behind a colon and blanks. -/
def ListBehind (tail : List Char) (words : List (List Char)) : Prop :=
  ∃ blanks text, tail = ':' :: (blanks ++ text) ∧ IsBlank blanks ∧ LongestList text words

theorem ofTail_of_listBehind {tail : List Char} (behind : ListBehind tail words) :
    ofTail tail = rules (words.map String.ofList) := by
  obtain ⟨blanks, text, rfl, blank, longest⟩ := behind
  obtain ⟨list, rest, rfl, form, ends⟩ := longest.endsList
  have read := form.read_append ends blank (Nat.le_refl _)
  have someWord : (readWord (blanks ++ (list ++ rest))).1 ≠ [] :=
    (form.isWord_of_mem (read ▸ List.mem_cons_self)).ne_nil
  rw [ofTail_of_colon, if_neg (by simpa using someWord), read]

/-- Everything is silenced when no list stands behind the marker. -/
theorem ofTail_eq_all_iff {tail : List Char} : ofTail tail = all ↔ ¬HasList tail := by
  by_cases colon : ∃ text, tail = ':' :: text
  · obtain ⟨text, rfl⟩ := colon
    rw [ofTail_of_colon, hasList_iff]
    by_cases none : (readWord text).1 = [] <;> simp [none]
  · have other : ∀ text, tail ≠ ':' :: text := fun text same => colon ⟨text, same⟩
    refine iff_of_true (ofTail_of_no_colon other) ?_
    rintro ⟨blanks, word, rest, same, -⟩
    exact other _ same

/-- Otherwise the words of the longest list are silenced. -/
theorem ofTail_eq_rules_iff {tail : List Char} {ids : List String} :
    ofTail tail = rules ids ↔ ∃ words, ListBehind tail words ∧ ids = words.map String.ofList := by
  constructor
  · intro read
    have hasList : HasList tail := by
      by_contra none
      rw [ofTail_eq_all_iff.mpr none] at read
      cases read
    obtain ⟨blanks, word, rest, rfl, blank, isWord⟩ := hasList
    obtain ⟨words, longest⟩ := exists_longestList (.one isWord) (Eq.refl (word ++ rest))
    have behind : ListBehind (':' :: (blanks ++ (word ++ rest))) words :=
      ⟨blanks, _, rfl, blank, longest⟩
    rw [ofTail_of_listBehind behind] at read
    exact ⟨words, behind, (rules.inj read).symm⟩
  · rintro ⟨words, behind, rfl⟩
    exact ofTail_of_listBehind behind

/-- At least one rule is silenced then, and every rule is a word. -/
theorem isWord_of_ofTail {tail : List Char} {ids : List String} (read : ofTail tail = rules ids) :
    ids ≠ [] ∧ ∀ id ∈ ids, IsWord id.toList := by
  obtain ⟨words, ⟨blanks, text, -, -, longest⟩, rfl⟩ := ofTail_eq_rules_iff.mp read
  obtain ⟨list, rest, -, form, -⟩ := longest
  refine ⟨by simpa using form.ne_nil, ?_⟩
  intro id known
  obtain ⟨word, inWords, rfl⟩ := List.mem_map.mp known
  rw [String.toList_ofList]
  exact form.isWord_of_mem inWords

end Lists

section Lines

private theorem newline_notMem_marker : '\n' ∉ marker := by
  decide

private theorem toList_append_marker (front back : String) :
    (front ++ "dupscan-ignore" ++ back).toList = front.toList ++ (marker ++ back.toList) := by
  rw [String.toList_append, String.toList_append, List.append_assoc]
  rfl

/-- A marker in the source is on the line that its front leads to. -/
theorem exists_ofLine?_of_marker (front back : List Char) :
    ∃ line entry, (Text.splitOn '\n' (front ++ (marker ++ back)))[front.count '\n']? = some line ∧
      ofLine? line = some entry := by
  have line := @Text.getElem?_splitOn_append '\n' front (marker ++ back)
  have whole : Text.partAround '\n' front (marker ++ back) =
      front.rtakeWhile (· ≠ '\n') ++ marker ++ back.takeWhile (· ≠ '\n') := by
    rw [Text.partAround, List.takeWhile_append_of_pos, List.append_assoc]
    intro c known
    simpa using ne_of_mem_of_not_mem known newline_notMem_marker
  obtain ⟨tail, found⟩ := Option.isSome_iff_exists.mp
    (isSome_afterMarker?_append (front.rtakeWhile (· ≠ '\n')) (back.takeWhile (· ≠ '\n')))
  refine ⟨_, ofTail tail, line, ?_⟩
  rw [whole, ofLine?, found, Option.map_some]

/-- A line that silences something has a marker, which stands in the source behind as many newlines
as the number of the line says. -/
theorem exists_marker_of_ofLine? {source line : List Char} {index : Nat} {entry : Suppression}
    (here : (Text.splitOn '\n' source)[index]? = some line) (read : ofLine? line = some entry) :
    ∃ front back, source = front ++ (marker ++ back) ∧ front.count '\n' = index := by
  obtain ⟨tail, found, -⟩ := Option.map_eq_some_iff.mp read
  obtain ⟨before, first⟩ := afterMarker?_eq_some found
  obtain ⟨front, back, cut, counted, free⟩ := Text.exists_of_getElem?_splitOn here
  rw [first.parts] at cut free
  have plain : '\n' ∉ before := fun known => free (by simp [known])
  refine ⟨front ++ before, tail ++ back, by simpa using cut, ?_⟩
  rw [List.count_append, counted, List.count_eq_zero_of_not_mem plain, Nat.add_zero]

/-- What is silenced on a line with a number is read from the part of the source with this number. -/
theorem exists_line_of_lookup {source : String} {number : Nat} {entry : Suppression}
    (found : (lines source).lookup number = some entry) :
    1 ≤ number ∧ ∃ line, (Text.splitOn '\n' source.toList)[number - 1]? = some line ∧
      ofLine? line = some entry := by
  cases number with
  | zero =>
      rw [lookup_lines_zero] at found
      cases found
  | succ index =>
      have counted : 1 ≤ index + 1 := Nat.le_add_left 1 index
      rw [lookup_lines counted] at found
      exact ⟨counted, Option.bind_eq_some_iff.mp found⟩

/-- Something is silenced on the lines to which a front of the source leads that is followed by a
marker. -/
theorem exists_lookup_lines_iff {source : String} {number : Nat} :
    (∃ entry, (lines source).lookup number = some entry) ↔
      ∃ front back, source = front ++ "dupscan-ignore" ++ back ∧
        number = (Position.advance ⟨1, 0⟩ front).line := by
  constructor
  · rintro ⟨entry, found⟩
    obtain ⟨counted, line, here, read⟩ := exists_line_of_lookup found
    obtain ⟨front, back, cut, index⟩ := exists_marker_of_ofLine? here read
    refine ⟨String.ofList front, String.ofList back, ?_, ?_⟩
    · apply String.toList_inj.mp
      rw [toList_append_marker, String.toList_ofList, String.toList_ofList, cut]
    · rw [Position.line_advance, String.toList_ofList, index]
      exact (Nat.add_sub_of_le counted).symm
  · rintro ⟨front, back, rfl, rfl⟩
    obtain ⟨line, entry, here, read⟩ := exists_ofLine?_of_marker front.toList back.toList
    refine ⟨entry, ?_⟩
    rw [Position.line_advance, lookup_lines (Nat.le_add_right 1 _), toList_append_marker,
      Nat.add_sub_cancel_left, here, Option.bind_some, read]

end Lines

/-- The lines with a marker silence something: those to which a front of the source leads that is
followed by a marker. What such a line silences is told by what stands behind its first marker. It
is everything when there is no colon with a word behind it, blanks apart. Otherwise it is the words
of the longest list behind the colon, of which there is one at least, and no word is empty or has
another character than those of identifiers. So a rule is silenced on a line when the line silences
everything or the list has the rule in it. -/
theorem lines_grammar (source : String) :
    (∀ number, (∃ entry, (lines source).lookup number = some entry) ↔
      ∃ front back, source = front ++ "dupscan-ignore" ++ back ∧
        number = (Position.advance ⟨1, 0⟩ front).line) ∧
    (∀ number entry, (lines source).lookup number = some entry →
      ∃ line before tail, (Text.splitOn '\n' source.toList)[number - 1]? = some line ∧
        FirstMarker line before tail ∧
        (entry = all ↔ ¬HasList tail) ∧
        (∀ ids, entry = rules ids ↔
          ∃ words, ListBehind tail words ∧ ids = words.map String.ofList) ∧
        ∀ ids, entry = rules ids →
          ids ≠ [] ∧ ∀ id ∈ ids, id ≠ "" ∧ ∀ c ∈ id.toList, isIdChar c = true) ∧
    ∀ number rule, isSuppressed (lines source) number rule = true ↔
      (lines source).lookup number = some all ∨
        ∃ ids, (lines source).lookup number = some (rules ids) ∧ rule ∈ ids := by
  refine ⟨fun number => exists_lookup_lines_iff, ?_, ?_⟩
  · intro number entry found
    obtain ⟨-, line, here, read⟩ := exists_line_of_lookup found
    obtain ⟨tail, behind, rfl⟩ := Option.map_eq_some_iff.mp read
    obtain ⟨before, first⟩ := afterMarker?_eq_some behind
    refine ⟨line, before, tail, here, first, ofTail_eq_all_iff, fun ids => ofTail_eq_rules_iff, ?_⟩
    intro ids listed
    obtain ⟨someId, isWord⟩ := isWord_of_ofTail listed
    refine ⟨someId, fun id known => ⟨?_, (isWord id known).chars⟩⟩
    rintro rfl
    exact (isWord "" known).ne_nil rfl
  · intro number rule
    rw [isSuppressed]
    cases (lines source).lookup number with
    | none => simp
    | some entry => cases entry <;> simp [covers]

section OpenLists

/-- A list that ends with a comma, and one that starts with a comma. -/
def openLists : String :=
  "f(); // dupscan-ignore: a-1 ,b_2 ,\r\ng(); // dupscan-ignore: ,c"

/-- The comma at the end is not part of the list, and the comma at the start makes it none. -/
theorem lines_grammar_openLists :
    (∃ line before tail, (Text.splitOn '\n' openLists.toList)[0]? = some line ∧
      FirstMarker line before tail ∧ ListBehind tail ["a-1".toList, "b_2".toList]) ∧
    (∃ line before tail, (Text.splitOn '\n' openLists.toList)[1]? = some line ∧
      FirstMarker line before tail ∧ ¬HasList tail) ∧
    ∃ front back, openLists = front ++ "dupscan-ignore" ++ back ∧
      2 = (Position.advance ⟨1, 0⟩ front).line := by
  have listed : (lines openLists).lookup 1 = some (rules ["a-1", "b_2"]) := by decide +kernel
  have whole : (lines openLists).lookup 2 = some all := by decide +kernel
  obtain ⟨keys, entries, -⟩ := lines_grammar openLists
  refine ⟨?_, ?_, (keys 2).mp ⟨all, whole⟩⟩
  · obtain ⟨line, before, tail, here, first, -, longest, -⟩ := entries 1 _ listed
    obtain ⟨words, behind, same⟩ := (longest _).mp rfl
    have words_eq : words = ["a-1".toList, "b_2".toList] := by
      have injective : Function.Injective String.ofList := fun _ _ => String.ofList_injective
      exact List.map_injective_iff.mpr injective same.symm
    exact ⟨line, before, tail, here, first, words_eq ▸ behind⟩
  · obtain ⟨line, before, tail, here, first, everything, -⟩ := entries 2 _ whole
    exact ⟨line, before, tail, here, first, everything.mp rfl⟩

end OpenLists

end Suppression

end DuplicateLogic
