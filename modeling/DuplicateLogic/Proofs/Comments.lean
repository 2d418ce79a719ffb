import DuplicateLogic.Suppression
import Mathlib.Data.List.TakeDrop
import Mathlib.Data.List.TakeWhile

/-! # What a comment silences

The first marker of a line counts. Behind it can stand a list: a colon and words with commas
between them, each with blanks around it. A line with a list silences the rules in the list, a
line without one silences all rules. A return at the end of the line changes nothing. -/

namespace DuplicateLogic

namespace Text

theorem dropWord?_eq_some_iff {word text tail : List Char} :
    dropWord? word text = some tail ↔ text = word ++ tail := by
  induction word generalizing text with
  | nil => simp [dropWord?]
  | cons letter word ih =>
      cases text with
      | nil => simp [dropWord?]
      | cons c text =>
          simp only [dropWord?, Option.ite_none_right_eq_some, ih, List.cons_append,
            List.cons.injEq]

end Text

namespace Suppression

section Marker

/-- Whether a line is cut around its first marker. -/
structure FirstMarker (line before tail : List Char) : Prop where
  parts : line = before ++ marker ++ tail
  first : ∀ earlier rest, line = earlier ++ marker ++ rest → before.length ≤ earlier.length

theorem FirstMarker.tail_eq {line before before' tail tail' : List Char}
    (one : FirstMarker line before tail) (other : FirstMarker line before' tail') :
    tail = tail' := by
  have sameLength : before.length = before'.length :=
    Nat.le_antisymm (one.first before' tail' other.parts) (other.first before tail one.parts)
  have same := one.parts.symm.trans other.parts
  rw [List.append_assoc, List.append_assoc] at same
  exact List.append_cancel_left (List.append_inj_right same sameLength)

theorem afterMarker?_eq_some {line tail : List Char} (found : afterMarker? line = some tail) :
    ∃ before, FirstMarker line before tail := by
  induction line with
  | nil => cases found
  | cons c rest ih =>
      rw [afterMarker?] at found
      split at found
      next here =>
        obtain rfl := Option.some.inj found
        exact ⟨[], Text.dropWord?_eq_some_iff.mp here, fun _ _ _ => Nat.zero_le _⟩
      next missing =>
        obtain ⟨before, parts, first⟩ := ih found
        refine ⟨c :: before, by rw [parts]; rfl, ?_⟩
        intro earlier rest' same
        cases earlier with
        | nil => cases missing.symm.trans (Text.dropWord?_eq_some_iff.mpr same)
        | cons d earlier =>
            have below := first earlier rest' (List.cons.inj same).2
            exact Nat.succ_le_succ below

theorem isSome_afterMarker?_append (before tail : List Char) :
    (afterMarker? (before ++ marker ++ tail)).isSome = true := by
  induction before with
  | nil => rfl
  | cons c before ih =>
      rw [List.cons_append, List.cons_append, afterMarker?]
      split
      · rfl
      · exact ih

/-- What follows the first marker of a line is found, and nothing when there is no marker. -/
theorem afterMarker?_eq_some_iff {line tail : List Char} :
    afterMarker? line = some tail ↔ ∃ before, FirstMarker line before tail := by
  constructor
  · exact afterMarker?_eq_some
  · rintro ⟨before, here⟩
    obtain ⟨tail', found⟩ := Option.isSome_iff_exists.mp (isSome_afterMarker?_append before tail)
    rw [← here.parts] at found
    obtain ⟨before', other⟩ := afterMarker?_eq_some found
    rw [found, here.tail_eq other]

end Marker

section Words

variable {text blanks word rest rule : List Char} {c : Char}

/-- Whether a text consists of blanks. -/
def IsBlank (text : List Char) : Prop :=
  ∀ c ∈ text, Text.isSpace c = true

/-- Whether a text consists of characters of identifiers, of at least one. -/
structure IsWord (text : List Char) : Prop where
  ne_nil : text ≠ []
  chars : ∀ c ∈ text, isIdChar c = true

/-- Whether no identifier goes on with a text. -/
def EndsWord (text : List Char) : Prop :=
  ∀ c ∈ text.head?, isIdChar c = false

/-- Whether a text starts with a list of words that has a rule in it: the rule is the first word,
or the first word is followed by a comma and the list behind the comma has the rule in it. -/
inductive Names (rule : List Char) : List Char → Prop
  | here {blanks rest : List Char} (blank : IsBlank blanks) (word : IsWord rule)
      (ends : EndsWord rest) : Names rule (blanks ++ (rule ++ rest))
  | further {blanks first blanks' rest : List Char} (blank : IsBlank blanks)
      (word : IsWord first) (blank' : IsBlank blanks') (later : Names rule rest) :
      Names rule (blanks ++ (first ++ (blanks' ++ ',' :: rest)))

/-- The first word behind blanks, and what follows it. -/
def readWord (text : List Char) : List Char × List Char :=
  (text.dropWhile Text.isSpace).span isIdChar

theorem not_isSpace_of_isIdChar (known : isIdChar c = true) : Text.isSpace c = false := by
  have range : (65 ≤ c.toNat ∧ c.toNat ≤ 90) ∨ (97 ≤ c.toNat ∧ c.toNat ≤ 122) ∨
      (48 ≤ c.toNat ∧ c.toNat ≤ 57) ∨ c.toNat = 95 ∨ c.toNat = 45 := by
    simp only [isIdChar, Bool.or_eq_true, Bool.and_eq_true, decide_eq_true_eq] at known
    rcases known with (((⟨low, high⟩ | ⟨low, high⟩) | ⟨low, high⟩) | rfl) | rfl
    · exact Or.inl ⟨low, high⟩
    · exact Or.inr (Or.inl ⟨low, high⟩)
    · exact Or.inr (Or.inr (Or.inl ⟨low, high⟩))
    · decide
    · decide
  simp only [Text.isSpace, Bool.or_eq_false_iff, Bool.and_eq_false_iff, decide_eq_false_iff_not]
  omega

theorem dropWhile_blanks (blank : IsBlank blanks) (solid : Text.isSpace c = false)
    (rest : List Char) : (blanks ++ c :: rest).dropWhile Text.isSpace = c :: rest := by
  rw [List.dropWhile_append_of_pos blank, List.dropWhile_cons_of_neg (by simp [solid])]

/-- The word that is read is as long as it can be. -/
theorem readWord_append (blank : IsBlank blanks) (isWord : IsWord word) (ends : EndsWord rest) :
    readWord (blanks ++ (word ++ rest)) = (word, rest) := by
  have solid : (blanks ++ (word ++ rest)).dropWhile Text.isSpace = word ++ rest := by
    cases word with
    | nil => exact absurd rfl isWord.ne_nil
    | cons c word =>
        exact dropWhile_blanks blank
          (not_isSpace_of_isIdChar (isWord.chars c List.mem_cons_self)) _
  have stop : rest.takeWhile isIdChar = [] ∧ rest.dropWhile isIdChar = rest := by
    cases rest with
    | nil => exact ⟨rfl, rfl⟩
    | cons c rest => simp [ends c rfl]
  rw [readWord, solid, List.span_eq_takeWhile_dropWhile,
    List.takeWhile_append_of_pos isWord.chars, List.dropWhile_append_of_pos isWord.chars,
    stop.1, stop.2, List.append_nil]

/-- A text is the word that is read with blanks before it and the rest behind it. -/
theorem readWord_spec (text : List Char) :
    ∃ blanks, IsBlank blanks ∧ text = blanks ++ ((readWord text).1 ++ (readWord text).2) ∧
      (∀ c ∈ (readWord text).1, isIdChar c = true) ∧ EndsWord (readWord text).2 := by
  refine ⟨text.takeWhile Text.isSpace, fun c => List.mem_takeWhile_imp, ?_, ?_, ?_⟩
  · rw [readWord, List.span_eq_takeWhile_dropWhile, List.takeWhile_append_dropWhile,
      List.takeWhile_append_dropWhile]
  · rw [readWord, List.span_eq_takeWhile_dropWhile]
    exact fun c => List.mem_takeWhile_imp
  · rw [readWord, List.span_eq_takeWhile_dropWhile]
    intro c head
    have stops := List.head?_dropWhile_not isIdChar (text.dropWhile Text.isSpace)
    rw [Option.mem_def.mp head] at stops
    exact Bool.eq_false_iff.mpr (by simpa using stops)

/-- Whether a list goes on after a word: with a comma and a list that has the rule in it. -/
def Continues (rule text : List Char) : Prop :=
  ∃ blanks rest, text = blanks ++ ',' :: rest ∧ IsBlank blanks ∧ Names rule rest

theorem endsWord_of_comma (blank : IsBlank blanks) (rest : List Char) :
    EndsWord (blanks ++ ',' :: rest) := by
  intro c head
  cases blanks with
  | nil =>
      obtain rfl : ',' = c := Option.some.inj head
      decide
  | cons d blanks =>
      obtain rfl : d = c := Option.some.inj head
      rw [Bool.eq_false_iff]
      intro known
      have space := blank d List.mem_cons_self
      rw [not_isSpace_of_isIdChar known] at space
      cases space

/-- A list has a rule in it when the rule is the first word or comes later. -/
theorem names_iff :
    Names rule text ↔
      (readWord text).1 ≠ [] ∧
        (rule = (readWord text).1 ∨ Continues rule (readWord text).2) := by
  constructor
  · intro names
    cases names with
    | here blank word ends =>
        rw [readWord_append blank word ends]
        exact ⟨word.ne_nil, Or.inl rfl⟩
    | further blank word blank' later =>
        rw [readWord_append blank word (endsWord_of_comma blank' _)]
        exact ⟨word.ne_nil, Or.inr ⟨_, _, rfl, blank', later⟩⟩
  · rintro ⟨someWord, known⟩
    obtain ⟨blanks, blank, parts, chars, ends⟩ := readWord_spec text
    rw [parts]
    rcases known with same | ⟨blanks', rest, onward, blank', later⟩
    · rw [← same] at someWord chars ⊢
      exact .here blank ⟨someWord, chars⟩ ends
    · rw [onward]
      exact .further blank ⟨someWord, chars⟩ blank' later

theorem continues_iff :
    Continues rule text ↔
      ∃ rest, text.dropWhile Text.isSpace = ',' :: rest ∧ Names rule rest := by
  constructor
  · rintro ⟨blanks, rest, rfl, blank, names⟩
    exact ⟨rest, dropWhile_blanks blank (by decide) rest, names⟩
  · rintro ⟨rest, skipped, names⟩
    refine ⟨text.takeWhile Text.isSpace, rest, ?_, fun c => List.mem_takeWhile_imp, names⟩
    rw [← skipped, List.takeWhile_append_dropWhile]

theorem length_readWord_le (text : List Char) : (readWord text).2.length ≤ text.length := by
  rw [readWord, List.span_eq_takeWhile_dropWhile]
  exact ((List.dropWhile_sublist _).trans (List.dropWhile_sublist _)).length_le

theorem length_lt_of_dropWhile (skipped : text.dropWhile Text.isSpace = c :: rest) :
    rest.length < text.length := by
  have atMost := (List.dropWhile_sublist Text.isSpace (l := text)).length_le
  rwa [skipped] at atMost

theorem moreIds_of_comma {fuel : Nat} (skipped : text.dropWhile Text.isSpace = ',' :: rest) :
    moreIds (fuel + 1) text =
      if (readWord rest).1.isEmpty then []
      else (readWord rest).1 :: moreIds fuel (readWord rest).2 := by
  rw [moreIds, skipped]
  rfl

theorem moreIds_of_no_comma {fuel : Nat}
    (other : ∀ rest, text.dropWhile Text.isSpace ≠ ',' :: rest) : moreIds fuel text = [] := by
  cases fuel with
  | zero => rfl
  | succ fuel =>
      rw [moreIds]
      split
      next rest skipped => exact absurd skipped (other rest)
      · rfl

/-- The identifiers that are read after the first are those with which the list goes on. -/
theorem mem_moreIds_iff {fuel : Nat} (enough : text.length ≤ fuel) :
    rule ∈ moreIds fuel text ↔ Continues rule text := by
  induction fuel generalizing text with
  | zero =>
      obtain rfl := List.eq_nil_of_length_eq_zero (Nat.le_zero.mp enough)
      simp [moreIds, continues_iff]
  | succ fuel ih =>
      rw [continues_iff]
      by_cases comma : ∃ rest, text.dropWhile Text.isSpace = ',' :: rest
      · obtain ⟨rest, skipped⟩ := comma
        have shorter := length_lt_of_dropWhile skipped
        have below : (readWord rest).2.length ≤ fuel :=
          (length_readWord_le rest).trans (Nat.le_of_lt_succ (shorter.trans_le enough))
        rw [moreIds_of_comma skipped, skipped]
        by_cases none : (readWord rest).1 = []
        · simp [none, names_iff]
        · simp [none, names_iff, ih below]
      · have other : ∀ rest, text.dropWhile Text.isSpace ≠ ',' :: rest :=
          fun rest skipped => comma ⟨rest, skipped⟩
        rw [moreIds_of_no_comma other]
        simp [other]

/-- Whether a list stands behind a marker: a colon and a word, with blanks between. -/
def HasList (tail : List Char) : Prop :=
  ∃ blanks word rest, tail = ':' :: (blanks ++ (word ++ rest)) ∧ IsBlank blanks ∧ IsWord word

theorem hasList_iff : HasList (':' :: text) ↔ (readWord text).1 ≠ [] := by
  constructor
  · rintro ⟨blanks, word, rest, same, blank, isWord⟩
    obtain rfl := (List.cons.inj same).2
    cases word with
    | nil => exact absurd rfl isWord.ne_nil
    | cons c word =>
        have letter := isWord.chars c List.mem_cons_self
        rw [readWord, List.cons_append, dropWhile_blanks blank (not_isSpace_of_isIdChar letter),
          List.span_eq_takeWhile_dropWhile, List.takeWhile_cons_of_pos letter]
        exact List.cons_ne_nil _ _
  · intro someWord
    obtain ⟨blanks, blank, parts, chars, -⟩ := readWord_spec text
    exact ⟨blanks, _, _, congrArg (':' :: ·) parts, blank, someWord, chars⟩

theorem ofTail_of_colon (list : List Char) :
    ofTail (':' :: list) =
      if (readWord list).1.isEmpty then all
      else rules (((readWord list).1 ::
        moreIds (readWord list).2.length (readWord list).2).map String.ofList) := rfl

theorem ofTail_of_no_colon {tail : List Char} (other : ∀ list, tail ≠ ':' :: list) :
    ofTail tail = all := by
  unfold ofTail
  split
  next list => exact absurd rfl (other list)
  · rfl

/-- What stands behind a marker covers a rule when it is no list or a list with the rule in it. -/
theorem covers_ofTail_iff {tail : List Char} {rule : String} :
    (ofTail tail).covers rule = true ↔
      ¬HasList tail ∨ ∃ list, tail = ':' :: list ∧ Names rule.toList list := by
  by_cases colon : ∃ list, tail = ':' :: list
  · obtain ⟨list, rfl⟩ := colon
    rw [ofTail_of_colon, hasList_iff]
    by_cases none : (readWord list).1 = []
    · simp [none, covers]
    · have listed (words : List (List Char)) :
          rule ∈ words.map String.ofList ↔ rule.toList ∈ words := by
        rw [List.mem_map]
        constructor
        · rintro ⟨word, known, rfl⟩
          rwa [String.toList_ofList]
        · intro known
          exact ⟨rule.toList, known, String.ofList_toList⟩
      have later : rule.toList ∈ moreIds (readWord list).2.length (readWord list).2 ↔
          Continues rule.toList (readWord list).2 := mem_moreIds_iff (Nat.le_refl _)
      rw [if_neg (by simpa using none), covers, List.contains_iff_mem, listed, List.mem_cons, later]
      simp [none, names_iff]
  · have other : ∀ list, tail ≠ ':' :: list := fun list same => colon ⟨list, same⟩
    have noList : ¬HasList tail := by
      rintro ⟨blanks, word, rest, same, -⟩
      exact other _ same
    rw [ofTail_of_no_colon other]
    exact iff_of_true rfl (Or.inl noList)

end Words

/-- Whether a line silences a rule: it has a marker, and behind its first marker stands no list or
a list with the rule in it. -/
def Silences (line : List Char) (rule : String) : Prop :=
  ∃ before tail, FirstMarker line before tail ∧
    (¬HasList tail ∨ ∃ list, tail = ':' :: list ∧ Names rule.toList list)

theorem silences_iff {line : List Char} {rule : String} :
    Silences line rule ↔
      ∃ suppression, ofLine? line = some suppression ∧ suppression.covers rule = true := by
  constructor
  · rintro ⟨before, tail, here, covered⟩
    refine ⟨ofTail tail, ?_, covers_ofTail_iff.mpr covered⟩
    rw [ofLine?, afterMarker?_eq_some_iff.mpr ⟨before, here⟩, Option.map_some]
  · rintro ⟨suppression, read, covered⟩
    obtain ⟨tail, found, rfl⟩ := Option.map_eq_some_iff.mp read
    obtain ⟨before, here⟩ := afterMarker?_eq_some_iff.mp found
    exact ⟨before, tail, here, covers_ofTail_iff.mp covered⟩

section Returns

/-! A return is a blank, and no part of a marker or of an identifier. -/

private theorem dropWord?_return {word : List Char} (none : '\r' ∉ word) (text : List Char) :
    Text.dropWord? word (text ++ ['\r']) = (Text.dropWord? word text).map (· ++ ['\r']) := by
  induction word generalizing text with
  | nil => rfl
  | cons letter word ih =>
      rw [List.mem_cons, not_or] at none
      cases text with
      | nil => simp [Text.dropWord?, none.1]
      | cons c text =>
          rw [List.cons_append, Text.dropWord?, Text.dropWord?, ih none.2]
          split
          · rfl
          · rfl

private theorem afterMarker?_return (line : List Char) :
    afterMarker? (line ++ ['\r']) = (afterMarker? line).map (· ++ ['\r']) := by
  induction line with
  | nil => decide
  | cons c rest ih =>
      rw [List.cons_append, afterMarker?, afterMarker?, ← List.cons_append,
        dropWord?_return (by decide)]
      cases Text.dropWord? marker (c :: rest) with
      | none => exact ih
      | some tail => rfl

private theorem dropBlanks_return (text : List Char) :
    (text ++ ['\r']).dropWhile Text.isSpace =
      if (text.dropWhile Text.isSpace).isEmpty then []
      else text.dropWhile Text.isSpace ++ ['\r'] := by
  rw [List.dropWhile_append]
  rfl

private theorem span_return (text : List Char) :
    (text ++ ['\r']).span isIdChar =
      ((text.span isIdChar).1, (text.span isIdChar).2 ++ ['\r']) := by
  have stops : isIdChar '\r' = false := by decide
  rw [List.span_eq_takeWhile_dropWhile, List.span_eq_takeWhile_dropWhile]
  induction text with
  | nil => simp [stops]
  | cons c rest ih =>
      have ⟨taken, dropped⟩ := Prod.mk.inj ih
      rw [List.cons_append, List.takeWhile_cons, List.dropWhile_cons, taken, dropped]
      cases known : isIdChar c with
      | true => simp [known]
      | false => simp [known]

/-- The same word is read, and the return stays behind it; there is no word when the text is
blank. -/
private theorem readWord_return (text : List Char) :
    ((readWord text).1 = [] ∧ (readWord (text ++ ['\r'])).1 = []) ∨
      readWord (text ++ ['\r']) = ((readWord text).1, (readWord text).2 ++ ['\r']) := by
  rw [readWord, readWord, dropBlanks_return]
  by_cases blank : text.dropWhile Text.isSpace = []
  · rw [blank]
    exact Or.inl ⟨rfl, rfl⟩
  · rw [if_neg (by simpa using blank)]
    exact Or.inr (span_return _)

private theorem moreIds_return {fuel fuel' : Nat} {text : List Char}
    (enough : text.length ≤ fuel) (enough' : text.length < fuel') :
    moreIds fuel' (text ++ ['\r']) = moreIds fuel text := by
  induction fuel generalizing fuel' text with
  | zero =>
      obtain rfl := List.eq_nil_of_length_eq_zero (Nat.le_zero.mp enough)
      cases fuel' with
      | zero => rfl
      | succ fuel' => rfl
  | succ fuel ih =>
      obtain ⟨fuel', rfl⟩ := Nat.exists_eq_succ_of_ne_zero (Nat.ne_zero_of_lt enough')
      by_cases comma : ∃ rest, text.dropWhile Text.isSpace = ',' :: rest
      · obtain ⟨rest, skipped⟩ := comma
        have below : (readWord rest).2.length < text.length :=
          (length_readWord_le rest).trans_lt (length_lt_of_dropWhile skipped)
        have skipped' : (text ++ ['\r']).dropWhile Text.isSpace = ',' :: (rest ++ ['\r']) := by
          rw [dropBlanks_return, skipped]
          rfl
        rw [moreIds_of_comma skipped, moreIds_of_comma skipped']
        rcases readWord_return rest with ⟨none, none'⟩ | read
        · rw [none, none']
          rfl
        · rw [read, ih (Nat.le_of_lt_succ (below.trans_le enough))
            (below.trans_le (Nat.le_of_lt_succ enough'))]
      · have other : ∀ rest, text.dropWhile Text.isSpace ≠ ',' :: rest :=
          fun rest skipped => comma ⟨rest, skipped⟩
        have other' : ∀ rest, (text ++ ['\r']).dropWhile Text.isSpace ≠ ',' :: rest := by
          intro rest
          rw [dropBlanks_return]
          cases skipped : text.dropWhile Text.isSpace with
          | nil => simp
          | cons c front =>
              rintro same
              obtain ⟨rfl, -⟩ := List.cons.inj same
              exact other front skipped
        rw [moreIds_of_no_comma other, moreIds_of_no_comma other']

private theorem ofTail_return (tail : List Char) : ofTail (tail ++ ['\r']) = ofTail tail := by
  by_cases colon : ∃ list, tail = ':' :: list
  · obtain ⟨list, rfl⟩ := colon
    rw [List.cons_append, ofTail_of_colon, ofTail_of_colon]
    rcases readWord_return list with ⟨none, none'⟩ | read
    · rw [none, none']
      rfl
    · rw [read, List.length_append, List.length_singleton,
        moreIds_return (Nat.le_refl _) (Nat.lt_succ_self _)]
  · have other : ∀ list, tail ≠ ':' :: list := fun list same => colon ⟨list, same⟩
    have other' : ∀ list, tail ++ ['\r'] ≠ ':' :: list := by
      intro list same
      cases tail with
      | nil => cases same
      | cons c rest => exact other rest (congrArg (· :: rest) (List.cons.inj same).1)
    rw [ofTail_of_no_colon other, ofTail_of_no_colon other']

/-- A return at the end of a line changes nothing in what the line silences. -/
theorem ofLine?_dropReturn (line : List Char) : ofLine? (Text.dropReturn line) = ofLine? line := by
  unfold Text.dropReturn
  split
  next ends =>
    obtain ⟨front, rfl⟩ := List.getLast?_eq_some_iff.mp ends
    rw [List.dropLast_concat, ofLine?, ofLine?, afterMarker?_return]
    cases afterMarker? front with
    | none => rfl
    | some tail => exact congrArg some (ofTail_return tail).symm
  · rfl

end Returns

end Suppression

end DuplicateLogic
