import DuplicateLogic.Proofs.JsonForms

/-! # Reading back written tokens

Strings are read in each of their forms, and counts as decimal digits; so both are read as the
printer writes them. A string ends with its quote, so anything may follow it; a count ends where
no digit, point or exponent follows. -/

namespace DuplicateLogic.Json

theorem skipBlanks_cons {c : Char} (solid : isBlank c = false) (rest : List Char) :
    skipBlanks (c :: rest) = c :: rest :=
  List.dropWhile_cons_of_neg (by simp [solid])

section Strings

/-- A hexadecimal digit is read as its value. -/
theorem hexDigit?_of_hexDigit {value : Nat} {c : Char} (digit : HexDigit value c) :
    hexDigit? c = some value := by
  obtain ⟨small, rfl | rfl⟩ := digit
  · revert value
    decide
  · revert value
    decide

theorem hexUnit?_of_unitForm {unit : Nat} {text : List Char} (form : UnitForm unit text) :
    ∃ a b c d, text = [a, b, c, d] ∧ hexUnit? a b c d = some unit := by
  obtain ⟨a, b, c, d, rfl, first, second, third, fourth⟩ := form
  have small := first.1
  refine ⟨a, b, c, d, rfl, ?_⟩
  simp only [hexUnit?, hexDigit?_of_hexDigit first, hexDigit?_of_hexDigit second,
    hexDigit?_of_hexDigit third, hexDigit?_of_hexDigit fourth, Option.bind_eq_bind,
    Option.bind_some, Option.pure_def, Option.some.injEq]
  omega

theorem simpleEscape?_of_mem {c letter : Char} (known : (c, letter) ∈ escapeLetters) :
    simpleEscape? letter = some c := by
  simp only [escapeLetters, List.mem_cons, Prod.mk.injEq, List.not_mem_nil, or_false] at known
  rcases known with ⟨rfl, rfl⟩ | ⟨rfl, rfl⟩ | ⟨rfl, rfl⟩ | ⟨rfl, rfl⟩ | ⟨rfl, rfl⟩ |
    ⟨rfl, rfl⟩ | ⟨rfl, rfl⟩ | ⟨rfl, rfl⟩ <;> rfl

/-- No character has the code of half a surrogate pair. -/
private theorem no_surrogate (c : Char) :
    isLowSurrogate c.toNat = false ∧ isHighSurrogate c.toNat = false := by
  have valid : c.toNat < 0xD800 ∨ 0xDFFF < c.toNat := by
    rcases c.valid with low | ⟨high, -⟩
    · exact Or.inl low
    · exact Or.inr high
  simp only [isLowSurrogate, isHighSurrogate, Bool.and_eq_false_iff, decide_eq_false_iff_not]
  omega

variable (front rest : List Char)

private theorem readStringFrom_quote :
    readStringFrom front ('"' :: rest) = .ok (String.ofList front.reverse, rest) := by
  rw [readStringFrom.eq_def]
  simp

private theorem readStringFrom_plain {c : Char} (quote : c ≠ '"') (backslash : c ≠ '\\')
    (control : ¬c.toNat < 0x20) :
    readStringFrom front (c :: rest) = readStringFrom (c :: front) rest := by
  rw [readStringFrom.eq_def]
  simp [quote, backslash, control]

private theorem readStringFrom_simpleEscape {e plain : Char}
    (known : simpleEscape? e = some plain) :
    readStringFrom front ('\\' :: e :: rest) = readStringFrom (plain :: front) rest := by
  have other : e ≠ 'u' := by
    rintro rfl
    simp [simpleEscape?] at known
  rw [readStringFrom.eq_5 _ _ _ _ (fun _ _ _ _ _ same => absurd same other) other, known]
  simp

private theorem readStringFrom_code {c : Char} {digits : List Char}
    (form : UnitForm c.toNat digits) :
    readStringFrom front ('\\' :: 'u' :: (digits ++ rest)) = readStringFrom (c :: front) rest := by
  obtain ⟨w, x, y, z, rfl, unit⟩ := hexUnit?_of_unitForm form
  obtain ⟨low, high⟩ := no_surrogate c
  simp [readStringFrom, unit, low, high, Char.ofNat_toNat]

private theorem readStringFrom_pair {c : Char} {high low : List Char} (wide : 0x10000 ≤ c.toNat)
    (first : UnitForm (0xD800 + (c.toNat - 0x10000) / 0x400) high)
    (second : UnitForm (0xDC00 + (c.toNat - 0x10000) % 0x400) low) :
    readStringFrom front ('\\' :: 'u' :: (high ++ '\\' :: 'u' :: (low ++ rest))) =
      readStringFrom (c :: front) rest := by
  have bound : c.toNat < 0x110000 := by
    rcases c.valid with low | ⟨-, high⟩
    · exact Nat.lt_trans low (by decide)
    · exact high
  obtain ⟨w, x, y, z, rfl, opening⟩ := hexUnit?_of_unitForm first
  obtain ⟨w', x', y', z', rfl, closing⟩ := hexUnit?_of_unitForm second
  have upper : isLowSurrogate (0xD800 + (c.toNat - 0x10000) / 0x400) = false ∧
      isHighSurrogate (0xD800 + (c.toNat - 0x10000) / 0x400) = true := by
    simp only [isLowSurrogate, isHighSurrogate, Bool.and_eq_false_iff, Bool.and_eq_true,
      decide_eq_false_iff_not, decide_eq_true_eq]
    omega
  have lower : isLowSurrogate (0xDC00 + (c.toNat - 0x10000) % 0x400) = true := by
    simp only [isLowSurrogate, Bool.and_eq_true, decide_eq_true_eq]
    omega
  have joined : pairChar (0xD800 + (c.toNat - 0x10000) / 0x400)
      (0xDC00 + (c.toNat - 0x10000) % 0x400) = c := by
    rw [pairChar]
    convert Char.ofNat_toNat c using 2
    omega
  simp [readStringFrom, opening, closing, upper, lower, joined]

/-- A character of a string is read in each of its forms. -/
private theorem readStringFrom_charForm {c : Char} {text : List Char} (form : CharForm c text) :
    readStringFrom front (text ++ rest) = readStringFrom (c :: front) rest := by
  cases form with
  | plain quote backslash printable =>
      exact readStringFrom_plain front rest quote backslash (Nat.not_lt.mpr printable)
  | letter known => exact readStringFrom_simpleEscape front rest (simpleEscape?_of_mem known)
  | code form => exact readStringFrom_code front rest form
  | pair wide first second =>
      simpa using readStringFrom_pair front rest wide first second

private theorem readStringFrom_parts {chars : List Char} {parts : List (List Char)}
    (forms : List.Forall₂ CharForm chars parts) :
    readStringFrom front (parts.flatten ++ '"' :: rest) =
      .ok (String.ofList (front.reverse ++ chars), rest) := by
  induction forms generalizing front with
  | nil => rw [List.flatten_nil, List.nil_append, readStringFrom_quote, List.append_nil]
  | cons form _ ih =>
      rw [List.flatten_cons, List.append_assoc, readStringFrom_charForm _ _ form, ih,
        List.reverse_cons, List.append_assoc, List.singleton_append]

/-- A string is read in each of its forms, its opening quote already read. -/
theorem readString_of_form {value : String} {text : List Char} (form : StringForm value text) :
    ∃ body, text = '"' :: body ∧ ∀ rest, readString (body ++ rest) = .ok (value, rest) := by
  obtain ⟨parts, forms, rfl⟩ := form
  refine ⟨_, rfl, fun rest => ?_⟩
  rw [List.append_assoc, List.singleton_append, readString, readStringFrom_parts _ _ forms]
  simp

/-- A written string after its opening quote. -/
def stringBody (text : String) : List Char :=
  text.toList.flatMap escapeChar ++ ['"']

theorem writeString_toList (text : String) :
    (writeString text).toList = '"' :: stringBody text := by
  simp [writeString, stringBody]

/-- A written string is read back, whatever follows it. -/
theorem readString_stringBody (text : String) :
    readString (stringBody text ++ rest) = .ok (text, rest) := by
  obtain ⟨body, written, read⟩ := readString_of_form (stringForm_writeString text)
  rw [writeString_toList] at written
  obtain rfl : stringBody text = body := List.tail_eq_of_cons_eq written
  exact read rest

end Strings

section Counts

theorem digit?_of_isDigit {c : Char} (isDigit : c.isDigit = true) :
    digit? c = some (c.toNat - '0'.toNat) := by
  rw [Char.isDigit, Bool.and_eq_true, decide_eq_true_iff, decide_eq_true_iff] at isDigit
  exact if_pos isDigit

/-- Blanks and other marks are not digits. -/
theorem ne_of_isDigit {c other : Char} (isDigit : c.isDigit = true)
    (noDigit : other.isDigit = false) : c ≠ other := by
  rintro rfl
  rw [isDigit] at noDigit
  cases noDigit

theorem isBlank_of_isDigit {c : Char} (isDigit : c.isDigit = true) : isBlank c = false := by
  simp only [isBlank, Bool.or_eq_false_iff, decide_eq_false_iff_not]
  exact ⟨⟨⟨ne_of_isDigit isDigit rfl, ne_of_isDigit isDigit rfl⟩, ne_of_isDigit isDigit rfl⟩,
    ne_of_isDigit isDigit rfl⟩

/-- Whether a count that is read up to here ends here. -/
def EndsCount (rest : List Char) : Prop :=
  ∀ c ∈ rest.head?, digit? c = none ∧ c ≠ '.' ∧ c ≠ 'e' ∧ c ≠ 'E'

theorem endsCount_cons {c : Char} (ends : digit? c = none ∧ c ≠ '.' ∧ c ≠ 'e' ∧ c ≠ 'E')
    (rest : List Char) : EndsCount (c :: rest) := by
  rintro _ ⟨⟩
  exact ends

theorem endsCount_comma (rest : List Char) : EndsCount (',' :: rest) :=
  endsCount_cons (by decide) rest

theorem endsCount_brace (rest : List Char) : EndsCount ('}' :: rest) :=
  endsCount_cons (by decide) rest

private theorem le_ofDigitChars (digits : List Char) (value : Nat) :
    value ≤ Nat.ofDigitChars 10 digits value := by
  induction digits generalizing value with
  | nil => exact Nat.le_of_eq Nat.ofDigitChars_nil.symm
  | cons c digits ih =>
      rw [Nat.ofDigitChars_cons]
      exact Nat.le_trans (by omega) (ih _)

/-- Digits are read to their end when their value fits 64 bits. -/
private theorem readSignificand_digits {digits : List Char} (areDigits : ∀ c ∈ digits, c.isDigit)
    {value : Nat} (count : Nat) (fits : Nat.ofDigitChars 10 digits value ≤ maxWord)
    {rest : List Char} (ends : EndsCount rest) :
    readSignificand value count (digits ++ rest) =
      (Nat.ofDigitChars 10 digits value, count + digits.length, rest) := by
  induction digits generalizing value count with
  | nil =>
      cases rest with
      | nil => rfl
      | cons c rest =>
          have noDigit := (ends c (by simp)).1
          rw [List.nil_append, readSignificand, noDigit, Nat.ofDigitChars_nil]
          rfl
  | cons c digits ih =>
      have digit := digit?_of_isDigit (areDigits c (by simp))
      rw [Nat.ofDigitChars_cons] at fits
      have step : value * 10 + (c.toNat - '0'.toNat) ≤ maxWord := by
        have := le_ofDigitChars digits (10 * value + (c.toNat - '0'.toNat))
        omega
      rw [List.cons_append, readSignificand, digit]
      simp only [if_pos step]
      rw [Nat.mul_comm 10 value] at fits
      rw [ih (fun d known => areDigits d (List.mem_cons_of_mem _ known)) _ fits,
        Nat.ofDigitChars_cons, Nat.mul_comm 10 value, List.length_cons]
      simp only [Prod.mk.injEq, and_true, true_and]
      omega

/-- Only zero is written with a leading zero. -/
theorem toDigits_eq_cons {number : Nat} (positive : 0 < number) :
    ∃ c digits, Nat.toDigits 10 number = c :: digits ∧ c ≠ '0' := by
  induction number using Nat.strongRecOn with
  | _ number ih =>
      by_cases small : number < 10
      · refine ⟨number.digitChar, [], Nat.toDigits_of_lt_base small, ?_⟩
        rw [ne_eq, Nat.digitChar_eq_zero]
        omega
      · obtain ⟨c, digits, front, nonzero⟩ := ih (number / 10) (by omega) (by omega)
        refine ⟨c, digits ++ [(number % 10).digitChar], ?_, nonzero⟩
        rw [Nat.toDigits_of_base_le (by omega) (by omega), front, List.cons_append]

private theorem readTail_end {rest : List Char} (ends : EndsCount rest) (number : Nat) :
    readTail true number rest = .ok (.natural number, rest) := by
  cases rest with
  | nil => rfl
  | cons c rest =>
      obtain ⟨-, point, lower, upper⟩ := ends c (by simp)
      simp [readTail, point, lower, upper, integer]

/-- A written count of 64 bits is read back. -/
theorem readNumber_toDigits {number : Nat} (fits : number ≤ maxWord) {rest : List Char}
    (ends : EndsCount rest) :
    readNumber true (Nat.toDigits 10 number ++ rest) = .ok (.natural number, rest) := by
  rcases Nat.eq_zero_or_pos number with rfl | positive
  · have tail := readTail_end ends 0
    cases rest with
    | nil => exact tail
    | cons c rest =>
        have noDigit := (ends c (by simp)).1
        simpa [Nat.toDigits_zero, readNumber, noDigit] using tail
  · obtain ⟨c, digits, written, nonzero⟩ := toDigits_eq_cons positive
    have areDigits : ∀ d ∈ c :: digits, d.isDigit := by
      intro d known
      rw [← written] at known
      exact Nat.isDigit_of_mem_toDigits (by omega) (by omega) known
    have value : Nat.ofDigitChars 10 digits (c.toNat - '0'.toNat) = number := by
      have whole := Nat.ofDigitChars_ten_toDigits (n := number)
      rwa [written, Nat.ofDigitChars_cons, Nat.mul_zero, Nat.zero_add] at whole
    have digit := digit?_of_isDigit (areDigits c (by simp))
    have read := readSignificand_digits
      (fun d known => areDigits d (List.mem_cons_of_mem _ known)) 0 (value.symm ▸ fits) ends
    rw [written, List.cons_append, readNumber.eq_4 _ _ _ nonzero, digit]
    simp only [read, value]
    have tail := readTail_end ends number
    cases rest with
    | nil => exact tail
    | cons c rest =>
        have noDigit := (ends c (by simp)).1
        simpa [noDigit] using tail

/-- A written count of 64 bits is read back where a count is expected. -/
theorem readCount_toDigits {number : Nat} (fits : number ≤ maxWord) {rest : List Char}
    (ends : EndsCount rest) :
    readCount (Nat.toDigits 10 number ++ rest) = .ok (number, rest) := by
  have read := readNumber_toDigits fits ends
  obtain ⟨c, digits, written⟩ : ∃ c digits, Nat.toDigits 10 number = c :: digits :=
    List.exists_cons_of_ne_nil Nat.toDigits_ne_nil
  have isDigit : c.isDigit = true :=
    Nat.isDigit_of_mem_toDigits (n := number) (b := 10) (by omega) (by omega) (by simp [written])
  have digit := digit?_of_isDigit isDigit
  have solid := isBlank_of_isDigit isDigit
  have sign : c ≠ '-' := ne_of_isDigit isDigit rfl
  rw [written, List.cons_append] at read ⊢
  simp only [readCount, skipBlanks_cons solid, if_neg sign, digit, Option.isSome_some, if_pos,
    read]
  rfl

end Counts

end DuplicateLogic.Json
