import DuplicateLogic.Proofs.TextLines

/-! # Texts move places

The place past a text is reached from its start character by character. So texts act on places:
the empty text moves none, and a text that is cut anywhere, also next to a newline, moves a place
as its two parts do one after the other. A text that is not empty moves a place strictly further.

The characters need not be decoded for this. In the bytes of a text a newline is a byte of its
own, found by its offset, and every character has exactly one byte that does not continue another,
so the characters behind the last newline are counted by those bytes. -/

namespace DuplicateLogic

namespace Text

section Bytes

/-- The bytes of a text. -/
def bytes (text : List Char) : List UInt8 :=
  text.flatMap String.utf8EncodeChar

theorem toList_toUTF8 (text : String) : text.toUTF8.data.toList = bytes text.toList := by
  rw [String.toUTF8_eq_toByteArray, ← String.utf8Encode_toList, List.utf8Encode,
    List.toList_data_toByteArray]
  rfl

/-- The byte of a newline. -/
def newlineByte : UInt8 :=
  10

/-- Whether a byte starts a character; the others continue one. -/
def startsChar (byte : UInt8) : Bool :=
  byte < 0x80 || 0xC0 ≤ byte

private theorem startsChar_ofNat {number : Nat} (small : number < 256) :
    startsChar (UInt8.ofNat number) = true ↔ number < 128 ∨ 192 ≤ number := by
  have value : (UInt8.ofNat number).toNat = number := UInt8.toNat_ofNat_of_lt' small
  rw [startsChar, Bool.or_eq_true, decide_eq_true_iff, decide_eq_true_iff,
    UInt8.lt_iff_toNat_lt, UInt8.le_iff_toNat_le, value]
  rfl

/-- A byte that continues a character, by the six bits it holds. -/
def continuing (bits : Nat) : UInt8 :=
  UInt8.ofNat (bits % 64 + 128)

/-- A character is written as one byte, its number, or as a byte from `0xC0` on with bytes behind it
that continue it. -/
private theorem utf8EncodeChar_cases (c : Char) :
    (c.toNat < 128 ∧ String.utf8EncodeChar c = [UInt8.ofNat c.toNat]) ∨
      128 ≤ c.toNat ∧ ∃ first later, 192 ≤ first ∧ first < 256 ∧
        String.utf8EncodeChar c = UInt8.ofNat first :: List.map continuing later := by
  have number : c.val.toNat = c.toNat := rfl
  unfold String.utf8EncodeChar
  dsimp only
  rw [number]
  split
  next one => exact Or.inl ⟨by omega, rfl⟩
  next several =>
    refine Or.inr ⟨by omega, ?_⟩
    split
    · exact ⟨_, [c.toNat], by omega, by omega, rfl⟩
    · split
      · exact ⟨_, [c.toNat / 64, c.toNat], by omega, by omega, rfl⟩
      · exact ⟨_, [c.toNat / 4096, c.toNat / 64, c.toNat], by omega, by omega, rfl⟩

/-- Every character has one byte that starts it. -/
theorem countP_startsChar_utf8EncodeChar (c : Char) :
    (String.utf8EncodeChar c).countP startsChar = 1 := by
  rcases utf8EncodeChar_cases c with ⟨ascii, written⟩ | ⟨-, first, later, lower, upper, written⟩
  · have starts : startsChar (UInt8.ofNat c.toNat) = true :=
      (startsChar_ofNat (by omega)).mpr (Or.inl ascii)
    rw [written, List.countP_cons_of_pos starts]
    rfl
  · have starts : startsChar (UInt8.ofNat first) = true :=
      (startsChar_ofNat upper).mpr (Or.inr lower)
    have continued : (later.map continuing).countP startsChar = 0 := by
      rw [List.countP_eq_zero]
      intro byte known
      obtain ⟨bits, -, rfl⟩ := List.mem_map.mp known
      rw [continuing, startsChar_ofNat (by omega)]
      omega
    rw [written, List.countP_cons_of_pos starts, continued]

/-- Only a character of one byte has this byte. -/
theorem ofNat_mem_utf8EncodeChar_iff {ascii : Char} (small : ascii.toNat < 128) (c : Char) :
    UInt8.ofNat ascii.toNat ∈ String.utf8EncodeChar c ↔ c = ascii := by
  have same_iff {number : Nat} (byte : number < 256) :
      UInt8.ofNat ascii.toNat = UInt8.ofNat number ↔ ascii.toNat = number := by
    have ascii : ascii.toNat < 256 := by omega
    rw [← UInt8.toNat_inj, UInt8.toNat_ofNat_of_lt' ascii, UInt8.toNat_ofNat_of_lt' byte]
  rcases utf8EncodeChar_cases c with ⟨one, written⟩ | ⟨several, first, later, lower, upper, written⟩
  · rw [written, List.mem_singleton, same_iff (by omega), eq_comm, Char.toNat_inj]
  · have different : c ≠ ascii := by
      rintro rfl
      omega
    refine iff_of_false ?_ different
    rw [written, List.mem_cons, same_iff upper]
    rintro (same | continues)
    · omega
    · obtain ⟨bits, -, same⟩ := List.mem_map.mp continues
      rw [continuing, eq_comm, same_iff (by omega)] at same
      omega

/-- Only a newline has the byte of a newline. -/
theorem count_newlineByte_utf8EncodeChar (c : Char) :
    (String.utf8EncodeChar c).count newlineByte = if c = '\n' then 1 else 0 := by
  by_cases newline : c = '\n'
  · subst newline
    decide
  · have small : '\n'.toNat < 128 := by decide
    rw [if_neg newline, List.count_eq_zero]
    exact mt (ofNat_mem_utf8EncodeChar_iff small c).mp newline

theorem countP_startsChar_bytes (text : List Char) :
    (bytes text).countP startsChar = text.length := by
  induction text with
  | nil => rfl
  | cons c rest ih =>
      rw [bytes, List.flatMap_cons, List.countP_append, countP_startsChar_utf8EncodeChar,
        List.length_cons, Nat.add_comm]
      exact congrArg (· + 1) ih

theorem count_newlineByte_bytes (text : List Char) :
    (bytes text).count newlineByte = text.count '\n' := by
  induction text with
  | nil => rfl
  | cons c rest ih =>
      have ih : (rest.flatMap String.utf8EncodeChar).count newlineByte = rest.count '\n' := ih
      rw [bytes, List.flatMap_cons, List.count_append, count_newlineByte_utf8EncodeChar, ih,
        List.count_cons, Nat.add_comm]
      simp

theorem newlineByte_mem_bytes_iff {text : List Char} :
    newlineByte ∈ bytes text ↔ '\n' ∈ text := by
  rw [← List.count_pos_iff, count_newlineByte_bytes, List.count_pos_iff]

theorem bytes_append_newline (front back : List Char) :
    bytes (front ++ '\n' :: back) = bytes front ++ newlineByte :: bytes back := by
  rw [bytes, List.flatMap_append, List.flatMap_cons]
  rfl

/-- The offset of the last newline in some bytes. -/
def lastNewline? : List UInt8 → Option Nat
  | [] => none
  | byte :: rest =>
      match lastNewline? rest with
      | some offset => some (offset + 1)
      | none => if byte = newlineByte then some 0 else none

theorem lastNewline?_of_notMem {bytes : List UInt8} (none : newlineByte ∉ bytes) :
    lastNewline? bytes = .none := by
  induction bytes with
  | nil => rfl
  | cons byte rest ih =>
      rw [List.mem_cons, not_or] at none
      rw [lastNewline?, ih none.2]
      simp [Ne.symm none.1]

theorem lastNewline?_append (front : List UInt8) {back : List UInt8}
    (none : newlineByte ∉ back) :
    lastNewline? (front ++ newlineByte :: back) = some front.length := by
  induction front with
  | nil =>
      rw [List.nil_append, lastNewline?, lastNewline?_of_notMem none]
      rfl
  | cons byte front ih =>
      rw [List.cons_append, lastNewline?, ih]
      rfl

end Bytes

end Text

namespace Position

section Steps

private theorem lastLineLength_eq (text : List Char) :
    lastLineLength text = (Text.partAround '\n' text []).length := by
  simp [lastLineLength, Text.partAround, List.rtakeWhile]

theorem lastLineLength_of_notMem {text : List Char} (none : '\n' ∉ text) :
    lastLineLength text = text.length := by
  rw [lastLineLength_eq, Text.partAround_of_not_mem none]
  simp

/-- Only what stands behind the last newline counts. -/
theorem lastLineLength_append (front back : List Char) :
    lastLineLength (front ++ '\n' :: back) = lastLineLength ('\n' :: back) := by
  induction front with
  | nil => rfl
  | cons c front ih =>
      have known : '\n' ∈ front ++ '\n' :: back := by simp
      rw [← ih, List.cons_append, lastLineLength_eq, lastLineLength_eq,
        Text.partAround_cons_of_mem known]

theorem lastLineLength_cons_newline (rest : List Char) :
    lastLineLength ('\n' :: rest) = lastLineLength rest := by
  rw [lastLineLength_eq, lastLineLength_eq, Text.partAround_cons_separator]

/-- The place past a text is the place past what follows its first character, seen from the place
past that character. -/
theorem advance_ofList_cons (start : Position) (c : Char) (rest : List Char) :
    start.advance (String.ofList (c :: rest)) = (start.step c).advance (String.ofList rest) := by
  simp only [advance, String.toList_ofList, step]
  by_cases further : '\n' ∈ rest
  · have known : '\n' ∈ c :: rest := List.mem_cons_of_mem c further
    have length : lastLineLength (c :: rest) = lastLineLength rest := by
      rw [lastLineLength_eq, lastLineLength_eq, Text.partAround_cons_of_mem further]
    rw [if_pos known, if_pos further, length]
    by_cases newline : c = '\n'
    · rw [newline, List.count_cons_self, if_pos rfl, Nat.add_right_comm]
      rfl
    · rw [List.count_cons_of_ne newline, if_neg newline]
  · rw [if_neg further]
    by_cases newline : c = '\n'
    · rw [newline, if_pos List.mem_cons_self, if_pos rfl, List.count_cons_self,
        List.count_eq_zero_of_not_mem further, lastLineLength_cons_newline,
        lastLineLength_of_notMem further, Nat.zero_add, Nat.zero_add]
    · have none : '\n' ∉ c :: rest := by
        simpa [further] using Ne.symm newline
      rw [if_neg none, if_neg newline, List.length_cons, Nat.add_right_comm]
      rfl

/-- The place past a text is reached character by character. -/
theorem advance_eq_foldl (start : Position) (text : String) :
    start.advance text = text.toList.foldl step start := by
  obtain ⟨chars, rfl⟩ : ∃ chars, text = String.ofList chars := ⟨_, String.ofList_toList.symm⟩
  rw [String.toList_ofList]
  induction chars generalizing start with
  | nil => rfl
  | cons c rest ih => rw [advance_ofList_cons, ih, List.foldl_cons]

end Steps

section Order

/-- Whether a place comes strictly before another: on an earlier line, or earlier on its line. -/
def Before (first second : Position) : Prop :=
  first.line < second.line ∨ (first.line = second.line ∧ first.column < second.column)

theorem Before.trans {first second third : Position} (one : first.Before second)
    (other : second.Before third) : first.Before third := by
  unfold Before at one other ⊢
  omega

theorem not_before_self (place : Position) : ¬place.Before place := by
  unfold Before
  omega

theorem before_step (place : Position) (c : Char) : place.Before (place.step c) := by
  unfold step
  split
  · exact Or.inl (Nat.lt_succ_self _)
  · exact Or.inr ⟨rfl, Nat.lt_succ_self _⟩

/-- Every further character moves a place further. -/
theorem before_foldl_step (start : Position) (c : Char) (rest : List Char) :
    start.Before ((c :: rest).foldl step start) := by
  induction rest generalizing start c with
  | nil => exact start.before_step c
  | cons next rest ih => exact (start.before_step c).trans (ih (start.step c) next)

end Order

section Bytes

/-- The place just past the bytes of a text that starts here. -/
def pastBytes (start : Position) (bytes : List UInt8) : Position :=
  match Text.lastNewline? bytes with
  | some offset =>
      ⟨start.line + bytes.count Text.newlineByte,
        (bytes.drop (offset + 1)).countP Text.startsChar⟩
  | none => ⟨start.line, start.column + bytes.countP Text.startsChar⟩

theorem advance_eq_pastBytes (start : Position) (text : String) :
    start.advance text = start.pastBytes text.toUTF8.data.toList := by
  rw [Text.toList_toUTF8]
  unfold advance pastBytes
  dsimp only
  by_cases known : '\n' ∈ text.toList
  · -- the last newline is the first one from the end
    obtain ⟨back, front, cut, last⟩ :=
      List.eq_append_cons_of_mem (List.mem_reverse.mpr known)
    have cut : text.toList = front.reverse ++ '\n' :: back.reverse := by
      simpa using congrArg List.reverse cut
    have last : '\n' ∉ back.reverse := by simpa using last
    have lastByte : Text.newlineByte ∉ Text.bytes back.reverse :=
      mt Text.newlineByte_mem_bytes_iff.mp last
    have found := Text.lastNewline?_append (Text.bytes front.reverse) lastByte
    rw [← Text.bytes_append_newline, ← cut] at found
    have behind : (Text.bytes text.toList).drop ((Text.bytes front.reverse).length + 1) =
        Text.bytes back.reverse := by
      rw [cut, Text.bytes_append_newline, List.drop_append]
      simp
    rw [if_pos known, found]
    dsimp only
    rw [behind, Text.count_newlineByte_bytes, Text.countP_startsChar_bytes, cut,
      lastLineLength_append, lastLineLength_cons_newline, lastLineLength_of_notMem last]
  · have none := Text.lastNewline?_of_notMem (mt Text.newlineByte_mem_bytes_iff.mp known)
    rw [if_neg known, none]
    dsimp only
    rw [Text.countP_startsChar_bytes]

end Bytes

/-- Texts act on places. The empty text moves no place, and two texts behind one another move a
place as one after the other; so the place past a text is reached character by character, where a
newline leads to the start of the next line and any other character one column on. The same place
is found in the bytes of the text. A text moves a place strictly further when it is not empty. -/
theorem advance_action (start : Position) (text more : String) :
    start.advance "" = start ∧
      start.advance (text ++ more) = (start.advance text).advance more ∧
      start.advance text = text.toList.foldl step start ∧
      start.advance text = start.pastBytes text.toUTF8.data.toList ∧
      (start.Before (start.advance text) ↔ text ≠ "") := by
  refine ⟨rfl, ?_, start.advance_eq_foldl text, start.advance_eq_pastBytes text, ?_, ?_⟩
  · rw [advance_eq_foldl, advance_eq_foldl, advance_eq_foldl, String.toList_append,
      List.foldl_append]
  · rintro moved rfl
    exact start.not_before_self moved
  · intro nonempty
    rw [advance_eq_foldl]
    cases chars : text.toList with
    | nil => exact absurd (String.toList_eq_nil_iff.mp chars) nonempty
    | cons c rest => exact start.before_foldl_step c rest

example : (⟨3, 4⟩ : Position).advance "é\nßü" = ⟨4, 2⟩ := by decide

end Position

end DuplicateLogic
