import DuplicateLogic.Json.Printer
import DuplicateLogic.Json.Skip
import Mathlib.Data.List.Forall2

/-! # The forms of a JSON text

A value can be written in many ways: blanks may stand around every token, a character of a string
may be escaped, and the members of an object come in any order. Each form is a relation between
what is written and the text, so that a theorem about a form is one about every text that writes
the same. -/

namespace DuplicateLogic.Json

section Brackets

/-- Whether a text has nothing but blanks. -/
def Blanks (text : List Char) : Prop :=
  ∀ c ∈ text, isBlank c = true

instance : DecidablePred Blanks :=
  List.decidableBAll fun c => isBlank c = true

theorem blanks_nil : Blanks [] := nofun

/-- What stands before an item in brackets: a comma among blanks, or only blanks before the
first. -/
inductive Gap : Bool → List Char → Prop
  | front {blanks : List Char} (blank : Blanks blanks) : Gap true blanks
  | comma {before after : List Char} (front : Blanks before) (back : Blanks after) :
      Gap false (before ++ ',' :: after)

/-- What stands inside brackets: items with commas between them, and the closing bracket. The flag
says whether nothing stands before the first of them. -/
inductive ItemsForm {ι : Type} (bracket : Bracket) (form : ι → List Char → Prop) :
    Bool → List ι → List Char → Prop
  | close {first : Bool} {blanks : List Char} (blank : Blanks blanks) :
      ItemsForm bracket form first [] (blanks ++ [bracket.closer])
  | next {first : Bool} {gap text later : List Char} {item : ι} {items : List ι}
      (apart : Gap first gap) (own : form item text)
      (others : ItemsForm bracket form false items later) :
      ItemsForm bracket form first (item :: items) (gap ++ (text ++ later))

/-- A member of an object: its key, a colon and its value. -/
inductive MemberForm {κ : Type} (name value : κ → List Char → Prop) :
    κ → List Char → Prop
  | pair {key : κ} {own before after text : List Char} (named : name key own)
      (front : Blanks before) (back : Blanks after) (valued : value key text) :
      MemberForm name value key (own ++ (before ++ ':' :: (after ++ text)))

/-- A list with an element for each item. -/
def ListForm {ι : Type} (form : ι → List Char → Prop) (items : List ι) (text : List Char) : Prop :=
  ∃ body, text = '[' :: body ∧ ItemsForm .list form true items body

/-- An object with a member for each key. -/
def ObjectForm {κ : Type} (name value : κ → List Char → Prop) (keys : List κ)
    (text : List Char) : Prop :=
  ∃ body, text = '{' :: body ∧ ItemsForm .object (MemberForm name value) true keys body

end Brackets

section Strings

/-- A hexadecimal digit, in small or capital letters. -/
def HexDigit (value : Nat) (c : Char) : Prop :=
  value < 16 ∧ (c = value.digitChar ∨ c = value.digitChar.toUpper)

/-- Four hexadecimal digits. -/
def UnitForm (unit : Nat) (text : List Char) : Prop :=
  ∃ a b c d, text = [a, b, c, d] ∧ HexDigit (unit / 4096) a ∧ HexDigit (unit / 256 % 16) b ∧
    HexDigit (unit / 16 % 16) c ∧ HexDigit (unit % 16) d

/-- The characters that a backslash and a letter stand for, each with the letter. -/
def escapeLetters : List (Char × Char) :=
  [('"', '"'), ('\\', '\\'), ('/', '/'), ('\x08', 'b'), ('\x0c', 'f'), ('\n', 'n'), ('\r', 'r'),
    ('\t', 't')]

/-- A character of a string: as it is, as a letter after a backslash, as its code, or as a
surrogate pair when its code has more than four digits. -/
inductive CharForm : Char → List Char → Prop
  | plain {c : Char} (quote : c ≠ '"') (backslash : c ≠ '\\') (printable : 0x20 ≤ c.toNat) :
      CharForm c [c]
  | letter {c letter : Char} (known : (c, letter) ∈ escapeLetters) : CharForm c ['\\', letter]
  | code {c : Char} {digits : List Char} (form : UnitForm c.toNat digits) :
      CharForm c ('\\' :: 'u' :: digits)
  | pair {c : Char} {high low : List Char} (wide : 0x10000 ≤ c.toNat)
      (first : UnitForm (0xD800 + (c.toNat - 0x10000) / 0x400) high)
      (second : UnitForm (0xDC00 + (c.toNat - 0x10000) % 0x400) low) :
      CharForm c ('\\' :: 'u' :: (high ++ '\\' :: 'u' :: low))

/-- Parts of a string in its quotes. -/
def inQuotes (parts : List (List Char)) : List Char :=
  '"' :: (parts.flatten ++ ['"'])

/-- A string, character by character. -/
def StringForm (value : String) (text : List Char) : Prop :=
  ∃ parts, List.Forall₂ CharForm value.toList parts ∧ text = inQuotes parts

/-- The four digits of a written control character are those of its code. -/
private theorem unitForm_control {code : Nat} (small : code < 0x20) :
    UnitForm code ['0', '0', Nat.digitChar (code / 16), Nat.digitChar (code % 16)] := by
  have first : code / 4096 = 0 := by omega
  have second : code / 256 % 16 = 0 := by omega
  have third : code / 16 % 16 = code / 16 := by omega
  refine ⟨_, _, _, _, rfl, ?_, ?_, ?_, Nat.mod_lt _ (by decide), .inl rfl⟩
  · exact ⟨by omega, .inl (by rw [first]; rfl)⟩
  · exact ⟨by omega, .inl (by rw [second]; rfl)⟩
  · exact ⟨by omega, .inl (by rw [third])⟩

/-- A character is written in one of its forms. -/
theorem charForm_escapeChar (c : Char) : CharForm c (escapeChar c) := by
  unfold escapeChar
  split
  · subst c
    exact .letter (by decide)
  split
  · subst c
    exact .letter (by decide)
  split
  · subst c
    exact .letter (by decide)
  split
  · subst c
    exact .letter (by decide)
  split
  · subst c
    exact .letter (by decide)
  split
  · subst c
    exact .letter (by decide)
  split
  · subst c
    exact .letter (by decide)
  next quote backslash _ _ _ _ _ =>
    split
    · exact .code (unitForm_control (by assumption))
    · exact .plain quote backslash (by omega)

/-- A string is written in one of its forms. -/
theorem stringForm_writeString (text : String) : StringForm text (writeString text).toList := by
  refine ⟨text.toList.map escapeChar, ?_, ?_⟩
  · rw [List.forall₂_map_right_iff, List.forall₂_same]
    exact fun c _ => charForm_escapeChar c
  · simp [writeString, inQuotes, List.flatMap_def]

/-- A string that need not be text: half a surrogate pair may stand alone. -/
def RawString (text : List Char) : Prop :=
  ∃ parts, (∀ part ∈ parts, (∃ c, CharForm c part) ∨
    ∃ unit digits, UnitForm unit digits ∧ part = '\\' :: 'u' :: digits) ∧ text = inQuotes parts

end Strings

section Values

/-- Digits, at least one. -/
def Digits (text : List Char) : Prop :=
  text ≠ [] ∧ ∀ c ∈ text, c.isDigit = true

/-- The digits before the point: only zero itself starts with a zero. -/
def IntegerPart (text : List Char) : Prop :=
  text = ['0'] ∨ Digits text ∧ text.head? ≠ some '0'

/-- The digits after the point, unless there are none. -/
def FractionPart (text : List Char) : Prop :=
  text = [] ∨ ∃ digits, Digits digits ∧ text = '.' :: digits

/-- The exponent, unless there is none. -/
def ExponentPart (text : List Char) : Prop :=
  text = [] ∨ ∃ letter sign digits, letter ∈ ['e', 'E'] ∧ sign ∈ [[], ['+'], ['-']] ∧
    Digits digits ∧ text = letter :: (sign ++ digits)

/-- A number of any size. -/
def NumberForm (text : List Char) : Prop :=
  ∃ sign integer fraction exponent, sign ∈ [[], ['-']] ∧ IntegerPart integer ∧
    FractionPart fraction ∧ ExponentPart exponent ∧
    text = sign ++ (integer ++ (fraction ++ exponent))

/-- A value without brackets. -/
def ScalarForm (text : List Char) : Prop :=
  text ∈ ["null".toList, "true".toList, "false".toList] ∨ NumberForm text ∨ RawString text

/-- A value in which at most `depth` brackets are open at once. -/
def ValueForm : Nat → List Char → Prop
  | 0, text => ScalarForm text
  | depth + 1, text =>
      ScalarForm text ∨
      (∃ items : List Unit, ListForm (fun _ => ValueForm depth) items text) ∨
      ∃ keys : List Unit, ObjectForm (fun _ => RawString) (fun _ => ValueForm depth) keys text

/-- A value of any depth. -/
def AnyValue (text : List Char) : Prop :=
  ∃ depth, ValueForm depth text

end Values

/-- A record, as an object with its fields in any order and among other members, or as a list of
its fields in the order of their names. Only an optional field may be missing, and no field is
there twice. -/
def RecordForm (names : List String) (optional : String → Prop)
    (value : String → List Char → Prop) (text : List Char) : Prop :=
  ∃ keys : List String,
    (∀ name ∈ names, keys.count name ≤ 1 ∧ (name ∉ keys → optional name)) ∧
    (ObjectForm StringForm value keys text ∨ keys <+: names ∧ ListForm value keys text)

end DuplicateLogic.Json
