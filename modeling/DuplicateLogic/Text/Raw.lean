/-! # Names and paths as bytes

The system names files and folders by bytes. Most names are texts, but not all are: bytes that are
no encoding of a text are a name as well. Where the program needs a text it either leaves such a
name out or shows a replacement character for what it cannot read. -/

namespace DuplicateLogic

/-- A name or a path as the system has it. -/
structure RawText where
  bytes : List UInt8
  deriving DecidableEq, Repr

namespace RawText

/-- The byte that separates folders. -/
abbrev slash : UInt8 := 47

/-- The byte of a dot. -/
abbrev dot : UInt8 := 46

/-- The bytes of a text. -/
def ofString (text : String) : RawText :=
  ⟨text.toList.flatMap String.utf8EncodeChar⟩

instance : Coe String RawText :=
  ⟨ofString⟩

/-- Names are ordered by their bytes. -/
instance : Ord RawText where
  compare := compareOn bytes

/-- The text that the bytes are, if they are one. -/
def text? (raw : RawText) : Option String :=
  String.fromUTF8? ⟨raw.bytes.toArray⟩

/-- Whether the bytes are a text. -/
def isText (raw : RawText) : Bool :=
  raw.text?.isSome

/-- The ranges of the bytes that follow a first byte of a character. A byte that starts none has
no followers. -/
def followers (lead : UInt8) : List (UInt8 × UInt8) :=
  if lead < 0xC2 then []
  else if lead < 0xE0 then [(0x80, 0xBF)]
  else if lead < 0xF0 then
    [(if lead = 0xE0 then 0xA0 else 0x80, if lead = 0xED then 0x9F else 0xBF), (0x80, 0xBF)]
  else if lead < 0xF5 then
    [(if lead = 0xF0 then 0x90 else 0x80, if lead = 0xF4 then 0x8F else 0xBF), (0x80, 0xBF),
      (0x80, 0xBF)]
  else []

/-- The bytes at the front that are in their ranges, up to the first that is not. -/
def takeInRanges : List (UInt8 × UInt8) → List UInt8 → List UInt8
  | (low, high) :: ranges, byte :: rest =>
      if low ≤ byte && byte ≤ high then byte :: takeInRanges ranges rest else []
  | _, _ => []

/-- The characters of bytes that are read together, or the replacement character. -/
def readTogether (bytes : List UInt8) : List Char :=
  match (RawText.mk bytes).text? with
  | some text => text.toList
  | none => ['\ufffd']

/-- The characters of bytes. A first byte is read together with as many of its followers as there
are. -/
def readable : List UInt8 → List Char
  | [] => []
  | lead :: rest =>
      let more := takeInRanges (followers lead) rest
      readTogether (lead :: more) ++ readable (rest.drop more.length)
termination_by bytes => bytes.length

/-- The bytes as a text that can be shown. -/
def lossy (raw : RawText) : String :=
  raw.text?.getD (String.ofList (readable raw.bytes))

/-- The encoding of a text as an array of bytes. -/
theorem toArray_ofString (text : String) :
    (⟨(ofString text).bytes.toArray⟩ : ByteArray) = text.toByteArray := by
  rw [← String.utf8Encode_toList (b := text)]
  exact ByteArray.ext List.data_toByteArray.symm

@[simp] theorem text?_ofString (text : String) : (ofString text).text? = some text := by
  rw [text?, toArray_ofString, String.fromUTF8?, dif_pos text.isValidUTF8]
  rfl

/-- Bytes are a text when they are its encoding. -/
theorem text?_eq_some_iff {raw : RawText} {text : String} :
    raw.text? = some text ↔ raw = ofString text := by
  constructor
  · intro read
    have bytes : (⟨raw.bytes.toArray⟩ : ByteArray) = text.toByteArray := by
      unfold text? String.fromUTF8? at read
      split at read
      · exact congrArg String.toByteArray (Option.some.inj read)
      · cases read
    rw [← toArray_ofString] at bytes
    have same : raw.bytes = (ofString text).bytes :=
      List.toArray_inj (congrArg ByteArray.data bytes)
    exact congrArg RawText.mk same
  · rintro rfl
    exact text?_ofString text

@[simp] theorem lossy_ofString (text : String) : (ofString text).lossy = text := by
  rw [lossy, text?_ofString, Option.getD_some]

/-- What is a text is shown as it is. -/
theorem ofString_lossy {raw : RawText} (known : raw.isText = true) : ofString raw.lossy = raw := by
  obtain ⟨text, read⟩ := Option.isSome_iff_exists.mp known
  rw [text?_eq_some_iff.mp read, lossy_ofString]

end RawText

end DuplicateLogic
