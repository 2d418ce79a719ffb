import DuplicateLogic.Proofs.Advancing
import DuplicateLogic.Proofs.FileIgnores
import DuplicateLogic.Proofs.ShownNames
import Mathlib.Data.List.Chain
import Mathlib.Data.List.Forall2

/-! # Globs stay within folders

A sequence of pieces takes some byte strings, and a glob matches the texts whose bytes its pieces
take. In a pattern of plain characters, question marks and single stars, only a slash takes the
byte of a slash. So such a pattern and a text are matched folder by folder. -/

namespace DuplicateLogic

namespace Glob

section Taking

mutual

/-- Whether a piece takes exactly some bytes. -/
def Piece.Takes : Piece → List UInt8 → Prop
  | one set, bytes => ∃ byte, bytes = [byte] ∧ set.contains byte = true
  | many set, bytes => ∀ byte ∈ bytes, set.contains byte = true
  | choice branches, bytes => Piece.AnyTakes branches bytes

/-- Whether pieces take exactly some bytes, one behind the other. -/
def Piece.AllTake : List Piece → List UInt8 → Prop
  | [], bytes => bytes = []
  | piece :: rest, bytes =>
      ∃ front back, bytes = front ++ back ∧ piece.Takes front ∧ Piece.AllTake rest back

/-- Whether one of several sequences does. -/
def Piece.AnyTakes : List (List Piece) → List UInt8 → Prop
  | [], _ => False
  | branch :: rest, bytes => Piece.AllTake branch bytes ∨ Piece.AnyTakes rest bytes

end

/-- The suffixes after a run are what is left when bytes of the set are taken off. -/
theorem mem_suffixes_iff {set : ByteSet} {bytes rest : List UInt8} :
    rest ∈ suffixes set bytes ↔
      ∃ front, bytes = front ++ rest ∧ ∀ byte ∈ front, set.contains byte = true := by
  induction bytes with
  | nil => simp [suffixes]
  | cons byte bytes ih =>
      rw [suffixes, List.mem_cons]
      constructor
      · rintro (rfl | later)
        · exact ⟨[], rfl, by simp⟩
        · split at later
          next known =>
            obtain ⟨front, rfl, inside⟩ := ih.mp later
            exact ⟨byte :: front, rfl, List.forall_mem_cons.mpr ⟨known, inside⟩⟩
          next => cases later
      · rintro ⟨front, cut, inside⟩
        cases front with
        | nil => exact Or.inl cut.symm
        | cons first front =>
            obtain ⟨rfl, rfl⟩ := List.cons.inj cut
            obtain ⟨known, inside⟩ := List.forall_mem_cons.mp inside
            rw [if_pos known]
            exact Or.inr (ih.mpr ⟨front, rfl, inside⟩)

mutual

/-- A matcher accepts when the piece takes some bytes off the front and the rest is accepted. -/
theorem Piece.accepts_iff {next : List UInt8 → Bool} {bytes : List UInt8} : (piece : Piece) →
    (piece.accepts next bytes = true ↔
      ∃ front back, bytes = front ++ back ∧ piece.Takes front ∧ next back = true)
  | one set => by
      cases bytes with
      | nil => simp [Piece.accepts, Piece.Takes]
      | cons byte rest =>
          rw [Piece.accepts, Bool.and_eq_true]
          constructor
          · rintro ⟨known, accepted⟩
            exact ⟨[byte], rest, rfl, ⟨byte, rfl, known⟩, accepted⟩
          · rintro ⟨_, back, cut, ⟨byte, rfl, known⟩, accepted⟩
            obtain ⟨rfl, rfl⟩ := List.cons.inj cut
            exact ⟨known, accepted⟩
  | many set => by
      rw [Piece.accepts, List.any_eq_true]
      constructor
      · rintro ⟨back, left, accepted⟩
        obtain ⟨front, cut, inside⟩ := mem_suffixes_iff.mp left
        exact ⟨front, back, cut, inside, accepted⟩
      · rintro ⟨front, back, cut, inside, accepted⟩
        exact ⟨back, mem_suffixes_iff.mpr ⟨front, cut, inside⟩, accepted⟩
  | choice branches => Piece.anyAccepts_iff branches

theorem Piece.allAccept_iff {next : List UInt8 → Bool} {bytes : List UInt8} :
    (pieces : List Piece) →
      (Piece.allAccept pieces next bytes = true ↔
        ∃ front back, bytes = front ++ back ∧ Piece.AllTake pieces front ∧ next back = true)
  | [] => by
      rw [Piece.allAccept]
      constructor
      · intro accepted
        exact ⟨[], bytes, rfl, rfl, accepted⟩
      · rintro ⟨_, back, rfl, rfl, accepted⟩
        exact accepted
  | piece :: rest => by
      rw [Piece.allAccept, Piece.accepts_iff piece]
      constructor
      · rintro ⟨front, _, rfl, takes, accepted⟩
        obtain ⟨middle, back, rfl, later, accepted⟩ := (Piece.allAccept_iff rest).mp accepted
        exact ⟨front ++ middle, back, by simp, ⟨front, middle, rfl, takes, later⟩, accepted⟩
      · rintro ⟨_, back, rfl, ⟨front, middle, rfl, takes, later⟩, accepted⟩
        exact ⟨front, middle ++ back, by simp, takes,
          (Piece.allAccept_iff rest).mpr ⟨middle, back, rfl, later, accepted⟩⟩

theorem Piece.anyAccepts_iff {next : List UInt8 → Bool} {bytes : List UInt8} :
    (branches : List (List Piece)) →
      (Piece.anyAccepts branches next bytes = true ↔
        ∃ front back, bytes = front ++ back ∧ Piece.AnyTakes branches front ∧ next back = true)
  | [] => by simp [Piece.anyAccepts, Piece.AnyTakes]
  | branch :: rest => by
      rw [Piece.anyAccepts, Bool.or_eq_true, Piece.allAccept_iff branch, Piece.anyAccepts_iff rest]
      constructor
      · rintro (⟨front, back, cut, takes, accepted⟩ | ⟨front, back, cut, takes, accepted⟩)
        · exact ⟨front, back, cut, Or.inl takes, accepted⟩
        · exact ⟨front, back, cut, Or.inr takes, accepted⟩
      · rintro ⟨front, back, cut, takes | takes, accepted⟩
        · exact Or.inl ⟨front, back, cut, takes, accepted⟩
        · exact Or.inr ⟨front, back, cut, takes, accepted⟩

end

/-- A glob matches the texts whose bytes its pieces take. -/
theorem isMatch_iff (glob : Glob) (text : String) :
    glob.isMatch text = true ↔ Piece.AllTake glob.pieces (bytesOf text.toList) := by
  rw [isMatch, isMatchBytes, Piece.allAccept_iff]
  constructor
  · rintro ⟨front, back, cut, takes, done⟩
    rw [List.isEmpty_iff.mp done, List.append_nil] at cut
    rwa [cut]
  · intro takes
    exact ⟨_, [], (List.append_nil _).symm, takes, rfl⟩

theorem Piece.allTake_append {front back : List Piece} {bytes : List UInt8} :
    Piece.AllTake (front ++ back) bytes ↔
      ∃ first second, bytes = first ++ second ∧ Piece.AllTake front first ∧
        Piece.AllTake back second := by
  induction front generalizing bytes with
  | nil => simp [Piece.AllTake]
  | cons piece front ih =>
      rw [List.cons_append, Piece.AllTake]
      constructor
      · rintro ⟨first, _, rfl, takes, later⟩
        obtain ⟨middle, second, rfl, inner, outer⟩ := ih.mp later
        exact ⟨first ++ middle, second, by simp, ⟨first, middle, rfl, takes, inner⟩, outer⟩
      · rintro ⟨_, second, rfl, ⟨first, middle, rfl, takes, inner⟩, outer⟩
        exact ⟨first, middle ++ second, by simp, takes,
          ih.mpr ⟨middle, second, rfl, inner, outer⟩⟩

theorem Piece.allTake_singleton {piece : Piece} {bytes : List UInt8} :
    Piece.AllTake [piece] bytes ↔ piece.Takes bytes := by
  simp [Piece.AllTake]

theorem ByteSet.contains_single {byte other : UInt8} :
    (ByteSet.single byte).contains other = true ↔ other = byte := by
  simp [ByteSet.contains, ByteSet.single, UInt8.le_antisymm_iff, and_comm]

/-- Single bytes take just these bytes. -/
theorem Piece.allTake_singles {word bytes : List UInt8} :
    Piece.AllTake (word.map fun byte => .one (.single byte)) bytes ↔ bytes = word := by
  induction word generalizing bytes with
  | nil => rfl
  | cons byte word ih =>
      rw [List.map_cons, Piece.AllTake]
      constructor
      · rintro ⟨_, back, rfl, ⟨other, rfl, here⟩, later⟩
        rw [ByteSet.contains_single.mp here, ih.mp later]
        rfl
      · rintro rfl
        exact ⟨[byte], word, rfl, ⟨byte, rfl, ByteSet.contains_single.mpr rfl⟩, ih.mpr rfl⟩

end Taking

section Plain

/-- Whether a pattern has question marks and single stars only besides characters that stand for
themselves. -/
def IsPlain (pattern : List Char) : Prop :=
  (∀ c ∈ pattern, c ∉ ['[', ']', '{', '}', '\\']) ∧
    pattern.IsChain fun c next => ¬(c = '*' ∧ next = '*')

instance (pattern : List Char) : Decidable (IsPlain pattern) :=
  @instDecidableAnd _ _ (List.decidableBAll _ pattern) inferInstance

theorem IsPlain.of_infix {part pattern : List Char} (plain : IsPlain pattern)
    (inside : part <:+: pattern) : IsPlain part :=
  ⟨fun c known => plain.1 c (inside.subset known), List.IsChain.infix plain.2 inside⟩

/-- The token of a character in a plain pattern. -/
def Token.ofPlain (c : Char) : Token :=
  if c = '?' then any else if c = '*' then run else literal c

/-- Outside braces a character of a plain pattern is one token. -/
theorem readTokens_cons {tolerant bare : Bool} {fuel : Nat} {draft : Draft} {c : Char}
    {rest : List Char} (outside : draft.groups = []) (plain : IsPlain (c :: rest)) :
    readTokens tolerant (fuel + 1) bare draft (c :: rest) =
      readTokens tolerant fuel bare (draft.push c (Token.ofPlain c)) rest := by
  obtain ⟨ordinary, apart⟩ := plain
  have ordinary := ordinary c List.mem_cons_self
  conv_lhs => unfold readTokens
  dsimp only
  split
  · rfl
  · exact absurd ⟨rfl, rfl⟩ (List.isChain_cons_cons.mp apart).1
  · rfl
  · simp at ordinary
  · simp at ordinary
  · simp at ordinary
  · rw [Draft.comma, outside]
    rfl
  · simp at ordinary
  · simp at ordinary
  next question star _ _ _ _ _ _ _ =>
    rw [Token.ofPlain, if_neg question, if_neg star]

/-- A plain pattern is read into one token for each character. -/
theorem exists_readTokens {pattern : List Char} (plain : IsPlain pattern) (tolerant : Bool)
    {fuel : Nat} (enough : pattern.length < fuel) (draft : Draft) (outside : draft.groups = []) :
    ∃ done, readTokens tolerant fuel false draft pattern = some done ∧ done.groups = [] ∧
      done.tokens = (pattern.map Token.ofPlain).reverse ++ draft.tokens := by
  induction pattern generalizing fuel draft with
  | nil =>
      obtain ⟨fuel, rfl⟩ := Nat.exists_eq_add_one_of_ne_zero (Nat.ne_zero_of_lt enough)
      exact ⟨draft, rfl, outside, rfl⟩
  | cons c rest ih =>
      obtain ⟨fuel, rfl⟩ := Nat.exists_eq_add_one_of_ne_zero (Nat.ne_zero_of_lt enough)
      have enough : rest.length < fuel := Nat.lt_of_succ_lt_succ enough
      obtain ⟨done, reads, closed, tokens⟩ := ih
        (plain.of_infix (List.suffix_cons c rest).isInfix) enough
        (draft.push c (Token.ofPlain c)) outside
      refine ⟨done, ?_, closed, ?_⟩
      · rw [readTokens_cons outside plain, reads]
      · rw [tokens, List.map_cons, List.reverse_cons, List.append_assoc]
        rfl

/-- The pieces of a plain pattern. -/
def plainPieces (pattern : List Char) : List Piece :=
  Token.allPieces (pattern.map Token.ofPlain)

theorem plainPieces_append (front back : List Char) :
    plainPieces (front ++ back) = plainPieces front ++ plainPieces back := by
  induction front with
  | nil => rfl
  | cons c front ih =>
      have head (rest : List Char) :
          plainPieces (c :: rest) = (Token.ofPlain c).pieces ++ plainPieces rest := by
        rw [plainPieces, List.map_cons, Token.allPieces]
        rfl
      rw [List.cons_append, head, head, ih, List.append_assoc]

/-- Every plain pattern is well formed. -/
theorem ofPattern?_plain {pattern : List Char} (plain : IsPlain pattern) :
    ofPattern? (String.ofList pattern) = some ⟨plainPieces pattern⟩ := by
  obtain ⟨done, reads, closed, tokens⟩ := exists_readTokens plain false
    (Nat.lt_succ_self _) {} rfl
  have whole : tokens? false (String.ofList pattern) = some (pattern.map Token.ofPlain) := by
    unfold tokens?
    simp [reads, closed, tokens]
  rw [ofPattern?, whole, Option.map_some]
  unfold ofTokens
  split
  next single =>
    obtain ⟨c, rest, rfl, folders, -⟩ := List.map_eq_cons_iff.mp single
    unfold Token.ofPlain at folders
    split at folders
    · cases folders
    · split at folders <;> cases folders
  · rfl

end Plain

section Slash

/-- Only a slash has the byte of a slash. -/
theorem slash_mem_utf8EncodeChar_iff (c : Char) :
    ByteSet.slash ∈ String.utf8EncodeChar c ↔ c = '/' := by
  have small : '/'.toNat < 128 := by decide
  exact Text.ofNat_mem_utf8EncodeChar_iff small c

theorem slash_mem_bytesOf_iff {text : List Char} : ByteSet.slash ∈ bytesOf text ↔ '/' ∈ text := by
  rw [bytesOf, List.mem_flatMap]
  constructor
  · rintro ⟨c, known, here⟩
    rwa [(slash_mem_utf8EncodeChar_iff c).mp here] at known
  · intro known
    exact ⟨'/', known, (slash_mem_utf8EncodeChar_iff '/').mpr rfl⟩

theorem bytesOf_append_slash (front back : List Char) :
    bytesOf (front ++ '/' :: back) = bytesOf front ++ ByteSet.slash :: bytesOf back := by
  rw [bytesOf, List.flatMap_append, List.flatMap_cons]
  rfl

/-- Any other character of a plain pattern takes no byte of a slash. -/
theorem slash_notMem_of_takes_ofPlain {c : Char} (different : c ≠ '/') {bytes : List UInt8}
    (takes : Piece.AllTake (Token.ofPlain c).pieces bytes) : ByteSet.slash ∉ bytes := by
  have outside : ByteSet.inName.contains ByteSet.slash = false := by decide
  intro known
  unfold Token.ofPlain at takes
  split at takes
  · obtain ⟨byte, rfl, inside⟩ := Piece.allTake_singleton.mp takes
    rw [← List.mem_singleton.mp known, outside] at inside
    cases inside
  · split at takes
    · have inside := Piece.allTake_singleton.mp takes _ known
      rw [outside] at inside
      cases inside
    · rw [Token.pieces, Piece.allTake_singles] at takes
      rw [takes, slash_mem_utf8EncodeChar_iff] at known
      exact different known

theorem slash_notMem_of_allTake {pattern : List Char} (free : '/' ∉ pattern) {bytes : List UInt8}
    (takes : Piece.AllTake (plainPieces pattern) bytes) : ByteSet.slash ∉ bytes := by
  induction pattern generalizing bytes with
  | nil =>
      rw [show bytes = [] from takes]
      exact List.not_mem_nil
  | cons c rest ih =>
      obtain ⟨different, free⟩ := not_or.mp (mt List.mem_cons.mpr free)
      obtain ⟨first, second, rfl, here, later⟩ := Piece.allTake_append.mp takes
      rw [List.mem_append, not_or]
      exact ⟨slash_notMem_of_takes_ofPlain (Ne.symm different) here, ih free later⟩

/-- The slash of a pattern takes the byte of a slash. -/
theorem allTake_append_slash {front back : List Char} {bytes : List UInt8} :
    Piece.AllTake (plainPieces (front ++ '/' :: back)) bytes ↔
      ∃ first second, bytes = first ++ ByteSet.slash :: second ∧
        Piece.AllTake (plainPieces front) first ∧ Piece.AllTake (plainPieces back) second := by
  have cut : plainPieces ('/' :: back) = slashPiece :: plainPieces back :=
    plainPieces_append ['/'] back
  rw [plainPieces_append, Piece.allTake_append, cut]
  constructor
  · rintro ⟨first, _, rfl, here, _, second, rfl, ⟨byte, rfl, slash⟩, later⟩
    rw [ByteSet.contains_single.mp slash]
    exact ⟨first, second, rfl, here, later⟩
  · rintro ⟨first, second, rfl, here, later⟩
    exact ⟨first, _, rfl, here, [ByteSet.slash], second, rfl,
      ⟨_, rfl, ByteSet.contains_single.mpr rfl⟩, later⟩

/-- Bytes are cut at their first slash in one way only. -/
theorem eq_of_append_slash {front back first second : List UInt8}
    (free : ByteSet.slash ∉ front) (others : ByteSet.slash ∉ first)
    (cut : front ++ ByteSet.slash :: back = first ++ ByteSet.slash :: second) :
    front = first ∧ back = second := by
  rcases List.append_eq_append_iff.mp cut with ⟨rest, rfl, more⟩ | ⟨rest, rfl, more⟩
  · cases rest with
    | nil => simpa using more
    | cons byte rest =>
        obtain ⟨rfl, -⟩ := List.cons.inj more
        simp at others
  · cases rest with
    | nil => simpa using more.symm
    | cons byte rest =>
        obtain ⟨rfl, -⟩ := List.cons.inj more
        simp at free

/-- Whether a text matches a pattern. -/
def Matches (pattern text : List Char) : Prop :=
  ∃ glob, ofPattern? (String.ofList pattern) = some glob ∧
    glob.isMatch (String.ofList text) = true

theorem matches_iff {pattern : List Char} (plain : IsPlain pattern) (text : List Char) :
    Matches pattern text ↔ Piece.AllTake (plainPieces pattern) (bytesOf text) := by
  unfold Matches
  rw [ofPattern?_plain plain]
  simp [isMatch_iff]

/-- What is before the first slash is the first part. -/
theorem splitOn_slash {front : List Char} (free : '/' ∉ front) (back : List Char) :
    Text.splitOn '/' (front ++ '/' :: back) = front :: Text.splitOn '/' back := by
  rw [Text.splitOn_append_separator, Text.splitOn_of_notMem free, List.singleton_append]

section Part

variable {part : List Char} (plain : IsPlain part) (free : '/' ∉ part) (text : List Char)
include plain free

/-- A part matches a text that is a part itself. -/
theorem allTake_part_iff :
    Piece.AllTake (plainPieces part) (bytesOf text) ↔
      List.Forall₂ Matches [part] (Text.splitOn '/' text) := by
  by_cases slash : '/' ∈ text
  · obtain ⟨front, back, rfl, bare⟩ := List.eq_append_cons_of_mem slash
    rw [splitOn_slash bare]
    refine iff_of_false ?_ (by simp [Text.splitOn_ne_nil])
    intro takes
    exact slash_notMem_of_allTake free takes (slash_mem_bytesOf_iff.mpr slash)
  · rw [Text.splitOn_of_notMem slash, ← matches_iff plain]
    simp

/-- A part and what follows its slash match a text cut at its first slash. -/
theorem allTake_slash_iff (more : List Char) :
    Piece.AllTake (plainPieces (part ++ '/' :: more)) (bytesOf text) ↔
      ∃ front back, text = front ++ '/' :: back ∧ '/' ∉ front ∧ Matches part front ∧
        Piece.AllTake (plainPieces more) (bytesOf back) := by
  rw [allTake_append_slash]
  constructor
  · rintro ⟨first, second, cut, taken, others⟩
    have slash : '/' ∈ text := by
      rw [← slash_mem_bytesOf_iff, cut]
      simp
    obtain ⟨front, back, rfl, bare⟩ := List.eq_append_cons_of_mem slash
    rw [bytesOf_append_slash] at cut
    -- neither front has a slash, so both cuts are at the first one
    obtain ⟨rfl, rfl⟩ := eq_of_append_slash (mt slash_mem_bytesOf_iff.mp bare)
      (slash_notMem_of_allTake free taken) cut
    exact ⟨front, back, rfl, bare, (matches_iff plain front).mpr taken, others⟩
  · rintro ⟨front, back, rfl, bare, taken, others⟩
    exact ⟨bytesOf front, bytesOf back, bytesOf_append_slash front back,
      (matches_iff plain front).mp taken, others⟩

end Part

/-- The pieces of joined parts take a text when each part matches its part of the text. -/
theorem allTake_joinWith_iff {parts : List (List Char)} (some : parts ≠ [])
    (plain : ∀ part ∈ parts, IsPlain part ∧ '/' ∉ part) (text : List Char) :
    Piece.AllTake (plainPieces (Text.joinWith '/' parts)) (bytesOf text) ↔
      List.Forall₂ Matches parts (Text.splitOn '/' text) := by
  induction parts generalizing text with
  | nil => exact absurd rfl some
  | cons part rest ih =>
      obtain ⟨⟨ordinary, free⟩, later⟩ := List.forall_mem_cons.mp plain
      cases rest with
      | nil =>
          rw [Text.joinWith_singleton]
          exact allTake_part_iff ordinary free text
      | cons next rest =>
          rw [Text.joinWith_cons_cons, allTake_slash_iff ordinary free]
          constructor
          · rintro ⟨front, back, rfl, bare, here, below⟩
            rw [splitOn_slash bare]
            exact .cons here ((ih (List.cons_ne_nil next rest) later back).mp below)
          · intro pairs
            by_cases slash : '/' ∈ text
            · obtain ⟨front, back, rfl, bare⟩ := List.eq_append_cons_of_mem slash
              rw [splitOn_slash bare, List.forall₂_cons] at pairs
              exact ⟨front, back, rfl, bare, pairs.1,
                (ih (List.cons_ne_nil next rest) later back).mpr pairs.2⟩
            · rw [Text.splitOn_of_notMem slash] at pairs
              cases pairs.length_eq

end Slash

section Segments

/-- The parts of a plain pattern are plain. -/
theorem IsPlain.of_mem_splitOn {pattern part : List Char} (plain : IsPlain pattern)
    (known : part ∈ Text.splitOn '/' pattern) : IsPlain part ∧ '/' ∉ part := by
  obtain ⟨index, found⟩ := List.mem_iff_getElem?.mp known
  obtain ⟨front, back, rfl, -, free⟩ := Text.exists_of_getElem?_splitOn found
  exact ⟨plain.of_infix ⟨front, back, List.append_assoc ..⟩, free⟩

/-- A plain pattern matches a text when it does so between the slashes, part by part. -/
theorem matches_iff_forall₂ {pattern : List Char} (plain : IsPlain pattern) (text : List Char) :
    Matches pattern text ↔
      List.Forall₂ Matches (Text.splitOn '/' pattern) (Text.splitOn '/' text) := by
  have parts := allTake_joinWith_iff (Text.splitOn_ne_nil '/' pattern)
    (fun part => plain.of_mem_splitOn) text
  rw [Text.joinWith_splitOn] at parts
  rw [matches_iff plain, parts]

end Segments

end Glob

namespace Path

/-- Dropping a dot with its slash leaves the slash behind a name. -/
theorem slash_mem_dropWord? {front : List Char} (some : front ≠ []) (solid : front ≠ ['.'])
    (back : List Char) :
    '/' ∈ (Text.dropWord? ['.', '/'] (front ++ '/' :: back)).getD (front ++ '/' :: back) := by
  match front with
  | [] => exact absurd rfl some
  | [c] => simp_all [Text.dropWord?]
  | c :: d :: more =>
      by_cases dot : c = '.'
      · by_cases slash : d = '/'
        · simp [Text.dropWord?, dot, slash]
        · simp [Text.dropWord?, dot, slash]
      · simp [Text.dropWord?, dot]

/-- A path is shown with a slash behind what is shown of its first name, which is a dot only when
the name is one. -/
theorem exists_lossy_eq {front : List UInt8} (free : RawText.slash ∉ front) (back : List UInt8) :
    ∃ shown rest, (RawText.mk (front ++ RawText.slash :: back)).lossy =
        String.ofList (shown ++ '/' :: rest) ∧
      (front ≠ [] → shown ≠ []) ∧ (front ≠ [RawText.dot] → shown ≠ ['.']) := by
  cases read : (RawText.mk (front ++ RawText.slash :: back)).text? with
  | none =>
      refine ⟨RawText.readable front, RawText.readable back, ?_, RawText.readable_ne_nil,
        mt RawText.eq_dot_of_readable⟩
      rw [RawText.lossy, read, Option.getD_none, RawText.readable_append_slash]
  | some text =>
      have bytes : front ++ Glob.ByteSet.slash :: back = Glob.bytesOf text.toList :=
        congrArg RawText.bytes (RawText.text?_eq_some_iff.mp read)
      have known : '/' ∈ text.toList := by
        rw [← Glob.slash_mem_bytesOf_iff, ← bytes]
        exact List.mem_append_right _ List.mem_cons_self
      obtain ⟨shown, rest, cut, bare⟩ := List.eq_append_cons_of_mem known
      rw [cut, Glob.bytesOf_append_slash] at bytes
      obtain ⟨rfl, -⟩ :=
        Glob.eq_of_append_slash free (mt Glob.slash_mem_bytesOf_iff.mp bare) bytes
      refine ⟨shown, rest, ?_, ?_, ?_⟩
      · rw [RawText.lossy, read, Option.getD_some, ← cut, String.ofList_toList]
      · rintro some rfl
        exact some rfl
      · rintro solid rfl
        exact solid rfl

/-- A path of several names shows a slash. -/
theorem slash_mem_display {first second : RawText} (rest : List RawText) (proper : IsName first) :
    '/' ∈ (ofNames (first :: second :: rest)).display.toList := by
  have raw : (ofNames (first :: second :: rest)).raw =
      ⟨first.bytes ++ RawText.slash ::
        Text.joinWith RawText.slash ((second :: rest).map RawText.bytes)⟩ := by
    rw [List.map_cons, ← Text.joinWith_cons_cons]
    rfl
  obtain ⟨shown, more, text, some, solid⟩ := exists_lossy_eq proper.2.1
    (Text.joinWith RawText.slash ((second :: rest).map RawText.bytes))
  have kept (c : Char) : (if c = '\\' then '/' else c) = '.' ↔ c = '.' := by
    split
    · simp_all
    · rfl
  have solid : shown.map (fun c => if c = '\\' then '/' else c) ≠ ['.'] := by
    intro dot
    obtain ⟨c, single, same⟩ := List.map_eq_singleton_iff.mp dot
    rw [kept] at same
    exact solid proper.2.2.1 (same ▸ single)
  have some : shown.map (fun c => if c = '\\' then '/' else c) ≠ [] := by
    simpa using some proper.1
  rw [display, Path.text, raw, text, Text.replaceChar]
  simp only [String.toList_ofList, List.map_append, List.map_cons]
  exact slash_mem_dropWord? some solid _

end Path

namespace Glob

/-- The glob of a plain pattern matches texts part by part. -/
theorem exists_isMatch_iff {pattern : String} (plain : IsPlain pattern.toList) :
    ∃ glob, ofPattern? pattern = some glob ∧ ∀ text : String, glob.isMatch text = true ↔
      List.Forall₂ Matches (Text.splitOn '/' pattern.toList) (Text.splitOn '/' text.toList) := by
  have made := ofPattern?_plain plain
  rw [String.ofList_toList] at made
  refine ⟨_, made, ?_⟩
  intro text
  rw [isMatch_iff, ← matches_iff plain, matches_iff_forall₂ plain]

/-- A plain pattern is matched folder by folder: a path is matched when it has as many parts as the
pattern and each of them matches its part of the pattern. So a pattern without a slash matches
files at the root only. -/
theorem matches_folderByFolder (pattern : String) (plain : IsPlain pattern.toList) :
    ∃ glob, ofPattern? pattern = some glob ∧
      (∀ text : String, glob.isMatch text = true ↔
        List.Forall₂ Matches (Text.splitOn '/' pattern.toList) (Text.splitOn '/' text.toList)) ∧
      (∀ (analyzer : Analyzer) (settings : Settings) (ids : List String),
        settings.perFileIgnores? = some [(pattern, ids)] → ∀ (path : Path) (rule : String),
          ((analyzer.withSettings settings).isIgnoredFor path rule = true ↔
            Text.trim rule ≠ "" ∧ (∃ listed ∈ ids, Text.trim listed = Text.trim rule) ∧
              List.Forall₂ Matches (Text.splitOn '/' pattern.toList)
                (Text.splitOn '/' (analyzer.relative path).toList))) ∧
      ('/' ∉ pattern.toList → ∀ (analyzer : Analyzer) (root : Path),
        analyzer.root.same root = true → ∀ names : List RawText,
          (∀ name ∈ names, Path.IsName name) →
            glob.isMatch (analyzer.relative (root.join (Path.ofNames names))) = true →
              names.length ≤ 1) := by
  obtain ⟨glob, made, parts⟩ := exists_isMatch_iff plain
  refine ⟨glob, made, parts, ?_, ?_⟩
  · intro analyzer settings ids single path rule
    rw [Analyzer.isIgnoredFor_withSettings_iff, single]
    constructor
    · rintro ⟨solid, entry, known, glob, compiled, listed, matched⟩
      obtain rfl := List.mem_singleton.mp known
      obtain rfl := Option.some.inj (made.symm.trans compiled)
      exact ⟨solid, listed, (parts _).mp matched⟩
    · rintro ⟨solid, listed, matched⟩
      exact ⟨solid, (pattern, ids), List.mem_singleton_self _, glob, made, listed,
        (parts _).mpr matched⟩
  · intro single analyzer root same names proper matched
    rw [parts, Analyzer.relative_join analyzer same proper, Text.splitOn_of_notMem single]
      at matched
    rcases names with _ | ⟨first, _ | ⟨second, rest⟩⟩
    · exact Nat.zero_le 1
    · exact Nat.le_refl 1
    · obtain ⟨front, back, cut, -⟩ := List.eq_append_cons_of_mem
        (Path.slash_mem_display rest (proper first List.mem_cons_self))
      have counted := matched.length_eq
      rw [cut, Text.splitOn_append_separator, List.length_append, List.length_singleton]
        at counted
      have before := List.length_pos_of_ne_nil (Text.splitOn_ne_nil '/' front)
      have behind := List.length_pos_of_ne_nil (Text.splitOn_ne_nil '/' back)
      omega

/-- A star stands for a file of the folder and not for one further down. -/
theorem matches_folderByFolder_generated :
    IsPlain "generated/*.tree.json".toList ∧
      ∃ glob, ofPattern? "generated/*.tree.json" = some glob ∧
        glob.isMatch "generated/a.tree.json" = true ∧
        glob.isMatch "generated/inner/a.tree.json" = false := by
  have plain : IsPlain "generated/*.tree.json".toList := by decide
  obtain ⟨glob, made, parts, -⟩ := matches_folderByFolder "generated/*.tree.json" plain
  refine ⟨plain, glob, made, ?_, ?_⟩
  · rw [parts]
    refine .cons ⟨_, rfl, ?_⟩ (.cons ⟨_, rfl, ?_⟩ .nil)
    · decide +kernel
    · decide +kernel
  · rw [Bool.eq_false_iff, ne_eq, parts]
    intro pairs
    exact absurd pairs.length_eq (by decide)

end Glob

end DuplicateLogic
