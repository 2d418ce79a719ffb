import DuplicateLogic.Text.Raw

/-! # Names that are no text

Bytes that are no text are shown with replacement characters. A slash is never read together with
another byte, so a path is shown name by name, and only a dot is shown as a dot. -/

namespace DuplicateLogic.RawText

theorem readTogether_ne_nil {bytes : List UInt8} (some : bytes ≠ []) : readTogether bytes ≠ [] := by
  unfold readTogether
  split
  next text read =>
    intro none
    have whole : bytes = text.toList.flatMap String.utf8EncodeChar :=
      congrArg RawText.bytes (text?_eq_some_iff.mp read)
    rw [none] at whole
    exact some whole
  · exact List.cons_ne_nil _ _

theorem eq_dot_of_readTogether {bytes : List UInt8} (shown : readTogether bytes = ['.']) :
    bytes = [dot] := by
  unfold readTogether at shown
  split at shown
  next text read =>
    have whole : bytes = text.toList.flatMap String.utf8EncodeChar :=
      congrArg RawText.bytes (text?_eq_some_iff.mp read)
    rw [whole, shown]
    rfl
  · exact absurd shown (by decide)

/-- The bytes that follow the first byte of a character are above those of a slash. -/
theorem slash_lt_of_mem_followers {lead : UInt8} {range : UInt8 × UInt8}
    (known : range ∈ followers lead) : slash < range.1 := by
  have low {byte : UInt8} {first second : UInt8} (above : slash < first) (above' : slash < second) :
      slash < if lead = byte then first else second := by
    split
    · exact above
    · exact above'
  unfold followers at known
  split at known
  · cases known
  split at known
  · obtain rfl := List.mem_singleton.mp known
    decide
  split at known
  · rcases List.mem_cons.mp known with rfl | known
    · exact low (by decide) (by decide)
    · obtain rfl := List.mem_singleton.mp known
      decide
  split at known
  · rcases List.mem_cons.mp known with rfl | known
    · exact low (by decide) (by decide)
    · rcases List.mem_cons.mp known with rfl | known
      · decide
      · obtain rfl := List.mem_singleton.mp known
        decide
  · cases known

theorem takeInRanges_append_slash {ranges : List (UInt8 × UInt8)}
    (above : ∀ range ∈ ranges, slash < range.1) (front back : List UInt8) :
    takeInRanges ranges (front ++ slash :: back) = takeInRanges ranges front := by
  induction front generalizing ranges with
  | nil =>
      cases ranges with
      | nil => rfl
      | cons range rest =>
          have apart : ¬range.1 ≤ slash := UInt8.not_le.mpr (above range List.mem_cons_self)
          simp [takeInRanges, apart]
  | cons byte front ih =>
      cases ranges with
      | nil => rfl
      | cons range rest =>
          rw [List.cons_append, takeInRanges, takeInRanges,
            ih fun range known => above range (List.mem_cons_of_mem _ known)]

theorem length_takeInRanges_le (ranges : List (UInt8 × UInt8)) (bytes : List UInt8) :
    (takeInRanges ranges bytes).length ≤ bytes.length := by
  induction bytes generalizing ranges with
  | nil => cases ranges <;> exact Nat.le_refl 0
  | cons byte rest ih =>
      cases ranges with
      | nil => exact Nat.zero_le _
      | cons range ranges =>
          rw [takeInRanges]
          split
          · exact Nat.succ_le_succ (ih ranges)
          · exact Nat.zero_le _

/-- A slash is read for itself. -/
theorem readable_append_slash (front back : List UInt8) :
    readable (front ++ slash :: back) = readable front ++ '/' :: readable back := by
  fun_induction readable front with
  | case1 =>
      have alone : followers slash = [] := by decide
      have itself : readTogether [slash] = ['/'] := by decide +kernel
      rw [List.nil_append, readable, alone, takeInRanges, itself]
      · rfl
      · simp
  | case2 lead rest more ih =>
      have same : takeInRanges (followers lead) (rest ++ slash :: back) = more :=
        takeInRanges_append_slash (fun _ => slash_lt_of_mem_followers) rest back
      have within : more.length ≤ rest.length := length_takeInRanges_le _ rest
      rw [List.cons_append, readable, same, List.drop_append_of_le_length within, ih,
        List.append_assoc]

theorem readable_ne_nil {bytes : List UInt8} (some : bytes ≠ []) : readable bytes ≠ [] := by
  obtain ⟨lead, rest, rfl⟩ := List.exists_cons_of_ne_nil some
  rw [readable]
  exact List.append_ne_nil_of_left_ne_nil (readTogether_ne_nil (List.cons_ne_nil _ _)) _

theorem eq_dot_of_readable {bytes : List UInt8} (shown : readable bytes = ['.']) :
    bytes = [dot] := by
  cases bytes with
  | nil => simp [readable] at shown
  | cons lead rest =>
      rw [readable] at shown
      have first := readTogether_ne_nil (List.cons_ne_nil lead (takeInRanges (followers lead) rest))
      obtain ⟨c, more, read⟩ := List.exists_cons_of_ne_nil first
      rw [read, List.cons_append, List.cons.injEq, List.append_eq_nil_iff] at shown
      obtain ⟨rfl, rfl, none⟩ := shown
      obtain ⟨rfl, taken⟩ := List.cons.inj (eq_dot_of_readTogether read)
      rw [taken, List.length_nil, List.drop_zero] at none
      by_cases some : rest = []
      · rw [some]
      · exact absurd none (readable_ne_nil some)

end DuplicateLogic.RawText
