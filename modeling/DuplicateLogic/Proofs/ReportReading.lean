import DuplicateLogic.Proofs.JsonPretty
import DuplicateLogic.Proofs.TreeText
import DuplicateLogic.Report.Json

/-! # Reading a report back

The report of an analysis is the JSON text of its value, and a finding is read back from its value:
each member adds the field that it names, in whatever order the members come, so it does not
matter that they are sorted first. -/

namespace DuplicateLogic

open Json

section Members

/-- A member before others, of which the first gives way when it has the same key. -/
private def putFirst (member : String × Value) :
    List (String × Value) → List (String × Value)
  | next :: more => if next.1 = member.1 then member :: more else member :: next :: more
  | [] => [member]

private theorem sortedMembers_eq_foldr (members : List (String × Value)) :
    Value.sortedMembers members =
      (members.reverse.mergeSort fun first second => first.1 ≤ second.1).foldr putFirst [] := by
  rw [Value.sortedMembers]
  refine congrArg (List.foldr · [] _) ?_
  funext member rest
  cases rest <;> rfl

private theorem mem_putFirst {member other : String × Value} {rest : List (String × Value)}
    (known : other ∈ putFirst member rest) : other = member ∨ other ∈ rest := by
  cases rest with
  | nil => exact Or.inl (List.mem_singleton.mp known)
  | cons next more =>
      rw [putFirst] at known
      split at known
      · exact (List.mem_cons.mp known).imp_right (List.mem_cons_of_mem next)
      · exact List.mem_cons.mp known

private theorem mem_keys_putFirst {member : String × Value} {rest : List (String × Value)}
    {key : String} (known : key = member.1 ∨ key ∈ rest.map (·.1)) :
    key ∈ (putFirst member rest).map (·.1) := by
  cases rest with
  | nil => simpa [putFirst] using known
  | cons next more =>
      rw [putFirst]
      split
      next same => simpa [same] using known
      · simpa using known

/-- Sorting the members of an object adds none. -/
theorem Json.Value.mem_of_mem_sortedMembers {members : List (String × Value)}
    {member : String × Value} (known : member ∈ sortedMembers members) : member ∈ members := by
  have taken (ordered : List (String × Value)) (known : member ∈ ordered.foldr putFirst []) :
      member ∈ ordered := by
    induction ordered with
    | nil => cases known
    | cons other ordered ih =>
        rcases mem_putFirst known with rfl | later
        · exact List.mem_cons_self
        · exact List.mem_cons_of_mem other (ih later)
  rw [sortedMembers_eq_foldr] at known
  simpa using taken _ known

/-- Sorting the members of an object loses no key. -/
theorem Json.Value.mem_keys_sortedMembers {members : List (String × Value)} {key : String}
    (known : key ∈ members.map (·.1)) : key ∈ (sortedMembers members).map (·.1) := by
  have kept (ordered : List (String × Value)) (known : key ∈ ordered.map (·.1)) :
      key ∈ (ordered.foldr putFirst []).map (·.1) := by
    induction ordered with
    | nil => cases known
    | cons other ordered ih =>
        rw [List.map_cons] at known
        exact mem_keys_putFirst ((List.mem_cons.mp known).imp_right ih)
  rw [sortedMembers_eq_foldr]
  apply kept
  simpa using known

private theorem foldlM_draft {Draft : Type} {add : Draft → String × Value → Except Problem Draft}
    {state : List String → Draft} {members : List (String × Value)}
    (each : ∀ seen, ∀ member ∈ members, add (state seen) member = .ok (state (member.1 :: seen)))
    (seen : List String) :
    members.foldlM add (state seen) = .ok (state ((members.map (·.1)).reverse ++ seen)) := by
  induction members generalizing seen with
  | nil => rfl
  | cons member members ih =>
      have later := ih (fun seen other known => each seen other (List.mem_cons_of_mem _ known))
        (member.1 :: seen)
      rw [List.foldlM_cons, each seen member List.mem_cons_self, List.map_cons, List.reverse_cons,
        List.append_assoc]
      exact later

/-- Where each member adds the field that it names, the sorted members of an object add the fields
of all its keys. -/
theorem foldlM_sortedMembers {Draft : Type} {add : Draft → String × Value → Except Problem Draft}
    {state : List String → Draft} {members : List (String × Value)}
    (each : ∀ seen, ∀ member ∈ members, add (state seen) member = .ok (state (member.1 :: seen))) :
    ∃ keys, members.map (·.1) ⊆ keys ∧
      (Value.sortedMembers members).foldlM add (state []) = .ok (state keys) := by
  refine ⟨((Value.sortedMembers members).map (·.1)).reverse ++ [], ?_, foldlM_draft ?_ []⟩
  · intro key known
    simpa using Value.mem_keys_sortedMembers known
  · intro seen member known
    exact each seen member (Value.mem_of_mem_sortedMembers known)

end Members

namespace RelatedPlace

/-- The draft that holds the fields with some keys. -/
def draftOf (related : RelatedPlace) (keys : List String) : Draft where
  line? := if "line" ∈ keys then some related.place.line else none
  column? := if "col" ∈ keys then some related.place.column else none
  message? := if "message" ∈ keys then some related.message else none

/-- The members of the value of a second place. -/
def members (related : RelatedPlace) : List (String × Value) :=
  [("line", .ofNat related.place.line), ("col", .ofNat related.place.column),
    ("message", .string related.message)]

theorem add_draftOf (related : RelatedPlace) (seen : List String) :
    ∀ member ∈ related.members,
      (related.draftOf seen).add member = .ok (related.draftOf (member.1 :: seen)) := by
  intro member known
  simp only [members, List.mem_cons, List.not_mem_nil, or_false] at known
  rcases known with rfl | rfl | rfl
  · simp [Draft.add, draftOf, Value.ofNat, Value.count, Number.count, bind, Except.bind, pure,
      Except.pure]
  · simp [Draft.add, draftOf, Value.ofNat, Value.count, Number.count, bind, Except.bind, pure,
      Except.pure]
  · simp [Draft.add, draftOf, Value.text, bind, Except.bind, pure, Except.pure]

/-- A second place is read back from its value. -/
theorem ofValue_toValue (related : RelatedPlace) : ofValue related.toValue = .ok related := by
  obtain ⟨keys, present, filled⟩ := foldlM_sortedMembers related.add_draftOf
  have line : "line" ∈ keys := present (by simp [members])
  have column : "col" ∈ keys := present (by simp [members])
  have message : "message" ∈ keys := present (by simp [members])
  have read : ofValue related.toValue = (do
      let draft ← (Value.sortedMembers related.members).foldlM Draft.add (related.draftOf [])
      let line ← Value.required "line" draft.line?
      let column ← Value.required "col" draft.column?
      let message ← Value.required "message" draft.message?
      return ⟨⟨line, column⟩, message⟩) := rfl
  rw [read, filled]
  simp [draftOf, line, column, message, Value.required, bind, Except.bind, pure, Except.pure]

end RelatedPlace

namespace Finding

/-- The draft that holds the fields with some keys. -/
def draftOf (finding : Finding) (keys : List String) : Draft where
  rule? := if "rule_id" ∈ keys then some finding.rule else none
  category? := if "category" ∈ keys then some finding.category else none
  severity? := if "severity" ∈ keys then some finding.severity else none
  message? := if "message" ∈ keys then some finding.message else none
  file? := if "file" ∈ keys then some finding.file.text else none
  line? := if "line" ∈ keys then some finding.start.line else none
  column? := if "col" ∈ keys then some finding.start.column else none
  stopLine? := if "end_line" ∈ keys then some finding.stop.line else none
  stopColumn? := if "end_col" ∈ keys then some finding.stop.column else none
  related? := if "related" ∈ keys then finding.related? else none

/-- The members of the value of a finding that are always there. -/
def plainMembers (finding : Finding) : List (String × Value) :=
  [("rule_id", .string finding.rule), ("category", .string finding.category),
    ("severity", .string finding.severity), ("message", .string finding.message),
    ("file", .string finding.file.text), ("line", .ofNat finding.start.line),
    ("col", .ofNat finding.start.column), ("end_line", .ofNat finding.stop.line),
    ("end_col", .ofNat finding.stop.column)]

/-- The members of the value of a finding. -/
def members (finding : Finding) : List (String × Value) :=
  finding.plainMembers ++ (finding.related?.map fun related => ("related", related.toValue)).toList

theorem toValue_eq (finding : Finding) : finding.toValue = .object finding.members := by
  rw [toValue, members]
  cases finding.related? <;> rfl

theorem add_draftOf (finding : Finding) (seen : List String) :
    ∀ member ∈ finding.members,
      (finding.draftOf seen).add member = .ok (finding.draftOf (member.1 :: seen)) := by
  intro member known
  rcases List.mem_append.mp known with plain | last
  · simp only [plainMembers, List.mem_cons, List.not_mem_nil, or_false] at plain
    rcases plain with rfl | rfl | rfl | rfl | rfl | rfl | rfl | rfl | rfl
    all_goals simp [Draft.add, draftOf, Value.ofNat, Value.count, Value.text, Number.count, bind,
      Except.bind, pure, Except.pure]
  · obtain ⟨related, present, rfl⟩ : ∃ related, finding.related? = some related ∧
        ("related", related.toValue) = member := by simpa using last
    have read : RelatedPlace.ofValue? related.toValue = .ok (some related) := by
      have given := related.ofValue_toValue
      rw [RelatedPlace.toValue] at given
      simp [RelatedPlace.ofValue?, RelatedPlace.toValue, given, bind, Except.bind, pure,
        Except.pure]
    simp [Draft.add, draftOf, read, present, bind, Except.bind, pure, Except.pure]

/-- A finding in a file with a text as its path is read back from its value. -/
theorem ofValue_toValue {finding : Finding} (known : finding.file.raw.isText = true) :
    ofValue finding.toValue = .ok finding := by
  obtain ⟨keys, present, filled⟩ := foldlM_sortedMembers finding.add_draftOf
  have plain : finding.plainMembers.map (·.1) ⊆ keys := by
    intro key known
    apply present
    rw [members, List.map_append]
    exact List.mem_append_left _ known
  have last : (if "related" ∈ keys then finding.related? else none) = finding.related? := by
    cases found : finding.related? with
    | none => simp
    | some related => exact if_pos (present (by simp [members, found]))
  have read : ofValue finding.toValue =
      ((Value.sortedMembers finding.members).foldlM Draft.add (finding.draftOf [])).bind
        Draft.finish := by
    rw [toValue_eq]
    rfl
  rw [read, filled]
  simp only [plainMembers, List.map_cons, List.map_nil, List.cons_subset, List.nil_subset,
    and_true] at plain
  simp [Except.bind, draftOf, Draft.finish, plain, last, Value.required, bind, pure, Except.pure,
    Path.mk_text known]

end Finding

section Fits

/-- Whether the counts of a finding have 64 bits. -/
structure Finding.FitsWords (finding : Finding) : Prop where
  start : finding.start.FitsWords
  stop : finding.stop.FitsWords
  related : ∀ related ∈ finding.related?, related.place.FitsWords

/-- Whether all counts of an analysis have 64 bits. -/
structure Analysis.FitsWords (result : Analysis) : Prop where
  findings : ∀ finding ∈ result.findings, finding.FitsWords
  files : result.filesAnalyzed ≤ maxWord

theorem RelatedPlace.fitsIn_toValue {related : RelatedPlace} (fits : related.place.FitsWords)
    (depth : Nat) : related.toValue.FitsIn (depth + 1) := by
  have own : ∀ member ∈ related.members, member.2.OwnFits := by
    simp [members, Value.ofNat, Value.OwnFits, fits.1, fits.2]
  exact fun member known => (own member known).fitsIn depth

theorem Finding.fitsIn_toValue {finding : Finding} (fits : finding.FitsWords) (depth : Nat) :
    finding.toValue.FitsIn (depth + 2) := by
  have own : ∀ member ∈ finding.plainMembers, member.2.OwnFits := by
    simp [plainMembers, Value.ofNat, Value.OwnFits, fits.start.1, fits.start.2, fits.stop.1,
      fits.stop.2]
  rw [toValue_eq]
  intro member known
  rcases List.mem_append.mp known with plain | last
  · exact (own member plain).fitsIn (depth + 1)
  · obtain ⟨related, present, rfl⟩ : ∃ related, finding.related? = some related ∧
        ("related", related.toValue) = member := by simpa using last
    exact RelatedPlace.fitsIn_toValue (fits.related related present) depth

theorem ParseError.fitsIn_toValue (failure : ParseError) (depth : Nat) :
    failure.toValue.FitsIn (depth + 1) := by
  have own : ∀ member ∈ [("file", Value.string failure.file.text),
      ("error", .string failure.error)], member.2.OwnFits := by
    simp [Value.OwnFits]
  exact fun member known => (own member known).fitsIn depth

theorem Analysis.fitsIn_toValue {result : Analysis} (fits : result.FitsWords) (depth : Nat) :
    result.toValue.FitsIn (depth + 4) := by
  have findings : (Value.array (result.findings.map Finding.toValue)).FitsIn (depth + 3) := by
    intro item known
    obtain ⟨finding, listed, rfl⟩ := List.mem_map.mp known
    exact Finding.fitsIn_toValue (fits.findings finding listed) depth
  have errors : (Value.array (result.parseErrors.map ParseError.toValue)).FitsIn (depth + 3) := by
    intro item known
    obtain ⟨failure, -, rfl⟩ := List.mem_map.mp known
    exact failure.fitsIn_toValue (depth + 1)
  have files : (Value.ofNat result.filesAnalyzed).FitsIn (depth + 3) := fits.files
  intro member known
  simp only [List.mem_cons, List.not_mem_nil, or_false] at known
  rcases known with rfl | rfl | rfl
  · exact findings
  · exact errors
  · exact files

end Fits

/-- Findings are read back from their values one by one. -/
theorem Finding.mapM_ofValue_toValue {findings : List Finding}
    (known : ∀ finding ∈ findings, finding.file.raw.isText = true) :
    (findings.map toValue).mapM ofValue = .ok findings := by
  induction findings with
  | nil => rfl
  | cons finding rest ih =>
      obtain ⟨here, later⟩ := List.forall_mem_cons.mp known
      rw [List.map_cons, List.mapM_cons, ofValue_toValue here, ih later]
      rfl

/-- The report loses nothing when all paths in it are texts. It is a JSON text and a newline; the
text is read as an object whose findings are read back, in order, as the findings of the analysis,
and whose parse errors and number of files are those of the analysis. -/
theorem Report.jsonText_lossless (result : Analysis) (fits : result.FitsWords)
    (texts : result.hasTextPaths = true) :
    ∃ (text : String) (items : List Value), jsonText result = text ++ "\n" ∧
      AnyValue text.toList ∧ items.mapM Finding.ofValue = .ok result.findings ∧
      (∀ failure ∈ result.parseErrors, .mk failure.file.text = failure.file) ∧
      ∀ blanks ∈ ["", "\n"], Value.parse (text ++ blanks) =
        .ok (.object [("findings", .array items),
          ("parse_errors", .array (result.parseErrors.map fun failure =>
            .object [("file", .string failure.file.text), ("error", .string failure.error)])),
          ("files_analyzed", .number (.natural result.filesAnalyzed))]) := by
  have fitsIn : result.toValue.FitsIn maxDepth := Analysis.fitsIn_toValue fits 123
  have form := Value.form_prettyAt fitsIn 0
  simp only [Analysis.hasTextPaths, Bool.and_eq_true, List.all_eq_true] at texts
  refine ⟨result.toValue.pretty, result.findings.map Finding.toValue, rfl, ⟨_, form.valueForm⟩,
    Finding.mapM_ofValue_toValue texts.1,
    fun failure known => Path.mk_text (texts.2 failure known), ?_⟩
  intro blanks known
  have blank : Blanks blanks.toList := by
    revert blanks
    decide
  exact Value.parse_pretty fitsIn blank

section Mixed

/-- An analysis with a finding that refers to a second place and a file that could not be read. -/
def mixedAnalysis : Analysis where
  findings := [{
    rule := "duplicated-condition"
    category := "Bug"
    severity := "HIGH"
    message := "This \"case\" duplicates\tthe one on line 1 \\ é"
    file := ⟨"src/a.ts"⟩
    start := ⟨2, 4⟩
    stop := ⟨2, 9⟩
    related? := some ⟨⟨1, 4⟩, "Original"⟩ }]
  parseErrors := [⟨⟨"b.tree.json"⟩, "IO error"⟩]
  filesAnalyzed := 1

private theorem fitsWords_mixedAnalysis : mixedAnalysis.FitsWords where
  findings := by
    intro finding known
    obtain rfl := List.mem_singleton.mp known
    refine ⟨⟨by decide, by decide⟩, ⟨by decide, by decide⟩, ?_⟩
    rintro _ ⟨⟩
    exact ⟨by decide, by decide⟩
  files := by decide

/-- Quotes, a tabulator, a backslash and a letter beyond ASCII come back as they were. -/
theorem Report.jsonText_lossless_mixedAnalysis :
    mixedAnalysis.hasTextPaths = true ∧
      ∃ items, items.mapM Finding.ofValue = .ok mixedAnalysis.findings ∧
        Value.parse (jsonText mixedAnalysis) =
          .ok (.object [("findings", .array items),
            ("parse_errors", .array [.object [("file", .string "b.tree.json"),
              ("error", .string "IO error")]]),
            ("files_analyzed", .number (.natural 1))]) := by
  have texts : mixedAnalysis.hasTextPaths = true := by decide +kernel
  obtain ⟨text, items, written, -, decoded, -, read⟩ :=
    jsonText_lossless mixedAnalysis fitsWords_mixedAnalysis texts
  refine ⟨texts, items, decoded, ?_⟩
  rw [written]
  exact read "\n" (by simp)

end Mixed

end DuplicateLogic
