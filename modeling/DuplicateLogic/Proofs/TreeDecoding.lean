import DuplicateLogic.Analyzer
import DuplicateLogic.Proofs.JsonResults
import DuplicateLogic.Proofs.TreeText

/-! # Decoding trees

Decoding a written tree gives the tree back, as long as no path has more than 63 nodes and every
kind is canonical. Trees with a longer path are turned away, and no text decodes to a tree with a
kind that is not canonical. -/

namespace DuplicateLogic

open Json

theorem Kind.gives_read (fuel depth : Nat) : Gives Kind.IsCanonical (Kind.read fuel depth) := by
  intro text
  refine yields_bind ?_
  rintro ⟨data, rest⟩
  dsimp only
  split
  next kind found => exact yields_ok (isCanonical_of_ofValue? found)
  · exact yields_error _

namespace Node

/-- Whether no node has an unknown kind with the spelling of a named one. -/
def IsCanonical (root : Node) : Prop :=
  root.Everywhere fun node => node.kind.IsCanonical

theorem isCanonical_iff {root : Node} :
    root.IsCanonical ↔ root.kind.IsCanonical ∧ ∀ child ∈ root.children, child.IsCanonical :=
  everywhere_iff

section Canonical

/-- Whether the kind and the children read so far are canonical. -/
structure Draft.IsCanonical (draft : Draft) : Prop where
  kind : ∀ kind, draft.kind? = some kind → kind.IsCanonical
  children : ∀ child ∈ draft.children?.getD [], child.IsCanonical

variable {child? : Option (Reader Node)}
  (each : ∀ child, child? = some child → Gives Node.IsCanonical child) (fuel depth : Nat)
include each

private theorem Draft.gives_readField {draft : Draft} (known : draft.IsCanonical) (key : String) :
    Gives Draft.IsCanonical (draft.readField fuel depth child? key) := by
  intro text
  unfold readField
  split
  · split
    · exact yields_error _
    · refine yields_bind fun text => Yields.bind (Kind.gives_read fuel depth text) ?_
      rintro ⟨kind, text⟩ canonical
      apply yields_ok
      refine ⟨?_, known.children⟩
      rintro _ ⟨⟩
      exact canonical
  split
  · split
    · exact yields_error _
    · refine yields_bind fun text => yields_bind fun result => yields_ok ?_
      exact ⟨known.kind, known.children⟩
  split
  · split
    · exact yields_error _
    · refine yields_bind fun text => yields_bind fun result => yields_ok ?_
      exact ⟨known.kind, known.children⟩
  split
  · split
    · exact yields_error _
    · refine yields_bind fun text => Yields.bind (gives_list each fuel text) ?_
      rintro ⟨children, text⟩ canonical
      apply yields_ok
      exact ⟨known.kind, canonical⟩
  · refine yields_bind fun text => yields_bind fun result => yields_ok ?_
    exact known

private theorem gives_readFields (rounds : Nat) (first : Bool) {draft : Draft}
    (known : draft.IsCanonical) :
    Gives Node.IsCanonical (readFields fuel depth child? rounds first draft) := by
  induction rounds generalizing first draft with
  | zero =>
      intro text
      exact yields_error _
  | succ rounds ih =>
      intro text
      refine yields_bind ?_
      rintro ⟨key?, text⟩
      cases key? with
      | none =>
          dsimp only
          unfold Draft.finish
          split
          next kind found =>
            apply yields_ok
            exact isCanonical_iff.mpr ⟨known.kind kind found, known.children⟩
          · exact yields_error _
      | some key =>
          refine Yields.bind (Draft.gives_readField each fuel depth known key text) ?_
          rintro ⟨draft, text⟩ known
          exact ih false known text

private theorem gives_readElements :
    Gives Node.IsCanonical (readElements fuel depth child?) := by
  intro text
  refine yields_bind ?_
  rintro ⟨more, text⟩
  dsimp only
  split
  · exact yields_error _
  · refine Yields.bind (Kind.gives_read fuel depth text) ?_
    rintro ⟨kind, text⟩ canonical
    refine yields_bind ?_
    rintro ⟨value, text⟩
    refine yields_bind ?_
    rintro ⟨start, text⟩
    have list := gives_optional (gives_list each fuel)
      (show ∀ child ∈ ([] : List Node), child.IsCanonical by simp)
    refine Yields.bind (list text) ?_
    rintro ⟨children, text⟩ below
    apply yields_ok
    exact isCanonical_iff.mpr ⟨canonical, below⟩

private theorem gives_readWith (deeper : Bool) :
    Gives Node.IsCanonical (readWith fuel deeper depth child?) := by
  have blank : Draft.IsCanonical {} := ⟨by simp, by simp⟩
  exact gives_record (gives_readElements each fuel depth)
    (gives_readFields each fuel depth fuel true blank)

end Canonical

/-- Reading never gives a tree with a kind that is not canonical. -/
theorem gives_read (fuel depth : Nat) : Gives IsCanonical (read fuel depth) := by
  induction depth using Nat.strongRecOn with
  | _ depth ih =>
      match depth with
      | 0 => exact gives_readWith (by simp) fuel 0 false
      | 1 => exact gives_readWith (by simp) fuel 0 true
      | depth + 2 =>
          apply gives_readWith
          rintro _ ⟨⟩
          exact ih depth (by omega)

theorem yields_parse (text : String) : Yields IsCanonical (parse text) := by
  refine Yields.bind (gives_read _ _ text.toList) ?_
  rintro ⟨root, rest⟩ canonical
  refine yields_bind fun _ => ?_
  exact yields_ok canonical

section Decode

/-- What is read off a whole text is the tree that the text is. -/
private theorem decode_of_read {text : String} {result : Except Fault Node}
    (read : read (fuelFor text.toList) maxDepth text.toList = result.map fun root => (root, [])) :
    decode text = result.mapError fun fault => .undecodable (fault.message text.toList) := by
  rw [decode, parse, read]
  cases result <;> rfl

variable {root : Node}

/-- A written tree is decoded as it was. -/
theorem decode_render_of_fitsIn (words : root.Everywhere fun node => node.start.FitsWords)
    (canonical : root.IsCanonical) (fits : root.FitsIn 63) : decode root.render = .ok root := by
  have half : maxDepth / 2 = 63 := rfl
  rw [← half] at fits
  have reads := reads_render words (Nat.le_succ _) fits []
  rw [List.append_nil, retagged_eq_self canonical] at reads
  exact decode_of_read (show _ = (Except.ok root).map _ from reads)

/-- A written tree with a path that is too long is not decoded. -/
theorem decode_render_of_not_fitsIn (words : root.Everywhere fun node => node.start.FitsWords)
    (deep : ¬root.FitsIn 63) :
    ∃ line column : Nat, decode root.render = .error (.undecodable
      ("recursion limit exceeded" ++ " at line " ++ toString line ++ " column " ++
        toString column)) := by
  have half : maxDepth / 2 = 63 := rfl
  rw [← half] at deep
  obtain ⟨unread, fault⟩ := overflows_render words (Nat.le_succ _) deep []
  rw [List.append_nil] at fault
  have decoded := decode_of_read (show _ = (Except.error _).map _ from fault)
  let place := Place.past ⟨1, 0⟩ (byteCount root.render.toList - unread) root.render.toList
  exact ⟨place.line, place.column, decoded⟩

/-- No text decodes to a tree with a kind that is not canonical. -/
theorem isCanonical_of_decode {text : String} (decoded : decode text = .ok root) :
    root.IsCanonical := by
  unfold decode at decoded
  cases parsed : parse text with
  | error fault =>
      rw [parsed] at decoded
      cases decoded
  | ok tree =>
      rw [parsed] at decoded
      obtain rfl : tree = root := Except.ok.inj decoded
      exact yields_parse text tree parsed

end Decode

end Node

/-- A tag is read as the kind with this tag. -/
theorem Kind.parse_tag (tag : String) :
    Kind.parse (Value.string tag).compact = .ok (Kind.ofTag tag) := by
  have reads : Kind.read (fuelFor (Value.string tag).compact.toList) maxDepth
      ((Value.string tag).compact.toList ++ []) = .ok (ofTag tag, []) :=
    Kind.reads_tag (.other tag) _ _ []
  rw [List.append_nil] at reads
  simp only [Kind.parse, reads]
  rfl

/-- A tree file holds every tree with canonical kinds and at most 63 nodes on each path, and no
other tree: a longer path is not decoded, and what is decoded is canonical. Every tag is read as a
kind of its own. -/
theorem Node.treeText_roundTrip :
    (∀ root : Node, root.Everywhere (fun node => node.start.FitsWords) → root.IsCanonical →
      root.FitsIn 63 → Node.decode root.render = .ok root) ∧
    (∀ root : Node, root.Everywhere (fun node => node.start.FitsWords) → ¬root.FitsIn 63 →
      ∃ line column : Nat, Node.decode root.render = .error (.undecodable
        ("recursion limit exceeded" ++ " at line " ++ toString line ++ " column " ++
          toString column))) ∧
    (∀ (text : String) (root : Node), Node.decode text = .ok root → root.IsCanonical) ∧
    (∀ tag : String, ∃ kind : Kind, Kind.parse (Value.string tag).compact = .ok kind ∧
      kind.tag = tag) ∧
    (∀ first second : String, Kind.parse (Value.string first).compact =
      Kind.parse (Value.string second).compact ↔ first = second) := by
  refine ⟨?_, ?_, ?_, ?_, ?_⟩
  · intro root words canonical fits
    exact decode_render_of_fitsIn words canonical fits
  · intro root words deep
    exact decode_render_of_not_fitsIn words deep
  · intro text root decoded
    exact isCanonical_of_decode decoded
  · intro tag
    exact ⟨Kind.ofTag tag, Kind.parse_tag tag, Kind.tag_ofTag tag⟩
  · intro first second
    rw [Kind.parse_tag, Kind.parse_tag, Except.ok.injEq, Kind.ofTag_inj]

/-- Blocks, each the only child of the one around it. -/
def Node.tower : Nat → Node
  | 0 => ⟨.construct .block, "", ⟨1, 0⟩, []⟩
  | levels + 1 => ⟨.construct .block, "", ⟨1, 0⟩, [tower levels]⟩

private theorem Node.everywhere_tower {holds : Node → Prop}
    (each : ∀ children, holds ⟨.construct .block, "", ⟨1, 0⟩, children⟩) (levels : Nat) :
    (tower levels).Everywhere holds := by
  induction levels with
  | zero => exact everywhere_iff.mpr ⟨each [], by simp [tower]⟩
  | succ levels ih => exact everywhere_iff.mpr ⟨each _, by simpa [tower] using ih⟩

private theorem Node.fitsIn_tower_iff (levels room : Nat) :
    (tower levels).FitsIn room ↔ levels < room := by
  induction levels generalizing room with
  | zero =>
      cases room with
      | zero => simp [not_fitsIn_zero]
      | succ room => simp [fitsIn_succ_iff, tower]
  | succ levels ih =>
      cases room with
      | zero => simp [not_fitsIn_zero]
      | succ room => simp [fitsIn_succ_iff, tower, ih]

/-- 63 blocks are decoded, 64 are not. -/
theorem Node.treeText_roundTrip_tower :
    Node.decode (tower 62).render = .ok (tower 62) ∧ (tower 62).IsCanonical ∧
      ∃ line column : Nat, Node.decode (tower 63).render = .error (.undecodable
        ("recursion limit exceeded" ++ " at line " ++ toString line ++ " column " ++
          toString column)) := by
  have corner : Position.FitsWords ⟨1, 0⟩ := ⟨by decide, by decide⟩
  have words (levels : Nat) : (tower levels).Everywhere fun node => node.start.FitsWords :=
    everywhere_tower (fun _ => corner) levels
  have canonical : (tower 62).IsCanonical := everywhere_tower (fun _ => nofun) 62
  have fits : (tower 62).FitsIn 63 := (fitsIn_tower_iff 62 63).mpr (by decide)
  have deep : ¬(tower 63).FitsIn 63 := by simp [fitsIn_tower_iff]
  obtain ⟨decoded, turnedAway, known, -⟩ := treeText_roundTrip
  have whole := decoded (tower 62) (words 62) canonical fits
  exact ⟨whole, known _ _ whole, turnedAway (tower 63) (words 63) deep⟩

end DuplicateLogic
