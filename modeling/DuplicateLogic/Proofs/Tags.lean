import DuplicateLogic.Syntax.Decode
import DuplicateLogic.Syntax.Encode

/-! # Tags and kinds

A kind is canonical when its tag is read back as the same kind. Only an unknown tag that is
spelled like a named kind is not; reading never makes one. -/

namespace DuplicateLogic

namespace Kind

/-- Whether the kind is not an unknown tag with the spelling of a named kind. -/
def IsCanonical (kind : Kind) : Prop :=
  ∀ tag, kind = .other tag → ∀ name ∈ named, name.tag ≠ tag

/-- No two named kinds have the same tag. -/
theorem named?_tag : ∀ kind ∈ named, named? kind.tag = some kind := by
  decide +kernel

theorem named?_eq_none_iff {tag : String} :
    named? tag = none ↔ ∀ name ∈ named, name.tag ≠ tag := by
  simp [named?]

theorem isCanonical_of_mem_named {kind : Kind} (known : kind ∈ named) : kind.IsCanonical := by
  rintro tag rfl
  rw [mem_named_iff] at known
  cases known

theorem isCanonical_of_named? {tag : String} {kind : Kind} (found : named? tag = some kind) :
    kind.IsCanonical :=
  isCanonical_of_mem_named (List.mem_of_find?_eq_some found)

theorem isCanonical_ofTag (tag : String) : (ofTag tag).IsCanonical := by
  cases found : named? tag with
  | none =>
      rintro _ same
      obtain rfl : tag = _ := by simpa [ofTag, found] using same
      exact named?_eq_none_iff.mp found
  | some kind =>
      rw [ofTag, found]
      exact isCanonical_of_named? found

/-- Writing a kind and reading its tag gives the kind back when it is canonical. -/
theorem ofTag_tag {kind : Kind} (canonical : kind.IsCanonical) : ofTag kind.tag = kind := by
  by_cases known : kind ∈ named
  · rw [ofTag, named?_tag kind known, Option.getD_some]
  · cases kind with
    | other tag =>
        have unknown := named?_eq_none_iff.mpr (canonical tag rfl)
        rw [ofTag, Kind.tag, unknown, Option.getD_none]
    | _ => exact absurd ((mem_named_iff _).mpr rfl) known

theorem isCanonical_of_ofValue? {data : Json.Value} {kind : Kind}
    (found : ofValue? data = some kind) : kind.IsCanonical := by
  unfold ofValue? at found
  split at found
  · obtain rfl := Option.some.inj found
    exact isCanonical_ofTag _
  · exact isCanonical_of_named? found
  · cases found

end Kind

end DuplicateLogic
