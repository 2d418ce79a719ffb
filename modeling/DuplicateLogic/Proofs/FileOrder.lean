import DuplicateLogic.Files.Discovery

/-! # The order of files

Paths are compared by their components, which is a total order up to spelling. The collected files
are strictly increasing in it, so two of them never have the same components. -/

namespace DuplicateLogic

instance : Std.TransOrd RawText :=
  inferInstanceAs (Std.TransCmp (compareOn RawText.bytes))

instance : Std.LawfulEqOrd RawText where
  eq_of_compare {first second} same := by
    have bytes : first.bytes = second.bytes := Std.LawfulEqOrd.eq_of_compare same
    exact congrArg RawText.mk bytes

namespace Path

instance : Std.TransOrd Component :=
  inferInstanceAs (Std.TransCmp (compareLex (compareOn Component.rank)
    (compareOn Component.label)))

instance : Std.LawfulEqOrd Component where
  eq_of_compare {first second} same := by
    obtain ⟨rank, label⟩ := compareLex_eq_eq.mp same
    have rank : first.rank = second.rank := Std.LawfulEqOrd.eq_of_compare rank
    have label : first.label = second.label := Std.LawfulEqOrd.eq_of_compare label
    cases first <;> cases second <;> simp_all [Component.rank, Component.label]

instance : Std.TransOrd Path :=
  inferInstanceAs (Std.TransCmp (compareOn components))

theorem compare_eq_iff_same (first second : Path) :
    compare first second = .eq ↔ first.same second = true := by
  rw [same, beq_iff_eq]
  exact Std.LawfulEqOrd.compare_eq_iff_eq (α := List Component)

theorem atMost_trans (first second third : Path) (before : first.atMost second = true)
    (after : second.atMost third = true) : first.atMost third = true :=
  Std.TransCmp.isLE_trans before after

theorem atMost_total (first second : Path) :
    (first.atMost second || second.atMost first) = true := by
  rw [atMost, atMost, Std.OrientedOrd.eq_swap (a := second)]
  cases compare first second <;> rfl

theorem atMost_refl (path : Path) : path.atMost path = true := by
  simpa using atMost_total path path

/-- Whether a path comes strictly before another. -/
def before (first second : Path) : Prop :=
  compare first second = .lt

theorem before_of_atMost {first second : Path} (ordered : first.atMost second = true)
    (different : first.same second = false) : first.before second := by
  have apart : compare first second ≠ .eq := by
    rw [ne_eq, compare_eq_iff_same, different]
    exact Bool.false_ne_true
  unfold atMost at ordered
  unfold before
  cases order : compare first second with
  | lt => rfl
  | eq => exact absurd order apart
  | gt => simp [order] at ordered

theorem atMost_of_before {first second : Path} (ordered : first.before second) :
    first.atMost second = true := by
  rw [atMost, show compare first second = .lt from ordered]
  rfl

end Path

namespace Discovery

theorem mem_of_mem_dropRepeats {files : List Path} {path : Path}
    (known : path ∈ dropRepeats files) : path ∈ files := by
  fun_induction dropRepeats files with
  | case1 => exact known
  | case2 => exact known
  | case3 first second rest same ih =>
      rcases List.mem_cons.mp (ih known) with rfl | later
      · exact List.mem_cons_self
      · exact List.mem_cons_of_mem _ (List.mem_cons_of_mem _ later)
  | case4 first second rest different ih =>
      rcases List.mem_cons.mp known with rfl | later
      · exact List.mem_cons_self
      · exact List.mem_cons_of_mem _ (ih later)

/-- Where no path repeats another there is nothing to drop. -/
theorem dropRepeats_of_pairwise {files : List Path}
    (apart : files.Pairwise fun first second => first.components ≠ second.components) :
    dropRepeats files = files := by
  fun_induction dropRepeats files with
  | case1 => rfl
  | case2 => rfl
  | case3 first second rest same ih =>
      have different := List.rel_of_pairwise_cons apart List.mem_cons_self
      exact absurd (beq_iff_eq.mp same) different
  | case4 first second rest different ih => rw [ih apart.of_cons]

/-- Without repeats, ordered paths are strictly ordered. -/
theorem dropRepeats_sorted {files : List Path}
    (ordered : files.Pairwise fun first second => first.atMost second = true) :
    (dropRepeats files).Pairwise Path.before := by
  fun_induction dropRepeats files with
  | case1 => exact List.Pairwise.nil
  | case2 => exact List.pairwise_singleton _ _
  | case3 first second rest same ih =>
      apply ih
      exact ordered.sublist (List.Sublist.cons_cons first (List.sublist_cons_self second rest))
  | case4 first second rest different ih =>
      obtain ⟨least, ordered⟩ := List.pairwise_cons.mp ordered
      obtain ⟨next, -⟩ := List.pairwise_cons.mp ordered
      have first_second : first.before second :=
        Path.before_of_atMost (least second List.mem_cons_self) (by simpa using different)
      refine List.pairwise_cons.mpr ⟨?_, ih ordered⟩
      intro path known
      rcases List.mem_cons.mp (mem_of_mem_dropRepeats known) with rfl | later
      · exact first_second
      · exact Std.TransCmp.lt_of_lt_of_isLE first_second (next path later)

/-- The collected files are strictly ordered. -/
theorem collect_sorted (system : FileSystem) (excluded : List String) (paths : List Path) :
    (collect system excluded paths).Pairwise Path.before :=
  dropRepeats_sorted (List.pairwise_mergeSort Path.atMost_trans Path.atMost_total _)

end Discovery

end DuplicateLogic
