import TmuxPlan.Config.Load
import TmuxPlan.Proofs.Text.Pieces

/-!
Paths under the home directory. A mark in front of a path puts the home directory before the rest of
it, so that the path leads on from there. But joining keeps an absolute path as it is: where the
rest begins with one more separator, the home directory is lost.
-/

set_option autoImplicit false

namespace TmuxPlan

namespace Path

/-- A path leads on from a base: its parts are those of the base and then those of the rest. -/
structure LeadsOn (base rest path : String) : Prop where
  isAbsolute_eq : isAbsolute path = isAbsolute base
  parts_eq : parts path = parts base ++ parts rest

/-- The root directory, however it is written. -/
def IsRoot (path : String) : Prop :=
  isAbsolute path = true ∧ parts path = []

theorem parts_separated (base rest : String) :
    parts (base ++ "/" ++ rest) = parts base ++ parts rest := by
  simp [parts, Text.cut_eq_splitOn, List.splitOn_append_cons_self]

/-- A separator at the end of the base adds nothing to its parts. -/
theorem parts_append_of_ends {base : String} (ends : base.toList.getLast? = some '/')
    (rest : String) : parts (base ++ rest) = parts base ++ parts rest := by
  obtain ⟨front, shape⟩ := List.getLast?_eq_some_iff.mp ends
  obtain rfl : base = String.ofList front ++ "/" := by
    rw [← String.toList_inj, shape]
    simp
  have ending := parts_separated (String.ofList front) ""
  rw [String.append_empty] at ending
  rw [parts_separated, ending, List.append_assoc]
  rfl

theorem isAbsolute_append {base : String} (nonempty : base ≠ "") (rest : String) :
    isAbsolute (base ++ rest) = isAbsolute base := by
  have filled : base.toList ≠ [] := by simpa using nonempty
  obtain ⟨c, cs, shape⟩ := List.exists_cons_of_ne_nil filled
  simp only [isAbsolute, String.toList_append, shape, List.cons_append, List.head?_cons]

theorem join_leadsOn (base : String) {rest : String} (relative : isAbsolute rest = false) :
    LeadsOn base rest (join base rest) := by
  by_cases empty : base = ""
  · subst empty
    have kept : join "" rest = rest := by simp [join, relative]
    exact ⟨by rw [kept, relative]; rfl, by rw [kept]; rfl⟩
  · by_cases ends : base.toList.getLast? = some '/'
    · have joined : join base rest = base ++ rest := by simp [join, relative, ends]
      rw [joined]
      exact ⟨isAbsolute_append empty _, parts_append_of_ends ends rest⟩
    · have joined : join base rest = base ++ "/" ++ rest := by
        simp [join, relative, ends, empty]
      refine ⟨?_, ?_⟩
      · rw [joined, String.append_assoc, isAbsolute_append empty]
      · rw [joined, parts_separated]

theorem join_of_isAbsolute (base : String) {rest : String} (absolute : isAbsolute rest = true) :
    join base rest = rest := by
  simp [join, absolute]

theorem join_leadsOn_iff {base rest : String} :
    LeadsOn base rest (join base rest) ↔ (isAbsolute rest = true → IsRoot base) := by
  by_cases absolute : isAbsolute rest = true
  · rw [join_of_isAbsolute base absolute]
    simp only [absolute, true_implies]
    constructor
    · rintro ⟨same, parts_eq⟩
      exact ⟨same.symm.trans absolute, List.self_eq_append_left.mp parts_eq⟩
    · rintro ⟨rooted, bare⟩
      exact ⟨absolute.trans rooted.symm, by rw [bare, List.nil_append]⟩
  · simp only [absolute, Bool.false_eq_true, false_implies, iff_true]
    exact join_leadsOn base (by simpa using absolute)

theorem expandHome_marked (home rest : String) :
    expandHome (some home) ("~/" ++ rest) = .ok (join home rest) := by
  have marked : ("~/" ++ rest).toList = '~' :: '/' :: rest.toList := by simp
  simp [expandHome, marked]

theorem expandHome_homeless (rest : String) :
    expandHome none ("~/" ++ rest) = .error .noConfigDir := by
  have marked : ("~/" ++ rest).toList = '~' :: '/' :: rest.toList := by simp
  simp [expandHome, marked]

theorem expandHome_unmarked (home : Option String) {path : String}
    (unmarked : ¬ ∃ rest, path = "~/" ++ rest) : expandHome home path = .ok path := by
  have other {rest : List Char} (shape : path.toList = '~' :: '/' :: rest) : False := by
    refine unmarked ⟨String.ofList rest, ?_⟩
    rw [← String.toList_inj, shape]
    simp
  unfold expandHome
  split
  · exact (other ‹_›).elim
  · exact (other ‹_›).elim
  · rfl

end Path

namespace Config.Places

/-- A config file that is asked for is looked for under the path given, in which the home directory
stands for the mark in front. Such a path leads on from the home directory exactly if its rest is
not absolute or the home directory is the root directory; an absolute rest is taken alone. Only a
marked path needs the home directory to be known. -/
theorem marked_paths_lead_on (places : Places) (files : Files) :
    (∀ path, places.locate files (some path) = Path.expandHome places.home path) ∧
    (∀ path, (¬ ∃ rest, path = "~/" ++ rest) → Path.expandHome places.home path = .ok path) ∧
    (∀ home ∈ places.home, ∀ rest, ∃ path,
      Path.expandHome places.home ("~/" ++ rest) = .ok path ∧
      (Path.LeadsOn home rest path ↔ (Path.isAbsolute rest = true → Path.IsRoot home)) ∧
      (Path.isAbsolute rest = true → path = rest)) ∧
    (places.home = none →
      ∀ rest, Path.expandHome places.home ("~/" ++ rest) = .error .noConfigDir) := by
  refine ⟨?_, ?_, ?_, ?_⟩
  · intro path
    rfl
  · intro path unmarked
    exact Path.expandHome_unmarked places.home unmarked
  · intro home known rest
    rw [known]
    exact ⟨_, Path.expandHome_marked home rest, Path.join_leadsOn_iff,
      Path.join_of_isAbsolute home⟩
  · intro unknown rest
    rw [unknown]
    exact Path.expandHome_homeless rest

/-- A path below the home directory, one without the mark, and one with an absolute rest. -/
theorem marked_paths_lead_on_sessions :
    ∃ places : Places, places.home = some "/home/u" ∧
      (∃ path, Path.expandHome places.home ("~/" ++ "./a/../x.yml") = .ok path ∧
        Path.LeadsOn "/home/u" "./a/../x.yml" path) ∧
      Path.expandHome places.home "./sessions.yml" = .ok "./sessions.yml" ∧
      Path.expandHome places.home ("~/" ++ "/etc/x") = .ok "/etc/x" := by
  let places : Places := { home := some "/home/u" }
  obtain ⟨-, unmarked, marked, -⟩ := marked_paths_lead_on places fun _ => none
  obtain ⟨path, expanded, leads, -⟩ := marked "/home/u" rfl "./a/../x.yml"
  obtain ⟨other, otherExpanded, -, alone⟩ := marked "/home/u" rfl "/etc/x"
  refine ⟨places, rfl, ⟨path, expanded, leads.mpr ?_⟩, unmarked _ ?_, ?_⟩
  · intro absolute
    exact absurd absolute (by decide)
  · rintro ⟨rest, shape⟩
    have first := congrArg (fun text => text.toList.head?) shape
    simp at first
  · rw [otherExpanded, alone (by decide)]

/-- With two separators behind the mark the home directory is left. -/
theorem marked_path_may_leave :
    ∃ (home rest path : String), Path.isAbsolute home = true ∧
      Path.expandHome (some home) ("~/" ++ rest) = .ok path ∧
      ¬ Path.parts home <+: Path.parts path ∧ ¬ Path.LeadsOn home rest path := by
  refine ⟨"/home/u", "/etc/x", _, by decide, Path.expandHome_marked _ _, by decide +kernel, ?_⟩
  rintro ⟨-, parts_eq⟩
  revert parts_eq
  decide +kernel

end Config.Places

end TmuxPlan
