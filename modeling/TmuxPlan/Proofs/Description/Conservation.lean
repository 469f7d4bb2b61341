import TmuxPlan.Proofs.Description.Migration

/-!
What a migration leaves behind, also when it stops half way. Every value of the description is still
there, under its own key or moved to the current one, but for the value under the older key of the
node where the migration stopped: it is taken out before the conflict is seen. The relation lists the
keys under which values were lost, so a migration conserves everything exactly if that list is empty.
-/

set_option autoImplicit false

namespace TmuxPlan.Description

/-! ### What is left of a description -/

section

variable {α : Type}

/-- A value that has no keys of its own stays as it is. -/
inductive Untouched : α → List RenamedKey → α → Prop where
  | same (value : α) : Untouched value [] value

inductive OptionLeaves (leaves : α → List RenamedKey → α → Prop) :
    Option α → List RenamedKey → Option α → Prop where
  | none : OptionLeaves leaves none [] none
  | some {value left : α} {lost : List RenamedKey} :
      leaves value lost left → OptionLeaves leaves (some value) lost (some left)

inductive ListLeaves (leaves : α → List RenamedKey → α → Prop) :
    List α → List RenamedKey → List α → Prop where
  | nil : ListLeaves leaves [] [] []
  | cons {member left : α} {members others : List α} {lost more : List RenamedKey} :
      leaves member lost left → ListLeaves leaves members more others →
      ListLeaves leaves (member :: members) (lost ++ more) (left :: others)

/-- What is left under the two spellings of a key. A value under the older one is still there, as it
was, or has been moved to the current one, unless both were set and it is lost. -/
inductive KeyLeaves (leaves : α → List RenamedKey → α → Prop) (key : RenamedKey)
    (current : Option α) : Option α → List RenamedKey → Option α → Option α → Prop where
  | kept (older : Option α) {left : Option α} {lost : List RenamedKey} :
      OptionLeaves leaves current lost left → KeyLeaves leaves key current older lost left older
  | moved {older left : α} {lost : List RenamedKey} :
      current = none → leaves older lost left →
      KeyLeaves leaves key current (some older) lost (some left) none
  | lost {value left : α} (older : α) {more : List RenamedKey} :
      current = some value → leaves value more left →
      KeyLeaves leaves key current (some older) (key :: more) (some left) none

end

inductive EntrySpec.Leaves : EntrySpec → List RenamedKey → EntrySpec → Prop where
  | bare (command : String) : Leaves (.bare command) [] (.bare command)
  | structured (fields : EntryFields) {shell cmds : Option String} {lost : List RenamedKey} :
      KeyLeaves Untouched .entryShell fields.shell fields.cmds lost shell cmds →
      Leaves (.structured fields) lost (.structured { fields with shell, cmds })

inductive ShellSpec.Leaves : ShellSpec → List RenamedKey → ShellSpec → Prop where
  | single (command : String) : Leaves (.single command) [] (.single command)
  | multiple {entries left : List EntrySpec} {lost : List RenamedKey} :
      ListLeaves EntrySpec.Leaves entries lost left →
      Leaves (.multiple entries) lost (.multiple left)

inductive PaneSpec.Leaves : PaneSpec → List RenamedKey → PaneSpec → Prop where
  | bare (command : String) : Leaves (.bare command) [] (.bare command)
  | list {entries left : List EntrySpec} {lost : List RenamedKey} :
      ListLeaves EntrySpec.Leaves entries lost left → Leaves (.list entries) lost (.list left)
  | structured (fields : PaneFields) {shell cmds : Option ShellSpec} {lost : List RenamedKey} :
      KeyLeaves ShellSpec.Leaves .paneShell fields.shell fields.cmds lost shell cmds →
      Leaves (.structured fields) lost (.structured { fields with shell, cmds })
  | other : Leaves .other [] .other

inductive PanesSpec.Leaves : PanesSpec → List RenamedKey → PanesSpec → Prop where
  | list {panes left : List PaneSpec} {lost : List RenamedKey} :
      ListLeaves PaneSpec.Leaves panes lost left → Leaves (.list panes) lost (.list left)
  | other : Leaves .other [] .other

inductive WindowSpec.Leaves : WindowSpec → List RenamedKey → WindowSpec → Prop where
  | named (name : String) : Leaves (.named name) [] (.named name)
  | list (length : Nat) : Leaves (.list length) [] (.list length)
  | structured (fields : WindowFields) {shell cmds : Option ShellSpec}
      {panes sections : Option PanesSpec} {lost more : List RenamedKey} :
      KeyLeaves ShellSpec.Leaves .windowShell fields.shell fields.cmds lost shell cmds →
      KeyLeaves PanesSpec.Leaves .windowPanes fields.panes fields.sections more panes sections →
      Leaves (.structured fields) (lost ++ more)
        (.structured { fields with shell, cmds, panes, sections })
  | other : Leaves .other [] .other

/-- The second description is what is left of the first one, and no value is lost but one under each
of the listed keys. -/
inductive SessionSpec.Leaves : SessionSpec → List RenamedKey → SessionSpec → Prop where
  | intro (spec : SessionSpec) {shell cmds : Option ShellSpec} {panes sections : Option PanesSpec}
      {windows : Option (List WindowSpec)} {lost more last : List RenamedKey} :
      KeyLeaves ShellSpec.Leaves .sessionShell spec.shell spec.cmds lost shell cmds →
      KeyLeaves PanesSpec.Leaves .sessionPanes spec.panes spec.sections more panes sections →
      OptionLeaves (ListLeaves WindowSpec.Leaves) spec.windows last windows →
      Leaves spec (lost ++ more ++ last) { spec with shell, cmds, panes, sections, windows }

/-! ### Nothing done, nothing lost -/

section

variable {α : Type} {leaves : α → List RenamedKey → α → Prop}

theorem OptionLeaves.refl (same : ∀ value, leaves value [] value) (value : Option α) :
    OptionLeaves leaves value [] value := by
  cases value with
  | none => exact .none
  | some value => exact .some (same value)

theorem ListLeaves.refl (same : ∀ member, leaves member [] member) (members : List α) :
    ListLeaves leaves members [] members := by
  induction members with
  | nil => exact .nil
  | cons member members inductionHypothesis => exact .cons (same member) inductionHypothesis

theorem KeyLeaves.refl (same : ∀ value, leaves value [] value) (key : RenamedKey)
    (current older : Option α) : KeyLeaves leaves key current older [] current older :=
  .kept older (.refl same current)

end

theorem EntrySpec.Leaves.refl (spec : EntrySpec) : spec.Leaves [] spec := by
  cases spec with
  | bare command => exact .bare command
  | structured fields => exact .structured fields (.refl Untouched.same ..)

theorem ShellSpec.Leaves.refl (spec : ShellSpec) : spec.Leaves [] spec := by
  cases spec with
  | single command => exact .single command
  | multiple entries => exact .multiple (.refl EntrySpec.Leaves.refl entries)

theorem PaneSpec.Leaves.refl (spec : PaneSpec) : spec.Leaves [] spec := by
  cases spec with
  | bare command => exact .bare command
  | list entries => exact .list (.refl EntrySpec.Leaves.refl entries)
  | structured fields => exact .structured fields (.refl ShellSpec.Leaves.refl ..)
  | other => exact .other

theorem PanesSpec.Leaves.refl (spec : PanesSpec) : spec.Leaves [] spec := by
  cases spec with
  | list panes => exact .list (.refl PaneSpec.Leaves.refl panes)
  | other => exact .other

theorem WindowSpec.Leaves.refl (spec : WindowSpec) : spec.Leaves [] spec := by
  cases spec with
  | named name => exact .named name
  | list length => exact .list length
  | structured fields =>
    exact .structured fields (.refl ShellSpec.Leaves.refl ..) (.refl PanesSpec.Leaves.refl ..)
  | other => exact .other

theorem windows_leave_refl (windows : Option (List WindowSpec)) :
    OptionLeaves (ListLeaves WindowSpec.Leaves) windows [] windows :=
  .refl (.refl WindowSpec.Leaves.refl) windows

/-! ### What is lost is seen in what is left -/

section

variable {α : Type} {leaves : α → List RenamedKey → α → Prop}

/-- What was there and what is left tell which values were lost. -/
def Telling (leaves : α → List RenamedKey → α → Prop) : Prop :=
  ∀ ⦃value left : α⦄ ⦃lost other : List RenamedKey⦄,
    leaves value lost left → leaves value other left → lost = other

theorem untouched_telling : Telling (Untouched : α → List RenamedKey → α → Prop) := by
  rintro _ _ _ _ ⟨value⟩ ⟨⟩
  rfl

theorem OptionLeaves.telling (inner : Telling leaves) : Telling (OptionLeaves leaves) := by
  intro value left lost other first second
  cases first with
  | none =>
    cases second
    rfl
  | some first =>
    cases second with
    | some second => exact inner first second

theorem ListLeaves.telling (inner : Telling leaves) : Telling (ListLeaves leaves) := by
  intro members left lost other first second
  induction first generalizing other with
  | nil =>
    cases second
    rfl
  | cons first _ inductionHypothesis =>
    cases second with
    | cons second others => rw [inner first second, inductionHypothesis others]

/-- The older key is still set if its value was kept. If it is not, the value was moved or lost, and
was lost exactly if the current key was set before. -/
theorem KeyLeaves.telling (inner : Telling leaves) {key : RenamedKey}
    {current older left rest : Option α} {lost other : List RenamedKey}
    (first : KeyLeaves leaves key current older lost left rest)
    (second : KeyLeaves leaves key current older other left rest) : lost = other := by
  cases first with
  | kept _ first =>
    cases second with
    | kept _ second => exact OptionLeaves.telling inner first second
  | moved absent first =>
    cases second with
    | moved _ second => exact inner first second
    | lost _ given =>
      rw [absent] at given
      cases given
  | lost _ given first =>
    cases second with
    | moved absent =>
      rw [absent] at given
      cases given
    | lost _ again second =>
      rw [given] at again
      cases again
      rw [inner first second]

end

theorem EntrySpec.leaves_telling : Telling EntrySpec.Leaves := by
  intro spec left lost other first second
  cases first with
  | bare =>
    cases second
    rfl
  | structured fields first =>
    cases second with
    | structured _ second => exact first.telling untouched_telling second

theorem ShellSpec.leaves_telling : Telling ShellSpec.Leaves := by
  intro spec left lost other first second
  cases first with
  | single =>
    cases second
    rfl
  | multiple first =>
    cases second with
    | multiple second => exact ListLeaves.telling EntrySpec.leaves_telling first second

theorem PaneSpec.leaves_telling : Telling PaneSpec.Leaves := by
  intro spec left lost other first second
  cases first with
  | bare | other =>
    cases second
    rfl
  | list first =>
    cases second with
    | list second => exact ListLeaves.telling EntrySpec.leaves_telling first second
  | structured fields first =>
    cases second with
    | structured _ second => exact first.telling ShellSpec.leaves_telling second

theorem PanesSpec.leaves_telling : Telling PanesSpec.Leaves := by
  intro spec left lost other first second
  cases first with
  | list first =>
    cases second with
    | list second => exact ListLeaves.telling PaneSpec.leaves_telling first second
  | other =>
    cases second
    rfl

theorem WindowSpec.leaves_telling : Telling WindowSpec.Leaves := by
  intro spec left lost other first second
  cases first with
  | named | list | other =>
    cases second
    rfl
  | structured fields shell panes =>
    cases second with
    | structured _ otherShell otherPanes =>
      rw [shell.telling ShellSpec.leaves_telling otherShell,
        panes.telling PanesSpec.leaves_telling otherPanes]

theorem SessionSpec.leaves_telling : Telling SessionSpec.Leaves := by
  intro spec left lost other first second
  cases first with
  | intro shell panes windows =>
    cases second with
    | intro otherShell otherPanes otherWindows =>
      rw [shell.telling ShellSpec.leaves_telling otherShell,
        panes.telling PanesSpec.leaves_telling otherPanes,
        OptionLeaves.telling (ListLeaves.telling WindowSpec.leaves_telling) windows otherWindows]

/-! ### What a renaming leaves -/

open Renaming

section

variable {α : Type} {leaves : α → List RenamedKey → α → Prop} {rename : α → Renaming α}

theorem optional_leaves
    (renamed : ∀ value, leaves value (rename value).conflict.toList (rename value).tree)
    (value : Option α) :
    OptionLeaves leaves value (optional rename value).conflict.toList
      (optional rename value).tree := by
  cases value with
  | none => exact .none
  | some value => exact .some (renamed value)

/-- The members behind the one that stops it are left as they are. -/
theorem each_leaves
    (renamed : ∀ member, leaves member (rename member).conflict.toList (rename member).tree)
    (same : ∀ member, leaves member [] member) (members : List α) :
    ListLeaves leaves members (each rename members).conflict.toList (each rename members).tree := by
  induction members with
  | nil => exact .nil
  | cons member members inductionHypothesis =>
    have first := renamed member
    cases stopped : (rename member).conflict with
    | some key =>
      rw [stopped] at first
      simpa [each, stopped] using ListLeaves.cons first (.refl same members)
    | none =>
      rw [stopped] at first
      simpa [each, stopped, Renaming.map] using ListLeaves.cons first inductionHypothesis

/-- What is adopted may be renamed itself after that. -/
theorem adopt_leaves {key : RenamedKey} {current older own left : Option α}
    {conflict : Option RenamedKey} {lost : List RenamedKey}
    (adopted : adopt key current older = ⟨own, conflict⟩)
    (renamed : OptionLeaves leaves own lost left) :
    KeyLeaves leaves key current older (conflict.toList ++ lost) left none := by
  cases older with
  | none =>
    cases adopted
    exact .kept none renamed
  | some older =>
    cases current with
    | none =>
      cases adopted
      cases renamed with
      | some renamed => exact .moved rfl renamed
    | some value =>
      cases adopted
      cases renamed with
      | some renamed => exact .lost older rfl renamed

end

theorem EntrySpec.rename_leaves (spec : EntrySpec) :
    spec.Leaves spec.rename.conflict.toList spec.rename.tree := by
  cases spec with
  | bare command => exact .bare command
  | structured fields =>
    have adopted := adopt_leaves (rfl : adopt .entryShell fields.shell fields.cmds = _)
      (.refl Untouched.same _)
    rw [List.append_nil] at adopted
    exact .structured fields adopted

theorem ShellSpec.rename_leaves (spec : ShellSpec) :
    spec.Leaves spec.rename.conflict.toList spec.rename.tree := by
  cases spec with
  | single command => exact .single command
  | multiple entries =>
    exact .multiple (each_leaves EntrySpec.rename_leaves EntrySpec.Leaves.refl entries)

theorem optional_shell_leaves (shell : Option ShellSpec) :
    OptionLeaves ShellSpec.Leaves shell (optional ShellSpec.rename shell).conflict.toList
      (optional ShellSpec.rename shell).tree :=
  optional_leaves ShellSpec.rename_leaves shell

theorem PaneFields.rename_leaves (fields : PaneFields) :
    (PaneSpec.structured fields).Leaves fields.rename.conflict.toList
      (.structured fields.rename.tree) := by
  rcases adopted : adopt .paneShell fields.shell fields.cmds with ⟨own, _ | key⟩
  · simpa [rename, adopted, Renaming.map, andThen] using
      PaneSpec.Leaves.structured fields (adopt_leaves adopted (optional_shell_leaves own))
  · simpa [rename, adopted, Renaming.map, andThen] using
      PaneSpec.Leaves.structured fields (adopt_leaves adopted (.refl ShellSpec.Leaves.refl own))

theorem PaneSpec.rename_leaves (spec : PaneSpec) :
    spec.Leaves spec.rename.conflict.toList spec.rename.tree := by
  cases spec with
  | bare command => exact .bare command
  | list entries =>
    exact .list (each_leaves EntrySpec.rename_leaves EntrySpec.Leaves.refl entries)
  | structured fields => exact fields.rename_leaves
  | other => exact .other

theorem PanesSpec.rename_leaves (spec : PanesSpec) :
    spec.Leaves spec.rename.conflict.toList spec.rename.tree := by
  cases spec with
  | list panes => exact .list (each_leaves PaneSpec.rename_leaves PaneSpec.Leaves.refl panes)
  | other => exact .other

theorem optional_panes_leaves (panes : Option PanesSpec) :
    OptionLeaves PanesSpec.Leaves panes (optional PanesSpec.rename panes).conflict.toList
      (optional PanesSpec.rename panes).tree :=
  optional_leaves PanesSpec.rename_leaves panes

/-- One case for each place where the renaming of a window may stop; what comes after that place is
left as it is. -/
theorem WindowFields.rename_leaves (fields : WindowFields) :
    (WindowSpec.structured fields).Leaves fields.rename.conflict.toList
      (.structured fields.rename.tree) := by
  rcases shell : adopt .windowShell fields.shell fields.cmds with ⟨ownShell, _ | key⟩
  case some =>
    simpa [rename, shell, Renaming.map, andThen] using
      WindowSpec.Leaves.structured fields (adopt_leaves shell (.refl ShellSpec.Leaves.refl ownShell))
        (.refl PanesSpec.Leaves.refl ..)
  rcases panes : adopt .windowPanes fields.panes fields.sections with ⟨ownPanes, _ | key⟩
  case some =>
    simpa [rename, shell, panes, Renaming.map, andThen] using
      WindowSpec.Leaves.structured fields (adopt_leaves shell (.refl ShellSpec.Leaves.refl ownShell))
        (adopt_leaves panes (.refl PanesSpec.Leaves.refl ownPanes))
  have inShell := optional_shell_leaves ownShell
  rcases stopped : optional ShellSpec.rename ownShell with ⟨newShell, _ | key⟩
  case some =>
    rw [stopped] at inShell
    simpa [rename, shell, panes, stopped, Renaming.map, andThen] using
      WindowSpec.Leaves.structured fields (adopt_leaves shell inShell)
        (adopt_leaves panes (.refl PanesSpec.Leaves.refl ownPanes))
  rw [stopped] at inShell
  simpa [rename, shell, panes, stopped, Renaming.map, andThen] using
    WindowSpec.Leaves.structured fields (adopt_leaves shell inShell)
      (adopt_leaves panes (optional_panes_leaves ownPanes))

theorem WindowSpec.rename_leaves (spec : WindowSpec) :
    spec.Leaves spec.rename.conflict.toList spec.rename.tree := by
  cases spec with
  | named name => exact .named name
  | list length => exact .list length
  | structured fields => exact fields.rename_leaves
  | other => exact .other

theorem optional_windows_leave (windows : Option (List WindowSpec)) :
    OptionLeaves (ListLeaves WindowSpec.Leaves) windows
      (optional (each WindowSpec.rename) windows).conflict.toList
      (optional (each WindowSpec.rename) windows).tree :=
  optional_leaves (each_leaves WindowSpec.rename_leaves WindowSpec.Leaves.refl) windows

theorem SessionSpec.rename_leaves (spec : SessionSpec) :
    spec.Leaves spec.rename.conflict.toList spec.rename.tree := by
  rcases shell : adopt .sessionShell spec.shell spec.cmds with ⟨ownShell, _ | key⟩
  case some =>
    simpa [rename, shell, Renaming.map, andThen] using
      SessionSpec.Leaves.intro spec (adopt_leaves shell (.refl ShellSpec.Leaves.refl ownShell))
        (.refl PanesSpec.Leaves.refl ..) (windows_leave_refl spec.windows)
  rcases panes : adopt .sessionPanes spec.panes spec.sections with ⟨ownPanes, _ | key⟩
  case some =>
    simpa [rename, shell, panes, Renaming.map, andThen] using
      SessionSpec.Leaves.intro spec (adopt_leaves shell (.refl ShellSpec.Leaves.refl ownShell))
        (adopt_leaves panes (.refl PanesSpec.Leaves.refl ownPanes)) (windows_leave_refl spec.windows)
  have inShell := optional_shell_leaves ownShell
  rcases shellStopped : optional ShellSpec.rename ownShell with ⟨newShell, _ | key⟩
  case some =>
    rw [shellStopped] at inShell
    simpa [rename, shell, panes, shellStopped, Renaming.map, andThen] using
      SessionSpec.Leaves.intro spec (adopt_leaves shell inShell)
        (adopt_leaves panes (.refl PanesSpec.Leaves.refl ownPanes)) (windows_leave_refl spec.windows)
  rw [shellStopped] at inShell
  have inPanes := optional_panes_leaves ownPanes
  rcases panesStopped : optional PanesSpec.rename ownPanes with ⟨newPanes, _ | key⟩
  case some =>
    rw [panesStopped] at inPanes
    simpa [rename, shell, panes, shellStopped, panesStopped, Renaming.map, andThen] using
      SessionSpec.Leaves.intro spec (adopt_leaves shell inShell) (adopt_leaves panes inPanes)
        (windows_leave_refl spec.windows)
  rw [panesStopped] at inPanes
  simpa [rename, shell, panes, shellStopped, panesStopped, Renaming.map, andThen] using
    SessionSpec.Leaves.intro spec (adopt_leaves shell inShell) (adopt_leaves panes inPanes)
      (optional_windows_leave spec.windows)

/-! ### What a migration leaves -/

/-- A migration that succeeds conserves every value of the description, and one that fails has lost
exactly one: that under the older key of the node where it stopped. So the next one fails only if
another node sets a key in both spellings. -/
theorem SessionSpec.failed_migration_loses_one (spec : SessionSpec) :
    (match spec.migrate with
      | .ok tree => tree = spec.rename.tree ∧ ∀ lost, spec.Leaves lost tree ↔ lost = []
      | .error failure => ∃ key, failure = .malformed (.bothSpellings key) ∧
          ∀ lost, spec.Leaves lost spec.rename.tree ↔ lost = [key]) ∧
      ((∃ tree, spec.rename.tree.migrate = .ok tree) ↔
        ∀ part ∈ spec.rename.tree.parts, ¬ part.isTorn) := by
  have account (lost : List RenamedKey) :
      spec.Leaves lost spec.rename.tree ↔ lost = spec.rename.conflict.toList := by
    constructor
    · intro leaves
      exact leaves_telling leaves spec.rename_leaves
    · rintro rfl
      exact spec.rename_leaves
  constructor
  · rw [migrate]
    rcases renamed : spec.rename with ⟨tree, _ | key⟩
    · rw [renamed] at account
      exact ⟨rfl, account⟩
    · rw [renamed] at account
      exact ⟨key, rfl, account⟩
  · simp only [migrate_eq_ok_iff, exists_respelling_iff]

/-- With both spellings of a key at the session itself, the older value is gone after the failure and
the next migration succeeds. -/
theorem SessionSpec.migration_may_lose :
    let spec : SessionSpec := { shell := some (.single "ls"), cmds := some (.single "pwd") }
    let left : SessionSpec := { shell := some (.single "ls") }
    spec.migrate = .error (.malformed (.bothSpellings .sessionShell)) ∧
      spec.rename.tree = left ∧ ¬ spec.Leaves [] left ∧ left.migrate = .ok left := by
  refine ⟨rfl, rfl, ?_, rfl⟩
  intro conserved
  cases leaves_telling conserved (rename_leaves _)

end TmuxPlan.Description
