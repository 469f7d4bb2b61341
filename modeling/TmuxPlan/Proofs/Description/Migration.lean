import TmuxPlan.Proofs.Description.Respelling

/-!
Bringing a description up to date. The renaming of its keys goes through with a tree exactly if the
description is a respelling of that tree, so everything about a successful migration is read off the
relation between the two spellings.
-/

set_option autoImplicit false

namespace TmuxPlan.Description

/-! ### Renaming and respelling -/

namespace Renaming

variable {α β : Type}

theorem map_eq_done {f : α → β} {attempt : Renaming α} {tree : β} :
    attempt.map f = ⟨tree, none⟩ ↔ ∃ inner, attempt = ⟨inner, none⟩ ∧ f inner = tree := by
  obtain ⟨inner, conflict⟩ := attempt
  simp only [map, Renaming.mk.injEq]
  constructor
  · rintro ⟨rfl, rfl⟩
    exact ⟨inner, ⟨rfl, rfl⟩, rfl⟩
  · rintro ⟨_, ⟨rfl, rfl⟩, rfl⟩
    exact ⟨rfl, rfl⟩

theorem andThen_eq_done {attempt : Renaming α} {next : α → Renaming α} {tree : α} :
    attempt.andThen next = ⟨tree, none⟩ ↔
      ∃ middle, attempt = ⟨middle, none⟩ ∧ next middle = ⟨tree, none⟩ := by
  obtain ⟨middle, conflict⟩ := attempt
  cases conflict <;> simp [andThen]

theorem each_eq_done {rename : α → Renaming α} {specs trees : List α} :
    each rename specs = ⟨trees, none⟩ ↔
      List.Forall₂ (fun tree spec => rename spec = ⟨tree, none⟩) trees specs := by
  induction specs generalizing trees with
  | nil => simp [each, eq_comm]
  | cons spec specs inductionHypothesis =>
    rw [List.forall₂_cons_right_iff]
    simp only [each]
    cases renamed : rename spec with
    | mk tree conflict =>
      cases conflict with
      | some key => simp
      | none =>
        simp only [map_eq_done, inductionHypothesis, Renaming.mk.injEq, and_true]
        constructor
        · rintro ⟨rest, others, rfl⟩
          exact ⟨tree, rest, rfl, others, rfl⟩
        · rintro ⟨_, rest, rfl, others, rfl⟩
          exact ⟨rest, others, rfl⟩

theorem optional_eq_done {rename : α → Renaming α} {spec tree : Option α} :
    optional rename spec = ⟨tree, none⟩ ↔
      Option.Rel (fun tree spec => rename spec = ⟨tree, none⟩) tree spec := by
  cases spec with
  | none =>
    constructor
    · intro done
      cases done
      exact .none
    · intro absent
      cases absent
      rfl
  | some spec =>
    rw [optional, map_eq_done]
    constructor
    · rintro ⟨inner, renamed, rfl⟩
      exact .some renamed
    · intro present
      cases present with
      | some renamed => exact ⟨_, renamed, rfl⟩

theorem adopt_eq_done {key : RenamedKey} {current older value : Option α} :
    adopt key current older = ⟨value, none⟩ ↔ Respelled Eq value current older := by
  constructor
  · intro adopted
    cases older with
    | none =>
      cases adopted
      cases current with
      | none => exact .absent
      | some given => exact .kept rfl
    | some given =>
      cases current with
      | none =>
        cases adopted
        exact .moved rfl
      | some other => cases adopted
  · intro respelled
    cases respelled with
    | absent => rfl
    | kept same =>
      cases same
      rfl
    | moved same =>
      cases same
      rfl

end Renaming

/-- What is adopted and then renamed itself is a respelling of the result. -/
theorem respelled_iff {α : Type} {related : α → α → Prop} {value current older : Option α} :
    Respelled related value current older ↔
      ∃ adopted, Respelled Eq adopted current older ∧ Option.Rel related value adopted := by
  constructor
  · intro respelled
    cases respelled with
    | absent => exact ⟨none, .absent, .none⟩
    | kept same => exact ⟨_, .kept rfl, .some same⟩
    | moved same => exact ⟨_, .moved rfl, .some same⟩
  · rintro ⟨adopted, respelled, same⟩
    cases respelled with
    | absent =>
      cases same
      exact .absent
    | kept equal =>
      cases equal
      cases same with
      | some same => exact .kept same
    | moved equal =>
      cases equal
      cases same with
      | some same => exact .moved same

open Renaming

theorem EntrySpec.rename_eq_done {spec tree : EntrySpec} :
    spec.rename = ⟨tree, none⟩ ↔ tree.Respelling spec := by
  constructor
  · intro done
    cases spec with
    | bare command =>
      cases done
      exact .bare command
    | structured fields =>
      rw [rename, map_eq_done] at done
      obtain ⟨shell, adopted, rfl⟩ := done
      exact .structured fields (adopt_eq_done.mp adopted)
  · intro same
    cases same with
    | bare command => rfl
    | structured fields shell =>
      rw [rename, map_eq_done]
      exact ⟨_, adopt_eq_done.mpr shell, rfl⟩

theorem each_entry_eq_done {entries trees : List EntrySpec} :
    each EntrySpec.rename entries = ⟨trees, none⟩ ↔
      List.Forall₂ EntrySpec.Respelling trees entries := by
  simp only [each_eq_done, EntrySpec.rename_eq_done]

theorem ShellSpec.rename_eq_done {spec tree : ShellSpec} :
    spec.rename = ⟨tree, none⟩ ↔ tree.Respelling spec := by
  constructor
  · intro done
    cases spec with
    | single command =>
      cases done
      exact .single command
    | multiple entries =>
      rw [rename, map_eq_done] at done
      obtain ⟨trees, renamed, rfl⟩ := done
      exact .multiple (each_entry_eq_done.mp renamed)
  · intro same
    cases same with
    | single command => rfl
    | multiple entries =>
      rw [rename, map_eq_done]
      exact ⟨_, each_entry_eq_done.mpr entries, rfl⟩

theorem optional_shell_eq_done {shell tree : Option ShellSpec} :
    optional ShellSpec.rename shell = ⟨tree, none⟩ ↔
      Option.Rel ShellSpec.Respelling tree shell := by
  simp only [optional_eq_done, ShellSpec.rename_eq_done]

theorem PaneFields.rename_eq_done {fields tree : PaneFields} :
    fields.rename = ⟨tree, none⟩ ↔
      (PaneSpec.structured tree).Respelling (.structured fields) := by
  simp only [rename, andThen_eq_done, map_eq_done, adopt_eq_done, optional_shell_eq_done]
  constructor
  · rintro ⟨_, ⟨adopted, shell, rfl⟩, value, renamed, rfl⟩
    exact .structured fields (respelled_iff.mpr ⟨adopted, shell, renamed⟩)
  · intro same
    cases same with
    | structured fields shell =>
      obtain ⟨adopted, shell, renamed⟩ := respelled_iff.mp shell
      exact ⟨_, ⟨adopted, shell, rfl⟩, _, renamed, rfl⟩

theorem PaneSpec.rename_eq_done {spec tree : PaneSpec} :
    spec.rename = ⟨tree, none⟩ ↔ tree.Respelling spec := by
  constructor
  · intro done
    cases spec with
    | bare command =>
      cases done
      exact .bare command
    | list entries =>
      rw [rename, map_eq_done] at done
      obtain ⟨trees, renamed, rfl⟩ := done
      exact .list (each_entry_eq_done.mp renamed)
    | structured fields =>
      rw [rename, map_eq_done] at done
      obtain ⟨renamed, done, rfl⟩ := done
      exact PaneFields.rename_eq_done.mp done
    | other =>
      cases done
      exact .other
  · intro same
    cases same with
    | bare command => rfl
    | list entries =>
      rw [rename, map_eq_done]
      exact ⟨_, each_entry_eq_done.mpr entries, rfl⟩
    | structured fields shell =>
      rw [rename, map_eq_done]
      exact ⟨_, PaneFields.rename_eq_done.mpr (.structured fields shell), rfl⟩
    | other => rfl

theorem each_pane_eq_done {panes trees : List PaneSpec} :
    each PaneSpec.rename panes = ⟨trees, none⟩ ↔ List.Forall₂ PaneSpec.Respelling trees panes := by
  simp only [each_eq_done, PaneSpec.rename_eq_done]

theorem PanesSpec.rename_eq_done {spec tree : PanesSpec} :
    spec.rename = ⟨tree, none⟩ ↔ tree.Respelling spec := by
  constructor
  · intro done
    cases spec with
    | list panes =>
      rw [rename, map_eq_done] at done
      obtain ⟨trees, renamed, rfl⟩ := done
      exact .list (each_pane_eq_done.mp renamed)
    | other =>
      cases done
      exact .other
  · intro same
    cases same with
    | list panes =>
      rw [rename, map_eq_done]
      exact ⟨_, each_pane_eq_done.mpr panes, rfl⟩
    | other => rfl

theorem optional_panes_eq_done {panes tree : Option PanesSpec} :
    optional PanesSpec.rename panes = ⟨tree, none⟩ ↔
      Option.Rel PanesSpec.Respelling tree panes := by
  simp only [optional_eq_done, PanesSpec.rename_eq_done]

theorem WindowFields.rename_eq_done {fields tree : WindowFields} :
    fields.rename = ⟨tree, none⟩ ↔
      (WindowSpec.structured tree).Respelling (.structured fields) := by
  simp only [rename, andThen_eq_done, map_eq_done, adopt_eq_done, optional_shell_eq_done,
    optional_panes_eq_done]
  constructor
  · rintro ⟨_, ⟨_, ⟨_, ⟨ownShell, shell, rfl⟩, ownPanes, panes, rfl⟩, _, newShell, rfl⟩, _, newPanes,
      rfl⟩
    exact .structured fields (respelled_iff.mpr ⟨ownShell, shell, newShell⟩)
      (respelled_iff.mpr ⟨ownPanes, panes, newPanes⟩)
  · intro same
    cases same with
    | structured fields shell panes =>
      obtain ⟨ownShell, shell, newShell⟩ := respelled_iff.mp shell
      obtain ⟨ownPanes, panes, newPanes⟩ := respelled_iff.mp panes
      exact ⟨_, ⟨_, ⟨_, ⟨ownShell, shell, rfl⟩, ownPanes, panes, rfl⟩, _, newShell, rfl⟩, _,
        newPanes, rfl⟩

theorem WindowSpec.rename_eq_done {spec tree : WindowSpec} :
    spec.rename = ⟨tree, none⟩ ↔ tree.Respelling spec := by
  constructor
  · intro done
    cases spec with
    | named name =>
      cases done
      exact .named name
    | list length =>
      cases done
      exact .list length
    | structured fields =>
      rw [rename, map_eq_done] at done
      obtain ⟨renamed, done, rfl⟩ := done
      exact WindowFields.rename_eq_done.mp done
    | other =>
      cases done
      exact .other
  · intro same
    cases same with
    | named name => rfl
    | list length => rfl
    | structured fields shell panes =>
      rw [rename, map_eq_done]
      exact ⟨_, WindowFields.rename_eq_done.mpr (.structured fields shell panes), rfl⟩
    | other => rfl

theorem optional_windows_eq_done {windows tree : Option (List WindowSpec)} :
    optional (each WindowSpec.rename) windows = ⟨tree, none⟩ ↔
      Option.Rel (List.Forall₂ WindowSpec.Respelling) tree windows := by
  simp only [optional_eq_done, each_eq_done, WindowSpec.rename_eq_done]

theorem SessionSpec.rename_eq_done {spec tree : SessionSpec} :
    spec.rename = ⟨tree, none⟩ ↔ tree.Respelling spec := by
  simp only [rename, andThen_eq_done, map_eq_done, adopt_eq_done, optional_shell_eq_done,
    optional_panes_eq_done, optional_windows_eq_done]
  constructor
  · rintro ⟨_, ⟨_, ⟨_, ⟨_, ⟨ownShell, shell, rfl⟩, ownPanes, panes, rfl⟩, _, newShell, rfl⟩, _,
      newPanes, rfl⟩, _, windows, rfl⟩
    exact .intro spec (respelled_iff.mpr ⟨ownShell, shell, newShell⟩)
      (respelled_iff.mpr ⟨ownPanes, panes, newPanes⟩) windows
  · intro same
    cases same with
    | intro spec shell panes windows =>
      obtain ⟨ownShell, shell, newShell⟩ := respelled_iff.mp shell
      obtain ⟨ownPanes, panes, newPanes⟩ := respelled_iff.mp panes
      exact ⟨_, ⟨_, ⟨_, ⟨_, ⟨ownShell, shell, rfl⟩, ownPanes, panes, rfl⟩, _, newShell, rfl⟩, _,
        newPanes, rfl⟩, _, windows, rfl⟩

/-- Migration gives the tree of which the description is a respelling, and fails if there is
none. -/
theorem SessionSpec.migrate_eq_ok_iff {spec tree : SessionSpec} :
    spec.migrate = .ok tree ↔ tree.Respelling spec := by
  rw [← rename_eq_done, migrate]
  obtain ⟨renamed, conflict⟩ := spec.rename
  cases conflict <;> simp

end TmuxPlan.Description
