import TmuxPlan.Normalize
import TmuxPlan.Proofs.Description.Migration

/-!
The older spelling is invisible. Looking for older keys first only saves a migration that would
change nothing, so every description is normalized as what it migrates to, and two spellings of one
description migrate to the same.
-/

set_option autoImplicit false

namespace TmuxPlan

open Description

theorem Description.SessionSpec.migrate_of_current {spec : SessionSpec}
    (current : ∀ part ∈ spec.parts, ¬ part.isOlder) : spec.migrate = .ok spec :=
  SessionSpec.migrate_eq_ok_iff.mpr (SessionSpec.respelling_self current)

theorem Description.SessionSpec.migrate_respelling {spec older : SessionSpec}
    (same : spec.Respelling older) : older.migrate = spec.migrate := by
  rw [SessionSpec.migrate_eq_ok_iff.mpr same, SessionSpec.migrate_of_current same.current]

namespace Normalize

theorem normalize_eq (name : String) (spec : SessionSpec) :
    normalize name spec =
      (SessionName.ofText name >>= fun name => spec.migrate >>= current name) := by
  cases older : spec.isLegacy with
  | true => simp [normalize, older]
  | false =>
    have upToDate : spec.schema = .current := by simp [SessionSpec.schema, older]
    rw [SessionSpec.migrate_of_current (spec.schema_eq_current_iff.mp upToDate)]
    simp [normalize, older, bind, Except.bind]

/-- Two spellings of one description are normalized alike, whatever nodes differ. A description is
current if no part of it uses an older key, and then migrating it changes nothing. Migration
succeeds unless a part sets a key in both spellings, and leaves a current description, which
migrates to itself. -/
theorem legacy_spelling_invisible (spec : SessionSpec) :
    (∀ older : SessionSpec, spec.Respelling older →
      ∀ name, normalize name older = normalize name spec) ∧
    (spec.schema = .current ↔ ∀ part ∈ spec.parts, ¬ part.isOlder) ∧
    (spec.schema = .current → spec.migrate = .ok spec) ∧
    ((∃ tree, spec.migrate = .ok tree) ↔ ∀ part ∈ spec.parts, ¬ part.isTorn) ∧
    (∀ tree, spec.migrate = .ok tree → tree.schema = .current ∧ tree.migrate = .ok tree) := by
  refine ⟨?_, spec.schema_eq_current_iff, ?_, ?_, ?_⟩
  · intro older same name
    rw [normalize_eq, normalize_eq, SessionSpec.migrate_respelling same]
  · intro upToDate
    exact SessionSpec.migrate_of_current (spec.schema_eq_current_iff.mp upToDate)
  · simp only [SessionSpec.migrate_eq_ok_iff]
    exact spec.exists_respelling_iff
  · intro tree migrated
    have same := SessionSpec.migrate_eq_ok_iff.mp migrated
    exact ⟨tree.schema_eq_current_iff.mpr same.current, SessionSpec.migrate_of_current same.current⟩

/-- A session whose list of panes, shell and entry are all moved to the older keys. -/
theorem legacy_spelling_invisible_make :
    ∃ spec older : SessionSpec, spec.Respelling older ∧ older.schema = .legacy ∧
      normalize "old" older = normalize "old" spec := by
  let spec : SessionSpec := {
    panes := some (.list [.structured {
      shell := some (.multiple [.bare "make",
        .structured { shell := some "make test", split := some "-v" }]) }]) }
  let older : SessionSpec := {
    sections := some (.list [.structured {
      cmds := some (.multiple [.bare "make",
        .structured { cmds := some "make test", split := some "-v" }]) }]) }
  have entries := List.Forall₂.cons (EntrySpec.Respelling.bare "make") (.cons
    (.structured { cmds := some "make test", split := some "-v" } (.moved rfl)) .nil)
  have pane : PaneSpec.Respelling _ (.structured _) :=
    .structured { cmds := some (.multiple _) } (.moved (.multiple entries))
  have same : spec.Respelling older :=
    .intro older .absent (.moved (.list (.cons pane .nil))) .none
  exact ⟨spec, older, same, rfl, (legacy_spelling_invisible spec).1 older same "old"⟩

end Normalize

end TmuxPlan
