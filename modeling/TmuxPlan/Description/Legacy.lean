import TmuxPlan.Description.Basic
import TmuxPlan.Error

/-!
The older spelling of a description: `cmds` for `shell` and `sections` for `panes`. A description is
legacy if any node of it uses the older spelling; bringing it up to date renames the keys in place
and stops at the first node that sets both.
-/

set_option autoImplicit false

namespace TmuxPlan.Description

/-- Which spelling of the keys a description uses. -/
inductive Schema where
  | legacy
  | current
  deriving DecidableEq, Repr

namespace EntrySpec

def isLegacy : EntrySpec → Bool
  | .bare _ => false
  | .structured fields => fields.cmds.isSome

end EntrySpec

namespace ShellSpec

def isLegacy : ShellSpec → Bool
  | .single _ => false
  | .multiple entries => entries.any EntrySpec.isLegacy

end ShellSpec

namespace PaneSpec

def isLegacy : PaneSpec → Bool
  | .structured fields => fields.cmds.isSome || fields.shell.any ShellSpec.isLegacy
  | .list entries => entries.any EntrySpec.isLegacy
  | .bare _ | .other => false

end PaneSpec

namespace PanesSpec

def isLegacy : PanesSpec → Bool
  | .list panes => panes.any PaneSpec.isLegacy
  | .other => false

end PanesSpec

namespace WindowSpec

def isLegacy : WindowSpec → Bool
  | .structured fields =>
    fields.cmds.isSome || fields.sections.isSome || fields.panes.any PanesSpec.isLegacy ||
      fields.shell.any ShellSpec.isLegacy
  | .named _ | .list _ | .other => false

end WindowSpec

namespace SessionSpec

def isLegacy (spec : SessionSpec) : Bool :=
  spec.cmds.isSome || spec.sections.isSome || spec.panes.any PanesSpec.isLegacy ||
    spec.shell.any ShellSpec.isLegacy || spec.windows.any (·.any WindowSpec.isLegacy)

def schema (spec : SessionSpec) : Schema :=
  if spec.isLegacy then .legacy else .current

end SessionSpec

/-- A tree after an attempt to rename its keys, and the key that stopped the attempt if one did. -/
structure Renaming (α : Type) where
  tree : α
  conflict : Option RenamedKey := none
  deriving DecidableEq, Repr

namespace Renaming

variable {α β : Type}

def map (f : α → β) (attempt : Renaming α) : Renaming β :=
  ⟨f attempt.tree, attempt.conflict⟩

def andThen (attempt : Renaming α) (next : α → Renaming α) : Renaming α :=
  match attempt.conflict with
  | none => next attempt.tree
  | some _ => attempt

/-- Renames in the members of a list, from left to right. -/
def each (rename : α → Renaming α) : List α → Renaming (List α)
  | [] => ⟨[], none⟩
  | member :: members =>
    let first := rename member
    match first.conflict with
    | some key => ⟨first.tree :: members, some key⟩
    | none => (each rename members).map (first.tree :: ·)

def optional (rename : α → Renaming α) : Option α → Renaming (Option α)
  | none => ⟨none, none⟩
  | some tree => (rename tree).map some

/-- Moves the value under the older key to the current one. Where both are set the older value is
gone before the conflict is seen. -/
def adopt (key : RenamedKey) : Option α → Option α → Renaming (Option α)
  | current, none => ⟨current, none⟩
  | none, some value => ⟨some value, none⟩
  | some value, some _ => ⟨some value, some key⟩

end Renaming

open Renaming

namespace EntrySpec

def rename : EntrySpec → Renaming EntrySpec
  | .bare command => ⟨.bare command, none⟩
  | .structured fields =>
    (adopt .entryShell fields.shell fields.cmds).map fun shell =>
      .structured { fields with shell, cmds := none }

end EntrySpec

namespace ShellSpec

def rename : ShellSpec → Renaming ShellSpec
  | .single command => ⟨.single command, none⟩
  | .multiple entries => (each EntrySpec.rename entries).map .multiple

end ShellSpec

namespace PaneFields

def rename (fields : PaneFields) : Renaming PaneFields :=
  ((adopt .paneShell fields.shell fields.cmds).map fun shell =>
      { fields with shell, cmds := none }).andThen fun fields =>
    (optional ShellSpec.rename fields.shell).map fun shell => { fields with shell }

end PaneFields

namespace PaneSpec

def rename : PaneSpec → Renaming PaneSpec
  | .structured fields => fields.rename.map .structured
  | .list entries => (each EntrySpec.rename entries).map .list
  | pane => ⟨pane, none⟩

end PaneSpec

namespace PanesSpec

def rename : PanesSpec → Renaming PanesSpec
  | .list panes => (each PaneSpec.rename panes).map .list
  | .other => ⟨.other, none⟩

end PanesSpec

namespace WindowFields

/-- The window's own keys first, then its shell, then its panes. -/
def rename (fields : WindowFields) : Renaming WindowFields :=
  ((((adopt .windowShell fields.shell fields.cmds).map fun shell =>
      { fields with shell, cmds := none }).andThen fun fields =>
    (adopt .windowPanes fields.panes fields.sections).map fun panes =>
      { fields with panes, sections := none }).andThen fun fields =>
    (optional ShellSpec.rename fields.shell).map fun shell =>
      { fields with shell }).andThen fun fields =>
    (optional PanesSpec.rename fields.panes).map fun panes => { fields with panes }

end WindowFields

namespace WindowSpec

def rename : WindowSpec → Renaming WindowSpec
  | .structured fields => fields.rename.map .structured
  | window => ⟨window, none⟩

end WindowSpec

namespace SessionSpec

/-- The session's own keys first, then its shell, its panes and its windows. -/
def rename (spec : SessionSpec) : Renaming SessionSpec :=
  (((((adopt .sessionShell spec.shell spec.cmds).map fun shell =>
      { spec with shell, cmds := none }).andThen fun spec =>
    (adopt .sessionPanes spec.panes spec.sections).map fun panes =>
      { spec with panes, sections := none }).andThen fun spec =>
    (optional ShellSpec.rename spec.shell).map fun shell => { spec with shell }).andThen fun spec =>
    (optional PanesSpec.rename spec.panes).map fun panes => { spec with panes }).andThen fun spec =>
    (optional (each WindowSpec.rename) spec.windows).map fun windows => { spec with windows }

def migrate (spec : SessionSpec) : Except Error SessionSpec :=
  match spec.rename with
  | ⟨tree, none⟩ => .ok tree
  | ⟨_, some key⟩ => .error (.malformed (.bothSpellings key))

end SessionSpec

end TmuxPlan.Description
