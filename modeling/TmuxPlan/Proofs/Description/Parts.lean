import TmuxPlan.Description.Legacy

/-!
The parts of a description: the session and everything in it that has a spelling or a shape of its
own, wherever it stands, so also below the older keys. A property of all nodes of the tree is one of
the list of its parts.
-/

set_option autoImplicit false

namespace TmuxPlan.Description

inductive Part where
  | session (spec : SessionSpec)
  | window (spec : WindowSpec)
  | panes (spec : PanesSpec)
  | pane (spec : PaneSpec)
  | entry (spec : EntrySpec)
  | ssh (spec : SshSpec)

namespace Part

/-- The part itself uses an older key. -/
def isOlder : Part → Bool
  | .session spec => spec.cmds.isSome || spec.sections.isSome
  | .window (.structured fields) => fields.cmds.isSome || fields.sections.isSome
  | .pane (.structured fields) => fields.cmds.isSome
  | .entry (.structured fields) => fields.cmds.isSome
  | _ => false

/-- The part itself uses a key in both spellings. -/
def isTorn : Part → Bool
  | .session spec =>
    (spec.shell.isSome && spec.cmds.isSome) || (spec.panes.isSome && spec.sections.isSome)
  | .window (.structured fields) =>
    (fields.shell.isSome && fields.cmds.isSome) || (fields.panes.isSome && fields.sections.isSome)
  | .pane (.structured fields) => fields.shell.isSome && fields.cmds.isSome
  | .entry (.structured fields) => fields.shell.isSome && fields.cmds.isSome
  | _ => false

/-- The part has a shape that means nothing, or is an entry without a command. -/
def isUnreadable : Part → Bool
  | .window (.list _) | .window .other | .panes .other | .pane .other | .ssh (.list _) => true
  | .entry (.structured fields) => fields.shell.isNone && fields.cmds.isNone
  | _ => false

end Part

/-- The parts of a value that may be missing. -/
def partsOf {α : Type} (parts : α → List Part) (value : Option α) : List Part :=
  value.toList.flatMap parts

/-- The parts of what stands under the two spellings of a key. -/
def keyParts {α : Type} (parts : α → List Part) (current older : Option α) : List Part :=
  partsOf parts current ++ partsOf parts older

def EntrySpec.parts (spec : EntrySpec) : List Part :=
  [.entry spec]

def ShellSpec.parts : ShellSpec → List Part
  | .single _ => []
  | .multiple entries => entries.flatMap EntrySpec.parts

def SshSpec.parts (spec : SshSpec) : List Part :=
  [.ssh spec]

def PaneSpec.parts : PaneSpec → List Part
  | .bare command => [.pane (.bare command)]
  | .list entries => .pane (.list entries) :: entries.flatMap EntrySpec.parts
  | .structured fields =>
    .pane (.structured fields) ::
      (keyParts ShellSpec.parts fields.shell fields.cmds ++ partsOf SshSpec.parts fields.ssh)
  | .other => [.pane .other]

def PanesSpec.parts : PanesSpec → List Part
  | .list panes => .panes (.list panes) :: panes.flatMap PaneSpec.parts
  | .other => [.panes .other]

def WindowSpec.parts : WindowSpec → List Part
  | .structured fields =>
    .window (.structured fields) ::
      (keyParts ShellSpec.parts fields.shell fields.cmds ++
        (keyParts PanesSpec.parts fields.panes fields.sections ++ partsOf SshSpec.parts fields.ssh))
  | spec => [.window spec]

def SessionSpec.parts (spec : SessionSpec) : List Part :=
  .session spec ::
    (keyParts ShellSpec.parts spec.shell spec.cmds ++
      (keyParts PanesSpec.parts spec.panes spec.sections ++
        (partsOf SshSpec.parts spec.ssh ++
          partsOf (List.flatMap WindowSpec.parts) spec.windows)))

section

variable {α : Type} (parts : α → List Part)

@[simp]
theorem partsOf_none : partsOf parts none = [] := rfl

@[simp]
theorem partsOf_some (value : α) : partsOf parts (some value) = parts value := by
  simp [partsOf]

theorem forall_partsOf {property : Part → Prop} {value : Option α} :
    (∀ part ∈ partsOf parts value, property part) ↔
      ∀ given ∈ value, ∀ part ∈ parts given, property part := by
  cases value <;> simp

theorem forall_keyParts {property : Part → Prop} {current older : Option α} :
    (∀ part ∈ keyParts parts current older, property part) ↔
      (∀ given ∈ current, ∀ part ∈ parts given, property part) ∧
        ∀ given ∈ older, ∀ part ∈ parts given, property part := by
  rw [keyParts, List.forall_mem_append, forall_partsOf, forall_partsOf]

end

/-! ### What uses the older spelling -/

theorem EntrySpec.isLegacy_eq (spec : EntrySpec) : spec.isLegacy = spec.parts.any Part.isOlder := by
  cases spec <;> simp [isLegacy, parts, Part.isOlder]

theorem entries_isLegacy_eq (entries : List EntrySpec) :
    entries.any EntrySpec.isLegacy = (entries.flatMap EntrySpec.parts).any Part.isOlder := by
  simp only [List.any_flatMap, ← EntrySpec.isLegacy_eq]

theorem ShellSpec.isLegacy_eq (spec : ShellSpec) : spec.isLegacy = spec.parts.any Part.isOlder := by
  cases spec with
  | single command => rfl
  | multiple entries => exact entries_isLegacy_eq entries

theorem SshSpec.not_isOlder (ssh : Option SshSpec) :
    (partsOf SshSpec.parts ssh).any Part.isOlder = false := by
  cases ssh <;> simp [parts, Part.isOlder]

/-- Whether a value is searched for older keys does not matter once the key it stands under is
one. -/
theorem keyParts_isOlder {α : Type} {legacy : α → Bool} {parts : α → List Part}
    (atValue : ∀ value, legacy value = (parts value).any Part.isOlder) (current older : Option α) :
    (older.isSome || (keyParts parts current older).any Part.isOlder) =
      (older.isSome || current.any legacy) := by
  cases older <;> cases current <;> simp [keyParts, atValue]

theorem PaneSpec.isLegacy_eq (spec : PaneSpec) : spec.isLegacy = spec.parts.any Part.isOlder := by
  cases spec with
  | bare command => rfl
  | list entries => exact entries_isLegacy_eq entries
  | other => rfl
  | structured fields =>
    have shell := keyParts_isOlder ShellSpec.isLegacy_eq fields.shell fields.cmds
    simpa [isLegacy, parts, Part.isOlder, SshSpec.not_isOlder] using shell.symm

theorem PanesSpec.isLegacy_eq (spec : PanesSpec) : spec.isLegacy = spec.parts.any Part.isOlder := by
  cases spec with
  | other => rfl
  | list panes => simp [isLegacy, parts, Part.isOlder, List.any_flatMap, ← PaneSpec.isLegacy_eq]

theorem WindowSpec.isLegacy_eq (spec : WindowSpec) :
    spec.isLegacy = spec.parts.any Part.isOlder := by
  cases spec with
  | named name => rfl
  | list length => rfl
  | other => rfl
  | structured fields =>
    have shell := keyParts_isOlder ShellSpec.isLegacy_eq fields.shell fields.cmds
    have panes := keyParts_isOlder PanesSpec.isLegacy_eq fields.panes fields.sections
    simp only [isLegacy, parts, List.any_cons, List.any_append, Part.isOlder, SshSpec.not_isOlder]
    grind

/-- The search for older keys misses none of them. -/
theorem SessionSpec.isLegacy_eq (spec : SessionSpec) :
    spec.isLegacy = spec.parts.any Part.isOlder := by
  have shell := keyParts_isOlder ShellSpec.isLegacy_eq spec.shell spec.cmds
  have panes := keyParts_isOlder PanesSpec.isLegacy_eq spec.panes spec.sections
  have windows : spec.windows.any (·.any WindowSpec.isLegacy) =
      (partsOf (List.flatMap WindowSpec.parts) spec.windows).any Part.isOlder := by
    cases spec.windows <;> simp [List.any_flatMap, ← WindowSpec.isLegacy_eq]
  simp only [isLegacy, parts, List.any_cons, List.any_append, Part.isOlder, SshSpec.not_isOlder,
    windows]
  grind

theorem SessionSpec.schema_eq_current_iff (spec : SessionSpec) :
    spec.schema = .current ↔ ∀ part ∈ spec.parts, ¬ part.isOlder := by
  rw [schema, spec.isLegacy_eq]
  simp

end TmuxPlan.Description
