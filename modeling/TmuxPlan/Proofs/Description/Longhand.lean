import TmuxPlan.Description.Legacy
import Mathlib.Data.List.Forall2
import Mathlib.Logic.Relation

/-!
Shorthands written out. Every rule puts the long form in the place of a short one. In one round the
rules are used at any set of nodes, also inside a node that is written out itself, and any number of
rounds may follow each other. Writing out adds no older key and no bare window name.
-/

set_option autoImplicit false

namespace TmuxPlan.Description

inductive EntrySpec.WritesOut : EntrySpec → EntrySpec → Prop where
  | kept (spec : EntrySpec) : WritesOut spec spec
  | bare (command : String) : WritesOut (.bare command) (.structured { shell := some command })

/-- An empty list of entries is one empty command. -/
inductive EntriesWriteOut : List EntrySpec → List EntrySpec → Prop where
  | members {short long : List EntrySpec} :
      List.Forall₂ EntrySpec.WritesOut short long → EntriesWriteOut short long
  | empty : EntriesWriteOut [] [.bare ""]

inductive ShellSpec.WritesOut : ShellSpec → ShellSpec → Prop where
  | kept (spec : ShellSpec) : WritesOut spec spec
  | single (command : String) : WritesOut (.single command) (.multiple [.bare command])
  | multiple {short long : List EntrySpec} :
      EntriesWriteOut short long → WritesOut (.multiple short) (.multiple long)

inductive SshSpec.WritesOut : SshSpec → SshSpec → Prop where
  | kept (spec : SshSpec) : WritesOut spec spec
  | server (name : String) : WritesOut (.server name) (.options { server := some name })

inductive PaneSpec.WritesOut : PaneSpec → PaneSpec → Prop where
  | kept (spec : PaneSpec) : WritesOut spec spec
  | bareAsList (command : String) : WritesOut (.bare command) (.list [.bare command])
  | bareAsShell (command : String) :
      WritesOut (.bare command) (.structured { shell := some (.single command) })
  | list {short long : List EntrySpec} :
      EntriesWriteOut short long → WritesOut (.list short) (.list long)
  | listAsShell {short long : List EntrySpec} :
      EntriesWriteOut short long →
      WritesOut (.list short) (.structured { shell := some (.multiple long) })
  | structured (fields : PaneFields) {shell : Option ShellSpec} {ssh : Option SshSpec} :
      Option.Rel ShellSpec.WritesOut fields.shell shell →
      Option.Rel SshSpec.WritesOut fields.ssh ssh →
      WritesOut (.structured fields) (.structured { fields with shell, ssh })

/-- An empty list of panes is none at all. -/
inductive PanesWriteOut : Option PanesSpec → Option PanesSpec → Prop where
  | kept (spec : Option PanesSpec) : PanesWriteOut spec spec
  | members {short long : List PaneSpec} :
      List.Forall₂ PaneSpec.WritesOut short long →
      PanesWriteOut (some (.list short)) (some (.list long))
  | empty : PanesWriteOut (some (.list [])) none

inductive WindowSpec.WritesOut : WindowSpec → WindowSpec → Prop where
  | kept (spec : WindowSpec) : WritesOut spec spec
  | named (name : String) : WritesOut (.named name) (.structured { name := some name })
  | structured (fields : WindowFields) {panes : Option PanesSpec} {shell : Option ShellSpec}
      {ssh : Option SshSpec} :
      PanesWriteOut fields.panes panes →
      Option.Rel ShellSpec.WritesOut fields.shell shell →
      Option.Rel SshSpec.WritesOut fields.ssh ssh →
      WritesOut (.structured fields) (.structured { fields with panes, shell, ssh })

/-- No windows are one window of the default name. -/
inductive WindowsWriteOut : Option (List WindowSpec) → Option (List WindowSpec) → Prop where
  | kept (specs : Option (List WindowSpec)) : WindowsWriteOut specs specs
  | members {short long : List WindowSpec} :
      List.Forall₂ WindowSpec.WritesOut short long → WindowsWriteOut (some short) (some long)
  | absent : WindowsWriteOut none (some [.structured { name := some "ultimux" }])
  | empty : WindowsWriteOut (some []) (some [.structured { name := some "ultimux" }])

/-- One round of writing out. -/
inductive SessionSpec.WritesOut : SessionSpec → SessionSpec → Prop where
  | intro (spec : SessionSpec) {windows : Option (List WindowSpec)} {panes : Option PanesSpec}
      {shell : Option ShellSpec} {ssh : Option SshSpec} :
      WindowsWriteOut spec.windows windows → PanesWriteOut spec.panes panes →
      Option.Rel ShellSpec.WritesOut spec.shell shell →
      Option.Rel SshSpec.WritesOut spec.ssh ssh →
      WritesOut spec { spec with windows, panes, shell, ssh }

/-! ### What writing out leaves alone -/

section

variable {α : Type}

theorem any_eq_of_forall₂ {related : α → α → Prop} {test : α → Bool} {short long : List α}
    (same : List.Forall₂ related short long)
    (each : ∀ x y, related x y → test y = test x) : long.any test = short.any test := by
  induction same with
  | nil => rfl
  | cons head _ inductionHypothesis =>
    rw [List.any_cons, List.any_cons, each _ _ head, inductionHypothesis]

theorem any_eq_of_rel {related : α → α → Prop} {test : α → Bool} {short long : Option α}
    (same : Option.Rel related short long)
    (each : ∀ x y, related x y → test y = test x) : long.any test = short.any test := by
  cases same with
  | none => rfl
  | some related => exact each _ _ related

end

theorem EntrySpec.WritesOut.isLegacy_eq {short long : EntrySpec} (rule : short.WritesOut long) :
    long.isLegacy = short.isLegacy := by
  cases rule <;> rfl

theorem EntriesWriteOut.isLegacy_eq {short long : List EntrySpec}
    (rule : EntriesWriteOut short long) :
    long.any EntrySpec.isLegacy = short.any EntrySpec.isLegacy := by
  cases rule with
  | members same => exact any_eq_of_forall₂ same fun _ _ => EntrySpec.WritesOut.isLegacy_eq
  | empty => rfl

theorem ShellSpec.WritesOut.isLegacy_eq {short long : ShellSpec} (rule : short.WritesOut long) :
    long.isLegacy = short.isLegacy := by
  cases rule with
  | kept spec => rfl
  | single command => rfl
  | multiple entries => exact entries.isLegacy_eq

theorem PaneSpec.WritesOut.isLegacy_eq {short long : PaneSpec} (rule : short.WritesOut long) :
    long.isLegacy = short.isLegacy := by
  cases rule with
  | kept spec => rfl
  | bareAsList command => rfl
  | bareAsShell command => rfl
  | list entries => exact entries.isLegacy_eq
  | listAsShell entries => exact entries.isLegacy_eq
  | structured fields shell ssh =>
    simp only [isLegacy, any_eq_of_rel shell fun _ _ => ShellSpec.WritesOut.isLegacy_eq]

theorem PanesWriteOut.isLegacy_eq {short long : Option PanesSpec}
    (rule : PanesWriteOut short long) :
    long.any PanesSpec.isLegacy = short.any PanesSpec.isLegacy := by
  cases rule with
  | kept spec => rfl
  | members same => exact any_eq_of_forall₂ same fun _ _ => PaneSpec.WritesOut.isLegacy_eq
  | empty => rfl

theorem WindowSpec.WritesOut.isLegacy_eq {short long : WindowSpec} (rule : short.WritesOut long) :
    long.isLegacy = short.isLegacy := by
  cases rule with
  | kept spec => rfl
  | named name => rfl
  | structured fields panes shell ssh =>
    simp only [isLegacy, panes.isLegacy_eq,
      any_eq_of_rel shell fun _ _ => ShellSpec.WritesOut.isLegacy_eq]

theorem WindowsWriteOut.isLegacy_eq {short long : Option (List WindowSpec)}
    (rule : WindowsWriteOut short long) :
    long.any (·.any WindowSpec.isLegacy) = short.any (·.any WindowSpec.isLegacy) := by
  cases rule with
  | kept specs => rfl
  | members same => exact any_eq_of_forall₂ same fun _ _ => WindowSpec.WritesOut.isLegacy_eq
  | absent => rfl
  | empty => rfl

/-- Writing out neither adds nor takes away an older key. -/
theorem SessionSpec.WritesOut.isLegacy_eq {short long : SessionSpec} (rule : short.WritesOut long) :
    long.isLegacy = short.isLegacy := by
  cases rule with
  | intro windows panes shell ssh =>
    simp only [isLegacy, windows.isLegacy_eq, panes.isLegacy_eq,
      any_eq_of_rel shell fun _ _ => ShellSpec.WritesOut.isLegacy_eq]

/-- No window is an empty name and nothing else. -/
def SessionSpec.NamesBareWindows (spec : SessionSpec) : Prop :=
  ∀ window ∈ spec.windows.getD [], window ≠ .named ""

theorem WindowSpec.WritesOut.bears_name {short long : WindowSpec} (rule : short.WritesOut long)
    (named : short ≠ .named "") : long ≠ .named "" := by
  cases rule with
  | kept spec => exact named
  | named name => exact WindowSpec.noConfusion
  | structured fields panes shell ssh => exact WindowSpec.noConfusion

theorem WindowsWriteOut.bear_names {short long : Option (List WindowSpec)}
    (rule : WindowsWriteOut short long) (named : ∀ window ∈ short.getD [], window ≠ .named "") :
    ∀ window ∈ long.getD [], window ≠ .named "" := by
  cases rule with
  | kept specs => exact named
  | absent => simp
  | empty => simp
  | members same =>
    simp only [Option.getD_some] at named ⊢
    induction same with
    | nil => exact named
    | cons head _ inductionHypothesis =>
      obtain ⟨first, later⟩ := List.forall_mem_cons.mp named
      exact List.forall_mem_cons.mpr ⟨head.bears_name first, inductionHypothesis later⟩

theorem SessionSpec.WritesOut.namesBareWindows {short long : SessionSpec}
    (rule : short.WritesOut long) (named : short.NamesBareWindows) : long.NamesBareWindows := by
  cases rule with
  | intro windows panes shell ssh => exact windows.bear_names named

end TmuxPlan.Description
