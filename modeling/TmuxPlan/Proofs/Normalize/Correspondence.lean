import TmuxPlan.Proofs.Normalize.Panes
import TmuxPlan.Proofs.Normalize.Reading
import TmuxPlan.Proofs.Normalize.Spelling
import TmuxPlan.Proofs.Session.Addresses

/-!
A canonical session against the description it comes from. Nothing is lost, doubled or reordered:
the nodes stand in the relation of readings to each other. That holds of the migrated description,
and since the relation does not see the spelling of a key it holds of the given one as well.
-/

set_option autoImplicit false

namespace TmuxPlan

open Description

section

variable {α β γ : Type}

/-- Two lists that are both matched with a third one are matched with each other. -/
theorem forall₂_through {first : α → β → Prop} {second : α → γ → Prop} {goal : β → γ → Prop}
    {xs : List α} {ys : List β} {zs : List γ} (left : List.Forall₂ first xs ys)
    (right : List.Forall₂ second xs zs)
    (through : ∀ a b c, first a b → second a c → goal b c) : List.Forall₂ goal ys zs := by
  induction left generalizing zs with
  | nil =>
    cases right
    exact .nil
  | cons head tail inductionHypothesis =>
    cases right with
    | cons other others => exact .cons (through _ _ _ head other) (inductionHypothesis others)

theorem forall₂_ne_nil {related : α → β → Prop} {xs : List α} {ys : List β}
    (matched : List.Forall₂ related xs ys) (nonempty : xs ≠ []) : ys ≠ [] := by
  rintro rfl
  exact nonempty (List.forall₂_nil_right_iff.mp matched)

theorem forall₂_members {related : α → β → Prop} {goal : β → Prop} {xs : List α} {ys : List β}
    (matched : List.Forall₂ related xs ys) (each : ∀ x y, related x y → goal y) :
    ∀ y ∈ ys, goal y := by
  induction matched with
  | nil => nofun
  | cons head _ inductionHypothesis =>
    exact List.forall_mem_cons.mpr ⟨each _ _ head, inductionHypothesis⟩

theorem Description.Respelled.or_eq {value current older : Option α}
    (respelled : Respelled Eq value current older) : current.or older = value := by
  cases respelled with
  | absent => rfl
  | kept same => simp [same]
  | moved same => simp [same]

/-- What is read from a key is read from it in either spelling. -/
theorem Description.Respelled.rel {related : α → β → Prop} {fits : α → γ → Prop}
    {others : β → γ → Prop} {value : Option α} {current older : Option β} {result : Option γ}
    (respelled : Respelled related value current older)
    (through : ∀ a b c, related a b → fits a c → others b c) (read : Option.Rel fits value result) :
    Option.Rel others (current.or older) result := by
  cases respelled with
  | absent =>
    cases read
    exact .none
  | kept same =>
    cases read with
    | some fit => exact .some (through _ _ _ same fit)
  | moved same =>
    cases read with
    | some fit => exact .some (through _ _ _ same fit)

end

namespace Normalize

theorem EntryReading.respelled {spec older : EntrySpec} {entry : CommandEntry}
    (same : spec.Respelling older) (read : EntryReading spec entry) :
    EntryReading older entry := by
  cases same with
  | bare command => exact read
  | structured fields shell =>
    cases read with
    | structured _ command =>
      rw [Option.or_none] at command
      exact .structured fields (shell.or_eq.trans command)

theorem ShellReading.respelled {spec older : ShellSpec} {entries : List CommandEntry}
    (same : spec.Respelling older) (read : ShellReading spec entries) :
    ShellReading older entries := by
  cases same with
  | single command => exact read
  | multiple listed =>
    cases read with
    | empty =>
      cases listed
      exact .empty
    | multiple nonempty fits =>
      exact .multiple (forall₂_ne_nil listed nonempty)
        (forall₂_through listed fits fun _ _ _ => EntryReading.respelled)

theorem PaneReading.respelled {spec older : PaneSpec} {pane : Pane}
    (same : spec.Respelling older) (read : PaneReading spec pane) : PaneReading older pane := by
  cases same with
  | bare command => exact read
  | other => exact read
  | list listed =>
    cases read with
    | list entries => exact .list (entries.respelled (.multiple listed))
  | structured fields shell =>
    cases read with
    | structured _ shellFits sshFits =>
      rw [Option.or_none] at shellFits
      exact .structured fields
        (shell.rel (fun _ _ _ same fits => fits.respelled same) shellFits) sshFits

theorem listedPanes_respelled {value current older : Option PanesSpec}
    (respelled : Respelled PanesSpec.Respelling value current older) :
    List.Forall₂ PaneSpec.Respelling (listedPanes value) (listedPanes (current.or older)) := by
  have atValue : ∀ {spec given : PanesSpec}, spec.Respelling given →
      List.Forall₂ PaneSpec.Respelling (listedPanes (some spec)) (listedPanes (some given)) := by
    intro spec given same
    cases same with
    | list panes => exact panes
    | other => exact .nil
  cases respelled with
  | absent => exact .nil
  | kept same => exact atValue same
  | moved same => exact atValue same

theorem PanesReading.respelled {own shared olderOwn olderShared : List PaneSpec}
    {panes : List Pane} (sameOwn : List.Forall₂ PaneSpec.Respelling own olderOwn)
    (sameShared : List.Forall₂ PaneSpec.Respelling shared olderShared)
    (read : PanesReading own shared panes) : PanesReading olderOwn olderShared panes := by
  cases read with
  | own nonempty fits =>
    exact .own (forall₂_ne_nil sameOwn nonempty)
      (forall₂_through sameOwn fits fun _ _ _ => PaneReading.respelled)
  | shared nonempty fits =>
    cases sameOwn
    exact .shared (forall₂_ne_nil sameShared nonempty)
      (forall₂_through sameShared fits fun _ _ _ => PaneReading.respelled)
  | neither =>
    cases sameOwn
    cases sameShared
    exact .neither

theorem listedWindows_respelled {specs older : Option (List WindowSpec)}
    (same : Option.Rel (List.Forall₂ WindowSpec.Respelling) specs older) :
    List.Forall₂ WindowSpec.Respelling (specs.getD []) (older.getD []) := by
  cases same with
  | none => exact .nil
  | some listed => exact listed

section

variable {shared olderShared : List PaneSpec}

theorem WindowReading.respelled {spec older : WindowSpec} {window : Window}
    (sameShared : List.Forall₂ PaneSpec.Respelling shared olderShared)
    (same : spec.Respelling older) (read : WindowReading shared spec window) :
    WindowReading olderShared older window := by
  cases same with
  | named name =>
    cases read with
    | named _ panes => exact .named name (panes.respelled .nil sameShared)
  | structured fields shell panes =>
    cases read with
    | structured _ named panesFit shellFits sshFits =>
      rw [Option.or_none] at panesFit shellFits
      exact .structured fields named (panesFit.respelled (listedPanes_respelled panes) sameShared)
        (shell.rel (fun _ _ _ same fits => fits.respelled same) shellFits) sshFits
  | list length => cases read
  | other => cases read

theorem WindowsReading.respelled {specs older : List WindowSpec} {windows : List Window}
    (sameShared : List.Forall₂ PaneSpec.Respelling shared olderShared)
    (same : List.Forall₂ WindowSpec.Respelling specs older)
    (read : WindowsReading shared specs windows) : WindowsReading olderShared older windows := by
  cases read with
  | listed nonempty fits =>
    exact .listed (forall₂_ne_nil same nonempty)
      (forall₂_through same fits fun _ _ _ => WindowReading.respelled sameShared)
  | implicit panes =>
    cases same
    exact .implicit (panes.respelled .nil sameShared)

end

theorem SessionReading.respelled {spec older : SessionSpec} {session : Session}
    (same : spec.Respelling older) (read : SessionReading spec session) :
    SessionReading older session := by
  cases same with
  | intro older shell panes windows =>
    have atWindows := read.windows
    have atShell := read.shell
    rw [Option.or_none] at atWindows atShell
    exact {
      windows := atWindows.respelled (listedPanes_respelled panes)
        (listedWindows_respelled windows)
      shell := shell.rel (fun _ _ _ same fits => fits.respelled same) atShell
      dir := read.dir
      ssh := read.ssh
      layout := read.layout
      synchronize := read.synchronize
      interactive := read.interactive
      focus := read.focus }

/-! ### Shells -/

theorem ShellReading.ne_nil {spec : ShellSpec} {entries : List CommandEntry}
    (read : ShellReading spec entries) : entries ≠ [] := by
  cases read with
  | single command => exact List.cons_ne_nil _ _
  | empty => exact List.cons_ne_nil _ _
  | multiple nonempty fits => exact forall₂_ne_nil fits nonempty

theorem optional_shell_ne_nil {spec : Option ShellSpec} {shell : Option (List CommandEntry)}
    (read : Option.Rel ShellReading spec shell) : ∀ entries ∈ shell, entries ≠ [] := by
  cases read with
  | none => nofun
  | some fit =>
    rintro _ ⟨⟩
    exact fit.ne_nil

theorem PaneReading.shell_ne_nil {spec : PaneSpec} {pane : Pane} (read : PaneReading spec pane) :
    ∀ entries ∈ pane.shell, entries ≠ [] := by
  cases read with
  | bare command =>
    rintro _ ⟨⟩
    exact List.cons_ne_nil _ _
  | list fit =>
    rintro _ ⟨⟩
    exact fit.ne_nil
  | structured fields shellFits sshFits => exact optional_shell_ne_nil shellFits

theorem PanesReading.shell_ne_nil {own shared : List PaneSpec} {panes : List Pane}
    (read : PanesReading own shared panes) :
    ∀ pane ∈ panes, ∀ entries ∈ pane.shell, entries ≠ [] := by
  cases read with
  | own _ fits => exact forall₂_members fits fun _ _ => PaneReading.shell_ne_nil
  | shared _ fits => exact forall₂_members fits fun _ _ => PaneReading.shell_ne_nil
  | neither => simp

end Normalize

/-- The shells that the window and its panes set. -/
def Window.shells (window : Window) : List (List CommandEntry) :=
  window.shell.toList ++ window.panes.flatMap fun pane => pane.shell.toList

/-- The shells that are set anywhere in the session. -/
def Session.shells (session : Session) : List (List CommandEntry) :=
  session.shell.toList ++ session.windows.flatMap Window.shells

namespace Normalize

theorem WindowReading.shells_ne_nil {shared : List PaneSpec} {spec : WindowSpec} {window : Window}
    (read : WindowReading shared spec window) : ∀ entries ∈ window.shells, entries ≠ [] := by
  rw [Window.shells, List.forall_mem_append, List.forall_mem_flatMap]
  simp only [Option.mem_toList]
  cases read with
  | named name panes => exact ⟨nofun, panes.shell_ne_nil⟩
  | structured fields named panes shell ssh =>
    exact ⟨optional_shell_ne_nil shell, panes.shell_ne_nil⟩

theorem WindowsReading.shells_ne_nil {shared : List PaneSpec} {specs : List WindowSpec}
    {windows : List Window} (read : WindowsReading shared specs windows) :
    ∀ window ∈ windows, ∀ entries ∈ window.shells, entries ≠ [] := by
  cases read with
  | listed _ fits => exact forall₂_members fits fun _ _ => WindowReading.shells_ne_nil
  | implicit panes =>
    exact List.forall_mem_singleton.mpr (WindowReading.named "ultimux" panes).shells_ne_nil

theorem SessionReading.shells_ne_nil {spec : SessionSpec} {session : Session}
    (read : SessionReading spec session) : ∀ entries ∈ session.shells, entries ≠ [] := by
  rw [Session.shells, List.forall_mem_append, List.forall_mem_flatMap]
  simp only [Option.mem_toList]
  exact ⟨optional_shell_ne_nil read.shell, read.windows.shells_ne_nil⟩

/-- A session that is normalized corresponds to its description, in whatever spelling that is, node
by node and in order. It has a window, every window has a pane, and no shell is without an entry. -/
theorem normalize_corresponds {name : String} {spec : SessionSpec} {session : Session}
    (normalized : normalize name spec = .ok session) :
    session.name.text = name ∧ SessionReading spec session ∧
      session.windows ≠ [] ∧ (∀ window ∈ session.windows, window.panes ≠ []) ∧
      ∀ entries ∈ session.shells, entries ≠ [] := by
  obtain ⟨nonempty, filled⟩ := normalize_filled normalized
  rw [normalize_eq] at normalized
  obtain ⟨usable, named, normalized⟩ := bind_eq_ok.mp normalized
  obtain ⟨tree, migrated, normalized⟩ := bind_eq_ok.mp normalized
  obtain ⟨focused, atFocus, -⟩ := bind_eq_ok.mp normalized
  have same := SessionSpec.migrate_eq_ok_iff.mp migrated
  have settles := current_settles usable same.current atFocus
  rw [normalized] at settles
  obtain ⟨-, sameName, read⟩ := settles
  have read := read.respelled same
  refine ⟨?_, read, nonempty, filled, read.shells_ne_nil⟩
  rw [sameName]
  exact SessionName.text_of_ofText named

/-- A window with an older list of panes of its own, and one that shows the panes of the session. -/
theorem normalize_corresponds_web :
    ∃ (spec : SessionSpec) (session : Session), normalize "web" spec = .ok session ∧
      SessionReading spec session ∧
      session.windows.map (fun window => window.panes.map (·.shell)) =
        [[some [⟨"vim", none⟩], some [⟨"", none⟩]], [some [⟨"make", some "-h"⟩]]] := by
  let spec : SessionSpec := {
    windows := some [
      .structured { sections := some (.list [.bare "vim", .list []]) },
      .named "build"]
    panes := some (.list [.structured {
      cmds := some (.multiple [.structured { shell := some "make", split := some "-h" }]) }]) }
  cases normalized : normalize "web" spec with
  | error cause => cases normalized
  | ok session =>
    refine ⟨spec, session, normalized, (normalize_corresponds normalized).2.1, ?_⟩
    cases normalized
    rfl

end Normalize

end TmuxPlan
