import TmuxPlan.Proofs.Emit.Fault

/-!
Inheritance can be resolved beforehand. In a flattened session every pane sets its shell, directory
and ssh itself and every window its layout and synchronization, with what the command line asks for
worked in, and nothing is left at the levels around them. Compiling it with no options but the debug
flag is the same computation as compiling the session it came from.
-/

set_option autoImplicit false

namespace TmuxPlan

open PanePlan

/-! ### The flattened session -/

/-- Shows or compiles as before, and asks for nothing else. -/
def CompileOptions.plain (options : CompileOptions) : CompileOptions where
  debug := options.debug

section

variable (session : Session) (options : CompileOptions) (window : Window) (pane : Pane)

/-- Each setting of the innermost level that makes it; absent if no level mentions ssh. -/
def flatSsh : Option Ssh.Fragment :=
  match sshLevels session window pane with
  | [] => none
  | levels => some {
      server := levels.findSome? (·.server)
      user := levels.findSome? (·.user)
      loginOnly := levels.findSome? (·.loginOnly) }

/-- A blank directory is kept as it is: it hides those further out. -/
def flatPane : Pane where
  shell := innermost [pane.shell, options.shell.map fun command => [⟨command, none⟩], window.shell,
    session.shell]
  dir := innermost [pane.dir, options.dir, window.dir, session.dir]
  ssh := flatSsh session window pane

def flatWindow : Window where
  name := window.name
  panes := window.panes.map (flatPane session options window)
  layout := innermost [if options.tiled then some .tiled else none, window.layout, session.layout]
  synchronize := innermost [if options.synchronize then some true else none, window.synchronize,
    session.synchronize, some false]

def flatten : Session where
  name := session.name
  windows := session.windows.map (flatWindow session options)
  focus := session.focus
  interactive := session.interactive

/-! ### The settings of its panes and windows -/

theorem innermost_alone {α : Type} (level : Option α) :
    innermost [level, none, none, none] = level := by
  cases level <;> rfl

theorem flatSsh_eq : flatSsh session window pane =
    Ssh.Fragment.ofLevels [session.ssh, window.ssh, pane.ssh] := by
  rw [Ssh.ofLevels_eq, flatSsh, sshLevels]
  cases Ssh.mentions session.ssh window.ssh pane.ssh with
  | nil => rfl
  | cons level levels => rfl

theorem merge_flat : Ssh.Options.merge none none (flatSsh session window pane) =
    Ssh.Options.merge session.ssh window.ssh pane.ssh := by
  have alone (fragment : Option Ssh.Fragment) :
      Ssh.Fragment.ofLevels [none, none, fragment] = fragment := by
    cases fragment <;> rfl
  rw [Ssh.Options.merge, alone, flatSsh_eq, Ssh.Options.merge]

theorem entriesOf_flat :
    entriesOf (flatten session options) options.plain (flatWindow session options window)
      (flatPane session options window pane) = entriesOf session options window pane := by
  rw [entriesOf_eq, entriesOf_eq, chosenShell, chosenShell]
  exact congrArg (Option.getD · []) (innermost_alone _)

theorem dirOf_flat :
    dirOf (flatten session options) options.plain (flatWindow session options window)
      (flatPane session options window pane) = dirOf session options window pane := by
  rw [dirOf_eq, dirOf_eq, chosenDir, chosenDir]
  exact congrArg (Option.filter (!Text.isBlankText ·)) (innermost_alone _)

theorem ofPane_flat (windowIndex paneIndex : UInt32) :
    ofPane (flatten session options) options.plain (flatWindow session options window)
        (flatPane session options window pane) windowIndex paneIndex =
      ofPane session options window pane windowIndex paneIndex := by
  have merged : Ssh.Options.merge (flatten session options).ssh
      (flatWindow session options window).ssh (flatPane session options window pane).ssh =
        Ssh.Options.merge session.ssh window.ssh pane.ssh := merge_flat session window pane
  unfold ofPane
  rw [merged, entriesOf_flat, dirOf_flat]
  rfl

end

namespace Emit

variable (session : Session) (options : CompileOptions)

theorem synchronizes_flat (window : Window) :
    synchronizes (flatten session options) options.plain (flatWindow session options window) =
      synchronizes session options window := by
  cases asked : options.synchronize with
  | true => simp [synchronizes, flatten, flatWindow, CompileOptions.plain, innermost, asked]
  | false =>
    simp only [synchronizes, flatten, flatWindow, CompileOptions.plain, asked]
    cases window.synchronize <;> cases session.synchronize <;> rfl

theorem layoutOf_flat (window : Window) :
    layoutOf (flatten session options) options.plain (flatWindow session options window) =
      layoutOf session options window := by
  cases asked : options.tiled with
  | true => simp [layoutOf, flatten, flatWindow, CompileOptions.plain, innermost, asked]
  | false =>
    simp only [layoutOf, flatten, flatWindow, CompileOptions.plain, asked]
    cases window.layout <;> cases session.layout <;> rfl

/-! ### The walk -/

/-- Once a pane is planned, the options matter through the debug flag alone. -/
theorem emitEntries_flat (plan : PanePlan) (entries : List (CommandEntry × SplitDirection)) :
    emitEntries (flatten session options) options.plain plan entries =
      emitEntries session options plan entries := by
  cases entries with
  | nil => rfl
  | cons first rest => rfl

theorem emitPane_flat (window : Window) (pane : Pane) :
    emitPane (flatten session options) options.plain (flatWindow session options window)
        (flatPane session options window pane) = emitPane session options window pane := by
  unfold emitPane
  simp only [ofPane_flat, emitEntries_flat]
  rfl

/-- A walk over rewritten items takes the steps of the items themselves. -/
theorem forM_map_eq {α β : Type} {rewrite : α → β} {step : β → Emit Unit} {original : α → Emit Unit}
    (same : ∀ item, step (rewrite item) = original item) (items : List α) :
    (items.map rewrite).forM step = items.forM original := by
  induction items with
  | nil => rfl
  | cons item items inductionHypothesis =>
    change (do step (rewrite item); (items.map rewrite).forM step) =
      (do original item; items.forM original)
    rw [same, inductionHypothesis]

theorem emitWindow_flat (window : Window) :
    emitWindow (flatten session options) options.plain (flatWindow session options window) =
      emitWindow session options window := by
  have panes : (flatWindow session options window).panes.forM
      (emitPane (flatten session options) options.plain (flatWindow session options window)) =
        window.panes.forM (emitPane session options window) :=
    forM_map_eq (emitPane_flat session options window) window.panes
  unfold emitWindow
  rw [synchronizes_flat, layoutOf_flat, panes]
  rfl

/-- Compiling a flattened session is compiling the session it came from: from every walk, with
whatever resolver, both give the same list or the same error, and leave the same commands emitted
and the same probes made. -/
theorem create_flatten :
    create (flatten session options) { debug := options.debug } = create session options := by
  have windows : (flatten session options).windows.forM
      (emitWindow (flatten session options) { debug := options.debug }) =
        session.windows.forM (emitWindow session options) :=
    forM_map_eq (emitWindow_flat session options) session.windows
  unfold create
  rw [windows]
  rfl

end Emit

end TmuxPlan
