import TmuxPlan.Session.Basic
import TmuxPlan.Ssh.Resolver

/-!
Compiling a session into the ordered list of tmux commands that builds it.

Windows are numbered from 0. Panes are numbered from 0 in every window and count the tmux panes that
exist, so a pane with three command entries takes three numbers. A pane is planned as a whole
before anything is emitted for it, and what was emitted stays in the walk when an error stops it.
-/

set_option autoImplicit false

namespace TmuxPlan

/-- What the command line asks for on top of the session. -/
structure CompileOptions where
  /-- Show only: what is typed is commented out. -/
  debug : Bool := false
  synchronize : Bool := false
  tiled : Bool := false
  shell : Option String := none
  dir : Option String := none
  deriving DecidableEq, Repr

structure Walk where
  commands : List Command := []
  window : UInt32 := 0
  pane : UInt32 := 0
  resolver : Ssh.Resolver

abbrev Emit := EStateM Error Walk

/-- Everything a pane needs, resolved before anything is emitted for it. -/
structure PanePlan where
  entries : List (CommandEntry × SplitDirection)
  dir : Option String
  ssh : Option Ssh.Options
  deriving DecidableEq

namespace PanePlan

/-- The directory of a pane: its own, the command line's, the window's or the session's. A blank
one counts as none, also when a level further out sets another. -/
def dirOf (session : Session) (options : CompileOptions) (window : Window) (pane : Pane) :
    Option String :=
  (pane.dir <|> options.dir <|> window.dir <|> session.dir).filter (!Text.isBlankText ·)

/-- The entries of a pane: its own, the command line's, the window's or the session's. -/
def entriesOf (session : Session) (options : CompileOptions) (window : Window) (pane : Pane) :
    List CommandEntry :=
  let asked : Option (List CommandEntry) := options.shell.map fun command => [⟨command, none⟩]
  (pane.shell <|> asked <|> window.shell <|> session.shell).getD []

def ofPane (session : Session) (options : CompileOptions) (window : Window) (pane : Pane)
    (windowIndex paneIndex : UInt32) : Except Error PanePlan := do
  let ssh ← Ssh.Options.merge session.ssh window.ssh pane.ssh
  let dir := dirOf session options window pane
  let entries ← match entriesOf session options window pane with
    | [] =>
      if ssh.isSome || dir.isSome then .ok [⟨"", none⟩]
      else .error (.malformed (.idlePane session.name.text windowIndex paneIndex window.name))
    | entries => .ok entries
  let planned ← entries.mapM fun entry => do return (entry, ← entry.direction)
  return ⟨planned, dir, ssh⟩

/-- The text of an entry before ssh is put around it. -/
def located (plan : PanePlan) (entry : CommandEntry) : String :=
  match plan.dir with
  | none => entry.command
  | some dir =>
    if Text.isBlankText entry.command then "cd " ++ dir
    else "cd " ++ dir ++ "; " ++ entry.command

end PanePlan

namespace Emit

def push (command : Command) : Emit Unit :=
  modify fun walk => { walk with commands := walk.commands ++ [command] }

def resolve {α : Type} (step : EStateM Error Ssh.Resolver α) : Emit α := fun walk =>
  match step.run walk.resolver with
  | .ok value resolver => .ok value { walk with resolver }
  | .error cause resolver => .error cause { walk with resolver }

/-- Types the parts of a command between semicolons, each with Enter, or commented out. -/
def sendKeys (options : CompileOptions) (target : PaneCoordinate) (command : String) :
    Emit Unit :=
  (Text.pieces ';' command).forM fun part =>
    push (if options.debug then .sendKeys target ("# " ++ part) false
      else .sendKeys target part true)

def emitEntry (session : Session) (options : CompileOptions) (plan : PanePlan)
    (entry : CommandEntry) : Emit Unit := do
  let walk ← get
  let command ← match plan.ssh with
    | none => pure (plan.located entry)
    | some ssh => resolve (Ssh.Resolver.route ssh (plan.located entry))
  sendKeys options ⟨session.name, walk.window, walk.pane⟩ command
  modify fun walk => { walk with pane := walk.pane + 1 }

/-- The first entry uses the pane that is there; each further one splits it. -/
def emitEntries (session : Session) (options : CompileOptions) (plan : PanePlan) :
    List (CommandEntry × SplitDirection) → Emit Unit
  | [] => pure ()
  | (first, _) :: rest => do
    emitEntry session options plan first
    rest.forM fun (entry, direction) => do
      push (.splitPane session.name direction)
      emitEntry session options plan entry

def emitPane (session : Session) (options : CompileOptions) (window : Window) (pane : Pane) :
    Emit Unit := do
  let walk ← get
  match PanePlan.ofPane session options window pane walk.window walk.pane with
  | .error cause => throw cause
  | .ok plan =>
    if 0 < walk.pane then push (.splitRow session.name)
    emitEntries session options plan plan.entries

def synchronizes (session : Session) (options : CompileOptions) (window : Window) : Bool :=
  options.synchronize || (window.synchronize <|> session.synchronize).getD false

def layoutOf (session : Session) (options : CompileOptions) (window : Window) : Option Layout :=
  if options.tiled then some .tiled else window.layout <|> session.layout

def emitWindow (session : Session) (options : CompileOptions) (window : Window) : Emit Unit := do
  modify fun walk => { walk with pane := 0 }
  let walk ← get
  push (if walk.window = 0 then .newSession session.name window.name
    else .newWindow session.name window.name)
  window.panes.forM (emitPane session options window)
  if synchronizes session options window then push (.setSynchronize session.name true)
  match layoutOf session options window with
  | some layout => push (.selectLayout session.name layout)
  | none => pure ()
  modify fun walk => { walk with window := walk.window + 1 }

def finish (session : Session) : List Command :=
  let target : PaneCoordinate := ⟨session.name, session.focus.window, session.focus.pane⟩
  [.setGlobalOption "status-style" "bg=blue",
    .setGlobalOption "default-terminal" "screen-256color",
    .selectPane target, .attach target]

/-- Compiles the session from the start, whatever the walk did before. On success the list is
handed out and the walk keeps none of it. -/
def create (session : Session) (options : CompileOptions) : Emit (List Command) := do
  modify fun walk => { walk with commands := [], window := 0 }
  session.windows.forM (emitWindow session options)
  (finish session).forM push
  let walk ← get
  set { walk with
    commands := []
    resolver := walk.resolver.report [.compiled session.name walk.commands.length] }
  return walk.commands

end Emit

end TmuxPlan
