import TmuxPlan.Description.Legacy
import TmuxPlan.Log.Event
import TmuxPlan.Session.Basic

/-!
From a description to the canonical session. The session name is checked first, then the older
spelling is brought up to date, then the focus, the panes of the session, the windows, and last the
shell and ssh of the session are read.
-/

set_option autoImplicit false

namespace TmuxPlan

open Description

namespace Normalize

/-- The name of the window of a session that lists none. -/
def defaultWindowName : String := "ultimux"

def entry : EntrySpec → Except Error CommandEntry
  | .bare command => .ok ⟨command, none⟩
  | .structured fields =>
    match fields.shell with
    | some command => .ok ⟨command, fields.split⟩
    | none => .error (.malformed .entryWithoutShell)

/-- An empty list is one empty command. -/
def entries : List EntrySpec → Except Error (List CommandEntry)
  | [] => .ok [⟨"", none⟩]
  | specs => specs.mapM entry

def shell : ShellSpec → Except Error (List CommandEntry)
  | .single command => .ok [⟨command, none⟩]
  | .multiple specs => entries specs

def ssh : SshSpec → Except Error Ssh.Fragment
  | .server name => .ok { server := some name }
  | .options fragment => .ok fragment
  | .list _ => .error (.malformed .listSsh)

def optional {α β : Type} (read : α → Except Error β) : Option α → Except Error (Option β)
  | none => .ok none
  | some value => (read value).map some

def pane (owner : Owner) (index : Nat) : PaneSpec → Except Error Pane
  | .bare command => .ok { shell := some [⟨command, none⟩] }
  | .list specs => return { shell := some (← entries specs) }
  | .structured fields => do
    let shell ← optional shell fields.shell
    let ssh ← optional ssh fields.ssh
    return { shell, dir := fields.dir, ssh }
  | .other => .error (.malformed (.unreadablePane index owner))

/-- The panes of a node; absent where it lists none. -/
def panes (owner : Owner) : Option PanesSpec → Except Error (Option (List Pane))
  | none | some (.list []) => .ok none
  | some (.list specs) => do
    return some (← specs.zipIdx.mapM fun (spec, index) => pane owner index spec)
  | some .other => .error (.malformed (.panesNotList owner))

/-- The panes of a window that lists none: those of the session, or one that leaves all open. -/
def fallbackPanes (sessionPanes : Option (List Pane)) : List Pane :=
  sessionPanes.getD [{}]

/-- A window is named by itself, else after the server it logs into, else by its number. -/
def windowName (fields : WindowFields) (ssh : Option Ssh.Fragment) (index : Nat) : String :=
  ((fields.name.filter (· ≠ "")) <|> ssh.bind (·.server)).getD ("win" ++ index.repr)

def window (sessionPanes : Option (List Pane)) (index : Nat) : WindowSpec → Except Error Window
  | .named name => .ok { name, panes := fallbackPanes sessionPanes }
  | .structured fields => do
    let ssh ← optional ssh fields.ssh
    let name := windowName fields ssh index
    let own ← panes (.window name) fields.panes
    let shell ← optional shell fields.shell
    return {
      name, panes := own.getD (fallbackPanes sessionPanes), shell, dir := fields.dir, ssh
      layout := fields.layout, synchronize := fields.synchronize }
  | .list _ => .error (.malformed (.listWindow index))
  | .other => .error (.malformed (.unreadableWindow index))

def windows (sessionPanes : Option (List Pane)) :
    Option (List WindowSpec) → Except Error (List Window)
  | none | some [] =>
    .ok [{ name := defaultWindowName, panes := fallbackPanes sessionPanes }]
  | some specs => specs.zipIdx.mapM fun (spec, index) => window sessionPanes index spec

def focus : Option String → Except Error PaneFocus
  | none => .ok {}
  | some text => PaneFocus.ofText text

/-- The canonical form of a description in the current spelling. -/
def current (name : SessionName) (spec : SessionSpec) : Except Error Session := do
  let focus ← focus spec.focus
  let sessionPanes ← panes .session spec.panes
  let windows ← windows sessionPanes spec.windows
  let shell ← optional shell spec.shell
  let ssh ← optional ssh spec.ssh
  return {
    name, windows, shell, dir := spec.dir, ssh, layout := spec.layout
    synchronize := spec.synchronize, focus, interactive := spec.interactive.getD false }

end Normalize

def normalize (name : String) (spec : SessionSpec) : Except Error Session := do
  let name ← SessionName.ofText name
  Normalize.current name (← if spec.isLegacy then spec.migrate else .ok spec)

def normalizeLog (name : String) (spec : SessionSpec) : List Log.Event :=
  if SessionName.isUsable name && spec.isLegacy then [.migrating name] else []

end TmuxPlan
