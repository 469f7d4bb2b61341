import TmuxPlan.Layout
import TmuxPlan.Ssh.Options

/-!
A session as it is described in a config file. The shapes are loose: panes may be bare commands or
lists, ssh may be a bare server name, and older files say `cmds` for `shell` and `sections` for
`panes`. Shapes that mean nothing are kept, so that they can be reported where they stand.
-/

set_option autoImplicit false

namespace TmuxPlan.Description

structure EntryFields where
  shell : Option String := none
  cmds : Option String := none
  split : Option String := none
  deriving DecidableEq, Repr

inductive EntrySpec where
  | bare (command : String)
  | structured (fields : EntryFields)
  deriving DecidableEq, Repr

inductive ShellSpec where
  | single (command : String)
  | multiple (entries : List EntrySpec)
  deriving DecidableEq, Repr

inductive SshSpec where
  | server (name : String)
  /-- A list of this length, which means nothing. -/
  | list (length : Nat)
  | options (fragment : Ssh.Fragment)
  deriving DecidableEq, Repr

structure PaneFields where
  shell : Option ShellSpec := none
  cmds : Option ShellSpec := none
  dir : Option String := none
  ssh : Option SshSpec := none
  deriving DecidableEq, Repr

inductive PaneSpec where
  | bare (command : String)
  | list (entries : List EntrySpec)
  | structured (fields : PaneFields)
  | other
  deriving DecidableEq, Repr

inductive PanesSpec where
  | list (panes : List PaneSpec)
  | other
  deriving DecidableEq, Repr

structure WindowFields where
  name : Option String := none
  panes : Option PanesSpec := none
  sections : Option PanesSpec := none
  shell : Option ShellSpec := none
  cmds : Option ShellSpec := none
  dir : Option String := none
  ssh : Option SshSpec := none
  layout : Option Layout := none
  synchronize : Option Bool := none
  deriving DecidableEq, Repr

inductive WindowSpec where
  | named (name : String)
  /-- A list of this length, which means nothing. -/
  | list (length : Nat)
  | structured (fields : WindowFields)
  | other
  deriving DecidableEq, Repr

structure SessionSpec where
  name : Option String := none
  windows : Option (List WindowSpec) := none
  panes : Option PanesSpec := none
  sections : Option PanesSpec := none
  shell : Option ShellSpec := none
  cmds : Option ShellSpec := none
  dir : Option String := none
  ssh : Option SshSpec := none
  layout : Option Layout := none
  synchronize : Option Bool := none
  focus : Option String := none
  interactive : Option Bool := none
  deriving DecidableEq, Repr

end TmuxPlan.Description
