import TmuxPlan.Layout
import TmuxPlan.Session.Target
import TmuxPlan.Ssh.Options

/-!
The canonical session tree: a usable name, windows with panes, and for every node the settings it
makes itself. What a node leaves open it takes from the node around it.
-/

set_option autoImplicit false

namespace TmuxPlan

/-- One command of a pane. Every entry after the first gets a tmux pane of its own. -/
structure CommandEntry where
  command : String
  /-- The split as written; it is checked when the entry is emitted. -/
  split : Option String := none
  deriving DecidableEq, Repr

def CommandEntry.direction (entry : CommandEntry) : Except Error SplitDirection :=
  SplitDirection.ofText? entry.split

structure Pane where
  shell : Option (List CommandEntry) := none
  dir : Option String := none
  ssh : Option Ssh.Fragment := none
  deriving DecidableEq, Repr

structure Window where
  name : String
  panes : List Pane
  shell : Option (List CommandEntry) := none
  dir : Option String := none
  ssh : Option Ssh.Fragment := none
  layout : Option Layout := none
  synchronize : Option Bool := none
  deriving DecidableEq, Repr

structure Session where
  name : SessionName
  windows : List Window
  shell : Option (List CommandEntry) := none
  dir : Option String := none
  ssh : Option Ssh.Fragment := none
  layout : Option Layout := none
  synchronize : Option Bool := none
  focus : PaneFocus := {}
  interactive : Bool := false
  deriving DecidableEq

end TmuxPlan
