import TmuxPlan.Layout
import TmuxPlan.Program.Call
import TmuxPlan.Session.Target
import TmuxPlan.Shell.Quote

/-!
The tmux commands a session is built from. Each one has an argument vector, used to run it, and a
shell line, used to show it.
-/

set_option autoImplicit false

namespace TmuxPlan

inductive Command where
  /-- Start the detached session together with its first window. -/
  | newSession (session : SessionName) (window : String)
  | newWindow (session : SessionName) (window : String)
  /-- A split over the full width, which opens a new row of panes. -/
  | splitRow (session : SessionName)
  | splitPane (session : SessionName) (direction : SplitDirection)
  /-- Type a text into a pane, followed by Enter if `enter` is set. -/
  | sendKeys (target : PaneCoordinate) (text : String) (enter : Bool)
  | setSynchronize (session : SessionName) (on : Bool)
  | selectLayout (session : SessionName) (layout : Layout)
  | setGlobalOption (option value : String)
  | selectPane (target : PaneCoordinate)
  | attach (target : PaneCoordinate)
  deriving DecidableEq

namespace Command

def enterKey : String := "C-m"

def args : Command → List String
  | .newSession session window =>
    ["new-session", "-d", "-A", "-s", session.text, "-n", window]
  | .newWindow session window => ["new-window", "-t", session.text, "-n", window]
  | .splitRow session => ["split-window", "-f", "-t", session.text]
  | .splitPane session direction => ["split-window", direction.flag, "-t", session.text]
  | .sendKeys target text enter =>
    ["send-keys", "-t", target.text, text] ++ (if enter then [enterKey] else [])
  | .setSynchronize session on =>
    ["set-option", "-t", session.text, "synchronize-panes", if on then "on" else "off"]
  | .selectLayout session layout => ["select-layout", "-t", session.text, layout.name]
  | .setGlobalOption option value => ["set-option", "-g", option, value]
  | .selectPane target => ["select-pane", "-t", target.text]
  | .attach target => ["attach", "-t", target.text]

def call (command : Command) : Call :=
  ⟨"tmux", command.args⟩

/-- A short name, as it stands in the log. -/
def kind : Command → String
  | .newSession .. => "create-session"
  | .newWindow .. => "create-window"
  | .splitRow .. => "split-row"
  | .splitPane .. => "split-pane"
  | .sendKeys .. => "send-keys"
  | .setSynchronize .. => "set-sync"
  | .selectLayout .. => "select-layout"
  | .setGlobalOption .. => "set-option"
  | .selectPane .. => "select-pane"
  | .attach .. => "attach"

def isSplit : Command → Bool
  | .splitRow _ | .splitPane .. => true
  | _ => false

def line (command : Command) : String :=
  Shell.line "tmux" command.args

end Command

end TmuxPlan
