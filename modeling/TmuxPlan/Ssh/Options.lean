import TmuxPlan.Error
import TmuxPlan.Text.Blank

/-!
Ssh settings. Every level of a session may set some of them; the levels are laid over each other
field by field, and what results names the destination of a pane.
-/

set_option autoImplicit false

namespace TmuxPlan.Ssh

/-- The settings of one level. An unset field falls through to the level around it. -/
structure Fragment where
  server : Option String := none
  user : Option String := none
  loginOnly : Option Bool := none
  deriving DecidableEq, Repr

/-- Lays `inner` over `outer`, field by field. -/
def Fragment.overlay (outer inner : Fragment) : Fragment where
  server := inner.server <|> outer.server
  user := inner.user <|> outer.user
  loginOnly := inner.loginOnly <|> outer.loginOnly

/-- Lays the levels over each other, outermost first; absent if every level is. -/
def Fragment.ofLevels (levels : List (Option Fragment)) : Option Fragment :=
  levels.foldl (Option.merge Fragment.overlay) none

structure Options where
  server : String
  user : Option String := none
  /-- Only log in: no command follows. -/
  loginOnly : Bool := false
  deriving DecidableEq, Repr

namespace Options

/-- A blank server counts as none, and so does a blank user. -/
def ofFragment (fragment : Fragment) : Except Error Options :=
  match fragment.server.filter (!Text.isBlankText ·) with
  | none => .error (.serverMissing fragment.user)
  | some server =>
    .ok ⟨server, fragment.user.filter (!Text.isBlankText ·), fragment.loginOnly.getD false⟩

/-- The settings of a pane from those of its three levels, if any level mentions ssh. -/
def merge (session window pane : Option Fragment) : Except Error (Option Options) :=
  match Fragment.ofLevels [session, window, pane] with
  | none => .ok none
  | some fragment => (ofFragment fragment).map some

/-- The server, with the user in front where one is set. -/
def destination (options : Options) : String :=
  match options.user with
  | some user => user ++ "@" ++ options.server
  | none => options.server

def sshCommand (options : Options) : String :=
  "ssh " ++ options.destination

def compose (options : Options) (command : String) : String :=
  if options.loginOnly then options.sshCommand
  else options.sshCommand ++ "; " ++ command

end Options

end TmuxPlan.Ssh
