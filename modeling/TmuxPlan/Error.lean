import TmuxPlan.Text.Decimal

/-!
Everything that can stop a run, by its cause, and the text shown for each cause.
-/

set_option autoImplicit false

namespace TmuxPlan

/-- What the system reported when bytes could not be read or written. -/
inductive IoFault where
  | isDirectory
  | notUtf8
  | outputFull
  /-- Any other refusal, in the words of the system. -/
  | system (reason : String)
  deriving DecidableEq, Repr

def IoFault.message : IoFault → String
  | .isDirectory => "Is a directory (os error 21)"
  | .notUtf8 => "stream did not contain valid UTF-8"
  | .outputFull => "failed to write whole buffer"
  | .system reason => reason

inductive Owner where
  | session
  | window (name : String)
  deriving DecidableEq, Repr

def Owner.text : Owner → String
  | .session => "session"
  | .window name => "window '" ++ name ++ "'"

/-- The keys that have an older spelling, by the node they stand in. -/
inductive RenamedKey where
  | sessionShell
  | sessionPanes
  | windowShell
  | windowPanes
  | paneShell
  | entryShell
  deriving DecidableEq, Repr

def RenamedKey.text : RenamedKey → String
  | .sessionShell => "session shell (cmds)"
  | .sessionPanes => "session panes (sections)"
  | .windowShell => "window shell (cmds)"
  | .windowPanes => "window panes (sections)"
  | .paneShell => "pane shell (cmds)"
  | .entryShell => "command entry (cmds)"

inductive Malformed where
  | bothSpellings (key : RenamedKey)
  | panesNotList (owner : Owner)
  | unreadablePane (index : Nat) (owner : Owner)
  | listWindow (index : Nat)
  | unreadableWindow (index : Nat)
  | listSsh
  | entryWithoutShell
  | idlePane (session : String) (window pane : UInt32) (windowName : String)
  deriving DecidableEq, Repr

def Malformed.message : Malformed → String
  | .bothSpellings key => "both legacy and current key given for " ++ key.text
  | .panesNotList owner => "could not parse panes of " ++ owner.text ++ ", not a list"
  | .unreadablePane index owner =>
    "pane #" ++ index.repr ++ " of " ++ owner.text ++
      " is neither a command, a list nor a mapping"
  | .listWindow index =>
    "window #" ++ index.repr ++ " is a list; expected a name or a mapping"
  | .unreadableWindow index =>
    "window #" ++ index.repr ++ " could not be parsed; expected a name, or a mapping " ++
      "whose fields have valid types"
  | .listSsh => "ssh must be a server name or a mapping, not a list"
  | .entryWithoutShell => "command entry without a shell"
  | .idlePane session window pane windowName =>
    "pane " ++ session ++ ":" ++ Text.word32Text window ++ "." ++ Text.word32Text pane ++
      " in window '" ++ windowName ++ "' has no shell, ssh or dir"

/-- Everything that can stop a run. Each of them is fatal. -/
inductive Error where
  | configNotFound (path : String)
  /-- The home directory is not known. -/
  | noConfigDir
  | unsupportedFormat (path : String)
  | io (fault : IoFault)
  | badToml
  | badYaml
  | invalidSessionName (name : String)
  | invalidFocus (text : String)
  | malformed (cause : Malformed)
  | invalidSplit (text : String)
  /-- Ssh is asked for but no level names a server; the merged user, if one is set. -/
  | serverMissing (user : Option String)
  | unreachable (destination : String)
  | sessionNotFound (key : String)
  /-- No session was asked for and the file does not hold exactly one. -/
  | noSessionSelected (available : List String)
  | tmuxNotStarted (kind fault : String)
  | aborted
  deriving DecidableEq, Repr

def Error.message : Error → String
  | .configNotFound path => "Config file not found: " ++ path
  | .noConfigDir => "Could not determine config directory"
  | .unsupportedFormat path => "Unsupported config format: " ++ path
  | .io fault => "I/O error: " ++ fault.message
  | .badToml => "Failed to parse TOML config"
  | .badYaml => "Failed to parse YAML config"
  | .invalidSessionName name =>
    "Invalid session name '" ++ name ++ "': may not be empty or contain '.', ':' or spaces"
  | .invalidFocus text =>
    "Invalid focus '" ++ text ++ "': must be \x7bnumber\x7d.\x7bnumber\x7d"
  | .malformed cause => "Malformed config: " ++ cause.message
  | .invalidSplit text =>
    "Invalid split direction '" ++ text ++ "': use horizontal (-h) or vertical (-v)"
  | .serverMissing (some user) =>
    "Ssh server must be specified (user '" ++ user ++ "' has no server)"
  | .serverMissing none =>
    "Ssh server must be specified (no server at pane, window or session level)"
  | .unreachable destination => "Failed connectivity check: " ++ destination
  | .sessionNotFound key => "Session not found: " ++ key
  | .noSessionSelected available =>
    "No session specified; choose one with --session (available: " ++
      (if available.isEmpty then "none" else ", ".intercalate available) ++ ")"
  | .tmuxNotStarted kind fault => "Tmux error: " ++ kind ++ ": " ++ fault
  | .aborted => "Aborted by user"

end TmuxPlan
