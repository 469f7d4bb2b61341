import TmuxPlan.Arguments

/-!
The texts shown when the command line stops the program.
-/

set_option autoImplicit false

namespace TmuxPlan

def Setting.placeholder : Setting → String
  | .configFile => "FILE"
  | .session => "NAME"
  | .shell => "CMD"
  | .dir => "DIR"
  | .sshTimeout => "SECS"

def Setting.purpose : Setting → String
  | .configFile => "Config file (.yml, .yaml or .toml)"
  | .session => "Session to build (a top-level key of the config file)"
  | .shell => "Command to run in panes that do not define their own shell"
  | .dir => "Directory to cd into in panes that do not define their own"
  | .sshTimeout => "Seconds to wait for each ssh connectivity check (at least 1)"

def Switch.purpose : Switch → String
  | .list => "List all sessions in the config file"
  | .sync => "Synchronize panes in every window"
  | .tiled => "Spread panes evenly (tiled layout) in every window"
  | .interactive => "Show the commands and ask before running them"
  | .debug => "Print the commands instead of running them; skips ssh checks"
  | .noTimestamp => "Use the session name as-is instead of appending a timestamp"
  | .verbose => "Verbose logging"
  | .help => "Print help"
  | .version => "Print version"

namespace Arguments

/-- The names of an item: the short one, if there is one, and the long one. -/
def names (short? : Option Char) (long : String) : String :=
  match short? with
  | some c => "-" ++ c.toString ++ ", --" ++ long
  | none => "    --" ++ long

def usageLine : String := "Usage: utmx [OPTIONS]\n"

def usage : String :=
  usageLine ++ "\nOptions:\n" ++
    String.join (Setting.all.map fun setting =>
      "  " ++ names setting.short? setting.long ++ " <" ++ setting.placeholder ++ ">  " ++
        setting.purpose ++ "\n") ++
    String.join (Switch.all.map fun switch =>
      "  " ++ names switch.short? switch.long ++ "  " ++ switch.purpose ++ "\n")

def Stop.message : Stop → String
  | .help => usage
  | .version => versionLine
  | .unknownArgument => "error: unexpected argument\n\n" ++ usageLine
  | .missingValue => "error: a value is required\n\n" ++ usageLine
  | .unexpectedValue => "error: unexpected value\n\n" ++ usageLine
  | .repeated => "error: an argument cannot be used multiple times\n\n" ++ usageLine
  | .invalidValue => "error: invalid value\n\n" ++ usageLine

end Arguments

end TmuxPlan
