import TmuxPlan.Command
import TmuxPlan.Config.Format

/-!
What a run reports while it works. Every event has a level, the part of the program it comes from,
and a text; `Event.line` is the line that is logged.
-/

set_option autoImplicit false

namespace TmuxPlan.Log

inductive Level where
  | error
  | warn
  | info
  | debug
  deriving DecidableEq, Repr

/-- Greater for the less urgent levels. -/
def Level.rank : Level → Nat
  | .error => 1
  | .warn => 2
  | .info => 3
  | .debug => 4

def Level.label : Level → String
  | .error => "ERROR"
  | .warn => " WARN"
  | .info => " INFO"
  | .debug => "DEBUG"

inductive Event where
  | migrating (session : String)
  | checkingSsh
  | reachable (destination : String)
  | unreachable (destination : String)
  | probeTimedOut (destination : String)
  | probeNotStarted (destination program fault : String)
  | compiled (session : SessionName) (commands : Nat)
  | running (command : Command)
  | rejected (command : Command)
  | loading (path : String) (format : Config.Format)
  | using (path : String)
  | tmuxMissing
  | nested
  deriving DecidableEq

/-- Fills a text up with points to sixty characters. -/
def dotted (s : String) : String :=
  s ++ String.ofList (List.replicate (60 - s.length) '.')

/-- Control characters that a terminal would obey are written as escapes. -/
def escapeControl (c : Char) : List Char :=
  let hex := Nat.toDigits 16 c.toNat
  if c = '\x1b' || c = '\x07' || c = '\x08' || c = '\x0c' || c = '\x7f' then
    '\\' :: 'x' :: (if c.toNat < 16 then '0' :: hex else hex)
  else if 0x80 ≤ c.toNat && c.toNat ≤ 0x9f then
    ['\\', 'u', '\x7b'] ++ hex ++ ['\x7d']
  else [c]

def message (s : String) : String :=
  String.ofList (s.toList.flatMap escapeControl)

/-- A text in double quotes, with escapes for quotes, backslashes and control characters. -/
def quoted (s : String) : String :=
  String.ofList ('"' :: (s.toList.flatMap escape ++ ['"']))
where
  escape (c : Char) : List Char :=
    if c = '"' || c = '\\' then ['\\', c]
    else if c = '\n' then ['\\', 'n']
    else if c = '\r' then ['\\', 'r']
    else if c = '\t' then ['\\', 't']
    else if c = '\x00' then ['\\', '0']
    else if c.toNat < 0x20 || (0x7f ≤ c.toNat && c.toNat < 0xa0) then
      ['\\', 'u', '\x7b'] ++ Nat.toDigits 16 c.toNat ++ ['\x7d']
    else [c]

namespace Event

def level : Event → Level
  | .migrating _ | .checkingSsh | .reachable _ => .info
  | .unreachable _ => .error
  | .probeTimedOut _ | .probeNotStarted .. | .compiled .. | .running _ | .loading .. |
    .using _ => .debug
  | .rejected _ | .tmuxMissing | .nested => .warn

/-- The part of the program that reports the event, by which a log filter selects it. -/
def source : Event → String
  | .migrating _ => "ultimux::normalize"
  | .checkingSsh | .reachable _ | .unreachable _ | .probeTimedOut _ | .probeNotStarted .. =>
    "ultimux::ssh"
  | .compiled .. => "ultimux::emitter"
  | .running _ | .rejected _ => "ultimux::executor"
  | .loading .. => "ultimux::loader"
  | .using _ | .tmuxMissing | .nested => "utmx"

def text : Event → String
  | .migrating session => "migrating legacy cmds/sections keys session=" ++ session
  | .checkingSsh => "checking ssh connectivity"
  | .reachable destination => message (dotted destination ++ " OK")
  | .unreachable destination => message (dotted destination ++ " FAIL")
  | .probeTimedOut destination => "ssh probe timed out destination=" ++ quoted destination
  | .probeNotStarted destination program fault =>
    "could not start probe destination=" ++ quoted destination ++ " program=" ++ program ++
      " error=" ++ fault
  | .compiled session commands =>
    "compiled session session=" ++ session.text ++ " commands=" ++ commands.repr
  | .running command => message command.line ++ " kind=" ++ quoted command.kind
  | .rejected command => message ("tmux reported failure: " ++ command.line)
  | .loading path format => "loading config path=" ++ path ++ " format=" ++ format.name
  | .using path => "using config path=" ++ path
  | .tmuxMissing => "tmux not found on PATH"
  | .nested => "already inside tmux; attaching will nest sessions"

def line (event : Event) : String :=
  event.level.label ++ " " ++ event.text

end Event

end TmuxPlan.Log
