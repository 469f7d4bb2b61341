import TmuxPlan.Emit
import TmuxPlan.Text.Decimal

/-!
The command line. Settings take a value, which stands in the same argument or in the next one;
switches take none; short names may be clustered. No item may be given twice, and nothing but the
value of a setting may stand alone.

A value in an argument of its own is taken up only when the next argument is looked at, so an
unknown argument after it is refused before the value is checked.
-/

set_option autoImplicit false

namespace TmuxPlan

/-- An item of the command line that takes a value. -/
inductive Setting where
  | configFile
  | session
  | shell
  | dir
  | sshTimeout
  deriving DecidableEq, Repr

namespace Setting

def all : List Setting := [.configFile, .session, .shell, .dir, .sshTimeout]

def long : Setting → String
  | .configFile => "config-file"
  | .session => "session"
  | .shell => "shell"
  | .dir => "dir"
  | .sshTimeout => "ssh-timeout"

def short? : Setting → Option Char
  | .configFile => some 'c'
  | .session => some 's'
  | _ => none

end Setting

/-- An item of the command line that takes no value. -/
inductive Switch where
  | list
  | sync
  | tiled
  | interactive
  | debug
  | noTimestamp
  | verbose
  | help
  | version
  deriving DecidableEq, Repr

namespace Switch

def all : List Switch :=
  [.list, .sync, .tiled, .interactive, .debug, .noTimestamp, .verbose, .help, .version]

def long : Switch → String
  | .list => "list"
  | .sync => "sync"
  | .tiled => "tiled"
  | .interactive => "interactive"
  | .debug => "debug"
  | .noTimestamp => "no-timestamp"
  | .verbose => "verbose"
  | .help => "help"
  | .version => "version"

def short? : Switch → Option Char
  | .list => some 'l'
  | .interactive => some 'i'
  | .verbose => some 'v'
  | .help => some 'h'
  | .version => some 'V'
  | .sync | .tiled | .debug | .noTimestamp => none

end Switch

structure Arguments where
  switches : List Switch := []
  configFile : Option String := none
  session : Option String := none
  shell : Option String := none
  dir : Option String := none
  /-- Seconds to wait for a check of connectivity, if given. -/
  sshTimeout : Option Nat := none
  deriving DecidableEq, Repr

namespace Arguments

/-- Why the command line stops the program before it has begun. -/
inductive Stop where
  | help
  | version
  | unknownArgument
  | missingValue
  /-- A value for a switch. -/
  | unexpectedValue
  | repeated
  | invalidValue
  deriving DecidableEq, Repr

/-- Showing help or the version is no failure; all else is one of usage. -/
def Stop.exitCode : Stop → Nat
  | .help | .version => 0
  | _ => 2

def has (arguments : Arguments) (switch : Switch) : Bool :=
  arguments.switches.contains switch

def defaultTimeout : Nat := 10

def timeout (arguments : Arguments) : Nat :=
  arguments.sshTimeout.getD defaultTimeout

def options (arguments : Arguments) : CompileOptions where
  debug := arguments.has .debug
  synchronize := arguments.has .sync
  tiled := arguments.has .tiled
  shell := arguments.shell
  dir := arguments.dir

/-- A number of seconds: digits, with a plus in front or not, from 1 up to 2^64 - 1. -/
def timeout? (text : String) : Option Nat :=
  let digits := match text.toList with
    | '+' :: cs => cs
    | cs => cs
  if Text.isDigits digits then
    some (Text.digitsValue digits) |>.filter fun n => 1 ≤ n && n < Text.wordLimit 64
  else none

def isGiven (arguments : Arguments) : Setting → Bool
  | .configFile => arguments.configFile.isSome
  | .session => arguments.session.isSome
  | .shell => arguments.shell.isSome
  | .dir => arguments.dir.isSome
  | .sshTimeout => arguments.sshTimeout.isSome

def assign (arguments : Arguments) (value : String) : Setting → Except Stop Arguments
  | .configFile => .ok { arguments with configFile := some value }
  | .session => .ok { arguments with session := some value }
  | .shell => .ok { arguments with shell := some value }
  | .dir => .ok { arguments with dir := some value }
  | .sshTimeout =>
    match timeout? value with
    | some seconds => .ok { arguments with sshTimeout := some seconds }
    | none => .error .invalidValue

def set (arguments : Arguments) (setting : Setting) (value : String) : Except Stop Arguments :=
  if arguments.isGiven setting then .error .repeated else arguments.assign value setting

/-- Turns a switch on, once. Help and version end the reading. -/
def turnOn (arguments : Arguments) : Switch → Except Stop Arguments
  | .help => .error .help
  | .version => .error .version
  | switch =>
    if arguments.has switch then .error .repeated
    else .ok { arguments with switches := arguments.switches ++ [switch] }

/-- A setting whose value has not been taken up: it stands in the next argument, or has been seen
there. -/
structure Pending where
  setting : Setting
  value : Option String := none
  deriving DecidableEq, Repr

/-- The arguments up to here, and the setting that is pending if one is. -/
abbrev Reading := Arguments × Option Pending

def settle : Reading → Except Stop Arguments
  | (arguments, none) => .ok arguments
  | (_, some ⟨_, none⟩) => .error .missingValue
  | (arguments, some ⟨setting, some value⟩) => arguments.set setting value

/-- Reads a long name, with a value after an equals sign or without. -/
def readLong (reading : Reading) (name : String) (value : Option String) :
    Except Stop Reading := do
  match Setting.all.find? (·.long == name), value with
  | some setting, some value => return (← (← settle reading).set setting value, none)
  | some setting, none => return (← settle reading, some { setting })
  | none, value =>
    match Switch.all.find? (·.long == name), value with
    | none, _ => throw .unknownArgument
    | some _, some _ => throw .unexpectedValue
    | some switch, none => return (← (← settle reading).turnOn switch, none)

/-- Reads a cluster of short names. What follows the name of a setting is its value. -/
def readCluster (reading : Reading) : List Char → Except Stop Reading
  | [] => .ok reading
  | c :: cs => do
    match Setting.all.find? (·.short? == some c), cs with
    | some setting, [] => return (← settle reading, some { setting })
    | some setting, '=' :: value | some setting, value =>
      return (← (← settle reading).set setting (String.ofList value), none)
    | none, _ =>
      match Switch.all.find? (·.short? == some c) with
      | none => throw .unknownArgument
      | some switch => readCluster (← (← settle reading).turnOn switch, none) cs

/-- Reads one argument. A lone hyphen is a value like any other. -/
def readArgument (reading : Reading) (argument : String) : Except Stop Reading :=
  match argument.toList with
  | '-' :: '-' :: cs =>
    let name := String.ofList (cs.takeWhile (· ≠ '='))
    match cs.dropWhile (· ≠ '=') with
    | [] => readLong reading name none
    | _ :: value => readLong reading name (some (String.ofList value))
  | '-' :: c :: cs => readCluster reading (c :: cs)
  | _ =>
    match reading with
    | (arguments, some ⟨setting, none⟩) => .ok (arguments, some ⟨setting, some argument⟩)
    | _ => .error .unknownArgument

/-- Reads the arguments from left to right. Two hyphens end the items, and nothing may follow. -/
def readAll (reading : Reading) : List String → Except Stop Arguments
  | [] => settle reading
  | "--" :: rest => if rest.isEmpty then settle reading else .error .unknownArgument
  | argument :: rest => do readAll (← readArgument reading argument) rest

/-- Reads a command line without the name of the program. -/
def ofList (arguments : List String) : Except Stop Arguments :=
  readAll ({}, none) arguments

def versionLine : String := "utmx 2.0.0\n"

end Arguments

end TmuxPlan
