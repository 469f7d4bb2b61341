import TmuxPlan.Console
import TmuxPlan.Log.Event
import TmuxPlan.Text.Blank

/-!
Showing commands, asking for consent, and running them one after another. A command that tmux rejects
is reported and the next one runs all the same; only one that cannot be started ends the replay.
-/

set_option autoImplicit false

namespace TmuxPlan.Replay

inductive Start where
  | succeeded
  | failed
  | notStarted (fault : String)
  deriving DecidableEq, Repr

/-- Whether tmux accepted the command, if it could be started at all. -/
def Start.accepted (command : Command) : Start → Except Error Bool
  | .succeeded => .ok true
  | .failed => .ok false
  | .notStarted fault => .error (.tmuxNotStarted command.kind fault)

/-- Starts commands, by the number of the start. -/
abbrev Runner := Nat → Command → Start

/-- A tmux that may be installed and rejects the commands with the given first arguments. -/
def Runner.ofTmux (installed : Bool) (rejected : List String) : Runner := fun _ command =>
  match command.call.refusal? installed with
  | some fault => .notStarted fault
  | none => if command.args.head?.any rejected.contains then .failed else .succeeded

def listing (commands : List Command) : String :=
  commands.foldl (fun text command => text ++ command.line ++ "\n") "\n"

def prompt : String :=
  "\nExecute these commands? [y/N] "

def print (commands : List Command) : EStateM Error Console Unit :=
  Console.write (listing commands)

def isConsent (line : String) : Bool :=
  ["y", "yes"].contains (Text.asciiLower (Text.trim line))

def confirm (commands : List Command) : EStateM Error Console Bool := do
  print commands
  Console.write prompt
  return isConsent (← Console.readLine)

structure Progress where
  console : Console := {}
  ran : List Command := []
  log : List Log.Event := []

def report (event : Log.Event) : EStateM Error Progress Unit :=
  modify fun progress => { progress with log := progress.log ++ [event] }

def atConsole {α : Type} (step : EStateM Error Console α) : EStateM Error Progress α :=
  fun progress =>
    match step.run progress.console with
    | .ok value console => .ok value { progress with console }
    | .error cause console => .error cause { progress with console }

def start (runner : Runner) (command : Command) : EStateM Error Progress Unit := do
  report (.running command)
  let progress ← get
  match (runner progress.ran.length command).accepted command with
  | .error cause => throw cause
  | .ok accepted =>
    set { progress with ran := progress.ran ++ [command] }
    if !accepted then report (.rejected command)

/-- Runs the commands; in interactive mode only after consent. -/
def execute (interactive : Bool) (runner : Runner) (commands : List Command) :
    EStateM Error Progress Unit := do
  if interactive then
    if !(← atConsole (confirm commands)) then throw .aborted
  commands.forM (start runner)

end TmuxPlan.Replay
