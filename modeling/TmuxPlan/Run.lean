import TmuxPlan.Arguments
import TmuxPlan.Config.Load
import TmuxPlan.Normalize
import TmuxPlan.Replay
import TmuxPlan.Ssh.Check

/-!
A run, from the command line to the last tmux command. It prepares a plan first: the config file is
found and read, a session is selected, normalized and compiled. Only a plan to replay starts tmux, so
whatever stops the preparation leaves tmux alone.
-/

set_option autoImplicit false

namespace TmuxPlan

structure Surroundings where
  files : Files
  places : Config.Places
  /-- The time of the run, as it stands in session names. -/
  stamp : String
  probe : Ssh.Probe
  runner : Replay.Runner
  tmuxInstalled : Bool := true
  insideTmux : Bool := false

structure Trace where
  console : Console := {}
  log : List Log.Event := []
  probed : List String := []
  ran : List Command := []

abbrev Run := EStateM Error Trace

inductive Plan where
  | done
  | replay (interactive : Bool) (commands : List Command)
  deriving DecidableEq

namespace Run

def report (events : List Log.Event) : Run Unit :=
  modify fun trace => { trace with log := trace.log ++ events }

def write (text : String) : Run Unit := fun trace =>
  match (Console.write text).run trace.console with
  | .ok _ console => .ok () { trace with console }
  | .error cause console => .error cause { trace with console }

def listing (config : ConfigFile) : String :=
  config.keys.foldl (fun text key => text ++ "  " ++ key ++ "\n") "Sessions:\n"

/-- The name of the tmux session: the one described, else the key, with the time unless it is
unwanted. -/
def sessionName (stamp : String) (arguments : Arguments) (key : String)
    (spec : Description.SessionSpec) : String :=
  let base := spec.name.getD key
  if arguments.has .noTimestamp then base else base ++ "_" ++ stamp

def compile (probe : Ssh.Probe) (options : CompileOptions) (session : Session) :
    Run (List Command) := fun trace =>
  let walk : Walk := { resolver := { probe, debug := options.debug } }
  let extend (walk : Walk) : Trace :=
    { trace with
      probed := trace.probed ++ walk.resolver.probed
      log := trace.log ++ walk.resolver.log }
  match (Emit.create session options).run walk with
  | .ok commands walk => .ok commands (extend walk)
  | .error cause walk => .error cause (extend walk)

/-- What is worth a warning before tmux is started. -/
def warnings (surroundings : Surroundings) : List Log.Event :=
  (if surroundings.tmuxInstalled then [] else [.tmuxMissing]) ++
    (if surroundings.insideTmux then [.nested] else [])

/-- Everything up to the first tmux command. A listing or a preview leaves nothing to do. -/
def prepare (surroundings : Surroundings) (arguments : Arguments) : Run Plan := do
  let path ← ofExcept (surroundings.places.locate surroundings.files arguments.configFile)
  report (Config.loadLog surroundings.files path)
  let config ← ofExcept (Config.load surroundings.files path)
  report [.using path]
  if arguments.has .list then
    write (listing config)
    return .done
  let (key, spec) ← ofExcept (config.select arguments.session)
  let name := sessionName surroundings.stamp arguments key spec
  report (normalizeLog name spec)
  let session ← ofExcept (normalize name spec)
  let commands ← compile surroundings.probe arguments.options session
  if arguments.options.debug then
    write (Replay.listing commands)
    return .done
  report (warnings surroundings)
  return .replay (arguments.has .interactive || session.interactive) commands

def complete (surroundings : Surroundings) : Plan → Run Unit
  | .done => pure ()
  | .replay interactive commands => fun trace =>
    let extend (progress : Replay.Progress) : Trace :=
      { trace with
        console := progress.console
        log := trace.log ++ progress.log
        ran := trace.ran ++ progress.ran }
    let progress : Replay.Progress := { console := trace.console }
    match (Replay.execute interactive surroundings.runner commands).run progress with
    | .ok _ progress => .ok () (extend progress)
    | .error cause progress => .error cause (extend progress)

def perform (surroundings : Surroundings) (arguments : Arguments) : Run Unit := do
  complete surroundings (← prepare surroundings arguments)

end Run

structure RunResult where
  trace : Trace
  failure : Option Error := none

namespace RunResult

def ofInput (surroundings : Surroundings) (arguments : Arguments) (input : List UInt8) :
    RunResult :=
  match (Run.perform surroundings arguments).run { console := { input } } with
  | .ok _ trace => ⟨trace, none⟩
  | .error cause trace => ⟨trace, some cause⟩

def exitCode (result : RunResult) : Nat :=
  if result.failure.isSome then 1 else 0

/-- The calls of other programs, in order: every check of a destination is over before the first
tmux command. -/
def calls (result : RunResult) (check : Ssh.Check) : List Call :=
  result.trace.probed.map check.call ++ result.trace.ran.map Command.call

end RunResult

def Arguments.check (arguments : Arguments) : Ssh.Check :=
  { timeout := arguments.timeout * 1000 }

end TmuxPlan
