import Std.Time
import TmuxPlan.Arguments.Usage
import TmuxPlan.Log.Filter
import TmuxPlan.Run

/-!
The command `utmx`. It reads the environment and the files that may hold the config, and shows what
the run writes and logs. It starts no program, so it answers as on a machine without ssh and tmux.
-/

set_option autoImplicit false

namespace TmuxPlan.CommandLine

/-- What stands under a path, which is nothing if the path cannot be followed to its end. -/
def entryAt (path : String) : IO (Option FileEntry) := do
  try
    discard <| IO.FS.realPath path
  catch _ => return none
  try
    return some (.file (← IO.FS.readBinFile path))
  catch
    | .inappropriateType .. => return some .directory
    | .permissionDenied _ code reason =>
      return some (.unreadable (reason ++ " (os error " ++ code.toNat.repr ++ ")"))
    | cause => return some (.unreadable (toString cause))

/-- The files that a run may look at. -/
def filesFor (places : Config.Places) (arguments : Arguments) : IO Files := do
  let paths := match arguments.configFile with
    | some path => (Path.expandHome places.home path).toOption.toList
    | none => places.candidates
  let entries ← paths.mapM fun path => return (path, ← entryAt path)
  return fun path => (entries.lookup path).join

/-- The local time as it stands in session names. -/
def stamp : IO String := do
  return (← Std.Time.PlainDateTime.now).format "uuuuMMdd_HHmmss"

/-- The home directory is the one the environment names; no other record of it is looked at. -/
def places : IO Config.Places := do
  return {
    home := (← IO.getEnv "HOME").filter (· ≠ "")
    xdg := ← IO.getEnv "XDG_CONFIG_HOME" }

def surroundings (arguments : Arguments) : IO Surroundings := do
  let places ← places
  return {
    files := ← filesFor places arguments
    places
    stamp := ← stamp
    probe := fun _ _ => false
    runner := Replay.Runner.ofTmux false []
    tmuxInstalled := false
    insideTmux := (← IO.getEnv "TMUX").isSome }

/-- Shows the outcome of a run, apart from the bytes that have been shown before. -/
def showResult (filter : Log.Filter) (shown : Nat) (result : RunResult) : IO UInt32 := do
  for line in filter.lines result.trace.log do
    IO.eprintln line
  (← IO.getStdout).write (result.trace.console.written.drop shown).toByteArray
  if let some cause := result.failure then
    IO.eprintln ("Error: " ++ cause.message)
  return result.exitCode.toUInt32

def perform (arguments : Arguments) : IO UInt32 := do
  let filter := Log.Filter.ofEnvironment (← IO.getEnv "RUST_LOG") (arguments.has .verbose)
  let surroundings ← surroundings arguments
  match (Run.prepare surroundings arguments).run {} with
  | .ok (.replay true commands) _ =>
    let question := Replay.listing commands ++ Replay.prompt
    IO.print question
    (← IO.getStdout).flush
    let line ← (← IO.getStdin).getLine
    showResult filter question.utf8ByteSize
      (RunResult.ofInput surroundings arguments (Console.bytes line))
  | _ => showResult filter 0 (RunResult.ofInput surroundings arguments [])

end TmuxPlan.CommandLine

def main (args : List String) : IO UInt32 := do
  match TmuxPlan.Arguments.ofList args with
  | .ok arguments => TmuxPlan.CommandLine.perform arguments
  | .error stop =>
    let output ← if stop.exitCode = 0 then IO.getStdout else IO.getStderr
    output.putStr stop.message
    return stop.exitCode.toUInt32
