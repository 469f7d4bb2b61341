import TmuxPlan.Log.Event
import TmuxPlan.Program.Call

/-!
Checking a destination: ssh is called so that it asks nothing and gives up in time, and has to run a
command there. The destination is reachable if the call ends well within the time.
-/

set_option autoImplicit false

namespace TmuxPlan.Ssh

structure Check where
  program : String := "ssh"
  leading : List String := []
  timeout : Nat := 10000
  deriving DecidableEq, Repr

namespace Check

/-- The whole seconds that ssh is given to connect, at least one. -/
def connectTimeout (check : Check) : Nat :=
  max 1 (check.timeout / 1000)

def call (check : Check) (destination : String) : Call where
  program := check.program
  args :=
    check.leading ++
      ["-o", "BatchMode=yes", "-o", "ConnectTimeout=" ++ check.connectTimeout.repr, destination,
        "echo", "ok"]

inductive Outcome where
  | finished (succeeded : Bool)
  | timedOut
  | notStarted (fault : String)
  deriving DecidableEq, Repr

def Outcome.reachable : Outcome → Bool
  | .finished succeeded => succeeded
  | .timedOut | .notStarted _ => false

def report (check : Check) (destination : String) : Outcome → List Log.Event
  | .finished _ => []
  | .timedOut => [.probeTimedOut destination]
  | .notStarted fault => [.probeNotStarted destination check.program fault]

def outcome (check : Check) (programs : Programs) (destination : String) : Outcome :=
  let call := check.call destination
  let finish := programs call
  match call.refusal? finish.isSome, finish with
  | some fault, _ => .notStarted fault
  | none, none => .notStarted Call.noSuchFile
  | none, some finish =>
    if finish.elapsed < check.timeout then .finished finish.succeeded else .timedOut

end Check

end TmuxPlan.Ssh
