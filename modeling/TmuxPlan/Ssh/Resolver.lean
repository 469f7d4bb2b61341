import TmuxPlan.Log.Event
import TmuxPlan.Ssh.Options

/-!
Reachability. Before the first command for a destination is emitted the destination is probed, and
one that answered is not probed again by the same resolver.
-/

set_option autoImplicit false

namespace TmuxPlan.Ssh

/-- The answers of a probe, by the number of the call and the destination asked for. -/
abbrev Probe := Nat → String → Bool

/-- Every destination answers except the given ones. -/
def Probe.ofUnreachable (unreachable : List String) : Probe :=
  fun _ destination => !unreachable.contains destination

structure Resolver where
  probe : Probe
  debug : Bool := false
  /-- The destinations that answered. -/
  validated : List String := []
  probed : List String := []
  log : List Log.Event := []

namespace Resolver

def report (resolver : Resolver) (events : List Log.Event) : Resolver :=
  { resolver with log := resolver.log ++ events }

def isValidated (resolver : Resolver) (destination : String) : Bool :=
  resolver.validated.contains destination

def ask (resolver : Resolver) (destination : String) : Bool × Resolver :=
  (resolver.probe resolver.probed.length destination,
    { resolver with probed := resolver.probed ++ [destination] })

/-- Probes the destination unless it is validated or the resolver is in debug mode. -/
def ensureReachable (options : Options) : EStateM Error Resolver Unit := fun resolver =>
  let destination := options.destination
  if resolver.debug || resolver.isValidated destination then .ok () resolver
  else
    let started := resolver.report (if resolver.validated.isEmpty then [.checkingSsh] else [])
    match started.ask destination with
    | (false, asked) =>
      .error (.unreachable destination) (asked.report [.unreachable destination])
    | (true, asked) =>
      .ok () { asked.report [.reachable destination] with
        validated := destination :: asked.validated }

/-- Probes if needed, then says what to type to run `command` there. -/
def route (options : Options) (command : String) : EStateM Error Resolver String := do
  ensureReachable options
  return options.compose command

end Resolver

end TmuxPlan.Ssh
