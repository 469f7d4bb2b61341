import TmuxPlan.Ssh.Resolver

/-!
What one check of a destination does to a resolver. A destination that the resolver trusts is let
through as it is; any other one is probed once, and the answer decides.
-/

set_option autoImplicit false

namespace TmuxPlan.Ssh.Resolver

def trusts (resolver : Resolver) (destination : String) : Bool :=
  resolver.debug || resolver.isValidated destination

def answer (resolver : Resolver) (destination : String) : Bool :=
  resolver.probe resolver.probed.length destination

def afterProbe (resolver : Resolver) (destination : String) : Resolver :=
  { resolver with
    validated :=
      if resolver.answer destination then destination :: resolver.validated
      else resolver.validated
    probed := resolver.probed ++ [destination]
    log := resolver.log ++ (if resolver.validated.isEmpty then [.checkingSsh] else []) ++
      [if resolver.answer destination then .reachable destination else .unreachable destination] }

def refuses (resolver : Resolver) (destination : String) : Bool :=
  !resolver.trusts destination && !resolver.answer destination

def meet (resolver : Resolver) (destination : String) : Resolver :=
  if resolver.trusts destination then resolver else resolver.afterProbe destination

variable (resolver : Resolver) (options : Options) (destination : String)

@[simp]
theorem afterProbe_probe : (resolver.afterProbe destination).probe = resolver.probe := rfl

@[simp]
theorem afterProbe_debug : (resolver.afterProbe destination).debug = resolver.debug := rfl

@[simp]
theorem afterProbe_probed :
    (resolver.afterProbe destination).probed = resolver.probed ++ [destination] := rfl

theorem afterProbe_validated_of_answer (answered : resolver.answer destination = true) :
    (resolver.afterProbe destination).validated = destination :: resolver.validated := by
  simp [afterProbe, answered]

theorem afterProbe_validated_of_silence (silent : resolver.answer destination = false) :
    (resolver.afterProbe destination).validated = resolver.validated := by
  simp [afterProbe, silent]

theorem trusts_iff :
    resolver.trusts destination = true ↔
      resolver.debug = true ∨ destination ∈ resolver.validated := by
  simp [trusts, isValidated]

/-- A destination that has been met and was let through is trusted from then on. -/
theorem trusts_meet (passed : resolver.refuses destination = false) :
    (resolver.meet destination).trusts destination = true := by
  unfold meet
  split
  · assumption
  · rename_i untrusted
    have answered : resolver.answer destination = true := by
      simpa [refuses, untrusted] using passed
    rw [trusts_iff, afterProbe_validated_of_answer _ _ answered]
    exact .inr (List.mem_cons_self ..)

theorem ensureReachable_eq :
    ensureReachable options resolver =
      if resolver.trusts options.destination then .ok () resolver
      else if resolver.answer options.destination then
        .ok () (resolver.afterProbe options.destination)
      else .error (.unreachable options.destination) (resolver.afterProbe options.destination) := by
  unfold ensureReachable
  cases trusted : resolver.trusts options.destination with
  | true =>
    rw [trusts] at trusted
    simp [trusted]
  | false =>
    rw [trusts] at trusted
    cases answered : resolver.answer options.destination with
    | true =>
      rw [answer] at answered
      simp [trusted, ask, report, answered, afterProbe, answer]
    | false =>
      rw [answer] at answered
      simp [trusted, ask, report, answered, afterProbe, answer]

end TmuxPlan.Ssh.Resolver
