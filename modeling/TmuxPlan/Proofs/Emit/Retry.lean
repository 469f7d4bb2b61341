import TmuxPlan.Proofs.Emit.Offline

/-!
Compiling again. A walk that has compiled before, to whatever end, is as good as a new one: what a
compilation gives depends on the resolver alone, and on it only as far as a destination does not
answer. So a compilation that missed a destination can be made again once the destination is there.
-/

set_option autoImplicit false

namespace TmuxPlan.Emit

def resultOf {α : Type} : EStateM.Result Error Walk α → Except Error α
  | .ok value _ => .ok value
  | .error cause _ => .error cause

/-- The walk after compiling a session a number of times, whether or not it went through. -/
def compiled (session : Session) (options : CompileOptions) : Nat → Walk → Walk
  | 0, walk => walk
  | times + 1, walk => compiled session options times (stateOf ((create session options).run walk))

/-! ### What does not depend on the resolver -/

theorem not_refused {ssh : Ssh.Options} {acts : List Act} {resolver : Ssh.Resolver}
    (reachable : (perform (.reach ssh :: acts) resolver).failure ≠
      some (.unreachable ssh.destination)) : resolver.refuses ssh.destination = false := by
  rw [← Bool.not_eq_true]
  intro refused
  exact reachable (perform_refused refused).1

/-- Two resolvers that miss no destination make no difference. -/
theorem perform_agrees {acts : List Act} {first second : Ssh.Resolver}
    (reachesFirst : ∀ destination, (perform acts first).failure ≠ some (.unreachable destination))
    (reachesSecond : ∀ destination,
      (perform acts second).failure ≠ some (.unreachable destination)) :
    (perform acts first).failure = (perform acts second).failure ∧
      (perform acts first).commands = (perform acts second).commands := by
  induction acts generalizing first second with
  | nil => exact ⟨rfl, rfl⟩
  | cons act acts inductionHypothesis =>
    cases act with
    | fail cause => exact ⟨rfl, rfl⟩
    | emit ssh command =>
      obtain ⟨sameFailure, sameCommands⟩ := inductionHypothesis reachesFirst reachesSecond
      exact ⟨sameFailure, congrArg (command :: ·) sameCommands⟩
    | reach ssh =>
      obtain ⟨failureFirst, commandsFirst, -⟩ :=
        perform_met (not_refused (reachesFirst ssh.destination))
      obtain ⟨failureSecond, commandsSecond, -⟩ :=
        perform_met (not_refused (reachesSecond ssh.destination))
      rw [failureFirst] at reachesFirst ⊢
      rw [failureSecond] at reachesSecond ⊢
      rw [commandsFirst, commandsSecond]
      exact inductionHypothesis reachesFirst reachesSecond

/-- No destination is missed if all that are asked for answer from now on. -/
theorem perform_reachable {acts : List Act} {resolver : Ssh.Resolver} {destination : String}
    (answer : ∀ ssh, .reach ssh ∈ acts → ∀ call, resolver.probed.length ≤ call →
      resolver.probe call ssh.destination = true)
    (blameless : .fail (.unreachable destination) ∉ acts) :
    (perform acts resolver).failure ≠ some (.unreachable destination) := by
  fun_induction perform acts resolver with
  | case1 => simp
  | case2 ssh command acts resolver inductionHypothesis =>
    exact inductionHypothesis (fun ssh listed => answer ssh (List.mem_cons_of_mem _ listed))
      (fun listed => blameless (List.mem_cons_of_mem _ listed))
  | case3 cause acts resolver =>
    rintro ⟨⟩
    exact blameless (List.mem_cons_self ..)
  | case4 ssh acts resolver trusted inductionHypothesis =>
    exact inductionHypothesis (fun ssh listed => answer ssh (List.mem_cons_of_mem _ listed))
      (fun listed => blameless (List.mem_cons_of_mem _ listed))
  | case5 ssh acts resolver trusted answered inductionHypothesis =>
    refine inductionHypothesis ?_ (fun listed => blameless (List.mem_cons_of_mem _ listed))
    intro ssh listed call later
    rw [Ssh.Resolver.afterProbe_probed, List.length_append] at later
    exact answer ssh (List.mem_cons_of_mem _ listed) call (by omega)
  | case6 ssh acts resolver trusted silent =>
    exact absurd (answer ssh (List.mem_cons_self ..) _ (Nat.le_refl _)) silent

variable (session : Session) (options : CompileOptions)

/-! ### Compiling on a used walk -/

/-- What a compilation returns and what it leaves emitted, by its acts. -/
theorem create_settles (walk : Walk) :
    let outcome := perform (acts session options) walk.resolver
    (resultOf ((create session options).run walk),
        (stateOf ((create session options).run walk)).commands) =
      match outcome.failure with
      | none => (.ok outcome.commands, [])
      | some cause => (.error cause, outcome.commands) := by
  cases result : (create session options).run walk with
  | ok commands after =>
    obtain ⟨unfailed, rfl, none, -⟩ := unfailed_of_create result
    simp [resultOf, stateOf, unfailed, none]
  | error cause stopped =>
    obtain ⟨failed, emitted, -⟩ := failed_of_create result
    simp [resultOf, stateOf, failed, emitted]

/-- Of the walk it begins on, a compilation sees the resolver alone. -/
theorem create_sees_resolver (first second : Walk) (same : first.resolver = second.resolver) :
    resultOf ((create session options).run first) =
        resultOf ((create session options).run second) ∧
      (stateOf ((create session options).run first)).commands =
        (stateOf ((create session options).run second)).commands ∧
      (stateOf ((create session options).run first)).resolver =
        (stateOf ((create session options).run second)).resolver := by
  have firstSettled := create_settles session options first
  have secondSettled := create_settles session options second
  have firstLeft := resolver_create session options first
  have secondLeft := resolver_create session options second
  have sameReport : closingReport session options first = closingReport session options second := by
    rw [closingReport, closingReport, same]
  rw [same] at firstSettled
  rw [same, sameReport] at firstLeft
  obtain ⟨result, emitted⟩ := Prod.mk.inj (firstSettled.trans secondSettled.symm)
  exact ⟨result, emitted, firstLeft.trans secondLeft.symm⟩

/-- On a used walk a session compiles as on a new one with the same resolver: it returns the same
list or the same error, leaves the same commands emitted and makes the same probes. And once its
destinations answer it compiles as with any other resolver that misses none of them, however often it
has failed before. -/
theorem create_starts_anew (resolver : Ssh.Resolver) (times : Nat) :
    let used := compiled session options times { resolver }
    let again := (create session options).run used
    let anew := (create session options).run { resolver := used.resolver }
    resultOf again = resultOf anew ∧
    (stateOf again).commands = (stateOf anew).commands ∧
    (stateOf again).resolver = (stateOf anew).resolver ∧
    ∀ other : Ssh.Resolver,
      let elsewhere := (create session options).run { resolver := other }
      (∀ destination, failureOf elsewhere ≠ some (.unreachable destination)) →
      (∀ place ∈ session.places, ∀ destination, place.destination? session = some destination →
        ∀ call, used.resolver.probed.length ≤ call →
          used.resolver.probe call destination = true) →
      resultOf again = resultOf elsewhere ∧
        (stateOf again).commands = (stateOf elsewhere).commands := by
  intro used again anew
  obtain ⟨sameResult, sameEmitted, sameResolver⟩ :=
    create_sees_resolver session options used { resolver := used.resolver } rfl
  refine ⟨sameResult, sameEmitted, sameResolver, ?_⟩
  intro other elsewhere found answering
  have reachable (destination : String) :
      (perform (acts session options) used.resolver).failure ≠
        some (.unreachable destination) := by
    refine perform_reachable ?_ (unreachable_not_mem_acts session options destination)
    intro ssh reached
    obtain ⟨place, listed, atPlace⟩ := place_of_demand session options reached rfl
    rcases atPlace with ⟨cause, impossible, -⟩ | ⟨_, ⟨⟩, named⟩
    · cases impossible
    · exact answering place listed ssh.destination named
  have foundBefore (destination : String) :
      (perform (acts session options) other).failure ≠ some (.unreachable destination) := by
    have missed := found destination
    rwa [failureOf_create] at missed
  obtain ⟨sameFailure, sameCommands⟩ := perform_agrees reachable foundBefore
  have settled := create_settles session options used
  have elsewhereSettled := create_settles session options { resolver := other }
  simp only [sameFailure, sameCommands] at settled
  exact Prod.mk.inj (settled.trans elsewhereSettled.symm)

/-- A server that is missed at first and answers when it is asked again. -/
theorem create_starts_anew_web :
    ∃ (session : Session) (resolver other : Ssh.Resolver) (commands : List Command),
      failureOf ((create session {}).run { resolver }) = some (.unreachable "web01") ∧
      resultOf ((create session {}).run { resolver := other }) = .ok commands ∧
      resultOf ((create session {}).run (compiled session {} 1 { resolver })) = .ok commands := by
  let session : Session := {
    name := ⟨"dev", by decide⟩
    windows := [{ name := "web", panes := [{ ssh := some { server := some "web01" } }] }] }
  let resolver : Ssh.Resolver := { probe := fun call _ => call != 0 }
  let other : Ssh.Resolver := { probe := fun _ _ => true }
  have missed : failureOf ((create session {}).run { resolver }) = some (.unreachable "web01") := by
    decide +kernel
  have asked : (compiled session {} 1 { resolver }).resolver.probed = ["web01"] := by
    decide +kernel
  have kept : (compiled session {} 1 { resolver }).resolver.probe = resolver.probe := rfl
  have found : failureOf ((create session {}).run { resolver := other }) = none := by
    decide +kernel
  obtain ⟨commands, after, created⟩ : ∃ commands after,
      (create session {}).run { resolver := other } = .ok commands after := by
    cases result : (create session {}).run { resolver := other } with
    | ok commands after => exact ⟨commands, after, rfl⟩
    | error cause stopped => simp [result, failureOf] at found
  have again := ((create_starts_anew session {} resolver 1).2.2.2 other
    (fun destination missed => by simp [found] at missed)
    (fun place listed destination named call later => by
      rw [asked] at later
      rw [kept]
      simpa [resolver] using Nat.ne_of_gt later)).1
  rw [created] at again
  exact ⟨session, resolver, other, commands, missed, by rw [created]; rfl, again⟩

end TmuxPlan.Emit
