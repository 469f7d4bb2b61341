import TmuxPlan.Proofs.Console.Streams
import TmuxPlan.Proofs.Ssh.Reachability

/-!
A resolver over any number of requests, with a probe whose answers may change from call to call. What
it counts as validated is kept apart from what it has asked; the invariant ties the two: a destination
is validated exactly if the last probe of it was answered, and after that it is not probed again.
-/

set_option autoImplicit false

namespace TmuxPlan.Ssh

inductive Request where
  /-- Make sure that the destination of the settings answers. -/
  | reach (options : Options)
  /-- The same, and say what to type to run the command there. -/
  | route (options : Options) (command : String)
  deriving DecidableEq, Repr

namespace Request

def destination : Request → String
  | .reach options | .route options _ => options.destination

/-- Gives the text to type, where the request is for one. -/
def serve : Request → EStateM Error Resolver (Option String)
  | .reach options => do
    Resolver.ensureReachable options
    return none
  | .route options command => do
    let text ← Resolver.route options command
    return some text

end Request

namespace Resolver

/-- The resolver after the requests, each made whether or not those before it failed. -/
def serveAll (requests : List Request) (resolver : Resolver) : Resolver :=
  requests.foldl (fun resolver request => stateOf (request.serve.run resolver)) resolver

/-- The probes so far with their answers. -/
def answers (resolver : Resolver) : List (String × Bool) :=
  resolver.probed.zipIdx.map fun (destination, call) =>
    (destination, resolver.probe call destination)

/-- What the most recent probe of a destination answered. -/
def lastAnswer? (resolver : Resolver) (destination : String) : Option Bool :=
  resolver.answers.reverse.lookup destination

/-! ### One request -/

section

variable (resolver : Resolver) (options : Options) (destination : String)

/-- Routing checks as it would without a command, and then composes the text. -/
theorem route_run (command : String) :
    (route options command).run resolver =
      match (ensureReachable options).run resolver with
      | .ok _ after => .ok (options.compose command) after
      | .error cause after => .error cause after := by
  rw [route, EStateM.run_bind]
  cases (ensureReachable options).run resolver <;> rfl

theorem ensureReachable_settles :
    stateOf ((ensureReachable options).run resolver) = resolver.meet options.destination ∧
      failureOf ((ensureReachable options).run resolver) =
        if resolver.refuses options.destination then some (.unreachable options.destination)
        else none := by
  rw [EStateM.run, ensureReachable_eq, meet, refuses]
  cases resolver.trusts options.destination with
  | true => exact ⟨rfl, rfl⟩
  | false =>
    cases resolver.answer options.destination with
    | true => exact ⟨rfl, rfl⟩
    | false => exact ⟨rfl, rfl⟩

/-- A request meets its destination, with or without a command to be composed. -/
theorem serve_settles (request : Request) :
    stateOf (request.serve.run resolver) = resolver.meet request.destination ∧
      failureOf (request.serve.run resolver) =
        if resolver.refuses request.destination then some (.unreachable request.destination)
        else none := by
  cases request with
  | reach options =>
    rw [Request.destination, ← (ensureReachable_settles resolver options).1,
      ← (ensureReachable_settles resolver options).2, Request.serve, EStateM.run_bind]
    cases (ensureReachable options).run resolver <;> exact ⟨rfl, rfl⟩
  | route options command =>
    rw [Request.destination, ← (ensureReachable_settles resolver options).1,
      ← (ensureReachable_settles resolver options).2, Request.serve, EStateM.run_bind, route_run]
    cases (ensureReachable options).run resolver <;> exact ⟨rfl, rfl⟩

theorem answers_afterProbe :
    (resolver.afterProbe destination).answers =
      resolver.answers ++ [(destination, resolver.answer destination)] := by
  simp [answers, answer, List.zipIdx_append]

theorem lastAnswer?_afterProbe (other : String) :
    (resolver.afterProbe destination).lastAnswer? other =
      if other = destination then some (resolver.answer destination)
      else resolver.lastAnswer? other := by
  rw [lastAnswer?, answers_afterProbe, List.reverse_append, List.reverse_singleton,
    List.singleton_append, List.lookup_cons]
  by_cases same : other = destination
  · simp [same]
  · rw [beq_false_of_ne same, if_neg same, lastAnswer?]

theorem mem_validated_afterProbe (other : String) :
    other ∈ (resolver.afterProbe destination).validated ↔
      (other = destination ∧ resolver.answer destination = true) ∨ other ∈ resolver.validated := by
  cases answered : resolver.answer destination with
  | true => simp [afterProbe_validated_of_answer _ _ answered]
  | false => simp [afterProbe_validated_of_silence _ _ answered]

/-- What is validated stays so. -/
theorem mem_validated_meet {other : String} (known : other ∈ resolver.validated) :
    other ∈ (resolver.meet destination).validated := by
  unfold meet
  split
  · exact known
  · exact (mem_validated_afterProbe ..).mpr (.inr known)

end

/-- What a request for a destination does to a resolver that probes. -/
structure Serves (before : Resolver) (destination : String) (failure : Option Error)
    (after : Resolver) : Prop where
  answers : after.answers = before.answers ++
    if before.isValidated destination then []
    else [(destination, before.answer destination)]
  refused_iff : failure ≠ none ↔
    before.isValidated destination = false ∧ before.answer destination = false
  refused : ∀ cause, failure = some cause →
    cause = .unreachable destination ∧ after.validated = before.validated
  passed : failure = none → after.isValidated destination = true ∧
    ∀ other, other ≠ destination → after.isValidated other = before.isValidated other

theorem serves_of_live {resolver : Resolver} (live : resolver.debug = false) (request : Request) :
    Serves resolver request.destination (failureOf (request.serve.run resolver))
      (stateOf (request.serve.run resolver)) := by
  have trust : resolver.trusts request.destination = resolver.isValidated request.destination := by
    simp [trusts, live]
  obtain ⟨left, failure⟩ := serve_settles resolver request
  rw [left, failure, meet, refuses, trust]
  cases known : resolver.isValidated request.destination with
  | true =>
    exact {
      answers := by simp [known]
      refused_iff := by simp [known]
      refused := by simp
      passed := fun _ => ⟨known, fun _ _ => rfl⟩ }
  | false =>
    cases answered : resolver.answer request.destination with
    | true =>
      refine {
        answers := by simp [known, answers_afterProbe]
        refused_iff := by simp [answered]
        refused := by simp
        passed := fun _ => ⟨?_, ?_⟩ }
      · simp [isValidated, afterProbe_validated_of_answer _ _ answered]
      · intro other different
        simp [isValidated, afterProbe_validated_of_answer _ _ answered, different]
    | false =>
      refine {
        answers := by simp [known, answers_afterProbe]
        refused_iff := by simp [known, answered]
        refused := ?_
        passed := by simp }
      rintro _ ⟨⟩
      exact ⟨rfl, afterProbe_validated_of_silence _ _ answered⟩

/-! ### Any number of requests -/

/-- A resolver whose validated destinations are those whose last probe was answered. -/
structure Accounted (probe : Probe) (debug : Bool) (resolver : Resolver) : Prop where
  probe_eq : resolver.probe = probe
  debug_eq : resolver.debug = debug
  untouched : debug = true → resolver.probed = [] ∧ resolver.validated = []
  validated_iff : ∀ destination,
    destination ∈ resolver.validated ↔ resolver.lastAnswer? destination = some true
  validated_of_answer : ∀ destination,
    (destination, true) ∈ resolver.answers → destination ∈ resolver.validated
  answered_last : resolver.answers.Pairwise fun probed next => probed.2 = true → next.1 ≠ probed.1

theorem accounted_fresh (probe : Probe) (debug : Bool) : Accounted probe debug { probe, debug } where
  probe_eq := rfl
  debug_eq := rfl
  untouched _ := ⟨rfl, rfl⟩
  validated_iff _ := by simp [lastAnswer?, answers]
  validated_of_answer _ listed := by simp [answers] at listed
  answered_last := .nil

section

variable {probe : Probe} {debug : Bool} {resolver : Resolver}

theorem Accounted.afterProbe (account : Accounted probe debug resolver) (live : debug = false)
    {asked : String} (fresh : asked ∉ resolver.validated) :
    Accounted probe debug (resolver.afterProbe asked) := by
  refine ⟨account.probe_eq, account.debug_eq, ?_, ?_, ?_, ?_⟩
  · intro debugging
    rw [live] at debugging
    cases debugging
  · intro destination
    rw [mem_validated_afterProbe, lastAnswer?_afterProbe, account.validated_iff]
    by_cases same : destination = asked
    · subst same
      have unanswered : resolver.lastAnswer? destination ≠ some true :=
        fun found => fresh ((account.validated_iff destination).mpr found)
      simp [unanswered]
    · simp [same]
  · intro destination listed
    rw [answers_afterProbe, List.mem_append, List.mem_singleton, Prod.mk.injEq] at listed
    rw [mem_validated_afterProbe]
    rcases listed with before | ⟨same, answered⟩
    · exact .inr (account.validated_of_answer destination before)
    · exact .inl ⟨same, answered.symm⟩
  · rw [answers_afterProbe, List.pairwise_append]
    refine ⟨account.answered_last, List.pairwise_singleton .., ?_⟩
    rintro ⟨destination, answer⟩ before _ listed rfl
    obtain rfl := List.mem_singleton.mp listed
    rintro rfl
    exact fresh (account.validated_of_answer _ before)

theorem Accounted.meet (account : Accounted probe debug resolver) (destination : String) :
    Accounted probe debug (resolver.meet destination) := by
  unfold Resolver.meet
  split
  · exact account
  · rename_i untrusted
    rw [trusts_iff, account.debug_eq, not_or, Bool.not_eq_true] at untrusted
    exact account.afterProbe untrusted.1 untrusted.2

theorem serveAll_cons (request : Request) (requests : List Request) :
    serveAll (request :: requests) resolver =
      serveAll requests (resolver.meet request.destination) := by
  rw [serveAll, List.foldl_cons, (serve_settles resolver request).1, serveAll]

theorem Accounted.serveAll (account : Accounted probe debug resolver) (requests : List Request) :
    Accounted probe debug (serveAll requests resolver) := by
  induction requests generalizing resolver with
  | nil => exact account
  | cons request requests inductionHypothesis =>
    rw [serveAll_cons]
    exact inductionHypothesis (account.meet request.destination)

theorem mem_validated_serveAll {destination : String} (known : destination ∈ resolver.validated)
    (requests : List Request) : destination ∈ (serveAll requests resolver).validated := by
  induction requests generalizing resolver with
  | nil => exact known
  | cons request requests inductionHypothesis =>
    rw [serveAll_cons]
    exact inductionHypothesis (mem_validated_meet resolver request.destination known)

end

/-- What a resolver does with a request after any others. In debug mode it asks nobody and lets
everything through. Otherwise a destination that is not validated is probed once and the answer
decides. At every point the validated destinations are those whose last probe was answered, and an
answered probe of a destination is the last one of it. -/
theorem validated_by_last_probe (probe : Probe) (debug : Bool) (earlier later : List Request)
    (request : Request) :
    let before := serveAll earlier { probe, debug }
    let outcome := request.serve.run before
    let after := stateOf outcome
    before.probe = probe ∧
    (debug = true → failureOf outcome = none ∧ after.probed = [] ∧ after.validated = []) ∧
    (debug = false → Serves before request.destination (failureOf outcome) after) ∧
    (∀ destination,
      before.isValidated destination = true ↔ before.lastAnswer? destination = some true) ∧
    (before.answers.Pairwise fun probed next => probed.2 = true → next.1 ≠ probed.1) ∧
    (∀ destination, before.isValidated destination = true →
      (serveAll later before).isValidated destination = true) ∧
    ∀ options command, (route options command).run before =
      match (ensureReachable options).run before with
      | .ok _ after => .ok (options.compose command) after
      | .error cause after => .error cause after := by
  intro before outcome after
  have account : Accounted probe debug before := (accounted_fresh probe debug).serveAll earlier
  refine ⟨account.probe_eq, ?_, ?_, ?_, account.answered_last, ?_, route_run before⟩
  · intro debugging
    obtain ⟨left, failure⟩ := serve_settles before request
    have trusted : before.trusts request.destination = true :=
      (trusts_iff _ _).mpr (.inl (account.debug_eq.trans debugging))
    have passed : before.refuses request.destination = false := by simp [refuses, trusted]
    have same : after = before := left.trans (if_pos trusted)
    rw [same]
    refine ⟨failure.trans ?_, account.untouched debugging⟩
    rw [passed]
    rfl
  · intro live
    exact serves_of_live (account.debug_eq.trans live) request
  · intro destination
    rw [isValidated, List.contains_iff_mem]
    exact account.validated_iff destination
  · intro destination known
    rw [isValidated, List.contains_iff_mem] at known ⊢
    exact mem_validated_serveAll known later

/-- A silent destination is probed again, one that has answered is not. -/
example : (serveAll (List.replicate 3 (.reach { server := "web01" }))
    { probe := fun call _ => call != 0 }).answers = [("web01", false), ("web01", true)] := by
  decide

end Resolver

end TmuxPlan.Ssh
