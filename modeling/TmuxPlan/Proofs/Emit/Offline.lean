import TmuxPlan.Proofs.Emit.History

/-!
What showing does to the resolver: the same as typing. Only what is emitted depends on the option to
show, so a compilation that is to ask nobody needs a resolver that asks nobody, or one that knows all
destinations already.
-/

set_option autoImplicit false

namespace TmuxPlan.Emit

theorem demands_map_commentedOut (acts : List Act) :
    demands (acts.map Act.commentedOut) = demands acts := by
  induction acts with
  | nil => rfl
  | cons act acts inductionHypothesis =>
    cases act with
    | emit ssh command => exact inductionHypothesis
    | reach ssh => exact congrArg (.reach ssh :: ·) inductionHypothesis
    | fail cause => exact congrArg (.fail cause :: ·) inductionHypothesis

theorem commandsOf_map_commentedOut (acts : List Act) :
    commandsOf (acts.map Act.commentedOut) = (commandsOf acts).map Command.commentedOut := by
  induction acts with
  | nil => rfl
  | cons act acts inductionHypothesis =>
    cases act with
    | emit ssh command => exact congrArg (command.commentedOut :: ·) inductionHypothesis
    | reach ssh => exact inductionHypothesis
    | fail cause => exact inductionHypothesis

section

variable (session : Session) (options : CompileOptions) (walk : Walk)

/-- What has to go well for a session stands at one of its panes: what is wrong with the pane, or its
destination. -/
theorem place_of_demand {act : Act} (listed : act ∈ acts session options)
    (demanding : act.isDemand = true) :
    ∃ place ∈ session.places,
      (∃ cause, act = .fail cause ∧ place.fault? session options = some cause) ∨
        ∃ ssh, act = .reach ssh ∧ place.destination? session = some ssh.destination := by
  have demanded : act ∈ demands (acts session options) := List.mem_filter.mpr ⟨listed, demanding⟩
  rw [demands_acts, List.mem_flatMap] at demanded
  obtain ⟨place, inSession, demanded⟩ := demanded
  refine ⟨place, inSession, ?_⟩
  cases fault : place.fault? session options with
  | some cause =>
    rw [acts_of_fault fault, demands_fail] at demanded
    exact .inl ⟨cause, List.mem_singleton.mp demanded, rfl⟩
  | none =>
    obtain ⟨plan, planned, shape⟩ := acts_of_faultless fault
    rw [shape, demands_append, demands_emits, List.nil_append, demands_entriesActs,
      List.mem_flatten] at demanded
    obtain ⟨reaches, repeated, held⟩ := demanded
    rw [List.eq_of_mem_replicate repeated, List.mem_map] at held
    obtain ⟨ssh, routed, same⟩ := held
    have named := PanePlan.plan?_destination planned
    rw [Option.mem_toList.mp routed] at named
    exact .inr ⟨ssh, same.symm, named.symm⟩

/-- No error of a pane says that a destination does not answer. -/
theorem unreachable_not_mem_acts (destination : String) :
    .fail (.unreachable destination) ∉ acts session options := by
  intro failing
  obtain ⟨place, -, atPlace⟩ := place_of_demand session options failing rfl
  rcases atPlace with ⟨_, ⟨⟩, fault⟩ | ⟨ssh, impossible, -⟩
  · cases PanePlan.isUnreachable_fault? fault
  · cases impossible

/-- What it is for a compilation to ask nobody. -/
structure Offline (walk : Walk) (result : EStateM.Result Error Walk (List Command)) : Prop where
  probed : (stateOf result).resolver.probed = walk.resolver.probed
  validated : (stateOf result).resolver.validated = walk.resolver.validated
  connected : ∀ destination, failureOf result ≠ some (.unreachable destination)

theorem offline_iff_unprobed :
    Offline walk ((create session options).run walk) ↔
      (perform (acts session options) walk.resolver).probes = [] := by
  have left := resolver_create session options walk
  constructor
  · intro offline
    have asked := offline.probed
    rw [left, Ssh.Resolver.report, perform_probed] at asked
    simpa using asked
  · intro unprobed
    obtain ⟨same, failed⟩ := perform_of_unprobed _ _ unprobed
    rw [same, Ssh.Resolver.report] at left
    refine ⟨by rw [left], by rw [left], ?_⟩
    intro destination missed
    rw [failureOf_create] at missed
    exact unreachable_not_mem_acts session options destination (failed _ missed)

theorem unprobed_iff :
    (perform (acts session options) walk.resolver).probes = [] ↔
      walk.resolver.debug = true ∨
        ∀ destination ∈ plannedDestinations session options session.places,
          destination ∈ walk.resolver.validated := by
  cases debugging : walk.resolver.debug with
  | true =>
    have left := perform_probed (acts session options) walk.resolver
    rw [perform_debugging _ debugging] at left
    simpa using left
  | false =>
    rw [perform_asked session options debugging, asked, Ssh.survey_eq_nil_iff,
      Ssh.unknown_eq_nil_iff]
    simp

/-- A compilation that only shows fails as the real one does and leaves the same resolver, whichever
it is given. It asks nobody exactly if the resolver is in debug mode itself or counts every
destination that is planned for as validated. -/
theorem create_shown_offline_iff :
    let shown := (create session { options with debug := true }).run walk
    let real := (create session { options with debug := false }).run walk
    failureOf shown = failureOf real ∧ (stateOf shown).resolver = (stateOf real).resolver ∧
      (Offline walk shown ↔ walk.resolver.debug = true ∨
        ∀ destination ∈ plannedDestinations session options session.places,
          destination ∈ walk.resolver.validated) := by
  intro shown real
  have sameDemands : demands (acts session { options with debug := true }) =
      demands (acts session { options with debug := false }) := by
    rw [acts_preview, demands_map_commentedOut]
  obtain ⟨shownFailure, shownResolver⟩ :=
    perform_demands (acts session { options with debug := true }) walk.resolver
  obtain ⟨realFailure, realResolver⟩ :=
    perform_demands (acts session { options with debug := false }) walk.resolver
  rw [sameDemands] at shownFailure shownResolver
  have sameFailure := shownFailure.symm.trans realFailure
  have sameResolver := shownResolver.symm.trans realResolver
  have sameReport : closingReport session { options with debug := true } walk =
      closingReport session { options with debug := false } walk := by
    unfold closingReport
    rw [sameFailure]
    cases failed : (perform (acts session { options with debug := false })
        walk.resolver).failure with
    | some cause => rfl
    | none =>
      rw [commands_of_unfailed _ _ (sameFailure.trans failed), commands_of_unfailed _ _ failed,
        acts_preview, commandsOf_map_commentedOut, List.length_map]
  refine ⟨?_, ?_, ?_⟩
  · rw [failureOf_create, failureOf_create, sameFailure]
  · rw [resolver_create, resolver_create, sameResolver, sameReport]
  · rw [offline_iff_unprobed, unprobed_iff]
    rfl

/-- A resolver that is not in debug mode asks, although what is typed is only to be shown. -/
theorem shown_may_probe :
    ∃ session walk stopped, walk.resolver.debug = false ∧ walk.resolver.probed = [] ∧
      (create session { debug := true }).run walk = .error (.unreachable "web01") stopped ∧
      stopped.resolver.probed = ["web01"] := by
  let session : Session := {
    name := ⟨"s", by decide⟩, windows := [{ name := "w", panes := [{}] }]
    shell := some [⟨"ls", none⟩], ssh := some { server := some "web01" } }
  let walk : Walk := { resolver := { probe := fun _ _ => false } }
  have failed : (perform (acts session { debug := true }) walk.resolver).failure =
      some (.unreachable "web01") := by
    decide +kernel
  obtain ⟨stopped, result, -, left⟩ := create_of_failed failed
  refine ⟨session, walk, stopped, rfl, rfl, result, ?_⟩
  rw [left]
  decide +kernel

end

end TmuxPlan.Emit
