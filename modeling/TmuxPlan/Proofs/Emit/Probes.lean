import TmuxPlan.Proofs.Emit.Acts
import TmuxPlan.Proofs.Ssh.Survey

/-!
The probes of a list of acts. Only the demands in it matter, the destinations that have to answer and
the errors; what is emitted in between does not. The probes are a survey of the destinations that
the resolver does not know, and the acts go through if no error stands among them and all that were
asked have answered.
-/

set_option autoImplicit false

namespace TmuxPlan.Emit

namespace Act

def command? : Act → Option Command
  | .emit _ command => some command
  | .reach _ | .fail _ => none

def isDemand : Act → Bool
  | .emit .. => false
  | .reach _ | .fail _ => true

end Act

/-- All that a list of acts emits if nothing stops it. -/
def commandsOf (acts : List Act) : List Command :=
  acts.filterMap Act.command?

def demands (acts : List Act) : List Act :=
  acts.filter Act.isDemand

/-- The destinations that have to answer before the first error. -/
def demanded : List Act → List String
  | [] | .fail _ :: _ => []
  | .emit .. :: acts => demanded acts
  | .reach ssh :: acts => ssh.destination :: demanded acts

section

variable (first second : List Act) (ssh : Option Ssh.Options) (commands : List Command)

@[simp]
theorem commandsOf_nil : commandsOf [] = [] := rfl

@[simp]
theorem commandsOf_emit (command : Command) :
    commandsOf (.emit ssh command :: first) = command :: commandsOf first := rfl

@[simp]
theorem commandsOf_append :
    commandsOf (first ++ second) = commandsOf first ++ commandsOf second := by
  simp [commandsOf]

@[simp]
theorem commandsOf_emits : commandsOf (commands.map (.emit ssh)) = commands := by
  simp [commandsOf, List.filterMap_map, Function.comp_def, Act.command?]

@[simp]
theorem demands_append : demands (first ++ second) = demands first ++ demands second := by
  simp [demands]

@[simp]
theorem demands_emits : demands (commands.map (.emit ssh)) = [] := by
  simp [demands, Act.isDemand]

@[simp]
theorem demands_emit (command : Command) :
    demands (.emit ssh command :: first) = demands first := rfl

@[simp]
theorem demands_reach (settings : Ssh.Options) :
    demands (.reach settings :: first) = .reach settings :: demands first := rfl

@[simp]
theorem demands_fail (cause : Error) :
    demands (.fail cause :: first) = .fail cause :: demands first := rfl

theorem demanded_demands (acts : List Act) : demanded (demands acts) = demanded acts := by
  induction acts with
  | nil => rfl
  | cons act acts inductionHypothesis =>
    cases act with
    | emit ssh command => exact inductionHypothesis
    | fail cause => rfl
    | reach ssh => exact congrArg (ssh.destination :: ·) inductionHypothesis

end

theorem commandsOf_entryActs (session : Session) (options : CompileOptions) (plan : PanePlan)
    (windowIndex paneIndex : Nat) (entry : CommandEntry) :
    commandsOf (entryActs session options plan windowIndex paneIndex entry) =
      keys options ⟨session.name, .ofNat windowIndex, .ofNat paneIndex⟩ (plan.text entry) := by
  rw [entryActs, commandsOf_append, commandsOf_emits]
  cases plan.ssh <;> rfl

variable (acts : List Act) (resolver : Ssh.Resolver)

theorem perform_probed :
    (perform acts resolver).resolver.probed =
      resolver.probed ++ (perform acts resolver).probes.map Prod.fst := by
  fun_induction perform acts resolver with
  | case1 | case3 => simp [Outcome.probes]
  | case2 ssh command acts resolver inductionHypothesis => simpa using inductionHypothesis
  | case4 ssh acts resolver trusted inductionHypothesis => exact inductionHypothesis
  | case5 ssh acts resolver trusted answered inductionHypothesis => simp [inductionHypothesis]
  | case6 => rfl

theorem mem_perform_validated (destination : String) :
    destination ∈ (perform acts resolver).resolver.validated ↔
      destination ∈ resolver.validated ∨ (destination, true) ∈ (perform acts resolver).probes := by
  fun_induction perform acts resolver with
  | case1 | case3 => simp [Outcome.probes]
  | case2 ssh command acts resolver inductionHypothesis => simpa using inductionHypothesis
  | case4 ssh acts resolver trusted inductionHypothesis => exact inductionHypothesis
  | case5 ssh acts resolver trusted answered inductionHypothesis =>
    rw [Outcome.after_resolver, inductionHypothesis, Outcome.after_probed_probes,
      Ssh.Resolver.afterProbe_validated_of_answer _ _ answered, List.mem_cons, List.mem_cons,
      Prod.mk.injEq, eq_self_iff_true, and_true, or_assoc, or_left_comm]
  | case6 ssh acts resolver trusted silent =>
    rw [Bool.not_eq_true] at silent
    simp [Ssh.Resolver.afterProbe_validated_of_silence _ _ silent, Outcome.probes, Event.probe?]

theorem perform_probes (live : resolver.debug = false) :
    (perform acts resolver).probes =
      Ssh.survey resolver.probe resolver.probed.length
        (Ssh.unknown resolver.validated (demanded acts)) := by
  fun_induction perform acts resolver with
  | case1 | case3 => rfl
  | case2 ssh command acts resolver inductionHypothesis => exact inductionHypothesis live
  | case4 ssh acts resolver trusted inductionHypothesis =>
    rw [Ssh.Resolver.trusts_iff, live] at trusted
    rw [inductionHypothesis live, demanded, Ssh.unknown_cons_of_mem _ _ _ (by simpa using trusted)]
  | case5 ssh acts resolver trusted answered inductionHypothesis =>
    rw [Ssh.Resolver.trusts_iff, live] at trusted
    rw [Outcome.after_probed_probes, inductionHypothesis live, demanded,
      Ssh.unknown_cons_of_not_mem _ _ _ (by simpa using trusted), Ssh.survey,
      Ssh.Resolver.afterProbe_validated_of_answer _ _ answered]
    rw [Ssh.Resolver.answer] at answered
    simp [answered]
  | case6 ssh acts resolver trusted silent =>
    rw [Ssh.Resolver.trusts_iff, live] at trusted
    rw [demanded, Ssh.unknown_cons_of_not_mem _ _ _ (by simpa using trusted), Ssh.survey]
    rw [Ssh.Resolver.answer] at silent
    simp [silent, Outcome.probes, Event.probe?]

/-- Every answer is that of a call which was made meanwhile. -/
theorem exists_call_of_mem_probes (live : resolver.debug = false) {destination : String}
    {answer : Bool} (listed : (destination, answer) ∈ (perform acts resolver).probes) :
    ∃ call, resolver.probed.length ≤ call ∧
      (perform acts resolver).resolver.probed[call]? = some destination ∧
      resolver.probe call destination = answer := by
  have surveyed := perform_probes acts resolver live
  rw [surveyed] at listed
  obtain ⟨call, found, told⟩ := Ssh.exists_call_of_mem_survey _ _ _ _ listed
  refine ⟨resolver.probed.length + call, Nat.le_add_right _ _, ?_, told⟩
  rw [perform_probed, surveyed, List.getElem?_append_right (Nat.le_add_right _ _),
    Nat.add_sub_cancel_left, List.getElem?_map, found]
  rfl

/-- A resolver in debug mode asks nothing. -/
theorem perform_debugging {resolver : Ssh.Resolver} (debugging : resolver.debug = true) :
    (perform acts resolver).resolver = resolver := by
  fun_induction perform acts resolver with
  | case1 | case3 => rfl
  | case2 ssh command acts resolver inductionHypothesis => exact inductionHypothesis debugging
  | case4 ssh acts resolver trusted inductionHypothesis => exact inductionHypothesis debugging
  | case5 ssh acts resolver distrusted | case6 ssh acts resolver distrusted =>
    exact absurd ((resolver.trusts_iff _).mpr (.inl debugging)) distrusted

/-- Where nothing was asked nothing has changed, and no destination was missed. -/
theorem perform_of_unprobed (unprobed : (perform acts resolver).probes = []) :
    (perform acts resolver).resolver = resolver ∧
      ∀ cause, (perform acts resolver).failure = some cause → .fail cause ∈ acts := by
  fun_induction perform acts resolver with
  | case1 => exact ⟨rfl, nofun⟩
  | case2 ssh command acts resolver inductionHypothesis =>
    obtain ⟨left, failed⟩ := inductionHypothesis unprobed
    exact ⟨left, fun cause stopped => List.mem_cons_of_mem _ (failed cause stopped)⟩
  | case3 cause acts resolver =>
    refine ⟨rfl, ?_⟩
    rintro _ ⟨⟩
    exact List.mem_cons_self ..
  | case4 ssh acts resolver trusted inductionHypothesis =>
    obtain ⟨left, failed⟩ := inductionHypothesis unprobed
    exact ⟨left, fun cause stopped => List.mem_cons_of_mem _ (failed cause stopped)⟩
  | case5 | case6 => cases unprobed

/-- Acts go through if there is no error among them and all that were asked have answered. -/
theorem perform_unfailed_iff :
    (perform acts resolver).failure = none ↔
      (∀ cause, .fail cause ∉ acts) ∧ (perform acts resolver).probes.all (·.2) = true := by
  fun_induction perform acts resolver with
  | case1 => simp [Outcome.probes]
  | case3 cause rest resolver =>
    refine ⟨nofun, ?_⟩
    rintro ⟨errorFree, -⟩
    exact absurd (List.mem_cons_self ..) (errorFree cause)
  | case2 ssh command acts resolver inductionHypothesis => simpa using inductionHypothesis
  | case4 ssh acts resolver trusted inductionHypothesis => simpa using inductionHypothesis
  | case5 ssh acts resolver trusted answered inductionHypothesis => simpa using inductionHypothesis
  | case6 => simp [Outcome.probes, Event.probe?]

theorem commands_of_unfailed (unfailed : (perform acts resolver).failure = none) :
    (perform acts resolver).commands = commandsOf acts := by
  fun_induction perform acts resolver with
  | case1 => rfl
  | case3 => simp at unfailed
  | case2 ssh command acts resolver inductionHypothesis =>
    exact congrArg (command :: ·) (inductionHypothesis unfailed)
  | case4 ssh acts resolver trusted inductionHypothesis => exact inductionHypothesis unfailed
  | case5 ssh acts resolver trusted answered inductionHypothesis =>
    exact inductionHypothesis unfailed
  | case6 => simp at unfailed

end TmuxPlan.Emit
