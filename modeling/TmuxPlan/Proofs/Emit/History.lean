import TmuxPlan.Proofs.Emit.Guard
import TmuxPlan.Proofs.Emit.Offence
import TmuxPlan.Proofs.Emit.Preview

/-!
Compilations that share a resolver, one after the other. Each of them asks for the destinations of
its panes that the resolver does not know yet, and nothing is typed over ssh before the destination
has answered. What the invariant says is that the resolver is honest: every destination it counts
as validated has been asked for and has answered.
-/

set_option autoImplicit false

namespace TmuxPlan

namespace Ssh

namespace Resolver

/-- Whether a destination has been probed and answered. -/
def hasAnswered (resolver : Resolver) (destination : String) : Prop :=
  ∃ call, resolver.probed[call]? = some destination ∧ resolver.probe call destination = true

/-- A resolver that asks the given probe, and counts as validated only what has answered. -/
structure Honest (probe : Probe) (resolver : Resolver) : Prop where
  probe_eq : resolver.probe = probe
  live : resolver.debug = false
  answered : ∀ destination ∈ resolver.validated, resolver.hasAnswered destination

theorem honest_fresh (probe : Probe) : Honest probe { probe } :=
  ⟨rfl, rfl, nofun⟩

variable {probe : Probe} {resolver : Resolver}

theorem hasAnswered_afterProbe {destination : String} (answered : resolver.hasAnswered destination)
    (asked : String) : (resolver.afterProbe asked).hasAnswered destination := by
  obtain ⟨call, found, answer⟩ := answered
  refine ⟨call, ?_, answer⟩
  have early : call < resolver.probed.length := (List.getElem?_eq_some_iff.mp found).1
  rw [afterProbe_probed, List.getElem?_append_left early, found]

theorem Honest.afterProbe (honest : Honest probe resolver) (asked : String) :
    Honest probe (resolver.afterProbe asked) := by
  refine ⟨honest.probe_eq, honest.live, ?_⟩
  intro destination validated
  cases answered : resolver.answer asked with
  | false =>
    rw [afterProbe_validated_of_silence _ _ answered] at validated
    exact hasAnswered_afterProbe (honest.answered destination validated) asked
  | true =>
    rw [afterProbe_validated_of_answer _ _ answered, List.mem_cons] at validated
    rcases validated with rfl | validated
    · exact ⟨resolver.probed.length, by simp, answered⟩
    · exact hasAnswered_afterProbe (honest.answered destination validated) asked

end Resolver

end Ssh

namespace Emit

theorem perform_honest (acts : List Act) {probe : Ssh.Probe} {resolver : Ssh.Resolver}
    (honest : Ssh.Resolver.Honest probe resolver) :
    Ssh.Resolver.Honest probe (perform acts resolver).resolver := by
  fun_induction perform acts resolver with
  | case1 | case3 => exact honest
  | case2 ssh command acts resolver inductionHypothesis => exact inductionHypothesis honest
  | case4 ssh acts resolver trusted inductionHypothesis => exact inductionHypothesis honest
  | case5 ssh acts resolver trusted answered inductionHypothesis =>
    exact inductionHypothesis (honest.afterProbe _)
  | case6 ssh acts resolver trusted silent => exact honest.afterProbe _

section

variable {session : Session} {options : CompileOptions}

/-- A pane that can be planned demands its destination, however many entries it has. -/
theorem unknown_demanded_place {place : Place} (faultless : place.fault? session options = none)
    (rest : List Act) (known : List String) :
    Ssh.unknown known (demanded (demands (place.acts session options) ++ rest)) =
      Ssh.unknown known ((place.destination? session).toList ++ demanded rest) := by
  obtain ⟨plan, planned, shape⟩ := acts_of_faultless faultless
  have destination : place.destination? session = plan.ssh.map Ssh.Options.destination :=
    (PanePlan.plan?_destination planned).symm
  rw [shape, demands_append, demands_emits, List.nil_append, demands_entriesActs, destination]
  cases plan.ssh with
  | none => simp
  | some ssh =>
    obtain ⟨count, length⟩ : ∃ count, plan.entries.length = count + 1 :=
      Nat.exists_eq_add_one.mpr
        (List.length_pos_iff.mpr (PanePlan.plan?_entries_ne_nil planned))
    have repeated (count : Nat) : demanded (List.replicate count (.reach ssh) ++ rest) =
        List.replicate count ssh.destination ++ demanded rest := by
      induction count with
      | zero => rfl
      | succ count inductionHypothesis =>
        simp only [List.replicate_succ, List.cons_append, demanded, inductionHypothesis]
    simp only [Option.toList_some, List.map_singleton, Option.map_some, length,
      List.flatten_replicate_singleton, repeated, Ssh.unknown_replicate, List.singleton_append]

/-- The destinations of the panes before the first one that something is wrong with. -/
def plannedDestinations (session : Session) (options : CompileOptions) (places : List Place) :
    List String :=
  (places.takeWhile fun place => (place.fault? session options).isNone).filterMap
    (Place.destination? session)

theorem unknown_demanded_places (places : List Place) (known : List String) :
    Ssh.unknown known
        (demanded (places.flatMap fun place => demands (place.acts session options))) =
      Ssh.unknown known (plannedDestinations session options places) := by
  induction places generalizing known with
  | nil => rfl
  | cons place places inductionHypothesis =>
    rw [List.flatMap_cons, plannedDestinations, List.takeWhile_cons]
    cases fault : place.fault? session options with
    | some cause =>
      rw [acts_of_fault fault]
      rfl
    | none =>
      have sameRest := Ssh.unknown_append_congr inductionHypothesis
        (place.destination? session).toList known
      rw [unknown_demanded_place fault, sameRest]
      cases named : place.destination? session with
      | none => simp [plannedDestinations, named]
      | some destination => simp [plannedDestinations, named]

end

section

variable (session : Session) (options : CompileOptions)

/-- The probes that a compilation makes: the destinations of its panes that are not known yet, each
once, until one does not answer. -/
def asked (resolver : Ssh.Resolver) : List (String × Bool) :=
  Ssh.survey resolver.probe resolver.probed.length
    (Ssh.unknown resolver.validated (plannedDestinations session options session.places))

theorem perform_asked {resolver : Ssh.Resolver} (live : resolver.debug = false) :
    (perform (acts session options) resolver).probes = asked session options resolver := by
  rw [perform_probes _ _ live, ← demanded_demands, demands_acts, unknown_demanded_places, asked]

theorem asked_not_known {resolver : Ssh.Resolver} {destination : String}
    (known : destination ∈ resolver.validated) :
    destination ∉ (asked session options resolver).map Prod.fst := by
  intro listed
  have unanswered := (Ssh.survey_fst_prefix _ _ _).subset listed
  exact ((Ssh.mem_unknown _ _ _).mp unanswered).2 known

theorem asked_nodup (resolver : Ssh.Resolver) :
    ((asked session options resolver).map Prod.fst).Nodup :=
  (Ssh.survey_fst_prefix _ _ _).sublist.nodup (Ssh.unknown_nodup _ _)

end

def emittedOf : EStateM.Result Error Walk (List Command) → List Command
  | .ok commands _ => commands
  | .error _ stopped => stopped.commands

def afterCall (resolver : Ssh.Resolver) (call : Session × CompileOptions) : Ssh.Resolver :=
  (walkOf ((create call.1 call.2).run { resolver })).resolver

/-- The resolver that compilations leave which share it, one after the other. -/
def afterCalls (calls : List (Session × CompileOptions)) (resolver : Ssh.Resolver) :
    Ssh.Resolver :=
  calls.foldl afterCall resolver

theorem create_emitted (session : Session) (options : CompileOptions) (walk : Walk) :
    emittedOf ((create session options).run walk) =
      (perform (acts session options) walk.resolver).commands := by
  cases result : (create session options).run walk with
  | ok commands after => exact (unfailed_of_create result).2.1
  | error cause stopped => exact (failed_of_create result).2.1

theorem afterCall_eq (resolver : Ssh.Resolver) (call : Session × CompileOptions) :
    afterCall resolver call =
      (perform (acts call.1 call.2) resolver).resolver.report
        (closingReport call.1 call.2 { resolver }) := by
  rw [afterCall, walkOf_eq, resolver_create]

section

variable {probe : Ssh.Probe} {resolver : Ssh.Resolver}

theorem afterCall_honest (honest : Ssh.Resolver.Honest probe resolver)
    (call : Session × CompileOptions) : Ssh.Resolver.Honest probe (afterCall resolver call) := by
  obtain ⟨sameProbe, live, answered⟩ := perform_honest (acts call.1 call.2) honest
  rw [afterCall_eq]
  exact ⟨sameProbe, live, answered⟩

theorem afterCalls_honest (honest : Ssh.Resolver.Honest probe resolver)
    (calls : List (Session × CompileOptions)) :
    Ssh.Resolver.Honest probe (afterCalls calls resolver) := by
  induction calls generalizing resolver with
  | nil => exact honest
  | cons call calls inductionHypothesis => exact inductionHypothesis (afterCall_honest honest call)

theorem afterCall_probed (live : resolver.debug = false) (call : Session × CompileOptions) :
    (afterCall resolver call).probed =
      resolver.probed ++ (asked call.1 call.2 resolver).map Prod.fst := by
  rw [afterCall_eq, ← perform_asked _ _ live]
  exact perform_probed _ _

theorem mem_afterCall_validated (live : resolver.debug = false) (call : Session × CompileOptions)
    (destination : String) :
    destination ∈ (afterCall resolver call).validated ↔
      destination ∈ resolver.validated ∨ (destination, true) ∈ asked call.1 call.2 resolver := by
  rw [afterCall_eq, ← perform_asked _ _ live]
  exact mem_perform_validated _ _ destination

/-- What is validated is not asked for again, however many compilations follow. -/
theorem afterCalls_probed (honest : Ssh.Resolver.Honest probe resolver)
    (calls : List (Session × CompileOptions)) :
    ∃ rest, (afterCalls calls resolver).probed = resolver.probed ++ rest ∧
      ∀ destination ∈ resolver.validated, destination ∉ rest := by
  induction calls generalizing resolver with
  | nil => exact ⟨[], by simp [afterCalls], by simp⟩
  | cons call calls inductionHypothesis =>
    obtain ⟨rest, probed, unasked⟩ := inductionHypothesis (afterCall_honest honest call)
    refine ⟨(asked call.1 call.2 resolver).map Prod.fst ++ rest, ?_, ?_⟩
    · rw [← List.append_assoc, ← afterCall_probed honest.live]
      exact probed
    · intro destination known listed
      rcases List.mem_append.mp listed with now | later
      · exact asked_not_known _ _ known now
      · exact unasked destination
          ((mem_afterCall_validated honest.live call destination).mpr (.inl known)) later

end

/-- A destination is probed before it is used, at most once, in the order of the first mention. This
is said of any compilation among others that share a resolver, with a probe whose answers may change
from call to call. -/
theorem probed_once_before_use (probe : Ssh.Probe)
    (earlier later : List (Session × CompileOptions)) (session : Session)
    (options : CompileOptions) :
    let entry := afterCalls earlier { probe }
    let exit := afterCall entry (session, options)
    let answers := asked session options entry
    let outcome := perform (acts session options) entry
    entry.probe = probe ∧
    emittedOf ((create session options).run { resolver := entry }) = outcome.commands ∧
    outcome.probes = answers ∧
    exit.probed = entry.probed ++ answers.map Prod.fst ∧
    (answers.map Prod.fst).Nodup ∧
    (∀ destination, destination ∈ exit.validated ↔
      destination ∈ entry.validated ∨ (destination, true) ∈ answers) ∧
    (∀ before ssh target text enter after,
      outcome.events = before ++ .emitted (some ssh) (.sendKeys target text enter) :: after →
        entry.hasAnswered ssh.destination ∨ .probed ssh.destination true ∈ before) ∧
    ∃ rest, (afterCalls later exit).probed = exit.probed ++ rest ∧
      ∀ destination ∈ exit.validated, destination ∉ rest := by
  intro entry exit answers outcome
  have honest : Ssh.Resolver.Honest probe entry :=
    afterCalls_honest (Ssh.Resolver.honest_fresh probe) earlier
  refine ⟨honest.probe_eq, create_emitted session options _,
    perform_asked session options honest.live, afterCall_probed honest.live _, asked_nodup session options entry,
    mem_afterCall_validated honest.live _, ?_,
    afterCalls_probed (afterCall_honest honest _) later⟩
  intro before ssh target text enter after shape
  refine ((guarded_acts session options).answered shape).imp_left ?_
  intro trusted
  rw [Ssh.Resolver.trusts_iff, honest.live] at trusted
  exact honest.answered _ (by simpa using trusted)

end Emit

end TmuxPlan
