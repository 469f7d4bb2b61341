import TmuxPlan.Proofs.Replay.Consent
import TmuxPlan.Proofs.Run.Stages

/-!
What a whole run does outside of itself. It may ask destinations while a plan is prepared, and after
that it may start tmux, but only for a plan that came out of every stage and, where consent is
needed, with consent. All that is proved of runs is read off the three ways in which one can end.
-/

set_option autoImplicit false

namespace TmuxPlan

open Log (Event)
open Replay (SaysYes Replayed started stop?)

namespace Run

def extended (trace : Trace) (progress : Replay.Progress) : Trace :=
  { trace with
    console := progress.console
    log := trace.log ++ progress.log
    ran := trace.ran ++ progress.ran }

section

variable (surroundings : Surroundings) (arguments : Arguments) (input : List UInt8)

/-- The commands may run: they were compiled, not only to be shown, and the input gives consent where
it is needed. -/
def Cleared (commands : List Command) : Prop :=
  ∃ config session, Loads surroundings arguments config ∧
    Compiles surroundings arguments config session commands ∧
    arguments.has .list = false ∧ arguments.has .debug = false ∧
    ((arguments.has .interactive || session.interactive) = true → SaysYes input)

/-- The plan can be carried out to its end, whether tmux accepts the commands or not. -/
def Completes : Plan → Prop
  | .done => True
  | .replay interactive commands =>
    (interactive = true → SaysYes input) ∧ stop? surroundings.runner commands = none

/-- The ways in which a run can end. -/
inductive Ends : RunResult → Prop where
  | stopped {trace : Trace} (cause : Error) :
      Quiet arguments trace → (∀ plan, ¬ Prepares surroundings arguments plan) →
      Ends ⟨trace, some cause⟩
  | shown {trace : Trace} :
      Quiet arguments trace → Prepares surroundings arguments .done → Ends ⟨trace, none⟩
  | declined {trace : Trace} {commands : List Command} (cause : Error) (console : Console) :
      Quiet arguments trace → Prepares surroundings arguments (.replay true commands) →
      ¬ SaysYes input → Ends ⟨extended trace { console }, some cause⟩
  | replayed {trace : Trace} {interactive : Bool} {commands : List Command}
      {result : EStateM.Result Error Replay.Progress Unit} :
      Quiet arguments trace → Prepares surroundings arguments (.replay interactive commands) →
      (interactive = true → SaysYes input) → Replayed surroundings.runner commands result →
      Ends ⟨extended trace (stateOf result), failureOf result⟩

theorem ofInput_eq :
    RunResult.ofInput surroundings arguments input =
      let result := (perform surroundings arguments).run { console := { input } }
      ⟨stateOf result, failureOf result⟩ := by
  rw [RunResult.ofInput]
  cases (perform surroundings arguments).run _ <;> rfl

theorem complete_replay (trace : Trace) (interactive : Bool) (commands : List Command) :
    let result := (Replay.execute interactive surroundings.runner commands).run
      { console := trace.console }
    let completed := (complete surroundings (.replay interactive commands)).run trace
    stateOf completed = extended trace (stateOf result) ∧
      failureOf completed = failureOf result := by
  dsimp only [EStateM.run, complete]
  cases Replay.execute interactive surroundings.runner commands { console := trace.console } <;>
    exact ⟨rfl, rfl⟩

theorem ends_ofInput :
    Ends surroundings arguments input (RunResult.ofInput surroundings arguments input) := by
  let start : Trace := { console := { input } }
  have quiet := prepare_quiet surroundings arguments start ⟨rfl, rfl, fun _ => rfl⟩
  rw [ofInput_eq, perform, EStateM.run_bind]
  cases prepared : (prepare surroundings arguments).run start with
  | error cause trace =>
    rw [prepared] at quiet
    refine .stopped cause quiet ?_
    intro plan prepares
    obtain ⟨after, planned⟩ := prepare_of_prepares start rfl prepares
    rw [prepared] at planned
    cases planned
  | ok plan trace =>
    rw [prepared] at quiet
    obtain ⟨prepares, leaves⟩ := prepares_of_prepare prepared
    cases plan with
    | done => exact .shown quiet prepares
    | replay interactive commands =>
      have sameConsole : trace.console = { input } := leaves nofun
      obtain ⟨state, failure⟩ := complete_replay surroundings trace interactive commands
      dsimp only
      rw [state, failure, sameConsole]
      -- The output takes everything, so only the answer decides whether there is consent.
      by_cases allowed : interactive = true → SaysYes input
      · refine .replayed quiet prepares allowed (Replay.replayed_of_allowed _ _ _ _ ?_)
        intro asks
        exact (Replay.consents_iff_of_unbounded rfl).mpr (allowed asks)
      · obtain ⟨rfl, silent⟩ := Classical.not_imp.mp allowed
        have dissents : ¬ Replay.Consents commands { input } := fun consents =>
          silent ((Replay.consents_iff_of_unbounded rfl).mp consents)
        obtain ⟨cause, denied⟩ := Replay.not_consents_iff.mp dissents
        rw [Replay.execute_of_denied denied]
        exact .declined cause _ quiet prepares silent

end

section

variable {surroundings : Surroundings} {arguments : Arguments} {input : List UInt8}

/-- The stages are functions of what they are given, so one plan at most can come out. -/
theorem prepares_unique {first second : Plan} (prepares : Prepares surroundings arguments first)
    (other : Prepares surroundings arguments second) : first = second := by
  obtain ⟨after, planned⟩ := prepare_of_prepares {} rfl prepares
  obtain ⟨afterOther, plannedOther⟩ := prepare_of_prepares {} rfl other
  rw [planned] at plannedOther
  cases plannedOther
  rfl

theorem cleared_iff {commands : List Command} :
    Cleared surroundings arguments input commands ↔
      ∃ interactive, Prepares surroundings arguments (.replay interactive commands) ∧
        (interactive = true → SaysYes input) := by
  constructor
  · rintro ⟨config, session, loads, compiles, unlisted, undebugged, allowed⟩
    exact ⟨_, .replay loads unlisted compiles undebugged, allowed⟩
  · rintro ⟨interactive, prepares, allowed⟩
    cases prepares with
    | @replay config session _ loads unlisted compiles undebugged =>
      exact ⟨config, session, loads, compiles, unlisted, undebugged, allowed⟩

theorem not_cleared_of_shows {commands : List Command}
    (shows : arguments.has .list = true ∨ arguments.has .debug = true) :
    ¬ Cleared surroundings arguments input commands := by
  rintro ⟨config, session, -, -, unlisted, undebugged, -⟩
  simp [unlisted, undebugged] at shows

theorem cleared_unique {first second : List Command}
    (cleared : Cleared surroundings arguments input first)
    (other : Cleared surroundings arguments input second) : first = second := by
  obtain ⟨interactive, prepares, -⟩ := cleared_iff.mp cleared
  obtain ⟨interactiveOther, preparesOther, -⟩ := cleared_iff.mp other
  cases prepares_unique prepares preparesOther
  rfl

/-- Every destination is asked before the first command is tried, and a command is tried only when
the commands may run. -/
theorem deeds_of_ends {result : RunResult} (ends : Ends surroundings arguments input result) :
    ∃ tried : List Command,
      result.trace.log.filterMap Event.deed? =
        result.trace.probed.map .checked ++ tried.map .tried ∧
      ((tried = [] ∧ result.trace.ran = [] ∧
          ∀ commands, ¬ Cleared surroundings arguments input commands) ∨
        ∃ commands, Cleared surroundings arguments input commands ∧
          tried = commands.take ((started surroundings.runner commands).length + 1) ∧
          result.trace.ran = started surroundings.runner commands) := by
  cases ends with
  | stopped cause quiet planless =>
    refine ⟨[], by simp [quiet.told], .inl ⟨rfl, quiet.ran, ?_⟩⟩
    intro commands cleared
    obtain ⟨interactive, prepares, -⟩ := cleared_iff.mp cleared
    exact planless _ prepares
  | shown quiet prepares =>
    refine ⟨[], by simp [quiet.told], .inl ⟨rfl, quiet.ran, ?_⟩⟩
    intro commands cleared
    obtain ⟨interactive, preparesOther, -⟩ := cleared_iff.mp cleared
    cases prepares_unique prepares preparesOther
  | declined cause console quiet prepares silent =>
    refine ⟨[], by simp [extended, quiet.told], .inl ⟨rfl, by simp [extended, quiet.ran], ?_⟩⟩
    intro commands cleared
    obtain ⟨interactive, preparesOther, allowed⟩ := cleared_iff.mp cleared
    cases prepares_unique prepares preparesOther
    exact silent (allowed rfl)
  | @replayed trace interactive commands result quiet prepares allowed replayed =>
    refine ⟨commands.take ((started surroundings.runner commands).length + 1), ?_,
      .inr ⟨commands, cleared_iff.mpr ⟨interactive, prepares, allowed⟩, rfl, ?_⟩⟩
    · simp [extended, quiet.told, replayed.tried]
    · simp [extended, quiet.ran, replayed.ran]

theorem unasked_of_ends {result : RunResult} (ends : Ends surroundings arguments input result)
    (shows : arguments.has .list = true ∨ arguments.has .debug = true) :
    result.trace.probed = [] := by
  cases ends with
  | stopped cause quiet | shown quiet | declined cause console quiet | replayed quiet =>
    exact quiet.unasked shows

theorem failure_of_ends {result : RunResult} (ends : Ends surroundings arguments input result) :
    result.failure = none ↔
      ∃ plan, Prepares surroundings arguments plan ∧ Completes surroundings input plan := by
  cases ends with
  | stopped cause quiet planless =>
    refine ⟨nofun, ?_⟩
    rintro ⟨plan, prepares, -⟩
    exact absurd prepares (planless plan)
  | shown quiet prepares => exact ⟨fun _ => ⟨.done, prepares, trivial⟩, fun _ => rfl⟩
  | declined cause console quiet prepares silent =>
    refine ⟨nofun, ?_⟩
    rintro ⟨plan, preparesOther, completes⟩
    cases prepares_unique prepares preparesOther
    exact absurd (completes.1 rfl) silent
  | @replayed trace interactive commands result quiet prepares allowed replayed =>
    dsimp only
    rw [replayed.failure]
    constructor
    · intro unstopped
      exact ⟨_, prepares, allowed, unstopped⟩
    · rintro ⟨plan, preparesOther, completes⟩
      cases prepares_unique prepares preparesOther
      exact completes.2

end

/-- A run touches the world outside only as far as its plan and the answer of the user allow. Tmux is
tried only with a plan that came out of every stage and with consent where it is needed, and then with
the commands of the plan, in their order, up to the first that cannot be started; by that time all
destinations have been asked. A listing or a preview starts nothing, and the run succeeds exactly if
the plan could be carried out, whatever tmux said to its commands. -/
theorem deeds_need_plan_and_consent (surroundings : Surroundings) (arguments : Arguments)
    (input : List UInt8) :
    let result := RunResult.ofInput surroundings arguments input
    (∃ tried : List Command,
      result.trace.log.filterMap Event.deed? =
        result.trace.probed.map .checked ++ tried.map .tried ∧
      (tried ≠ [] ∨ result.trace.ran ≠ [] →
        ∃ commands, Cleared surroundings arguments input commands) ∧
      (∀ commands, Cleared surroundings arguments input commands →
        tried = commands.take ((started surroundings.runner commands).length + 1) ∧
        result.calls arguments.check =
          result.trace.probed.map arguments.check.call ++
            (started surroundings.runner commands).map fun command => ⟨"tmux", command.args⟩) ∧
      (arguments.has .list = true ∨ arguments.has .debug = true →
        tried = [] ∧ result.calls arguments.check = [])) ∧
    (result.exitCode = 0 ↔
      ∃ plan, Prepares surroundings arguments plan ∧ Completes surroundings input plan) := by
  intro result
  have ends := ends_ofInput surroundings arguments input
  obtain ⟨tried, deeds, gate⟩ := deeds_of_ends ends
  refine ⟨⟨tried, deeds, ?_, ?_, ?_⟩, ?_⟩
  · rintro touched
    rcases gate with ⟨untried, unran, -⟩ | ⟨commands, cleared, -, -⟩
    · exact absurd touched (by simp [untried, result, unran])
    · exact ⟨commands, cleared⟩
  · intro commands cleared
    rcases gate with ⟨-, -, uncleared⟩ | ⟨others, clearedOthers, triedEq, ranEq⟩
    · exact absurd cleared (uncleared commands)
    · obtain rfl := cleared_unique cleared clearedOthers
      refine ⟨triedEq, ?_⟩
      rw [RunResult.calls, ranEq]
      rfl
  · intro shows
    rcases gate with ⟨untried, unran, -⟩ | ⟨commands, cleared, -, -⟩
    · refine ⟨untried, ?_⟩
      rw [RunResult.calls, unran, unasked_of_ends ends shows]
      rfl
    · exact absurd cleared (not_cleared_of_shows shows)
  · rw [← failure_of_ends ends, RunResult.exitCode]
    cases (RunResult.ofInput surroundings arguments input).failure <;> simp

end Run

end TmuxPlan
