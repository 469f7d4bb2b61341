import TmuxPlan.Proofs.Emit.Performance
import TmuxPlan.Proofs.Emit.Probes
import TmuxPlan.Proofs.Replay.Starting
import TmuxPlan.Run

/-!
Preparing a plan, stage by stage. A plan comes out exactly if every stage goes through, and whatever
happens on the way, tmux is left alone and the log tells which destinations were asked, in their
order. What holds of all stages is proved for one stage at a time and put together by sequencing.
-/

set_option autoImplicit false

namespace TmuxPlan

open Log (Event)

/-! ### Stages in sequence -/

section

variable {ε σ α β : Type} {first : EStateM ε σ α} {next : α → EStateM ε σ β}

/-- Wherever the step begins with the property, it ends with it, also if it fails. -/
def Keeps (property : σ → Prop) (step : EStateM ε σ α) : Prop :=
  ∀ state, property state → property (stateOf (step.run state))

theorem Keeps.pure {property : σ → Prop} (value : α) :
    Keeps property (Pure.pure value : EStateM ε σ α) :=
  fun _ holds => holds

theorem Keeps.bind {property : σ → Prop} (kept : Keeps property first)
    (keptNext : ∀ value, Keeps property (next value)) : Keeps property (first >>= next) := by
  intro state holds
  have between := kept state holds
  rw [EStateM.run_bind]
  cases result : first.run state with
  | error cause stopped => rwa [result] at between
  | ok value after =>
    rw [result] at between
    exact keptNext value after between

theorem Keeps.ofExcept {property : σ → Prop} (outcome : Except ε α) :
    Keeps property (MonadExcept.ofExcept outcome : EStateM ε σ α) := by
  intro state holds
  cases outcome <;> exact holds

theorem ok_of_bind_ok {state after : σ} {value : β}
    (ends : (first >>= next).run state = .ok value after) :
    ∃ found between, first.run state = .ok found between ∧
      (next found).run between = .ok value after := by
  rw [EStateM.run_bind] at ends
  cases result : first.run state with
  | error cause stopped => simp [result] at ends
  | ok found between => exact ⟨found, between, rfl, by simpa [result] using ends⟩

theorem run_ofExcept_ok_bind (value : α) (state : σ) :
    (MonadExcept.ofExcept (.ok value : Except ε α) >>= next).run state =
      (next value).run state :=
  rfl

theorem ok_of_ofExcept_bind_ok {outcome : Except ε α} {state after : σ} {value : β}
    (ends : (MonadExcept.ofExcept outcome >>= next).run state = .ok value after) :
    ∃ found, outcome = .ok found ∧ (next found).run state = .ok value after := by
  cases outcome with
  | error cause => cases ends
  | ok found => exact ⟨found, rfl, ends⟩

end

/-! ### What a compilation asks -/

namespace Ssh.Resolver

/-- The log tells which destinations were asked. -/
def Telling (resolver : Resolver) : Prop :=
  resolver.log.filterMap Event.deed? = resolver.probed.map .checked

variable {resolver : Resolver}

theorem Telling.afterProbe (telling : resolver.Telling) (destination : String) :
    (resolver.afterProbe destination).Telling := by
  have begun : (if resolver.validated.isEmpty then [Event.checkingSsh] else []).filterMap
      Event.deed? = [] := by
    split <;> rfl
  have answered : Event.deed? (if resolver.answer destination then .reachable destination
      else .unreachable destination) = some (.checked destination) := by
    split <;> rfl
  unfold Telling at telling ⊢
  simp only [Resolver.afterProbe, List.filterMap_append, telling, begun, List.append_nil,
    List.filterMap_cons, answered, List.filterMap_nil, List.map_append, List.map_singleton]

theorem Telling.report (telling : resolver.Telling) {events : List Event}
    (idle : events.filterMap Event.deed? = []) : (resolver.report events).Telling := by
  unfold Telling at telling ⊢
  simp [Resolver.report, telling, idle]

end Ssh.Resolver

namespace Emit

theorem perform_telling (acts : List Act) {resolver : Ssh.Resolver} (telling : resolver.Telling) :
    (perform acts resolver).resolver.Telling := by
  fun_induction perform acts resolver with
  | case1 | case3 => exact telling
  | case2 ssh command acts resolver inductionHypothesis => exact inductionHypothesis telling
  | case4 ssh acts resolver trusted inductionHypothesis => exact inductionHypothesis telling
  | case5 ssh acts resolver trusted answered inductionHypothesis =>
    exact inductionHypothesis (telling.afterProbe _)
  | case6 ssh acts resolver trusted silent => exact telling.afterProbe _

theorem deeds_of_closingReport (session : Session) (options : CompileOptions) (walk : Walk) :
    (closingReport session options walk).filterMap Event.deed? = [] := by
  unfold closingReport
  split <;> rfl

end Emit

namespace Run

/-! ### What every stage keeps -/

/-- Tmux has been left alone, the log tells which destinations were asked, and nobody was asked for
a listing or a preview. -/
structure Quiet (arguments : Arguments) (trace : Trace) : Prop where
  ran : trace.ran = []
  told : trace.log.filterMap Event.deed? = trace.probed.map .checked
  unasked : arguments.has .list = true ∨ arguments.has .debug = true → trace.probed = []

theorem deeds_of_loadLog (files : Files) (path : String) :
    (Config.loadLog files path).filterMap Event.deed? = [] := by
  unfold Config.loadLog
  split <;> rfl

theorem deeds_of_normalizeLog (name : String) (spec : Description.SessionSpec) :
    (normalizeLog name spec).filterMap Event.deed? = [] := by
  unfold normalizeLog
  split <;> rfl

theorem deeds_of_warnings (surroundings : Surroundings) :
    (warnings surroundings).filterMap Event.deed? = [] := by
  unfold warnings
  split <;> split <;> rfl

/-- What the stages of a preparation keep, the preparation keeps. A listing compiles nothing. -/
theorem prepare_keeps {property : Trace → Prop} {surroundings : Surroundings}
    {arguments : Arguments}
    (keptByReport : ∀ events, events.filterMap Event.deed? = [] →
      Keeps property (report events))
    (keptByWrite : ∀ text, Keeps property (write text))
    (keptByCompile : arguments.has .list = false → ∀ session,
      Keeps property (compile surroundings.probe arguments.options session)) :
    Keeps property (prepare surroundings arguments) := by
  unfold prepare
  refine Keeps.bind (.ofExcept _) fun path => ?_
  refine Keeps.bind (keptByReport _ (deeds_of_loadLog _ path)) fun _ => ?_
  refine Keeps.bind (.ofExcept _) fun config => ?_
  refine Keeps.bind (keptByReport _ rfl) fun _ => ?_
  cases listed : arguments.has .list with
  | true => exact Keeps.bind (keptByWrite _) fun _ => .pure _
  | false =>
    refine Keeps.bind (.ofExcept _) fun selected => ?_
    refine Keeps.bind (keptByReport _ (deeds_of_normalizeLog _ selected.2)) fun _ => ?_
    refine Keeps.bind (.ofExcept _) fun session => ?_
    refine Keeps.bind (keptByCompile listed session) fun commands => ?_
    cases arguments.options.debug with
    | true => exact Keeps.bind (keptByWrite _) fun _ => .pure _
    | false =>
      exact Keeps.bind (keptByReport _ (deeds_of_warnings surroundings)) fun _ => .pure _

theorem write_keeps {property : Trace → Prop}
    (atOutput : ∀ trace console, property trace → property { trace with console })
    (text : String) : Keeps property (write text) := by
  intro trace holds
  rw [EStateM.run, write]
  cases (Console.write text).run trace.console with
  | ok _ console => exact atOutput trace console holds
  | error cause console => exact atOutput trace console holds

/-- The walk that a compilation ends in, and what it adds to the trace. -/
theorem stateOf_compile (probe : Ssh.Probe) (options : CompileOptions) (session : Session)
    (trace : Trace) :
    ∃ resolver events, events.filterMap Event.deed? = [] ∧
      resolver = (Emit.perform (Emit.acts session options)
        { probe, debug := options.debug }).resolver ∧
      stateOf ((compile probe options session).run trace) = { trace with
        probed := trace.probed ++ resolver.probed
        log := trace.log ++ (resolver.log ++ events) } := by
  have idle := Emit.deeds_of_closingReport session options
    { resolver := { probe, debug := options.debug } }
  have ended := Emit.resolver_create session options
    { resolver := { probe, debug := options.debug } }
  have extended : stateOf ((compile probe options session).run trace) =
      let walk := stateOf ((Emit.create session options).run
        { resolver := { probe, debug := options.debug } })
      { trace with
        probed := trace.probed ++ walk.resolver.probed
        log := trace.log ++ walk.resolver.log } := by
    rw [EStateM.run, compile]
    cases (Emit.create session options).run _ <;> rfl
  refine ⟨_, _, idle, rfl, ?_⟩
  rw [extended]
  dsimp only
  rw [ended]
  rfl

theorem prepare_quiet (surroundings : Surroundings) (arguments : Arguments) :
    Keeps (Quiet arguments) (prepare surroundings arguments) := by
  apply prepare_keeps
  · intro events idle trace quiet
    refine ⟨quiet.ran, ?_, quiet.unasked⟩
    simp [report, stateOf, quiet.told, idle]
  · exact write_keeps fun trace console quiet => ⟨quiet.ran, quiet.told, quiet.unasked⟩
  · intro unlisted session trace quiet
    obtain ⟨resolver, events, idle, performed, ended⟩ :=
      stateOf_compile surroundings.probe arguments.options session trace
    have telling : resolver.Telling := by
      rw [performed]
      exact Emit.perform_telling _ rfl
    rw [ended]
    refine ⟨quiet.ran, ?_, ?_⟩
    · rw [List.filterMap_append, List.filterMap_append, quiet.told, telling, idle,
        List.append_nil, List.map_append]
    · intro shows
      have debugging : arguments.options.debug = true := shows.resolve_left (by simp [unlisted])
      rw [Emit.perform_debugging _ debugging] at performed
      simp [performed, quiet.unasked shows]

/-! ### What comes out of a preparation -/

section

variable (surroundings : Surroundings) (arguments : Arguments)

/-- The config file is found and reads. -/
def Loads (config : ConfigFile) : Prop :=
  ∃ path, surroundings.places.locate surroundings.files arguments.configFile = .ok path ∧
    Config.load surroundings.files path = .ok config

/-- A session of the config is selected, normalized and compiled. -/
def Compiles (config : ConfigFile) (session : Session) (commands : List Command) : Prop :=
  ∃ key spec after, config.select arguments.session = .ok (key, spec) ∧
    normalize (sessionName surroundings.stamp arguments key spec) spec = .ok session ∧
    (Emit.create session arguments.options).run
        { resolver := { probe := surroundings.probe, debug := arguments.options.debug } } =
      .ok commands after

/-- The plan that comes out if every stage goes through. -/
inductive Prepares : Plan → Prop where
  | listing {config : ConfigFile} :
      Loads surroundings arguments config → arguments.has .list = true → Prepares .done
  | preview {config : ConfigFile} {session : Session} {commands : List Command} :
      Loads surroundings arguments config → arguments.has .list = false →
      Compiles surroundings arguments config session commands →
      arguments.has .debug = true → Prepares .done
  | replay {config : ConfigFile} {session : Session} {commands : List Command} :
      Loads surroundings arguments config → arguments.has .list = false →
      Compiles surroundings arguments config session commands →
      arguments.has .debug = false →
      Prepares (.replay (arguments.has .interactive || session.interactive) commands)

end

section

variable {surroundings : Surroundings} {arguments : Arguments} {trace after : Trace} {plan : Plan}

theorem run_report_bind {α : Type} (events : List Event) (next : Unit → Run α) :
    (report events >>= next).run trace =
      (next ()).run { trace with log := trace.log ++ events } :=
  rfl

theorem compile_ok {session : Session} {commands : List Command}
    (ends : (compile surroundings.probe arguments.options session).run trace = .ok commands after) :
    after.console = trace.console ∧ ∃ walk, (Emit.create session arguments.options).run
        { resolver := { probe := surroundings.probe, debug := arguments.options.debug } } =
      .ok commands walk := by
  rw [EStateM.run, compile] at ends
  dsimp only at ends
  split at ends
  · rename_i found walk result
    cases ends
    exact ⟨rfl, walk, result⟩
  · cases ends

/-- A plan comes out only if every stage went through, and one to replay leaves the console to the
replay. -/
theorem prepares_of_prepare (ends : (prepare surroundings arguments).run trace = .ok plan after) :
    Prepares surroundings arguments plan ∧ (plan ≠ .done → after.console = trace.console) := by
  unfold prepare at ends
  -- A computation that succeeded did so stage by stage, and a report only adds to the log.
  obtain ⟨path, located, ends⟩ := ok_of_ofExcept_bind_ok ends
  rw [run_report_bind] at ends
  obtain ⟨config, loaded, ends⟩ := ok_of_ofExcept_bind_ok ends
  rw [run_report_bind] at ends
  have loads : Loads surroundings arguments config := ⟨path, located, loaded⟩
  cases listed : arguments.has .list with
  | true =>
    rw [listed, if_pos rfl] at ends
    obtain ⟨_, _, _, ends⟩ := ok_of_bind_ok ends
    cases ends
    exact ⟨.listing loads listed, fun replays => absurd rfl replays⟩
  | false =>
    rw [listed, if_neg Bool.false_ne_true] at ends
    obtain ⟨⟨key, spec⟩, selected, ends⟩ := ok_of_ofExcept_bind_ok ends
    dsimp only at ends
    rw [run_report_bind] at ends
    obtain ⟨session, normalized, ends⟩ := ok_of_ofExcept_bind_ok ends
    obtain ⟨commands, compiled, created, ends⟩ := ok_of_bind_ok ends
    obtain ⟨sameConsole, walk, created⟩ := compile_ok created
    have compiles : Compiles surroundings arguments config session commands :=
      ⟨key, spec, walk, selected, normalized, created⟩
    cases debugging : arguments.options.debug with
    | true =>
      rw [debugging, if_pos rfl] at ends
      obtain ⟨_, _, _, ends⟩ := ok_of_bind_ok ends
      cases ends
      exact ⟨.preview loads listed compiles debugging, fun replays => absurd rfl replays⟩
    | false =>
      rw [debugging, if_neg Bool.false_ne_true, run_report_bind] at ends
      cases ends
      exact ⟨.replay loads listed compiles debugging, fun _ => sameConsole⟩

theorem write_done (unbounded : trace.console.capacity = none) (text : String) :
    ∃ after, (do write text; return Plan.done : Run Plan).run trace = .ok .done after := by
  have takes : trace.console.Takes (Console.bytes text).length := by
    simp [Console.Takes, unbounded]
  have written : (write text).run trace =
      .ok () { trace with console := trace.console.wrote text } := by
    rw [EStateM.run, write, Console.write_of_takes takes]
  rw [EStateM.run_bind, written]
  exact ⟨_, rfl⟩

theorem run_compile_bind {α : Type} {session : Session} {commands : List Command} {walk : Walk}
    (created : (Emit.create session arguments.options).run
        { resolver := { probe := surroundings.probe, debug := arguments.options.debug } } =
      .ok commands walk) (next : List Command → Run α) :
    (compile surroundings.probe arguments.options session >>= next).run trace =
      (next commands).run { trace with
        probed := trace.probed ++ walk.resolver.probed
        log := trace.log ++ walk.resolver.log } := by
  have compiled : (compile surroundings.probe arguments.options session).run trace = .ok commands
      { trace with
        probed := trace.probed ++ walk.resolver.probed
        log := trace.log ++ walk.resolver.log } := by
    rw [EStateM.run, compile, created]
  rw [EStateM.run_bind, compiled]

/-- If every stage goes through, the plan comes out. -/
theorem prepare_of_prepares (trace : Trace) (unbounded : trace.console.capacity = none)
    (prepares : Prepares surroundings arguments plan) :
    ∃ after, (prepare surroundings arguments).run trace = .ok plan after := by
  cases prepares with
  | listing loads listed =>
    obtain ⟨path, located, loaded⟩ := loads
    simp only [prepare, located, loaded, run_ofExcept_ok_bind, run_report_bind, listed, if_true]
    apply write_done
    exact unbounded
  | preview loads listed compiles debugging =>
    obtain ⟨path, located, loaded⟩ := loads
    obtain ⟨key, spec, walk, selected, normalized, created⟩ := compiles
    have debugged : arguments.options.debug = true := debugging
    simp only [prepare, located, loaded, selected, normalized, run_ofExcept_ok_bind,
      run_report_bind, listed, debugged, if_true, Bool.false_eq_true, if_false]
    rw [run_compile_bind created]
    apply write_done
    exact unbounded
  | replay loads listed compiles debugging =>
    obtain ⟨path, located, loaded⟩ := loads
    obtain ⟨key, spec, walk, selected, normalized, created⟩ := compiles
    have debugged : arguments.options.debug = false := debugging
    simp only [prepare, located, loaded, selected, normalized, run_ofExcept_ok_bind,
      run_report_bind, listed, debugged, Bool.false_eq_true, if_false]
    rw [run_compile_bind created]
    exact ⟨_, rfl⟩

end

end Run

end TmuxPlan
