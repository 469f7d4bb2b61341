import TmuxPlan.Proofs.Console.Streams
import TmuxPlan.Proofs.Emit.Acts

/-!
Compiling a session carries out its acts. The central relation says of a step of the walk that it
does what a list of acts does, whatever the walk holds already, and which numbers it leaves for the
next window and pane. It is closed under sequencing, so the loops over entries, panes and windows
follow by one induction each.
-/

set_option autoImplicit false

namespace TmuxPlan.Emit

/-- The step, begun at `walk`, carries out the acts. If nothing fails it leaves the given numbers. -/
def Performs (step : Emit Unit) (acts : List Act) (walk : Walk) (window pane : UInt32) : Prop :=
  match (perform acts walk.resolver).failure with
  | none =>
    step.run walk = .ok () {
      commands := walk.commands ++ (perform acts walk.resolver).commands
      window, pane
      resolver := (perform acts walk.resolver).resolver }
  | some cause =>
    ∃ stopped, step.run walk = .error cause stopped ∧
      stopped.commands = walk.commands ++ (perform acts walk.resolver).commands ∧
      stopped.resolver = (perform acts walk.resolver).resolver

namespace Performs

theorem nothing (walk : Walk) : Performs (pure ()) [] walk walk.window walk.pane := by
  simp [Performs, perform, Outcome.commands]

theorem fail (cause : Error) (walk : Walk) (window pane : UInt32) :
    Performs (throw cause) [.fail cause] walk window pane :=
  ⟨walk, rfl, by simp [perform, Outcome.commands], rfl⟩

theorem push (ssh : Option Ssh.Options) (command : Command) (walk : Walk) :
    Performs (push command) [.emit ssh command] walk walk.window walk.pane := by
  simp [Performs, perform, Emit.push, Outcome.commands, Event.command?]

theorem number (window pane : Walk → UInt32) (walk : Walk) :
    Performs (modify fun walk => { walk with window := window walk, pane := pane walk }) [] walk
      (window walk) (pane walk) := by
  simp [Performs, perform, Outcome.commands]

/-- One step after the other carries out one list of acts after the other. -/
theorem bind {first : Emit Unit} {next : Unit → Emit Unit} {acts more : List Act} {walk : Walk}
    {window pane finalWindow finalPane : UInt32}
    (performed : Performs first acts walk window pane)
    (performedNext : ∀ after : Walk, after.window = window → after.pane = pane →
      Performs (next ()) more after finalWindow finalPane) :
    Performs (first >>= next) (acts ++ more) walk finalWindow finalPane := by
  have whole := perform_append acts more walk.resolver
  cases failed : (perform acts walk.resolver).failure with
  | some cause =>
    rw [Outcome.andThen_of_some failed] at whole
    simp only [Performs, failed] at performed
    obtain ⟨stopped, result, commands, resolver⟩ := performed
    simp only [Performs, whole, failed]
    exact ⟨stopped, by rw [EStateM.run_bind, result], commands, resolver⟩
  | none =>
    rw [Outcome.andThen_of_none failed] at whole
    simp only [Performs, failed] at performed
    have continued := performedNext {
      commands := walk.commands ++ (perform acts walk.resolver).commands
      window, pane
      resolver := (perform acts walk.resolver).resolver } rfl rfl
    simp only [Performs, whole, EStateM.run_bind, performed] at continued ⊢
    simpa using continued

theorem push_bind (ssh : Option Ssh.Options) (command : Command) {next : Unit → Emit Unit}
    {more : List Act} {walk : Walk} {window pane : UInt32}
    (performedNext : ∀ after : Walk, after.window = walk.window → after.pane = walk.pane →
      Performs (next ()) more after window pane) :
    Performs (Emit.push command >>= next) (.emit ssh command :: more) walk window pane :=
  bind (push ssh command walk) performedNext

theorem get {step : Walk → Emit Unit} {acts : List Act} {walk : Walk} {window pane : UInt32}
    (performed : Performs (step walk) acts walk window pane) :
    Performs (get >>= step) acts walk window pane :=
  performed

theorem congr {step : Emit Unit} {acts more : List Act} {walk : Walk}
    {window pane otherWindow otherPane : UInt32}
    (performed : Performs step acts walk window pane)
    (sameActs : acts = more) (sameWindow : window = otherWindow) (samePane : pane = otherPane) :
    Performs step more walk otherWindow otherPane := by
  subst sameActs sameWindow samePane
  exact performed

/-- A loop carries out the acts of its first round and then those of the others. -/
theorem forM_cons {α : Type} {body : α → Emit Unit} {head : α} {tail : List α}
    {acts more : List Act} {walk : Walk} {window pane finalWindow finalPane : UInt32}
    (performed : Performs (body head) acts walk window pane)
    (performedTail : ∀ after : Walk, after.window = window → after.pane = pane →
      Performs (tail.forM body) more after finalWindow finalPane) :
    Performs ((head :: tail).forM body) (acts ++ more) walk finalWindow finalPane :=
  bind performed performedTail

theorem forM_push (ssh : Option Ssh.Options) (commands : List Command) (walk : Walk) :
    Performs (commands.forM Emit.push) (commands.map (.emit ssh)) walk walk.window walk.pane := by
  induction commands generalizing walk with
  | nil => exact nothing walk
  | cons command commands inductionHypothesis =>
    refine forM_cons (push ssh command walk) ?_
    intro after sameWindow samePane
    rw [← sameWindow, ← samePane]
    exact inductionHypothesis after

end Performs

theorem resolve_route (ssh : Ssh.Options) (text : String) (walk : Walk) :
    (resolve (Ssh.Resolver.route ssh text)).run walk =
      if walk.resolver.trusts ssh.destination then .ok (ssh.compose text) walk
      else if walk.resolver.answer ssh.destination then
        .ok (ssh.compose text)
          { walk with resolver := walk.resolver.afterProbe ssh.destination }
      else .error (.unreachable ssh.destination)
        { walk with resolver := walk.resolver.afterProbe ssh.destination } := by
  have checked := Ssh.Resolver.ensureReachable_eq walk.resolver ssh
  unfold resolve Ssh.Resolver.route
  cases trusted : walk.resolver.trusts ssh.destination with
  | true => simp [EStateM.run, Bind.bind, EStateM.bind, pure, EStateM.pure, checked, trusted]
  | false =>
    cases answered : walk.resolver.answer ssh.destination <;>
      simp [EStateM.run, Bind.bind, EStateM.bind, pure, EStateM.pure, checked, trusted, answered]

/-- What is emitted with the routed text is what is emitted once the destination answers. -/
theorem Performs.route (ssh : Ssh.Options) (text : String) (next : String → Emit Unit)
    {more : List Act} {walk : Walk} {window pane : UInt32}
    (performedNext : ∀ after : Walk, after.window = walk.window → after.pane = walk.pane →
      Performs (next (ssh.compose text)) more after window pane) :
    Performs (resolve (Ssh.Resolver.route ssh text) >>= next) (.reach ssh :: more) walk
      window pane := by
  have routed := resolve_route ssh text walk
  cases trusted : walk.resolver.trusts ssh.destination with
  | true =>
    simp only [trusted, if_true] at routed
    have performed := performedNext walk rfl rfl
    simpa [Performs, perform, trusted, EStateM.run_bind, routed] using performed
  | false =>
    cases answered : walk.resolver.answer ssh.destination with
    | true =>
      simp only [trusted, answered, if_true, Bool.false_eq_true, if_false] at routed
      have performed := performedNext
        { walk with resolver := walk.resolver.afterProbe ssh.destination } rfl rfl
      simpa [Performs, perform, trusted, answered, EStateM.run_bind, routed] using performed
    | false =>
      simp only [trusted, answered, Bool.false_eq_true, if_false] at routed
      simp [Performs, perform, trusted, answered, EStateM.run_bind, routed, Outcome.commands,
        Event.command?]

section

variable (session : Session) (options : CompileOptions)

theorem sendKeys_eq (target : PaneCoordinate) (text : String) :
    sendKeys options target text = (keys options target text).forM push := by
  unfold sendKeys keys
  induction Text.pieces ';' text with
  | nil => rfl
  | cons part parts inductionHypothesis =>
    rw [List.map_cons, List.forM, List.forM, inductionHypothesis]

theorem ofNat_succ (index : Nat) : UInt32.ofNat index + 1 = UInt32.ofNat (index + 1) := by
  simp [UInt32.ofNat_add]

/-- The end of an entry: its text is typed and the walk goes to the next number. -/
theorem typing_performs (ssh : Option Ssh.Options) (windowIndex paneIndex : Nat) (text : String)
    (walk : Walk) (atWindow : walk.window = .ofNat windowIndex)
    (atPane : walk.pane = .ofNat paneIndex) :
    Performs
      (do
        sendKeys options ⟨session.name, .ofNat windowIndex, .ofNat paneIndex⟩ text
        modify fun walk => { walk with pane := walk.pane + 1 })
      ((keys options ⟨session.name, .ofNat windowIndex, .ofNat paneIndex⟩ text).map (.emit ssh))
      walk (.ofNat windowIndex) (.ofNat (paneIndex + 1)) := by
  rw [sendKeys_eq, ← List.append_nil (List.map _ _)]
  refine .bind (.forM_push ssh _ walk) ?_
  intro last lastWindow lastPane
  refine (Performs.number (·.window) (·.pane + 1) last).congr rfl ?_ ?_
  · rw [lastWindow, atWindow]
  · rw [lastPane, atPane, ofNat_succ]

theorem emitEntry_performs (plan : PanePlan) (entry : CommandEntry) (windowIndex paneIndex : Nat)
    (walk : Walk) (atWindow : walk.window = .ofNat windowIndex)
    (atPane : walk.pane = .ofNat paneIndex) :
    Performs (emitEntry session options plan entry)
      (entryActs session options plan windowIndex paneIndex entry) walk (.ofNat windowIndex)
      (.ofNat (paneIndex + 1)) := by
  refine .get ?_
  rw [atWindow, atPane]
  cases needed : plan.ssh with
  | none =>
    have typed := typing_performs session options plan.ssh windowIndex paneIndex
      (plan.located entry) walk atWindow atPane
    simpa [entryActs, PanePlan.text, needed] using typed
  | some ssh =>
    simp only [entryActs, PanePlan.text, needed, Option.toList_some, List.map_singleton,
      List.singleton_append]
    refine Performs.route ssh (plan.located entry) _ ?_
    intro after sameWindow samePane
    exact typing_performs session options (some ssh) windowIndex paneIndex
      (ssh.compose (plan.located entry)) after (sameWindow.trans atWindow)
      (samePane.trans atPane)

theorem furtherEntries_perform (plan : PanePlan) (windowIndex paneIndex : Nat)
    (rest : List (CommandEntry × SplitDirection)) (walk : Walk)
    (atWindow : walk.window = .ofNat windowIndex) (atPane : walk.pane = .ofNat paneIndex) :
    Performs
      (rest.forM fun (entry, direction) => do
        push (.splitPane session.name direction)
        emitEntry session options plan entry)
      (furtherActs session options plan windowIndex paneIndex rest) walk (.ofNat windowIndex)
      (.ofNat (paneIndex + rest.length)) := by
  induction rest generalizing walk paneIndex with
  | nil => exact (Performs.nothing walk).congr rfl atWindow atPane
  | cons split rest inductionHypothesis =>
    obtain ⟨entry, direction⟩ := split
    have splits : Performs
        (do
          push (.splitPane session.name direction)
          emitEntry session options plan entry)
        (.emit plan.ssh (.splitPane session.name direction) ::
          entryActs session options plan windowIndex paneIndex entry)
        walk (.ofNat windowIndex) (.ofNat (paneIndex + 1)) := by
      refine .bind (.push plan.ssh _ walk) ?_
      intro after sameWindow samePane
      exact emitEntry_performs session options plan entry windowIndex paneIndex after
        (sameWindow.trans atWindow) (samePane.trans atPane)
    rw [List.length_cons, Nat.add_comm rest.length, ← Nat.add_assoc]
    refine .forM_cons splits ?_
    intro after sameWindow samePane
    exact inductionHypothesis (paneIndex + 1) after sameWindow samePane

theorem emitEntries_performs (plan : PanePlan) (windowIndex paneIndex : Nat)
    (entries : List (CommandEntry × SplitDirection)) (walk : Walk)
    (atWindow : walk.window = .ofNat windowIndex) (atPane : walk.pane = .ofNat paneIndex) :
    Performs (emitEntries session options plan entries)
      (entriesActs session options plan windowIndex paneIndex entries) walk (.ofNat windowIndex)
      (.ofNat (paneIndex + entries.length)) := by
  cases entries with
  | nil => exact (Performs.nothing walk).congr rfl atWindow atPane
  | cons split rest =>
    obtain ⟨first, direction⟩ := split
    have begun := emitEntry_performs session options plan first windowIndex paneIndex walk
      atWindow atPane
    rw [List.length_cons, Nat.add_comm rest.length, ← Nat.add_assoc]
    refine .bind begun ?_
    intro after sameWindow samePane
    exact furtherEntries_perform session options plan windowIndex (paneIndex + 1) rest after
      sameWindow samePane

theorem emitPane_performs (window : Window) (pane : Pane) (windowIndex paneIndex : Nat)
    (walk : Walk) (atWindow : walk.window = .ofNat windowIndex)
    (atPane : walk.pane = .ofNat paneIndex) :
    Performs (emitPane session options window pane)
      (paneActs session options window windowIndex paneIndex pane) walk (.ofNat windowIndex)
      (.ofNat (paneIndex + PanePlan.width session options window pane)) := by
  refine .get ?_
  rw [atWindow, atPane]
  unfold paneActs
  cases planned :
      PanePlan.ofPane session options window pane (.ofNat windowIndex) (.ofNat paneIndex) with
  | error cause => exact .fail cause walk _ _
  | ok plan =>
    rw [PanePlan.ofPane_eq_ok_iff] at planned
    rw [← PanePlan.plan?_length planned]
    have entries (after : Walk) (sameWindow : after.window = walk.window)
        (samePane : after.pane = walk.pane) :=
      emitEntries_performs session options plan windowIndex paneIndex plan.entries after
        (sameWindow.trans atWindow) (samePane.trans atPane)
    by_cases further : 0 < UInt32.ofNat paneIndex
    · simp only [further, if_true]
      exact .bind (.push plan.ssh _ walk) entries
    · simp only [further, if_false, List.nil_append]
      exact entries walk rfl rfl

theorem panes_perform (window : Window) (panes : List Pane) (windowIndex paneIndex : Nat)
    (walk : Walk) (atWindow : walk.window = .ofNat windowIndex)
    (atPane : walk.pane = .ofNat paneIndex) :
    Performs (panes.forM (emitPane session options window))
      (panesActs session options window windowIndex paneIndex panes) walk (.ofNat windowIndex)
      (.ofNat (paneIndex + PanePlan.totalWidth session options window panes)) := by
  induction panes generalizing walk paneIndex with
  | nil => exact (Performs.nothing walk).congr rfl atWindow atPane
  | cons pane panes inductionHypothesis =>
    rw [PanePlan.totalWidth_cons, ← Nat.add_assoc]
    refine .forM_cons
      (emitPane_performs session options window pane windowIndex paneIndex walk atWindow atPane) ?_
    intro after sameWindow samePane
    exact inductionHypothesis _ after sameWindow samePane

theorem emitWindow_performs (window : Window) (windowIndex : Nat) (walk : Walk)
    (atWindow : walk.window = .ofNat windowIndex) :
    Performs (emitWindow session options window) (windowActs session options windowIndex window)
      walk (.ofNat (windowIndex + 1))
      (.ofNat (PanePlan.totalWidth session options window window.panes)) := by
  have panes (after : Walk) (sameWindow : after.window = walk.window) (samePane : after.pane = 0) :=
    panes_perform session options window window.panes windowIndex 0 after
      (sameWindow.trans atWindow) samePane
  rw [Nat.zero_add] at panes
  -- the walk goes on to the next window once everything is set
  have left (after : Walk) (sameWindow : after.window = .ofNat windowIndex) :
      Performs (modify fun walk => { walk with window := walk.window + 1 }) [] after
        (.ofNat (windowIndex + 1)) after.pane :=
    (Performs.number (·.window + 1) (·.pane) after).congr rfl
      (by rw [sameWindow, ofNat_succ]) rfl
  unfold emitWindow windowActs
  rw [List.cons_append, ← List.nil_append (_ :: _)]
  refine .bind (.number (·.window) (fun _ => 0) walk) ?_
  intro begun begunWindow begunPane
  have opens : opening session windowIndex window =
      if begun.window = 0 then .newSession session.name window.name
      else .newWindow session.name window.name := by
    rw [begunWindow, atWindow, opening]
  rw [opens]
  refine .get (.push_bind none _ ?_)
  intro opened openedWindow openedPane
  refine .bind (panes opened (openedWindow.trans begunWindow) (openedPane.trans begunPane)) ?_
  intro filled filledWindow filledPane
  rw [← filledPane]
  unfold closing
  cases synchronizes session options window with
  | false =>
    cases layoutOf session options window with
    | none => exact left filled filledWindow
    | some layout =>
      refine .push_bind none _ ?_
      intro after sameWindow samePane
      rw [← samePane]
      exact left after (sameWindow.trans filledWindow)
  | true =>
    refine .push_bind none _ ?_
    intro synchronized synchronizedWindow synchronizedPane
    rw [← synchronizedPane]
    cases layoutOf session options window with
    | none => exact left synchronized (synchronizedWindow.trans filledWindow)
    | some layout =>
      refine .push_bind none _ ?_
      intro after sameWindow samePane
      rw [← samePane]
      exact left after (sameWindow.trans (synchronizedWindow.trans filledWindow))

/-- Where the count of panes stands after a list of windows. -/
def lastPane (pane : UInt32) (windows : List Window) : UInt32 :=
  windows.foldl (fun _ window => .ofNat (PanePlan.totalWidth session options window window.panes))
    pane

theorem windows_perform (windows : List Window) (windowIndex : Nat) (walk : Walk)
    (atWindow : walk.window = .ofNat windowIndex) :
    Performs (windows.forM (emitWindow session options))
      (windowsActs session options windowIndex windows) walk
      (.ofNat (windowIndex + windows.length)) (lastPane session options walk.pane windows) := by
  induction windows generalizing walk windowIndex with
  | nil => exact (Performs.nothing walk).congr rfl atWindow rfl
  | cons window windows inductionHypothesis =>
    rw [List.length_cons, Nat.add_comm windows.length, ← Nat.add_assoc]
    refine .forM_cons (emitWindow_performs session options window windowIndex walk atWindow) ?_
    intro after sameWindow samePane
    have rest := inductionHypothesis _ after sameWindow
    rwa [samePane] at rest

def emitAll : Emit Unit := do
  session.windows.forM (emitWindow session options)
  (finish session).forM push

theorem emitAll_performs (walk : Walk) (atStart : walk.window = 0) :
    Performs (emitAll session options) (acts session options) walk
      (.ofNat session.windows.length) (lastPane session options walk.pane session.windows) := by
  refine .bind (windows_perform session options session.windows 0 walk atStart) ?_
  intro after sameWindow samePane
  refine (Performs.forM_push none (finish session) after).congr rfl ?_ samePane
  rw [sameWindow, Nat.zero_add]

theorem create_run (walk : Walk) :
    (create session options).run walk =
      match (emitAll session options).run { walk with commands := [], window := 0 } with
      | .ok _ ended =>
        .ok ended.commands {
          ended with
          commands := []
          resolver := ended.resolver.report [.compiled session.name ended.commands.length] }
      | .error cause stopped => .error cause stopped := by
  unfold create emitAll
  simp only [EStateM.run_bind, EStateM.run_modify, EStateM.run_get]
  cases (session.windows.forM (emitWindow session options)).run
      { walk with commands := [], window := 0 } with
  | error cause stopped => rfl
  | ok _ ended =>
    cases ((finish session).forM push).run ended with
    | error cause stopped => rfl
    | ok _ finished => rfl

variable {session options}

/-- If no act fails, a compilation hands out what its acts emit, whatever the walk did before. -/
theorem create_of_unfailed {walk : Walk}
    (unfailed : (perform (acts session options) walk.resolver).failure = none) :
    ∃ after, (create session options).run walk =
        .ok (perform (acts session options) walk.resolver).commands after ∧
      after.commands = [] ∧
      after.resolver = (perform (acts session options) walk.resolver).resolver.report
        [.compiled session.name (perform (acts session options) walk.resolver).commands.length] := by
  have emitted := emitAll_performs session options { walk with commands := [], window := 0 } rfl
  simp only [Performs, unfailed, List.nil_append] at emitted
  rw [create_run, emitted]
  exact ⟨_, rfl, rfl, rfl⟩

/-- If an act fails, a compilation fails with its error and leaves what was emitted before. -/
theorem create_of_failed {walk : Walk} {cause : Error}
    (failed : (perform (acts session options) walk.resolver).failure = some cause) :
    ∃ stopped, (create session options).run walk = .error cause stopped ∧
      stopped.commands = (perform (acts session options) walk.resolver).commands ∧
      stopped.resolver = (perform (acts session options) walk.resolver).resolver := by
  have emitted := emitAll_performs session options { walk with commands := [], window := 0 } rfl
  simp only [Performs, failed, List.nil_append] at emitted
  obtain ⟨stopped, result, commands, resolver⟩ := emitted
  rw [create_run, result]
  exact ⟨stopped, rfl, commands, resolver⟩

theorem unfailed_of_create {walk after : Walk} {commands : List Command}
    (created : (create session options).run walk = .ok commands after) :
    (perform (acts session options) walk.resolver).failure = none ∧
      commands = (perform (acts session options) walk.resolver).commands ∧
      after.commands = [] ∧
      after.resolver = (perform (acts session options) walk.resolver).resolver.report
        [.compiled session.name commands.length] := by
  cases failed : (perform (acts session options) walk.resolver).failure with
  | some cause =>
    obtain ⟨stopped, result, -, -⟩ := create_of_failed failed
    simp [created] at result
  | none =>
    obtain ⟨finished, result, none, resolver⟩ := create_of_unfailed failed
    rw [created] at result
    cases result
    exact ⟨rfl, rfl, none, resolver⟩

theorem failed_of_create {walk stopped : Walk} {cause : Error}
    (created : (create session options).run walk = .error cause stopped) :
    (perform (acts session options) walk.resolver).failure = some cause ∧
      stopped.commands = (perform (acts session options) walk.resolver).commands ∧
      stopped.resolver = (perform (acts session options) walk.resolver).resolver := by
  cases failed : (perform (acts session options) walk.resolver).failure with
  | none =>
    obtain ⟨finished, result, -, -⟩ := create_of_unfailed failed
    simp [created] at result
  | some other =>
    obtain ⟨left, result, commands, resolver⟩ := create_of_failed failed
    rw [created] at result
    cases result
    exact ⟨rfl, commands, resolver⟩

variable (session options)

theorem failureOf_create (walk : Walk) :
    failureOf ((create session options).run walk) =
      (perform (acts session options) walk.resolver).failure := by
  cases result : (create session options).run walk with
  | ok commands after => exact (unfailed_of_create result).1.symm
  | error cause stopped => exact (failed_of_create result).1.symm

/-- What a compilation reports once it is done. -/
def closingReport (walk : Walk) : List Log.Event :=
  match (perform (acts session options) walk.resolver).failure with
  | none => [.compiled session.name (perform (acts session options) walk.resolver).commands.length]
  | some _ => []

/-- A compilation changes the resolver as its acts do, but for what it reports in the end. -/
theorem resolver_create (walk : Walk) :
    (stateOf ((create session options).run walk)).resolver =
      (perform (acts session options) walk.resolver).resolver.report
        (closingReport session options walk) := by
  cases result : (create session options).run walk with
  | ok commands after =>
    obtain ⟨unfailed, rfl, -, left⟩ := unfailed_of_create result
    rw [closingReport, unfailed]
    exact left
  | error cause stopped =>
    obtain ⟨failed, -, left⟩ := failed_of_create result
    rw [closingReport, failed, Ssh.Resolver.report, List.append_nil]
    exact left

end

end TmuxPlan.Emit
