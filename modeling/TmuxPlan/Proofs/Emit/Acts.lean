import TmuxPlan.Proofs.Emit.Planning
import TmuxPlan.Proofs.Ssh.Reachability

/-!
A compilation as a flat list of acts. The acts of a session do not depend on any resolver: they are
all that compiling it would do if every destination answered, up to and including its first error.
Carrying them out from left to right, until one fails, gives the events of a compilation in the order
in which they happen.
-/

set_option autoImplicit false

namespace TmuxPlan

theorem append_split {α : Type} {first second before after : List α} {item : α}
    (shape : first ++ second = before ++ item :: after) :
    (∃ middle, before = first ++ middle ∧ second = middle ++ item :: after) ∨
      ∃ middle, first = before ++ item :: middle := by
  rcases List.append_eq_append_iff.mp shape with inSecond | ⟨middle, whole, rest⟩
  · exact .inl inSecond
  · cases middle with
    | nil => exact .inl ⟨[], by simpa using whole.symm, rest.symm⟩
    | cons head middle =>
      obtain ⟨rfl, -⟩ := List.cons.inj rest
      exact .inr ⟨middle, whole⟩

def PanePlan.text (plan : PanePlan) (entry : CommandEntry) : String :=
  match plan.ssh with
  | none => plan.located entry
  | some ssh => ssh.compose (plan.located entry)

namespace Emit

inductive Act where
  /-- Emit a command; `ssh` are the settings of the pane it is for, if that pane has any. -/
  | emit (ssh : Option Ssh.Options) (command : Command)
  /-- Make sure that the destination of the settings answers. -/
  | reach (ssh : Ssh.Options)
  | fail (cause : Error)
  deriving DecidableEq

/-- One thing that happens while acts are carried out. -/
inductive Event where
  | emitted (ssh : Option Ssh.Options) (command : Command)
  | probed (destination : String) (answer : Bool)
  deriving DecidableEq

namespace Event

def command? : Event → Option Command
  | .emitted _ command => some command
  | .probed .. => none

def probe? : Event → Option (String × Bool)
  | .emitted .. => none
  | .probed destination answer => some (destination, answer)

end Event

structure Outcome where
  failure : Option Error := none
  events : List Event := []
  resolver : Ssh.Resolver

namespace Outcome

def commands (outcome : Outcome) : List Command :=
  outcome.events.filterMap Event.command?

def probes (outcome : Outcome) : List (String × Bool) :=
  outcome.events.filterMap Event.probe?

def after (events : List Event) (outcome : Outcome) : Outcome :=
  { outcome with events := events ++ outcome.events }

/-- Goes on with the resolver that is left, unless something failed. -/
def andThen (outcome : Outcome) (next : Ssh.Resolver → Outcome) : Outcome :=
  match outcome.failure with
  | none => (next outcome.resolver).after outcome.events
  | some _ => outcome

end Outcome

/-- Carries acts out from left to right until one fails. -/
def perform : List Act → Ssh.Resolver → Outcome
  | [], resolver => { resolver }
  | .emit ssh command :: acts, resolver => (perform acts resolver).after [.emitted ssh command]
  | .fail cause :: _, resolver => { failure := some cause, resolver }
  | .reach ssh :: acts, resolver =>
    if resolver.trusts ssh.destination then perform acts resolver
    else if resolver.answer ssh.destination then
      (perform acts (resolver.afterProbe ssh.destination)).after [.probed ssh.destination true]
    else {
      failure := some (.unreachable ssh.destination)
      events := [.probed ssh.destination false]
      resolver := resolver.afterProbe ssh.destination }

/-- The commands that type the parts of a text, each with Enter, or commented out. -/
def keys (options : CompileOptions) (target : PaneCoordinate) (text : String) : List Command :=
  (Text.pieces ';' text).map fun part =>
    if options.debug then .sendKeys target ("# " ++ part) false
    else .sendKeys target part true

section

variable (session : Session) (options : CompileOptions)

def entryActs (plan : PanePlan) (windowIndex paneIndex : Nat) (entry : CommandEntry) : List Act :=
  plan.ssh.toList.map .reach ++
    (keys options ⟨session.name, .ofNat windowIndex, .ofNat paneIndex⟩ (plan.text entry)).map
      (.emit plan.ssh)

/-- The acts for the entries that split the pane of the first one. -/
def furtherActs (plan : PanePlan) (windowIndex : Nat) :
    Nat → List (CommandEntry × SplitDirection) → List Act
  | _, [] => []
  | paneIndex, (entry, direction) :: rest =>
    .emit plan.ssh (.splitPane session.name direction) ::
      entryActs session options plan windowIndex paneIndex entry ++
      furtherActs plan windowIndex (paneIndex + 1) rest

def entriesActs (plan : PanePlan) (windowIndex paneIndex : Nat) :
    List (CommandEntry × SplitDirection) → List Act
  | [] => []
  | (first, _) :: rest =>
    entryActs session options plan windowIndex paneIndex first ++
      furtherActs session options plan windowIndex (paneIndex + 1) rest

def paneActs (window : Window) (windowIndex paneIndex : Nat) (pane : Pane) : List Act :=
  match PanePlan.ofPane session options window pane (.ofNat windowIndex) (.ofNat paneIndex) with
  | .error cause => [.fail cause]
  | .ok plan =>
    (if 0 < UInt32.ofNat paneIndex then [.emit plan.ssh (.splitRow session.name)] else []) ++
      entriesActs session options plan windowIndex paneIndex plan.entries

def panesActs (window : Window) (windowIndex : Nat) : Nat → List Pane → List Act
  | _, [] => []
  | paneIndex, pane :: panes =>
    paneActs session options window windowIndex paneIndex pane ++
      panesActs window windowIndex (paneIndex + PanePlan.width session options window pane) panes

def opening (windowIndex : Nat) (window : Window) : Command :=
  if UInt32.ofNat windowIndex = 0 then .newSession session.name window.name
  else .newWindow session.name window.name

/-- What is set for a window once its panes are there. -/
def closing (window : Window) : List Command :=
  (if synchronizes session options window then [.setSynchronize session.name true] else []) ++
    (layoutOf session options window).toList.map (.selectLayout session.name)

def windowActs (windowIndex : Nat) (window : Window) : List Act :=
  .emit none (opening session windowIndex window) ::
    panesActs session options window windowIndex 0 window.panes ++
    (closing session options window).map (.emit none)

def windowsActs : Nat → List Window → List Act
  | _, [] => []
  | windowIndex, window :: windows =>
    windowActs session options windowIndex window ++ windowsActs (windowIndex + 1) windows

/-- All that compiling a session does. -/
def acts : List Act :=
  windowsActs session options 0 session.windows ++ (finish session).map (.emit none)

end

theorem paneActs_of_planned {session : Session} {options : CompileOptions} {window : Window}
    {pane : Pane} {plan : PanePlan}
    (planned : PanePlan.plan? session options window pane = some plan)
    (windowIndex paneIndex : Nat) :
    paneActs session options window windowIndex paneIndex pane =
      (if 0 < UInt32.ofNat paneIndex then [.emit plan.ssh (.splitRow session.name)] else []) ++
        entriesActs session options plan windowIndex paneIndex plan.entries := by
  rw [paneActs, (PanePlan.ofPane_eq_ok_iff _ _ _ _ _ _ _).mpr planned]

theorem planned_of_errorFree {session : Session} {options : CompileOptions} {window : Window}
    {windowIndex paneIndex : Nat} {pane : Pane}
    (errorFree : ∀ cause,
      .fail cause ∉ paneActs session options window windowIndex paneIndex pane) :
    ∃ plan, PanePlan.plan? session options window pane = some plan := by
  unfold paneActs at errorFree
  split at errorFree
  · simp at errorFree
  · rename_i plan found
    exact ⟨plan, (PanePlan.ofPane_eq_ok_iff _ _ _ _ _ _ _).mp found⟩

namespace Outcome

variable (first second : List Event) (outcome : Outcome)

@[simp]
theorem after_failure : (outcome.after first).failure = outcome.failure := rfl

@[simp]
theorem after_resolver : (outcome.after first).resolver = outcome.resolver := rfl

@[simp]
theorem after_events : (outcome.after first).events = first ++ outcome.events := rfl

@[simp]
theorem after_nil : outcome.after [] = outcome := rfl

@[simp]
theorem after_after : (outcome.after second).after first = outcome.after (first ++ second) := by
  simp [after]

@[simp]
theorem after_emitted_commands (ssh : Option Ssh.Options) (command : Command) :
    (outcome.after [.emitted ssh command]).commands = command :: outcome.commands := rfl

@[simp]
theorem after_probed_commands (destination : String) (answer : Bool) :
    (outcome.after [.probed destination answer]).commands = outcome.commands := rfl

@[simp]
theorem after_emitted_probes (ssh : Option Ssh.Options) (command : Command) :
    (outcome.after [.emitted ssh command]).probes = outcome.probes := rfl

@[simp]
theorem after_probed_probes (destination : String) (answer : Bool) :
    (outcome.after [.probed destination answer]).probes =
      (destination, answer) :: outcome.probes := rfl

@[simp]
theorem after_emits_commands (ssh : Option Ssh.Options) (commands : List Command) :
    (outcome.after (commands.map (.emitted ssh))).commands = commands ++ outcome.commands := by
  simp [Outcome.commands, List.filterMap_map, Function.comp_def, Event.command?]

@[simp]
theorem after_events_commands (earlier : Outcome) :
    (outcome.after earlier.events).commands = earlier.commands ++ outcome.commands := by
  simp [commands]

theorem andThen_of_none {outcome : Outcome} {next : Ssh.Resolver → Outcome}
    (unfailed : outcome.failure = none) :
    outcome.andThen next = (next outcome.resolver).after outcome.events := by
  simp [andThen, unfailed]

theorem andThen_of_some {outcome : Outcome} {next : Ssh.Resolver → Outcome} {cause : Error}
    (failed : outcome.failure = some cause) : outcome.andThen next = outcome := by
  simp [andThen, failed]

theorem after_andThen (next : Ssh.Resolver → Outcome) :
    (outcome.after first).andThen next = (outcome.andThen next).after first := by
  cases failed : outcome.failure with
  | none =>
    rw [andThen_of_none failed, andThen_of_none (by simpa using failed)]
    simp
  | some cause =>
    rw [andThen_of_some failed, andThen_of_some (by simpa using failed)]

end Outcome

theorem perform_append (first second : List Act) (resolver : Ssh.Resolver) :
    perform (first ++ second) resolver = (perform first resolver).andThen (perform second) := by
  induction first generalizing resolver with
  | nil => simp [perform, Outcome.andThen]
  | cons act acts inductionHypothesis =>
    cases act with
    | emit ssh command =>
      simp only [List.cons_append, perform, inductionHypothesis, Outcome.after_andThen]
    | fail cause => rfl
    | reach ssh =>
      simp only [List.cons_append, perform, inductionHypothesis]
      split
      · rfl
      · split
        · rw [Outcome.after_andThen]
        · rfl

end Emit

end TmuxPlan
