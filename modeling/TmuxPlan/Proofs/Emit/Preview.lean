import TmuxPlan.Proofs.Emit.Performance

/-!
Showing instead of typing. In debug mode the acts of a session are the same, with every key-send
commented out, and a resolver in debug mode lets all of them pass. A preview can therefore differ from
the real compilation in one way only: it does not find out that a destination does not answer.
-/

set_option autoImplicit false

namespace TmuxPlan

def Command.commentedOut : Command → Command
  | .sendKeys target text true => .sendKeys target ("# " ++ text) false
  | command => command

namespace Emit

def Act.commentedOut : Act → Act
  | .emit ssh command => .emit ssh command.commentedOut
  | act => act

def walkOf {α : Type} : EStateM.Result Error Walk α → Walk
  | .ok _ walk | .error _ walk => walk

theorem walkOf_eq {α : Type} (result : EStateM.Result Error Walk α) :
    walkOf result = stateOf result := by
  cases result <;> rfl

section

variable (session : Session) (options : CompileOptions)

theorem map_emit_commentedOut (ssh : Option Ssh.Options) (commands : List Command) :
    (commands.map (Act.emit ssh)).map Act.commentedOut =
      (commands.map Command.commentedOut).map (Act.emit ssh) := by
  simp [Act.commentedOut, Function.comp_def]

theorem keys_preview (target : PaneCoordinate) (text : String) :
    keys { options with debug := true } target text =
      (keys { options with debug := false } target text).map Command.commentedOut := by
  simp [keys, Command.commentedOut]

theorem entryActs_preview (plan : PanePlan) (windowIndex paneIndex : Nat) (entry : CommandEntry) :
    entryActs session { options with debug := true } plan windowIndex paneIndex entry =
      (entryActs session { options with debug := false } plan windowIndex paneIndex entry).map
        Act.commentedOut := by
  unfold entryActs
  rw [keys_preview, ← map_emit_commentedOut, List.map_append]
  congr 1
  simp [Act.commentedOut, Function.comp_def]

theorem furtherActs_preview (plan : PanePlan) (windowIndex paneIndex : Nat)
    (rest : List (CommandEntry × SplitDirection)) :
    furtherActs session { options with debug := true } plan windowIndex paneIndex rest =
      (furtherActs session { options with debug := false } plan windowIndex paneIndex rest).map
        Act.commentedOut := by
  induction rest generalizing paneIndex with
  | nil => rfl
  | cons split rest inductionHypothesis =>
    obtain ⟨entry, direction⟩ := split
    simp only [furtherActs, List.map_append, List.map_cons, ← entryActs_preview,
      ← inductionHypothesis]
    rfl

theorem paneActs_preview (window : Window) (windowIndex paneIndex : Nat) (pane : Pane) :
    paneActs session { options with debug := true } window windowIndex paneIndex pane =
      (paneActs session { options with debug := false } window windowIndex paneIndex pane).map
        Act.commentedOut := by
  have samePlan : PanePlan.ofPane session { options with debug := true } window pane
        (.ofNat windowIndex) (.ofNat paneIndex) =
      PanePlan.ofPane session { options with debug := false } window pane
        (.ofNat windowIndex) (.ofNat paneIndex) := rfl
  unfold paneActs
  rw [samePlan]
  split
  · rfl
  · rename_i plan planned
    rw [List.map_append]
    congr 1
    · split <;> rfl
    · unfold entriesActs
      split
      · rfl
      · rw [List.map_append, ← entryActs_preview, ← furtherActs_preview]

theorem panesActs_preview (window : Window) (windowIndex paneIndex : Nat) (panes : List Pane) :
    panesActs session { options with debug := true } window windowIndex paneIndex panes =
      (panesActs session { options with debug := false } window windowIndex paneIndex panes).map
        Act.commentedOut := by
  induction panes generalizing paneIndex with
  | nil => rfl
  | cons pane panes inductionHypothesis =>
    have sameWidth : PanePlan.width session { options with debug := true } window pane =
      PanePlan.width session { options with debug := false } window pane := rfl
    simp only [panesActs, List.map_append, ← paneActs_preview, ← inductionHypothesis, sameWidth]

theorem closing_commentedOut (window : Window) :
    (closing session options window).map Command.commentedOut =
      closing session options window := by
  unfold closing
  rw [List.map_append]
  congr 1
  · split <;> rfl
  · simp [Function.comp_def, Command.commentedOut]

theorem windowActs_preview (windowIndex : Nat) (window : Window) :
    windowActs session { options with debug := true } windowIndex window =
      (windowActs session { options with debug := false } windowIndex window).map
        Act.commentedOut := by
  have sameClosing : closing session { options with debug := true } window =
    closing session { options with debug := false } window := rfl
  have opens : (opening session windowIndex window).commentedOut =
      opening session windowIndex window := by
    unfold opening
    split <;> rfl
  simp only [windowActs, List.map_cons, List.map_append]
  rw [map_emit_commentedOut, closing_commentedOut, panesActs_preview, sameClosing,
    Act.commentedOut, opens]

theorem windowsActs_preview (windowIndex : Nat) (windows : List Window) :
    windowsActs session { options with debug := true } windowIndex windows =
      (windowsActs session { options with debug := false } windowIndex windows).map
        Act.commentedOut := by
  induction windows generalizing windowIndex with
  | nil => rfl
  | cons window windows inductionHypothesis =>
    simp only [windowsActs, List.map_append, ← windowActs_preview, ← inductionHypothesis]

theorem acts_preview :
    acts session { options with debug := true } =
      (acts session { options with debug := false }).map Act.commentedOut := by
  unfold acts
  rw [List.map_append, ← windowsActs_preview]
  rfl

end

/-- A preview against the acts it is a preview of: it makes no probe, and it knows all but whether a
destination answers. -/
structure Shows (shown real : Outcome) (resolver : Ssh.Resolver) : Prop where
  resolver_eq : shown.resolver = resolver
  commands_eq : real.failure = none →
    shown.failure = none ∧ shown.commands = real.commands.map Command.commentedOut
  failure_eq : ∀ cause, real.failure = some cause →
    shown.failure = some cause ∨ ∃ destination, cause = .unreachable destination

theorem perform_shows (acts : List Act) {preview : Ssh.Resolver} (debugging : preview.debug = true)
    (real : Ssh.Resolver) :
    Shows (perform (acts.map Act.commentedOut) preview) (perform acts real) preview := by
  induction acts generalizing real with
  | nil =>
    refine ⟨rfl, fun _ => ⟨rfl, rfl⟩, ?_⟩
    intro cause failed
    cases failed
  | cons act acts inductionHypothesis =>
    cases act with
    | fail cause =>
      refine ⟨rfl, ?_, ?_⟩
      · intro unfailed
        cases unfailed
      · intro other failed
        exact .inl failed
    | emit ssh command =>
      obtain ⟨sameResolver, sameCommands, sameFailure⟩ := inductionHypothesis real
      refine ⟨sameResolver, ?_, sameFailure⟩
      intro unfailed
      obtain ⟨shownUnfailed, shownCommands⟩ := sameCommands unfailed
      exact ⟨shownUnfailed, congrArg (command.commentedOut :: ·) shownCommands⟩
    | reach ssh =>
      have passed : preview.trusts ssh.destination = true := by
        simp [Ssh.Resolver.trusts, debugging]
      simp only [List.map_cons, Act.commentedOut, perform, passed, if_true]
      split
      · exact inductionHypothesis real
      · split
        · obtain ⟨sameResolver, sameCommands, sameFailure⟩ :=
            inductionHypothesis (real.afterProbe ssh.destination)
          exact ⟨sameResolver, sameCommands, sameFailure⟩
        · refine ⟨(inductionHypothesis real).resolver_eq, ?_, ?_⟩
          · intro unfailed
            cases unfailed
          · intro cause failed
            cases failed
            exact .inr ⟨_, rfl⟩

variable (session : Session) (options : CompileOptions) (real preview : Walk)

theorem acts_show (debugging : preview.resolver.debug = true) :
    Shows (perform (acts session { options with debug := true }) preview.resolver)
      (perform (acts session { options with debug := false }) real.resolver) preview.resolver := by
  rw [acts_preview]
  exact perform_shows _ debugging real.resolver

/-- The preview of a session is faithful. It shows what the real compilation emits, it fails only
where the real one fails as well, and what it cannot see is a destination that does not answer. The
resolver of the preview is asked for nothing. -/
theorem preview_faithful (debugging : preview.resolver.debug = true) :
    (∀ commands after,
      (create session { options with debug := false }).run real = .ok commands after →
        ∃ shown, (create session { options with debug := true }).run preview =
          .ok (commands.map Command.commentedOut) shown) ∧
    (∀ cause shown,
      (create session { options with debug := true }).run preview = .error cause shown →
        ∃ failure stopped,
          (create session { options with debug := false }).run real = .error failure stopped ∧
            (failure = cause ∨ ∃ destination, failure = .unreachable destination)) ∧
    (∀ commands shown,
      (create session { options with debug := true }).run preview = .ok commands shown →
        ∀ failure stopped,
          (create session { options with debug := false }).run real = .error failure stopped →
            ∃ destination, failure = .unreachable destination) ∧
    (walkOf ((create session { options with debug := true }).run preview)).resolver.probed =
      preview.resolver.probed ∧
    (walkOf ((create session { options with debug := true }).run preview)).resolver.validated =
      preview.resolver.validated := by
  obtain ⟨sameResolver, sameCommands, sameFailure⟩ :=
    acts_show session options real preview debugging
  refine ⟨?_, ?_, ?_, ?_⟩
  · intro commands after created
    obtain ⟨unfailed, emitted, -, -⟩ := unfailed_of_create created
    obtain ⟨shownUnfailed, shownCommands⟩ := sameCommands unfailed
    obtain ⟨shown, result, -, -⟩ := create_of_unfailed shownUnfailed
    rw [shownCommands, ← emitted] at result
    exact ⟨shown, result⟩
  · intro cause shown created
    obtain ⟨shownFailed, -, -⟩ := failed_of_create created
    cases failed : (perform (acts session { options with debug := false })
        real.resolver).failure with
    | none =>
      rw [(sameCommands failed).1] at shownFailed
      cases shownFailed
    | some failure =>
      obtain ⟨stopped, result, -, -⟩ := create_of_failed failed
      refine ⟨failure, stopped, result, ?_⟩
      rcases sameFailure failure failed with same | unreachable
      · rw [shownFailed] at same
        exact .inl (Option.some.inj same).symm
      · exact .inr unreachable
  · intro commands shown created failure stopped stoppedReal
    obtain ⟨shownUnfailed, -, -, -⟩ := unfailed_of_create created
    rcases sameFailure failure (failed_of_create stoppedReal).1 with same | unreachable
    · rw [shownUnfailed] at same
      cases same
    · exact unreachable
  · cases result : (create session { options with debug := true }).run preview with
    | ok commands shown =>
      have left := (unfailed_of_create result).2.2.2
      rw [sameResolver] at left
      simp [walkOf, left, Ssh.Resolver.report]
    | error cause shown =>
      have left := (failed_of_create result).2.2
      rw [sameResolver] at left
      simp [walkOf, left]

/-- A pane on a server that answers, and its preview. -/
theorem preview_faithful_web :
    ∃ session real preview commands after shown, preview.resolver.debug = true ∧
      (create session { debug := false }).run real = .ok commands after ∧
      (create session { debug := true }).run preview =
        .ok (commands.map Command.commentedOut) shown := by
  let session : Session := {
    name := ⟨"dev", by decide⟩
    windows := [{ name := "web", panes := [{ ssh := some { server := some "web" } }] }] }
  let real : Walk := { resolver := { probe := fun _ _ => true } }
  let preview : Walk := { resolver := { probe := fun _ _ => false, debug := true } }
  have unfailed : (perform (acts session { debug := false }) real.resolver).failure = none := by
    decide +kernel
  obtain ⟨after, created, -, -⟩ := create_of_unfailed unfailed
  obtain ⟨shown, previewed⟩ := (preview_faithful session {} real preview rfl).1 _ _ created
  exact ⟨session, real, preview, _, after, shown, rfl, created, previewed⟩

end Emit

end TmuxPlan
