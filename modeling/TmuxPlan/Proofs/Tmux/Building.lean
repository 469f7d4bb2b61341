import TmuxPlan.Proofs.Tmux.Server

/-!
Building a session command by command. While the panes of a window are built the window is the last
one, it is not synchronized, and what is typed goes to its last pane and to no other.
-/

set_option autoImplicit false

namespace TmuxPlan.Tmux

/-- Whether what is sent to an address reaches the last pane of the last window, and only that. -/
def AimsAtLast (server : Server) (target : PaneCoordinate) : Prop :=
  ∃ earlier window, server = earlier ++ [window] ∧ window.panes ≠ [] ∧
    reached server target = [(earlier.length, window.panes.length - 1)]

/-- Commands that lead from one state to another, where all that is typed goes to the last pane. -/
inductive Builds (session : SessionName) : Server → List Command → Server → Prop where
  | nil (server : Server) : Builds session server [] server
  | cons {server next final : Server} {command : Command} {commands : List Command}
      (now : step session server command = some next)
      (aimed : ∀ target text enter, command = .sendKeys target text enter →
        AimsAtLast server target)
      (later : Builds session next commands final) :
      Builds session server (command :: commands) final

namespace Builds

variable {session : SessionName} {server next final : Server}

theorem append {first second : List Command} (now : Builds session server first next)
    (later : Builds session next second final) : Builds session server (first ++ second) final := by
  induction now with
  | nil server => exact later
  | cons now aimed _ inductionHypothesis => exact .cons now aimed (inductionHypothesis later)

theorem single {command : Command}
    (untyped : ∀ target text enter, command ≠ .sendKeys target text enter)
    (now : step session server command = some next) : Builds session server [command] next :=
  .cons now (fun target text enter typed => absurd typed (untyped target text enter)) (.nil next)

theorem replay_eq {commands : List Command} (built : Builds session server commands final) :
    replay session server commands = some final := by
  induction built with
  | nil server => rfl
  | cons now aimed _ inductionHypothesis =>
    rw [replay, now]
    exact inductionHypothesis

/-- At every key-send the state is known, and the last pane is the one that is reached. -/
theorem aimed {before after : List Command} {target : PaneCoordinate} {text : String}
    {enter : Bool}
    (built : Builds session server (before ++ .sendKeys target text enter :: after) final) :
    ∃ middle, replay session server before = some middle ∧ AimsAtLast middle target := by
  induction before generalizing server with
  | nil =>
    cases built with
    | cons now aimed _ => exact ⟨server, rfl, aimed target text enter rfl⟩
  | cons command before inductionHypothesis =>
    cases built with
    | cons now aimed later =>
      obtain ⟨middle, replayed, atLast⟩ := inductionHypothesis later
      refine ⟨middle, ?_, atLast⟩
      rw [replay, now]
      exact replayed

end Builds

def OpenWindow.unfinished (name : String) (panes : List Typed) : OpenWindow :=
  ⟨name, panes, false, none⟩

section

variable (session : SessionName) (earlier : Server) (name : String) (panes : List Typed)

theorem reached_last {target : PaneCoordinate} (typed : Typed)
    (atWindow : target.window.toNat = earlier.length)
    (atPane : target.pane.toNat = panes.length) :
    reached (earlier ++ [.unfinished name (panes ++ [typed])]) target =
      [(earlier.length, panes.length)] := by
  simp [reached, atWindow, atPane, OpenWindow.unfinished]

theorem aimsAtLast {target : PaneCoordinate} (typed : Typed)
    (atWindow : target.window.toNat = earlier.length)
    (atPane : target.pane.toNat = panes.length) :
    AimsAtLast (earlier ++ [.unfinished name (panes ++ [typed])]) target := by
  refine ⟨earlier, _, rfl, by simp [OpenWindow.unfinished], ?_⟩
  rw [reached_last earlier name panes typed atWindow atPane]
  simp [OpenWindow.unfinished]

/-- Sending texts to the last pane types them there. -/
theorem typing_builds {target : PaneCoordinate} (own : target.session = session)
    (atWindow : target.window.toNat = earlier.length)
    (atPane : target.pane.toNat = panes.length) (typed : Typed) (texts : List String) :
    Builds session (earlier ++ [.unfinished name (panes ++ [typed])])
      (texts.map fun text => .sendKeys target text true)
      (earlier ++ [.unfinished name (panes ++ [typed ++ texts.map (·, true)])]) := by
  induction texts generalizing typed with
  | nil => simpa using .nil _
  | cons text texts inductionHypothesis =>
    have rest := inductionHypothesis (typed ++ [(text, true)])
    rw [List.append_assoc, List.singleton_append] at rest
    refine .cons ?_ ?_ rest
    · simp only [step, Command.session?, own, effect,
        reached_last earlier name panes typed atWindow atPane, List.foldl_cons, List.foldl_nil]
      simp [typeInto, OpenWindow.unfinished, modify_concat]
    · rintro _ _ _ ⟨⟩
      exact aimsAtLast earlier name panes typed atWindow atPane

theorem split_step {command : Command} (splits : command.isSplit = true)
    (own : command.session? = some session) :
    step session (earlier ++ [.unfinished name panes]) command =
      some (earlier ++ [.unfinished name (panes ++ [[]])]) := by
  cases command <;> simp_all [Command.isSplit, step, effect, OpenWindow.addPane,
    OpenWindow.unfinished]

end

end TmuxPlan.Tmux
