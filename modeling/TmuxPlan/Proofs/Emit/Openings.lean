import TmuxPlan.Proofs.Emit.Performance
import TmuxPlan.Proofs.Emit.Probes

/-!
The windows that a compilation opens. The commands of panes open none, so the names that are handed
to tmux are those of the windows of the session, in order: all of them if the compilation succeeds,
and a first part of them wherever it stops.
-/

set_option autoImplicit false

namespace TmuxPlan

/-- The name that a command gives to the window it opens. -/
def Command.windowName? : Command → Option String
  | .newSession _ name | .newWindow _ name => some name
  | _ => none

def openedNames (commands : List Command) : List String :=
  commands.filterMap Command.windowName?

@[simp]
theorem openedNames_append (first second : List Command) :
    openedNames (first ++ second) = openedNames first ++ openedNames second :=
  List.filterMap_append

namespace Emit

section

variable (session : Session) (options : CompileOptions)

theorem openedNames_keys (target : PaneCoordinate) (text : String) :
    openedNames (keys options target text) = [] := by
  rw [openedNames, List.filterMap_eq_nil_iff]
  intro command listed
  obtain ⟨part, -, rfl⟩ := List.mem_map.mp listed
  split <;> rfl

theorem openedNames_entryActs (plan : PanePlan) (windowIndex paneIndex : Nat)
    (entry : CommandEntry) :
    openedNames (commandsOf (entryActs session options plan windowIndex paneIndex entry)) = [] := by
  rw [commandsOf_entryActs]
  apply openedNames_keys

theorem openedNames_furtherActs (plan : PanePlan) (windowIndex paneIndex : Nat)
    (rest : List (CommandEntry × SplitDirection)) :
    openedNames (commandsOf (furtherActs session options plan windowIndex paneIndex rest)) =
      [] := by
  induction rest generalizing paneIndex with
  | nil => rfl
  | cons split rest inductionHypothesis =>
    obtain ⟨entry, direction⟩ := split
    rw [furtherActs, commandsOf_append, openedNames_append, inductionHypothesis, List.append_nil,
      commandsOf_emit]
    apply openedNames_entryActs

theorem openedNames_paneActs (window : Window) (windowIndex paneIndex : Nat) (pane : Pane) :
    openedNames (commandsOf (paneActs session options window windowIndex paneIndex pane)) = [] := by
  unfold paneActs
  split
  · rfl
  · rename_i plan _
    have row : openedNames (commandsOf (if 0 < UInt32.ofNat paneIndex then
        [.emit plan.ssh (.splitRow session.name)] else [])) = [] := by
      split <;> rfl
    rw [commandsOf_append, openedNames_append, row, List.nil_append]
    cases plan.entries with
    | nil => rfl
    | cons split rest =>
      obtain ⟨first, direction⟩ := split
      rw [entriesActs, commandsOf_append, openedNames_append, openedNames_entryActs,
        openedNames_furtherActs, List.append_nil]

theorem openedNames_panesActs (window : Window) (windowIndex paneIndex : Nat) (panes : List Pane) :
    openedNames (commandsOf (panesActs session options window windowIndex paneIndex panes)) =
      [] := by
  induction panes generalizing paneIndex with
  | nil => rfl
  | cons pane panes inductionHypothesis =>
    rw [panesActs, commandsOf_append, openedNames_append, openedNames_paneActs,
      inductionHypothesis, List.append_nil]

theorem windowName?_opening (windowIndex : Nat) (window : Window) :
    (opening session windowIndex window).windowName? = some window.name := by
  unfold opening
  split <;> rfl

theorem openedNames_closing (window : Window) :
    openedNames (closing session options window) = [] := by
  rw [openedNames, closing, List.filterMap_append]
  cases layoutOf session options window <;> split <;> rfl

theorem openedNames_windowActs (windowIndex : Nat) (window : Window) :
    openedNames (commandsOf (windowActs session options windowIndex window)) = [window.name] := by
  rw [windowActs, commandsOf_append, commandsOf_emit, commandsOf_emits, openedNames_append,
    openedNames_closing, List.append_nil, openedNames,
    List.filterMap_cons_some (windowName?_opening session windowIndex window)]
  exact congrArg (window.name :: ·) (openedNames_panesActs session options window windowIndex 0 _)

theorem openedNames_windowsActs (windowIndex : Nat) (windows : List Window) :
    openedNames (commandsOf (windowsActs session options windowIndex windows)) =
      windows.map Window.name := by
  induction windows generalizing windowIndex with
  | nil => rfl
  | cons window windows inductionHypothesis =>
    rw [windowsActs, commandsOf_append, openedNames_append, openedNames_windowActs,
      inductionHypothesis, List.map_cons, List.singleton_append]

theorem openedNames_acts :
    openedNames (commandsOf (acts session options)) = session.windows.map Window.name := by
  rw [acts, commandsOf_append, commandsOf_emits, openedNames_append, openedNames_windowsActs]
  exact List.append_nil _

end

theorem perform_commands_isPrefix (acts : List Act) (resolver : Ssh.Resolver) :
    List.IsPrefix (perform acts resolver).commands (commandsOf acts) := by
  fun_induction perform acts resolver with
  | case1 => exact List.prefix_rfl
  | case2 ssh command acts resolver inductionHypothesis =>
    exact List.cons_prefix_cons.mpr ⟨rfl, inductionHypothesis⟩
  | case3 => exact List.nil_prefix
  | case4 ssh acts resolver trusted inductionHypothesis => exact inductionHypothesis
  | case5 ssh acts resolver trusted answered inductionHypothesis => exact inductionHypothesis
  | case6 => exact List.nil_prefix

variable {session : Session} {options : CompileOptions}

theorem create_opens {walk after : Walk} {commands : List Command}
    (created : (create session options).run walk = .ok commands after) :
    openedNames commands = session.windows.map Window.name := by
  obtain ⟨unfailed, same, -⟩ := unfailed_of_create created
  rw [same, commands_of_unfailed _ _ unfailed, openedNames_acts]

theorem failed_create_opens {walk stopped : Walk} {cause : Error}
    (failed : (create session options).run walk = .error cause stopped) :
    List.IsPrefix (openedNames stopped.commands) (session.windows.map Window.name) := by
  obtain ⟨-, same, -⟩ := failed_of_create failed
  rw [same, ← openedNames_acts session options]
  exact (perform_commands_isPrefix _ _).filterMap Command.windowName?

end Emit

end TmuxPlan
