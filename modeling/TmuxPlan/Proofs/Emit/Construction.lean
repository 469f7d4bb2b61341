import TmuxPlan.Proofs.Emit.Performance
import TmuxPlan.Proofs.Emit.Probes
import TmuxPlan.Proofs.Normalize.Panes
import TmuxPlan.Proofs.Tmux.Building

/-!
What the commands of a session build. The numbers that the compilation counts are those of the
window and the pane that tmux has opened last: the invariant is that the windows built so far are as
many as the number of the next window says, and the panes of the last window as many as the number of
the next pane.
-/

set_option autoImplicit false

namespace TmuxPlan

open Tmux (OpenWindow Server Builds)

def PanePlan.typed (plan : PanePlan) (entry : CommandEntry) : Tmux.Typed :=
  (Text.pieces ';' (plan.text entry)).map (·, true)

namespace Emit

section

variable (session : Session) (options : CompileOptions)

/-- What is typed into the tmux panes that a pane takes, one for each of its entries. -/
def typedFor (window : Window) (pane : Pane) : List Tmux.Typed :=
  match PanePlan.plan? session options window pane with
  | none => []
  | some plan => plan.entries.map fun (entry, _) => plan.typed entry

def builtWindow (window : Window) : OpenWindow where
  name := window.name
  panes := window.panes.flatMap (typedFor session options window)
  synchronized := synchronizes session options window
  layout := layoutOf session options window

def built : Server :=
  session.windows.map (builtWindow session options)

end

theorem typedFor_of_planned {session : Session} {options : CompileOptions} {window : Window}
    {pane : Pane} {plan : PanePlan}
    (planned : PanePlan.plan? session options window pane = some plan) :
    (typedFor session options window pane).length = PanePlan.width session options window pane := by
  simp [typedFor, planned, PanePlan.plan?_length planned]

section

variable (session : Session) (options : CompileOptions) (earlier : Server) (name : String)

theorem closing_builds (window : Window) (panes : List Tmux.Typed) :
    Builds session.name (earlier ++ [.unfinished name panes]) (closing session options window)
      (earlier ++
        [⟨name, panes, synchronizes session options window, layoutOf session options window⟩]) := by
  have laidOut (synchronized : Bool) :
      Builds session.name (earlier ++ [⟨name, panes, synchronized, none⟩])
        ((layoutOf session options window).toList.map (.selectLayout session.name))
        (earlier ++ [⟨name, panes, synchronized, layoutOf session options window⟩]) := by
    cases layoutOf session options window with
    | none => exact .nil _
    | some layout => exact .single (by simp) (by simp [Tmux.step, Tmux.effect, Command.session?])
  unfold closing
  cases synchronizes session options window with
  | false => exact laidOut false
  | true =>
    exact Builds.append
      (.single (by simp) (by simp [Tmux.step, Tmux.effect, Command.session?, OpenWindow.unfinished]))
      (laidOut true)

theorem opening_builds (window : Window) (fewWindows : earlier.length < UInt32.size) :
    Builds session.name earlier [opening session earlier.length window]
      (earlier ++ [.unfinished window.name [[]]]) := by
  have position : UInt32.ofNat earlier.length = 0 ↔ earlier = [] := by
    rw [← UInt32.toNat_inj, UInt32.toNat_ofNat_of_lt' fewWindows]
    exact List.length_eq_zero_iff
  unfold opening
  by_cases first : earlier = []
  · rw [if_pos (position.mpr first)]
    subst first
    exact .single (by simp) (by simp [Tmux.step, Tmux.effect, Command.session?, OpenWindow.unfinished])
  · rw [if_neg fun zero => first (position.mp zero)]
    exact .single (by simp)
      (by simp [Tmux.step, Tmux.effect, Command.session?, OpenWindow.unfinished, first])

theorem typedFor_total (window : Window) (windowIndex paneIndex : Nat) (panes : List Pane)
    (errorFree : ∀ cause,
      .fail cause ∉ panesActs session options window windowIndex paneIndex panes) :
    (panes.flatMap (typedFor session options window)).length =
      PanePlan.totalWidth session options window panes := by
  induction panes generalizing paneIndex with
  | nil => rfl
  | cons pane panes inductionHypothesis =>
    simp only [panesActs, List.mem_append, not_or, forall_and] at errorFree
    obtain ⟨plan, planned⟩ := planned_of_errorFree errorFree.1
    rw [List.flatMap_cons, List.length_append, typedFor_of_planned planned,
      inductionHypothesis _ errorFree.2, PanePlan.totalWidth_cons]

theorem windowActs_panesFree {windowIndex : Nat} {window : Window}
    (errorFree : ∀ cause, .fail cause ∉ windowActs session options windowIndex window)
    (cause : Error) :
    .fail cause ∉ panesActs session options window windowIndex 0 window.panes := by
  have windowFree := errorFree cause
  simp only [windowActs, List.cons_append, List.mem_cons, List.mem_append, not_or] at windowFree
  exact windowFree.2.1

theorem sizes_built (windowIndex : Nat) (windows : List Window)
    (errorFree : ∀ cause, .fail cause ∉ windowsActs session options windowIndex windows) :
    Tmux.sizes (windows.map (builtWindow session options)) =
      windows.map fun window => PanePlan.totalWidth session options window window.panes := by
  induction windows generalizing windowIndex with
  | nil => rfl
  | cons window windows inductionHypothesis =>
    simp only [windowsActs, List.mem_append, not_or, forall_and] at errorFree
    have here := typedFor_total session options window windowIndex 0 window.panes
      (windowActs_panesFree session options errorFree.1)
    have rest := inductionHypothesis (windowIndex + 1) errorFree.2
    rw [List.map_cons, List.map_cons, ← rest, ← here]
    rfl

end

section

variable (session : Session) {options : CompileOptions} (live : options.debug = false)
  (earlier : Server) (name : String)

include live

theorem entry_builds (plan : PanePlan) (entry : CommandEntry) (panes : List Tmux.Typed)
    (fewWindows : earlier.length < UInt32.size) (fewPanes : panes.length < UInt32.size) :
    Builds session.name (earlier ++ [.unfinished name (panes ++ [[]])])
      (commandsOf (entryActs session options plan earlier.length panes.length entry))
      (earlier ++ [.unfinished name (panes ++ [plan.typed entry])]) := by
  rw [commandsOf_entryActs]
  simp only [keys, live, Bool.false_eq_true, if_false]
  exact Tmux.typing_builds session.name earlier name panes rfl
    (UInt32.toNat_ofNat_of_lt' fewWindows) (UInt32.toNat_ofNat_of_lt' fewPanes) [] _

theorem further_builds (plan : PanePlan) (rest : List (CommandEntry × SplitDirection))
    (panes : List Tmux.Typed) (fewWindows : earlier.length < UInt32.size)
    (fewPanes : panes.length + rest.length ≤ UInt32.size) :
    Builds session.name (earlier ++ [.unfinished name panes])
      (commandsOf (furtherActs session options plan earlier.length panes.length rest))
      (earlier ++ [.unfinished name (panes ++ rest.map fun (entry, _) => plan.typed entry)]) := by
  induction rest generalizing panes with
  | nil => simpa using .nil _
  | cons split rest inductionHypothesis =>
    obtain ⟨entry, direction⟩ := split
    rw [List.length_cons] at fewPanes
    have splitting : Builds session.name (earlier ++ [.unfinished name panes])
        [.splitPane session.name direction] (earlier ++ [.unfinished name (panes ++ [[]])]) :=
      .single (by simp) (Tmux.split_step session.name earlier name panes rfl rfl)
    have typing := entry_builds session live earlier name plan entry panes fewWindows
      (by omega)
    have further := inductionHypothesis (panes ++ [plan.typed entry]) (by simp; omega)
    rw [List.length_append, List.length_singleton, List.append_assoc,
      List.singleton_append] at further
    have whole := splitting.append (typing.append further)
    simpa [furtherActs] using whole

theorem entries_build (plan : PanePlan) {entries : List (CommandEntry × SplitDirection)}
    (nonempty : entries ≠ []) (panes : List Tmux.Typed)
    (fewWindows : earlier.length < UInt32.size)
    (fewPanes : panes.length + entries.length ≤ UInt32.size) :
    Builds session.name (earlier ++ [.unfinished name (panes ++ [[]])])
      (commandsOf (entriesActs session options plan earlier.length panes.length entries))
      (earlier ++
        [.unfinished name (panes ++ entries.map fun (entry, _) => plan.typed entry)]) := by
  cases entries with
  | nil => exact absurd rfl nonempty
  | cons split rest =>
    obtain ⟨first, direction⟩ := split
    rw [List.length_cons] at fewPanes
    have typing := entry_builds session live earlier name plan first panes fewWindows
      (by omega)
    have further := further_builds session live earlier name plan rest
      (panes ++ [plan.typed first]) fewWindows (by simp; omega)
    rw [List.length_append, List.length_singleton, List.append_assoc,
      List.singleton_append] at further
    simpa [entriesActs] using typing.append further

/-- The panes of a window that the next pane is built behind. A window opens with one pane, and that
is the first to be used. -/
def standing (panes : List Tmux.Typed) : List Tmux.Typed :=
  if panes = [] then [[]] else panes

theorem pane_builds (window : Window) (pane : Pane) (panes : List Tmux.Typed)
    (fewWindows : earlier.length < UInt32.size)
    (fewPanes : panes.length + PanePlan.width session options window pane < UInt32.size)
    (errorFree : ∀ cause,
      .fail cause ∉ paneActs session options window earlier.length panes.length pane) :
    Builds session.name (earlier ++ [.unfinished name (standing panes)])
      (commandsOf (paneActs session options window earlier.length panes.length pane))
      (earlier ++ [.unfinished name (panes ++ typedFor session options window pane)]) := by
  obtain ⟨plan, planned⟩ := planned_of_errorFree errorFree
  have length := PanePlan.plan?_length planned
  have entries := entries_build session live earlier name plan
    (PanePlan.plan?_entries_ne_nil planned) panes fewWindows (by omega)
  rw [paneActs_of_planned planned, commandsOf_append, typedFor, planned]
  have fits : panes.length < UInt32.size := by omega
  by_cases first : panes = []
  · subst first
    simpa [standing] using entries
  · have later : 0 < UInt32.ofNat panes.length := by
      rw [UInt32.lt_iff_toNat_lt, UInt32.toNat_ofNat_of_lt' fits]
      exact List.length_pos_iff.mpr first
    have splitting : Builds session.name (earlier ++ [.unfinished name panes])
        [.splitRow session.name] (earlier ++ [.unfinished name (panes ++ [[]])]) :=
      .single (by simp) (Tmux.split_step session.name earlier name panes rfl rfl)
    rw [if_pos later, standing, if_neg first]
    exact splitting.append entries

theorem panes_build (window : Window) (panes : List Pane) (done : List Tmux.Typed)
    (fewWindows : earlier.length < UInt32.size)
    (fewPanes : done.length + PanePlan.totalWidth session options window panes < UInt32.size)
    (errorFree : ∀ cause,
      .fail cause ∉ panesActs session options window earlier.length done.length panes) :
    Builds session.name (earlier ++ [.unfinished name (standing done)])
      (commandsOf (panesActs session options window earlier.length done.length panes))
      (earlier ++ [.unfinished name
        (standing (done ++ panes.flatMap (typedFor session options window)))]) := by
  -- the number of the next pane is the number of panes that are done
  induction panes generalizing done with
  | nil => simpa [panesActs] using .nil _
  | cons pane panes inductionHypothesis =>
    rw [PanePlan.totalWidth_cons] at fewPanes
    simp only [panesActs, List.mem_append, not_or, forall_and] at errorFree
    obtain ⟨hereFree, restFree⟩ := errorFree
    have here := pane_builds session live earlier name window pane done fewWindows
      (by omega) hereFree
    obtain ⟨plan, planned⟩ := planned_of_errorFree hereFree
    have length := typedFor_of_planned planned
    have nonempty : typedFor session options window pane ≠ [] := by
      rw [← List.length_pos_iff, length]
      exact PanePlan.width_pos session options window pane
    have rest := inductionHypothesis (done ++ typedFor session options window pane)
    rw [List.length_append, length, standing, if_neg (by simp [nonempty])] at rest
    have whole := here.append (rest (by omega) restFree)
    rw [List.append_assoc] at whole
    simpa [panesActs] using whole

theorem window_builds (window : Window) (filled : window.panes ≠ [])
    (fewWindows : earlier.length < UInt32.size)
    (fewPanes : PanePlan.totalWidth session options window window.panes < UInt32.size)
    (errorFree : ∀ cause, .fail cause ∉ windowActs session options earlier.length window) :
    Builds session.name earlier (commandsOf (windowActs session options earlier.length window))
      (earlier ++ [builtWindow session options window]) := by
  have panesFree := windowActs_panesFree session options errorFree
  have panes := panes_build session live earlier window.name window window.panes []
    fewWindows (by simpa using fewPanes) panesFree
  have nonempty : window.panes.flatMap (typedFor session options window) ≠ [] := by
    rw [← List.length_pos_iff, typedFor_total session options window _ _ _ panesFree]
    cases listed : window.panes with
    | nil => exact absurd listed filled
    | cons pane rest =>
      have taken := PanePlan.width_pos session options window pane
      rw [PanePlan.totalWidth_cons]
      omega
  rw [List.nil_append, standing, standing, if_pos rfl, if_neg nonempty, List.length_nil] at panes
  have whole := (opening_builds session earlier window fewWindows).append
    (panes.append (closing_builds session options earlier window.name window _))
  simpa [windowActs, builtWindow] using whole

theorem windows_build (windows : List Window) (filled : ∀ window ∈ windows, window.panes ≠ [])
    (fewWindows : earlier.length + windows.length ≤ UInt32.size)
    (fewPanes : ∀ window ∈ windows,
      PanePlan.totalWidth session options window window.panes < UInt32.size)
    (errorFree : ∀ cause, .fail cause ∉ windowsActs session options earlier.length windows) :
    Builds session.name earlier (commandsOf (windowsActs session options earlier.length windows))
      (earlier ++ windows.map (builtWindow session options)) := by
  induction windows generalizing earlier with
  | nil => simpa [windowsActs] using .nil _
  | cons window windows inductionHypothesis =>
    rw [List.length_cons] at fewWindows
    simp only [windowsActs, List.mem_append, not_or, forall_and] at errorFree
    have here := window_builds session live earlier window
      (filled window (List.mem_cons_self ..)) (by omega) (fewPanes window (List.mem_cons_self ..))
      errorFree.1
    have rest := inductionHypothesis (earlier ++ [builtWindow session options window])
      (fun other listed => filled other (List.mem_cons_of_mem _ listed))
    rw [List.length_append, List.length_singleton] at rest
    have whole := here.append (rest (by omega)
      (fun other listed => fewPanes other (List.mem_cons_of_mem _ listed)) errorFree.2)
    simpa [windowsActs] using whole

end

/-- Everything the last commands address is the focus. -/
theorem replay_finish (session : Session) (server : Server) :
    Tmux.replay session.name server (finish session) =
      if Tmux.hasPane server session.focus.window.toNat session.focus.pane.toNat then some server
      else none := by
  cases found : Tmux.hasPane server session.focus.window.toNat session.focus.pane.toNat <;>
    simp [finish, Tmux.replay, Tmux.step, Tmux.effect, Command.session?, found]

/-- The commands of a session build it. Nothing is addressed before it is there, all that is typed
goes to the last pane of the last window, and what stands in the end is the session: its windows with
their names, and for every entry of their panes a pane in which its text was typed. Only the focus
is not checked, and the last commands find it if the session has such a pane. -/
theorem create_builds {name : String} {spec : Description.SessionSpec} {session : Session}
    (normalized : normalize name spec = .ok session) {options : CompileOptions}
    (live : options.debug = false) (fewWindows : session.windows.length < UInt32.size)
    (fewPanes : ∀ window ∈ session.windows,
      PanePlan.totalWidth session options window window.panes < UInt32.size)
    {walk after : Walk} {commands : List Command}
    (created : (create session options).run walk = .ok commands after) :
    ∃ building, commands = building ++ finish session ∧
      Tmux.replay session.name [] building = some (built session options) ∧
      (∀ before target text enter rest, commands = before ++ .sendKeys target text enter :: rest →
        ∃ server, Tmux.replay session.name [] before = some server ∧
          Tmux.AimsAtLast server target) ∧
      (built session options).map (·.name) = session.windows.map (·.name) ∧
      Tmux.sizes (built session options) = session.windows.map (fun window =>
        PanePlan.totalWidth session options window window.panes) ∧
      commands.countP Command.isSplit + session.windows.length =
        (session.windows.map fun window =>
          PanePlan.totalWidth session options window window.panes).sum ∧
      Tmux.replay session.name [] commands =
        if Tmux.hasPane (built session options) session.focus.window.toNat
            session.focus.pane.toNat then some (built session options)
        else none := by
  obtain ⟨unfailed, rfl, -, -⟩ := unfailed_of_create created
  have errorFree := ((perform_unfailed_iff _ _).mp unfailed).1
  simp only [acts, List.mem_append, not_or, forall_and] at errorFree
  have building : Builds session.name []
      (commandsOf (windowsActs session options 0 session.windows)) (built session options) :=
    windows_build session live [] session.windows (Normalize.normalize_filled normalized).2
      (by simp; omega) fewPanes errorFree.1
  have replayed := building.replay_eq
  have sizes : Tmux.sizes (built session options) = session.windows.map (fun window =>
      PanePlan.totalWidth session options window window.panes) :=
    sizes_built session options 0 session.windows errorFree.1
  have emitted : (perform (acts session options) walk.resolver).commands =
      commandsOf (windowsActs session options 0 session.windows) ++ finish session := by
    rw [commands_of_unfailed _ _ unfailed, acts, commandsOf_append, commandsOf_emits]
  refine ⟨_, emitted, replayed, ?_, ?_, sizes, ?_, ?_⟩
  · intro before target text enter rest shape
    rw [emitted] at shape
    rcases append_split shape with ⟨middle, rfl, inFinish⟩ | ⟨middle, inBuilding⟩
    · have listed : Command.sendKeys target text enter ∈ finish session := by simp [inFinish]
      simp [finish] at listed
    · rw [inBuilding] at building
      exact building.aimed
  · simp [built, builtWindow]
  · have counted := Tmux.replay_sizes replayed
    have unsplit : (finish session).countP Command.isSplit = 0 := rfl
    have opened : (built session options).length = session.windows.length := List.length_map ..
    rw [sizes, opened] at counted
    rw [emitted, List.countP_append, unsplit]
    simpa [Tmux.sizes] using counted.symm
  · rw [emitted, Tmux.replay_append, replayed]
    exact replay_finish session _

/-- Two windows, with a pane of two entries in the first and a focus that is there. -/
theorem create_builds_dev :
    ∃ spec session walk commands after, normalize "dev" spec = .ok session ∧
      (create session {}).run walk = .ok commands after ∧
      Tmux.sizes (built session {}) = [3, 1] ∧
      Tmux.replay session.name [] commands = some (built session {}) := by
  let panes : List Description.PaneSpec := [.bare "vim", .list [.bare "make; ls", .bare "top"]]
  let spec : Description.SessionSpec := {
    windows := some [.structured { name := some "code", panes := some (.list panes) }, .named "logs"]
    shell := some (.single "tail"), focus := some "0.2" }
  let session : Session := {
    name := ⟨"dev", by decide⟩
    windows := [
      { name := "code", panes := [
          { shell := some [⟨"vim", none⟩] }, { shell := some [⟨"make; ls", none⟩, ⟨"top", none⟩] }] },
      { name := "logs", panes := [{}] }]
    shell := some [⟨"tail", none⟩], focus := ⟨0, 2⟩ }
  let walk : Walk := { resolver := { probe := fun _ _ => true } }
  have normalized : normalize "dev" spec = .ok session := rfl
  have unfailed : (perform (acts session {}) walk.resolver).failure = none := by decide +kernel
  obtain ⟨after, created, -, -⟩ := create_of_unfailed unfailed
  obtain ⟨building, -, -, -, -, -, -, replayed⟩ :=
    create_builds normalized rfl (by decide) (by decide +kernel) created
  rw [if_pos (by decide +kernel)] at replayed
  exact ⟨spec, session, walk, _, after, normalized, created, by decide +kernel, replayed⟩

/-- The focus is not checked against the panes of the session, so it need not be one of them. -/
theorem focus_may_miss :
    ∃ session walk before target rest after server,
      normalize "s" { shell := some (.single "ls"), focus := some "1.2" } = .ok session ∧
      (create session {}).run walk = .ok (before ++ .selectPane target :: rest) after ∧
      Tmux.replay session.name [] before = some server ∧
      Tmux.hasPane server target.window.toNat target.pane.toNat = false := by
  let session : Session := {
    name := ⟨"s", by decide⟩, windows := [{ name := "ultimux", panes := [{}] }]
    shell := some [⟨"ls", none⟩], focus := ⟨1, 2⟩ }
  let walk : Walk := { resolver := { probe := fun _ _ => true } }
  have unfailed : (perform (acts session {}) walk.resolver).failure = none := by decide +kernel
  obtain ⟨after, created, -, -⟩ := create_of_unfailed unfailed
  have emitted : (perform (acts session {}) walk.resolver).commands =
      [.newSession session.name "ultimux", .sendKeys ⟨session.name, 0, 0⟩ "ls" true,
        .setGlobalOption "status-style" "bg=blue",
        .setGlobalOption "default-terminal" "screen-256color"] ++
      .selectPane ⟨session.name, 1, 2⟩ :: [.attach ⟨session.name, 1, 2⟩] := by
    decide +kernel
  rw [emitted] at created
  exact ⟨session, walk, _, _, _, after, _, rfl, created, rfl, rfl⟩

end Emit

end TmuxPlan
