import TmuxPlan.Command
import Mathlib.Algebra.GroupWithZero.Nat

/-!
A tmux that keeps what it is told: its windows in the order in which they were opened, with the panes
of each and what was typed into them. A command that addresses a window or a pane that is not there,
or another session, has no effect that could be told; it is left undefined.
-/

set_option autoImplicit false

namespace TmuxPlan

/-- The session that a command addresses, if it addresses one. -/
def Command.session? : Command → Option SessionName
  | .newSession session _ | .newWindow session _ | .splitRow session | .splitPane session _
  | .setSynchronize session _ | .selectLayout session _ => some session
  | .sendKeys target _ _ | .selectPane target | .attach target => some target.session
  | .setGlobalOption .. => none

namespace Tmux

/-- What was typed into a pane, text by text, each with whether Enter followed. -/
abbrev Typed := List (String × Bool)

structure OpenWindow where
  name : String
  panes : List Typed
  synchronized : Bool := false
  layout : Option Layout := none
  deriving DecidableEq

abbrev Server := List OpenWindow

def OpenWindow.addPane (window : OpenWindow) : OpenWindow :=
  { window with panes := window.panes ++ [[]] }

def onLast (change : OpenWindow → OpenWindow) (server : Server) : Option Server :=
  server.getLast?.map fun window => server.dropLast ++ [change window]

def hasPane (server : Server) (window pane : Nat) : Bool :=
  server[window]?.any (pane < ·.panes.length)

/-- The panes that receive what is sent to an address, each by the numbers of its window and of the
pane itself: the one that is addressed, and in a synchronized window all of them. -/
def reached (server : Server) (target : PaneCoordinate) : List (Nat × Nat) :=
  match server[target.window.toNat]? with
  | none => []
  | some window =>
    if target.pane.toNat < window.panes.length then
      if window.synchronized then (List.range window.panes.length).map (target.window.toNat, ·)
      else [(target.window.toNat, target.pane.toNat)]
    else []

def typeInto (text : String × Bool) (server : Server) (place : Nat × Nat) : Server :=
  server.modify place.1 fun window =>
    { window with panes := window.panes.modify place.2 (· ++ [text]) }

def effect (server : Server) : Command → Option Server
  | .newSession _ name => if server = [] then some [⟨name, [[]], false, none⟩] else none
  | .newWindow _ name =>
    if server = [] then none else some (server ++ [⟨name, [[]], false, none⟩])
  | .splitRow _ | .splitPane .. => onLast OpenWindow.addPane server
  | .sendKeys target text enter =>
    match reached server target with
    | [] => none
    | places => some (places.foldl (typeInto (text, enter)) server)
  | .setSynchronize _ on => onLast ({ · with synchronized := on }) server
  | .selectLayout _ layout => onLast ({ · with layout := some layout }) server
  | .setGlobalOption .. => some server
  | .selectPane target | .attach target =>
    if hasPane server target.window.toNat target.pane.toNat then some server else none

/-- What a command does to the session with the given name. -/
def step (session : SessionName) (server : Server) (command : Command) : Option Server :=
  if command.session?.all (· = session) then effect server command else none

/-- What commands do one after the other, if each of them finds what it addresses. -/
def replay (session : SessionName) : Server → List Command → Option Server
  | server, [] => some server
  | server, command :: commands =>
    (step session server command).bind fun next => replay session next commands

variable (session : SessionName)

theorem replay_append (server : Server) (first second : List Command) :
    replay session server (first ++ second) =
      (replay session server first).bind fun next => replay session next second := by
  induction first generalizing server with
  | nil => rfl
  | cons command commands inductionHypothesis =>
    simp only [List.cons_append, replay, inductionHypothesis, Option.bind_assoc]

@[simp]
theorem onLast_concat (change : OpenWindow → OpenWindow) (earlier : Server) (window : OpenWindow) :
    onLast change (earlier ++ [window]) = some (earlier ++ [change window]) := by
  simp [onLast]

theorem modify_concat {α : Type} (items : List α) (last : α) (change : α → α) :
    (items ++ [last]).modify items.length change = items ++ [change last] := by
  induction items with
  | nil => rfl
  | cons item items inductionHypothesis => simp [inductionHypothesis]

def sizes (server : Server) : List Nat :=
  server.map (·.panes.length)

@[simp]
theorem sizes_append (first second : Server) :
    sizes (first ++ second) = sizes first ++ sizes second := by
  simp [sizes]

theorem sizes_typeInto (text : String × Bool) (server : Server) (place : Nat × Nat) :
    sizes (typeInto text server place) = sizes server := by
  unfold sizes typeInto
  apply List.ext_getElem?
  intro index
  simp only [List.getElem?_map, List.getElem?_modify]
  split
  · cases server[index]? <;> simp
  · simp

theorem sizes_typed (text : String × Bool) (server : Server) (places : List (Nat × Nat)) :
    sizes (places.foldl (typeInto text) server) = sizes server := by
  induction places generalizing server with
  | nil => rfl
  | cons place places inductionHypothesis =>
    rw [List.foldl_cons, inductionHypothesis, sizes_typeInto]

theorem exists_of_onLast {change : OpenWindow → OpenWindow} {server next : Server}
    (found : onLast change server = some next) :
    ∃ earlier window, server = earlier ++ [window] ∧ next = earlier ++ [change window] := by
  obtain ⟨window, last, rfl⟩ := Option.map_eq_some_iff.mp found
  obtain ⟨earlier, rfl⟩ := List.getLast?_eq_some_iff.mp last
  exact ⟨earlier, window, rfl, by simp⟩

variable {session}

/-- Panes come with a window that is opened, and with a split. -/
theorem step_sizes {server next : Server} {command : Command}
    (found : step session server command = some next) :
    (sizes next).sum + server.length =
      (sizes server).sum + (if command.isSplit then 1 else 0) + next.length := by
  unfold step at found
  split at found
  · cases command with
    | newSession _ name =>
      simp only [effect] at found
      split at found
      · rename_i empty
        cases found
        simp [empty, sizes, Command.isSplit]
      · cases found
    | newWindow _ name =>
      simp only [effect] at found
      split at found
      · cases found
      · cases found
        simp [Command.isSplit, sizes]
        omega
    | splitRow _ | splitPane _ _ =>
      obtain ⟨earlier, window, rfl, rfl⟩ := exists_of_onLast found
      simp [Command.isSplit, sizes, OpenWindow.addPane]
      omega
    | sendKeys target text enter =>
      simp only [effect] at found
      split at found
      · cases found
      · cases found
        have sameSizes := sizes_typed (text, enter) server (reached server target)
        have sameLength := congrArg List.length sameSizes
        simp only [sizes, List.length_map] at sameLength
        simp [Command.isSplit, sameSizes, sameLength]
    | setSynchronize _ on | selectLayout _ layout =>
      obtain ⟨earlier, window, rfl, rfl⟩ := exists_of_onLast found
      simp [Command.isSplit, sizes]
    | setGlobalOption option value =>
      cases found
      simp [Command.isSplit]
    | selectPane target | attach target =>
      simp only [effect] at found
      split at found
      · cases found
        simp [Command.isSplit]
      · cases found
  · cases found

theorem replay_sizes {server final : Server} {commands : List Command}
    (found : replay session server commands = some final) :
    (sizes final).sum + server.length =
      (sizes server).sum + commands.countP Command.isSplit + final.length := by
  induction commands generalizing server with
  | nil =>
    cases found
    simp
  | cons command commands inductionHypothesis =>
    obtain ⟨next, now, later⟩ := Option.bind_eq_some_iff.mp found
    have first := step_sizes now
    have rest := inductionHypothesis later
    rw [List.countP_cons]
    omega

end Tmux

end TmuxPlan
