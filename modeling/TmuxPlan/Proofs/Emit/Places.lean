import TmuxPlan.Proofs.Emit.Fault
import TmuxPlan.Proofs.Emit.Probes

/-!
The panes of a session in the order in which they are compiled, each with what stands before it. The
acts of a session split at every place, and the demands among the acts before a place are those of
the earlier places, one after the other.
-/

set_option autoImplicit false

namespace TmuxPlan

structure Place where
  windowsBefore : List Window
  window : Window
  /-- The panes before it in its window. -/
  panesBefore : List Pane
  pane : Pane
  deriving DecidableEq

namespace Place

def inWindow (windowsBefore : List Window) (window : Window) : List Pane → List Pane → List Place
  | _, [] => []
  | panesBefore, pane :: panes =>
    ⟨windowsBefore, window, panesBefore, pane⟩ ::
      inWindow windowsBefore window (panesBefore ++ [pane]) panes

def inWindows : List Window → List Window → List Place
  | _, [] => []
  | windowsBefore, window :: windows =>
    inWindow windowsBefore window [] window.panes ++
      inWindows (windowsBefore ++ [window]) windows

def windowIndex (place : Place) : Nat :=
  place.windowsBefore.length

section

variable (session : Session) (options : CompileOptions) (place : Place)

/-- How many tmux panes stand before it in its window. -/
def paneIndex : Nat :=
  PanePlan.totalWidth session options place.window place.panesBefore

/-- What is wrong with the pane whatever any destination answers. -/
def fault? : Option Error :=
  PanePlan.fault? session options place.window place.pane (.ofNat place.windowIndex)
    (.ofNat (place.paneIndex session options))

def destination? : Option String :=
  PanePlan.destination? session place.window place.pane

def acts : List Emit.Act :=
  Emit.paneActs session options place.window place.windowIndex (place.paneIndex session options)
    place.pane

/-- All acts of the session before those of the pane. -/
def actsBefore : List Emit.Act :=
  Emit.windowsActs session options 0 place.windowsBefore ++
    .emit none (Emit.opening session place.windowIndex place.window) ::
      Emit.panesActs session options place.window place.windowIndex 0 place.panesBefore

end

theorem inWindow_split {windowsBefore : List Window} {window : Window}
    {panesBefore panes : List Pane}
    {earlier later : List Place} {place : Place}
    (enumerated : inWindow windowsBefore window panesBefore panes = earlier ++ place :: later) :
    ∃ before after, panes = before ++ place.pane :: after ∧
      place = ⟨windowsBefore, window, panesBefore ++ before, place.pane⟩ ∧
      earlier = inWindow windowsBefore window panesBefore before := by
  induction panes generalizing panesBefore earlier with
  | nil => simp [inWindow] at enumerated
  | cons pane panes inductionHypothesis =>
    cases earlier with
    | nil =>
      simp only [inWindow, List.nil_append, List.cons.injEq] at enumerated
      obtain ⟨rfl, -⟩ := enumerated
      exact ⟨[], panes, rfl, by simp, rfl⟩
    | cons first earlier =>
      simp only [inWindow, List.cons_append, List.cons.injEq] at enumerated
      obtain ⟨rfl, rest⟩ := enumerated
      obtain ⟨before, after, rfl, standing, rfl⟩ := inductionHypothesis rest
      refine ⟨pane :: before, after, rfl, ?_, rfl⟩
      simpa using standing

theorem inWindows_split {windowsBefore windows : List Window} {earlier later : List Place}
    {place : Place} (enumerated : inWindows windowsBefore windows = earlier ++ place :: later) :
    ∃ before after panesAfter, windows = before ++ place.window :: after ∧
      place.windowsBefore = windowsBefore ++ before ∧
      place.window.panes = place.panesBefore ++ place.pane :: panesAfter ∧
      earlier = inWindows windowsBefore before ++
        inWindow place.windowsBefore place.window [] place.panesBefore := by
  induction windows generalizing windowsBefore earlier with
  | nil => simp [inWindows] at enumerated
  | cons window windows inductionHypothesis =>
    -- the place stands in a later window, or else in the first one
    rcases append_split enumerated with ⟨middle, rfl, rest⟩ | ⟨rest, enumerated⟩
    · obtain ⟨before, after, panesAfter, rfl, standing, panes, rfl⟩ := inductionHypothesis rest
      refine ⟨window :: before, after, panesAfter, rfl, ?_, panes, ?_⟩
      · simpa using standing
      · simp [inWindows]
    · obtain ⟨before, after, panes, standing, rfl⟩ := inWindow_split enumerated
      obtain ⟨rfl, rfl, rfl⟩ : place.windowsBefore = windowsBefore ∧ place.window = window ∧
          place.panesBefore = before := by
        rw [standing]
        exact ⟨rfl, rfl, rfl⟩
      exact ⟨[], windows, after, rfl, by simp, panes, by simp [inWindows]⟩

end Place

def Session.places (session : Session) : List Place :=
  Place.inWindows [] session.windows

namespace Emit

section

variable (session : Session) (options : CompileOptions)

theorem panesActs_append (window : Window) (windowIndex paneIndex : Nat) (first second : List Pane) :
    panesActs session options window windowIndex paneIndex (first ++ second) =
      panesActs session options window windowIndex paneIndex first ++
        panesActs session options window windowIndex
          (paneIndex + PanePlan.totalWidth session options window first) second := by
  induction first generalizing paneIndex with
  | nil => rfl
  | cons pane panes inductionHypothesis =>
    simp only [List.cons_append, panesActs, inductionHypothesis, List.append_assoc,
      PanePlan.totalWidth_cons, Nat.add_assoc]

theorem windowsActs_append (windowIndex : Nat) (first second : List Window) :
    windowsActs session options windowIndex (first ++ second) =
      windowsActs session options windowIndex first ++
        windowsActs session options (windowIndex + first.length) second := by
  induction first generalizing windowIndex with
  | nil => rfl
  | cons window windows inductionHypothesis =>
    simp only [List.cons_append, windowsActs, inductionHypothesis, List.append_assoc,
      List.length_cons, Nat.add_assoc, Nat.add_comm 1]

theorem panesActs_eq_flatMap (windowsBefore : List Window) (window : Window)
    (panesBefore panes : List Pane) :
    panesActs session options window windowsBefore.length
        (PanePlan.totalWidth session options window panesBefore) panes =
      (Place.inWindow windowsBefore window panesBefore panes).flatMap
        (Place.acts session options) := by
  induction panes generalizing panesBefore with
  | nil => rfl
  | cons pane panes inductionHypothesis =>
    have rest := inductionHypothesis (panesBefore ++ [pane])
    rw [PanePlan.totalWidth_append, PanePlan.totalWidth_cons, PanePlan.totalWidth_nil,
      Nat.add_zero] at rest
    rw [panesActs, rest]
    rfl

/-- What is picked from the acts of a session is picked from those of its panes, as long as it is
nothing that opens or closes a window. -/
theorem filterMap_windowsActs {β : Type} {pick : Act → Option β}
    (framing : ∀ command : Command, (∀ target text enter, command ≠ .sendKeys target text enter) →
      pick (.emit none command) = none)
    (windowsBefore windows : List Window) :
    (windowsActs session options windowsBefore.length windows).filterMap pick =
      (Place.inWindows windowsBefore windows).flatMap fun place =>
        (place.acts session options).filterMap pick := by
  induction windows generalizing windowsBefore with
  | nil => rfl
  | cons window windows inductionHypothesis =>
    have opened : pick (.emit none (opening session windowsBefore.length window)) = none := by
      apply framing
      unfold opening
      split <;> simp
    have closed : ((closing session options window).map (.emit none)).filterMap pick = [] := by
      simp only [List.filterMap_eq_nil_iff, List.mem_map, forall_exists_index, and_imp,
        forall_apply_eq_imp_iff₂]
      intro command listed
      apply framing
      rintro target text enter rfl
      simp [closing] at listed
    have panes := panesActs_eq_flatMap session options windowsBefore window [] window.panes
    have rest := inductionHypothesis (windowsBefore ++ [window])
    rw [List.length_append, List.length_singleton] at rest
    rw [PanePlan.totalWidth_nil] at panes
    rw [windowsActs, List.filterMap_append, rest, windowActs, panes, List.filterMap_append,
      List.filterMap_cons_none opened, closed, List.append_nil, List.filterMap_flatMap,
      Place.inWindows, List.flatMap_append]

theorem filterMap_acts {β : Type} {pick : Act → Option β}
    (framing : ∀ command : Command, (∀ target text enter, command ≠ .sendKeys target text enter) →
      pick (.emit none command) = none) :
    (acts session options).filterMap pick =
      session.places.flatMap fun place => (place.acts session options).filterMap pick := by
  have finished : ((finish session).map (.emit none)).filterMap pick = [] := by
    simp [finish, framing]
  rw [acts, List.filterMap_append, finished, List.append_nil]
  exact filterMap_windowsActs session options framing [] session.windows

theorem demands_panesActs (windowsBefore : List Window) (window : Window)
    (panesBefore panes : List Pane) :
    demands (panesActs session options window windowsBefore.length
        (PanePlan.totalWidth session options window panesBefore) panes) =
      (Place.inWindow windowsBefore window panesBefore panes).flatMap fun place =>
        demands (place.acts session options) := by
  rw [panesActs_eq_flatMap, demands, List.filter_flatMap]
  rfl

theorem demands_windowsActs (windowsBefore windows : List Window) :
    demands (windowsActs session options windowsBefore.length windows) =
      (Place.inWindows windowsBefore windows).flatMap fun place =>
        demands (place.acts session options) := by
  simp only [demands, ← List.filterMap_eq_filter]
  exact filterMap_windowsActs session options (fun _ _ => rfl) windowsBefore windows

theorem demands_acts :
    demands (acts session options) =
      session.places.flatMap fun place => demands (place.acts session options) := by
  simp only [demands, ← List.filterMap_eq_filter]
  exact filterMap_acts session options fun _ _ => rfl

variable {session} {earlier later : List Place} {place : Place}

/-- The acts of a session split at every place, and before the place stand the demands of the
earlier places. -/
theorem acts_split (enumerated : session.places = earlier ++ place :: later) :
    (∃ rest, acts session options =
      place.actsBefore session options ++ (place.acts session options ++ rest)) ∧
    demands (place.actsBefore session options) =
      earlier.flatMap fun place => demands (place.acts session options) := by
  obtain ⟨before, after, panesAfter, windows, standing, panes, rfl⟩ :=
    Place.inWindows_split enumerated
  rw [List.nil_append] at standing
  subst standing
  constructor
  · refine ⟨panesActs session options place.window place.windowIndex
        (place.paneIndex session options + PanePlan.width session options place.window place.pane)
        panesAfter ++ (closing session options place.window).map (.emit none) ++
      windowsActs session options (place.windowIndex + 1) after ++
      (finish session).map (.emit none), ?_⟩
    simp only [acts, windows, windowsActs_append, windowsActs, windowActs, panes, panesActs_append,
      panesActs, Place.actsBefore, Place.acts, Place.windowIndex, Place.paneIndex, Nat.zero_add,
      List.append_assoc, List.cons_append]
  · have inWindows := demands_windowsActs session options [] place.windowsBefore
    have inWindow := demands_panesActs session options place.windowsBefore place.window []
      place.panesBefore
    rw [List.flatMap_append, ← inWindows, ← inWindow, Place.actsBefore, ← List.singleton_append,
      demands_append, demands_append]
    rfl

theorem placeActs_subset (listed : place ∈ session.places) :
    place.acts session options ⊆ acts session options := by
  obtain ⟨earlier, later, enumerated⟩ := List.append_of_mem listed
  obtain ⟨⟨rest, shape⟩, -⟩ := acts_split options enumerated
  rw [shape]
  intro act held
  exact List.mem_append_right _ (List.mem_append_left _ held)

end

end Emit

end TmuxPlan
