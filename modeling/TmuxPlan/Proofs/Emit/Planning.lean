import TmuxPlan.Emit
import Mathlib.Algebra.GroupWithZero.Nat

/-!
What planning a pane can do. A plan holds the resolved entries of the pane in their order, and the
numbers that a pane would get stand in nothing but the text of its error.
-/

set_option autoImplicit false

namespace TmuxPlan.PanePlan

/-- The entries of a pane with their directions, unless one of them has none. -/
def directed (entries : List CommandEntry) :
    Except Error (List (CommandEntry × SplitDirection)) :=
  entries.mapM fun entry => do return (entry, ← entry.direction)

theorem directed_cons (entry : CommandEntry) (entries : List CommandEntry) :
    directed (entry :: entries) =
      match entry.direction with
      | .error cause => .error cause
      | .ok direction => (directed entries).map ((entry, direction) :: ·) := by
  unfold directed
  rw [List.mapM_cons]
  cases entry.direction with
  | error cause => rfl
  | ok direction =>
    simp only [bind, Except.bind, pure, Except.pure]
    cases List.mapM (m := Except Error) _ entries <;> rfl

theorem directed_fst {entries : List CommandEntry} {result : List (CommandEntry × SplitDirection)}
    (found : directed entries = .ok result) : result.map Prod.fst = entries := by
  induction entries generalizing result with
  | nil =>
    cases found
    rfl
  | cons entry entries inductionHypothesis =>
    rw [directed_cons] at found
    cases atEntry : entry.direction with
    | error cause => simp [atEntry] at found
    | ok direction =>
      cases atRest : directed entries with
      | error cause => simp [atEntry, atRest, Except.map] at found
      | ok rest =>
        simp only [atEntry, atRest, Except.map, Except.ok.injEq] at found
        subst found
        simp [inductionHypothesis atRest]

variable (session : Session) (options : CompileOptions) (window : Window) (pane : Pane)

/-- The entries that a pane runs; one empty entry where no level gives any. -/
def resolvedEntries : List CommandEntry :=
  match entriesOf session options window pane with
  | [] => [⟨"", none⟩]
  | entries => entries

theorem resolvedEntries_ne_nil : resolvedEntries session options window pane ≠ [] := by
  unfold resolvedEntries
  split
  · simp
  · assumption

/-- How many tmux panes a pane takes. -/
def width : Nat :=
  (resolvedEntries session options window pane).length

theorem width_pos : 0 < width session options window pane :=
  List.length_pos_iff.mpr (resolvedEntries_ne_nil session options window pane)

def totalWidth (panes : List Pane) : Nat :=
  (panes.map (width session options window)).sum

@[simp]
theorem totalWidth_nil : totalWidth session options window [] = 0 := rfl

@[simp]
theorem totalWidth_cons (panes : List Pane) :
    totalWidth session options window (pane :: panes) =
      width session options window pane + totalWidth session options window panes := by
  simp [totalWidth]

@[simp]
theorem totalWidth_append (first second : List Pane) :
    totalWidth session options window (first ++ second) =
      totalWidth session options window first + totalWidth session options window second := by
  simp [totalWidth]

theorem ofPane_eq (windowIndex paneIndex : UInt32) :
    ofPane session options window pane windowIndex paneIndex =
      match Ssh.Options.merge session.ssh window.ssh pane.ssh with
      | .error cause => .error cause
      | .ok ssh =>
        if entriesOf session options window pane = [] ∧ ssh = none ∧
            dirOf session options window pane = none then
          .error (.malformed (.idlePane session.name.text windowIndex paneIndex window.name))
        else
          (directed (resolvedEntries session options window pane)).map fun planned =>
            ⟨planned, dirOf session options window pane, ssh⟩ := by
  have directs (entries : List CommandEntry) :
      (entries.mapM fun entry => do return (entry, ← entry.direction)) = directed entries := rfl
  unfold ofPane resolvedEntries
  simp only [directs]
  cases Ssh.Options.merge session.ssh window.ssh pane.ssh with
  | error cause => rfl
  | ok ssh =>
    cases entriesOf session options window pane with
    | cons entry entries =>
      simp only [bind, Except.bind, pure, Except.pure, reduceCtorEq, false_and, if_false]
      cases directed (entry :: entries) <;> rfl
    | nil =>
      simp only [bind, Except.bind, pure, Except.pure]
      cases ssh <;> cases dirOf session options window pane <;> simp
      all_goals cases directed [⟨"", none⟩] <;> rfl

/-- The plan of a pane, if it has one, whichever numbers the pane gets. -/
def plan? : Option PanePlan :=
  (ofPane session options window pane 0 0).toOption

theorem ofPane_eq_ok_iff (windowIndex paneIndex : UInt32) (plan : PanePlan) :
    ofPane session options window pane windowIndex paneIndex = .ok plan ↔
      plan? session options window pane = some plan := by
  unfold plan?
  rw [ofPane_eq, ofPane_eq]
  cases Ssh.Options.merge session.ssh window.ssh pane.ssh with
  | error cause => simp [Except.toOption]
  | ok ssh =>
    simp only
    split
    · simp [Except.toOption]
    · cases directed (resolvedEntries session options window pane) <;>
        simp [Except.map, Except.toOption]

section

variable {session options window pane} {plan : PanePlan}

theorem plan?_parts (planned : plan? session options window pane = some plan) :
    Ssh.Options.merge session.ssh window.ssh pane.ssh = .ok plan.ssh ∧
      dirOf session options window pane = plan.dir ∧
      directed (resolvedEntries session options window pane) = .ok plan.entries := by
  rw [← ofPane_eq_ok_iff session options window pane 0 0, ofPane_eq] at planned
  cases merged : Ssh.Options.merge session.ssh window.ssh pane.ssh with
  | error cause => simp [merged] at planned
  | ok ssh =>
    simp only [merged] at planned
    split at planned
    · simp at planned
    · cases found : directed (resolvedEntries session options window pane) with
      | error cause => simp [found, Except.map] at planned
      | ok entries =>
        simp only [found, Except.map, Except.ok.injEq] at planned
        subst planned
        exact ⟨rfl, rfl, rfl⟩

theorem plan?_entries (planned : plan? session options window pane = some plan) :
    plan.entries.map Prod.fst = resolvedEntries session options window pane :=
  directed_fst (plan?_parts planned).2.2

theorem plan?_length (planned : plan? session options window pane = some plan) :
    plan.entries.length = width session options window pane := by
  rw [width, ← plan?_entries planned, List.length_map]

theorem plan?_entries_ne_nil (planned : plan? session options window pane = some plan) :
    plan.entries ≠ [] := by
  intro empty
  have entries := plan?_entries planned
  rw [empty] at entries
  exact resolvedEntries_ne_nil session options window pane entries.symm

end

end TmuxPlan.PanePlan
