import TmuxPlan.Proofs.Emit.Planning
import TmuxPlan.Proofs.Ssh.Levels

/-!
What is wrong with a pane that has no plan, said level by level. The faults are looked for in a fixed
order: ssh without a server, nothing to run, and a split that is not spelled as one.
-/

set_option autoImplicit false

namespace TmuxPlan

def Error.isUnreachable : Error → Bool
  | .unreachable _ => true
  | _ => false

/-- The value of the first level that sets one. -/
def innermost {α : Type} (levels : List (Option α)) : Option α :=
  levels.findSome? id

def errorOf {α : Type} : Except Error α → Option Error
  | .ok _ => none
  | .error cause => some cause

@[simp]
theorem errorOf_ok {α : Type} (value : α) : errorOf (.ok value) = none := rfl

@[simp]
theorem errorOf_error {α : Type} (cause : Error) :
    errorOf (.error cause : Except Error α) = some cause := rfl

@[simp]
theorem errorOf_map {α β : Type} (f : α → β) (result : Except Error α) :
    errorOf (result.map f) = errorOf result := by
  cases result <;> rfl

def SplitDirection.spellings : List String :=
  ["horizontal", "h", "-h", "vertical", "v", "-v"]

/-- The split of an entry without the blanks around it, if that is no spelling of a direction. -/
def CommandEntry.badSplit? (entry : CommandEntry) : Option String :=
  (entry.split.map Text.trim).filter (!SplitDirection.spellings.contains ·)

theorem CommandEntry.errorOf_direction (entry : CommandEntry) :
    errorOf entry.direction = entry.badSplit?.map .invalidSplit := by
  unfold direction badSplit?
  cases entry.split with
  | none => rfl
  | some split =>
    have spelled : SplitDirection.spellings.contains (Text.trim split) =
        (["horizontal", "h", "-h"].contains (Text.trim split) ||
          ["vertical", "v", "-v"].contains (Text.trim split)) := by
      rw [← List.contains_append]
      rfl
    simp only [SplitDirection.ofText?, SplitDirection.ofText, Option.map_some, Option.filter_some,
      spelled]
    cases ["horizontal", "h", "-h"].contains (Text.trim split) <;>
      cases ["vertical", "v", "-v"].contains (Text.trim split) <;> rfl

namespace PanePlan

theorem errorOf_directed (entries : List CommandEntry) :
    errorOf (directed entries) = (entries.findSome? CommandEntry.badSplit?).map .invalidSplit := by
  induction entries with
  | nil => rfl
  | cons entry entries inductionHypothesis =>
    rw [directed_cons, findSome?_cons_or]
    have atEntry := entry.errorOf_direction
    cases found : entry.direction with
    | error cause =>
      rw [found] at atEntry
      cases bad : entry.badSplit? with
      | none => simp [bad] at atEntry
      | some split => simpa [bad] using atEntry
    | ok direction =>
      rw [found] at atEntry
      cases bad : entry.badSplit? with
      | none => simpa using inductionHypothesis
      | some split => simp [bad] at atEntry

variable (session : Session) (options : CompileOptions) (window : Window) (pane : Pane)

/-- The shell of the innermost level that sets one, where the command line's counts as one between
the pane and the window. -/
def chosenShell : List CommandEntry :=
  (innermost [pane.shell, options.shell.map fun command => [⟨command, none⟩], window.shell,
    session.shell]).getD []

/-- The directory of the innermost level that sets one, unless it is blank. -/
def chosenDir : Option String :=
  (innermost [pane.dir, options.dir, window.dir, session.dir]).filter (!Text.isBlankText ·)

def sshLevels : List Ssh.Fragment :=
  Ssh.mentions session.ssh window.ssh pane.ssh

/-- The server of the innermost level that sets one, unless it is blank. -/
def chosenServer : Option String :=
  ((sshLevels session window pane).findSome? (·.server)).filter (!Text.isBlankText ·)

def destination? : Option String :=
  (chosenServer session window pane).map fun server =>
    match ((sshLevels session window pane).findSome? (·.user)).filter (!Text.isBlankText ·) with
    | some user => user ++ "@" ++ server
    | none => server

/-- What is wrong with a pane that would get the given numbers. -/
def fault? (windowIndex paneIndex : UInt32) : Option Error :=
  if sshLevels session window pane ≠ [] ∧ chosenServer session window pane = none then
    some (.serverMissing ((sshLevels session window pane).findSome? (·.user)))
  else if chosenShell session options window pane = [] ∧ sshLevels session window pane = [] ∧
      chosenDir session options window pane = none then
    some (.malformed (.idlePane session.name.text windowIndex paneIndex window.name))
  else
    ((chosenShell session options window pane).findSome? CommandEntry.badSplit?).map .invalidSplit

theorem entriesOf_eq :
    entriesOf session options window pane = chosenShell session options window pane := by
  simp [entriesOf, chosenShell, innermost, findSome?_cons_or]

theorem dirOf_eq : dirOf session options window pane = chosenDir session options window pane := by
  simp [dirOf, chosenDir, innermost, findSome?_cons_or]

/-- The empty entry of a pane without a shell splits nothing. -/
theorem resolvedEntries_badSplit :
    (resolvedEntries session options window pane).findSome? CommandEntry.badSplit? =
      (chosenShell session options window pane).findSome? CommandEntry.badSplit? := by
  unfold resolvedEntries
  rw [← entriesOf_eq]
  split
  · rename_i empty
    rw [empty]
    rfl
  · rfl

/-- A pane is planned unless something is wrong with it, and the error says what. -/
theorem errorOf_ofPane (windowIndex paneIndex : UInt32) :
    errorOf (ofPane session options window pane windowIndex paneIndex) =
      fault? session options window pane windowIndex paneIndex := by
  have splits : errorOf (directed (resolvedEntries session options window pane)) =
      ((chosenShell session options window pane).findSome? CommandEntry.badSplit?).map
        .invalidSplit := by
    rw [errorOf_directed, resolvedEntries_badSplit]
  rw [ofPane_eq, Ssh.merge_eq, fault?, entriesOf_eq, dirOf_eq]
  by_cases silent : sshLevels session window pane = []
  · have noSsh : Ssh.mentions session.ssh window.ssh pane.ssh = [] := silent
    simp only [noSsh, silent, if_true, ne_eq, not_true_eq_false, false_and, if_false, true_and]
    split
    · rfl
    · rw [errorOf_map, splits]
  · have someSsh : Ssh.mentions session.ssh window.ssh pane.ssh ≠ [] := silent
    simp only [someSsh, silent, if_false, ne_eq, not_false_eq_true, true_and, false_and, and_false]
    unfold chosenServer sshLevels
    cases ((Ssh.mentions session.ssh window.ssh pane.ssh).findSome? (·.server)).filter
        (!Text.isBlankText ·) with
    | none => rfl
    | some server =>
      simp only [reduceCtorEq, false_and, and_false, if_false]
      rw [errorOf_map, splits]

section

variable {session options window pane} {plan : PanePlan}

theorem isUnreachable_fault? {windowIndex paneIndex : UInt32} {cause : Error}
    (faulty : fault? session options window pane windowIndex paneIndex = some cause) :
    cause.isUnreachable = false := by
  unfold fault? at faulty
  split at faulty
  · cases faulty
    rfl
  · split at faulty
    · cases faulty
      rfl
    · obtain ⟨split, -, rfl⟩ := Option.map_eq_some_iff.mp faulty
      rfl

theorem plan?_destination (planned : plan? session options window pane = some plan) :
    plan.ssh.map Ssh.Options.destination = destination? session window pane := by
  have merged := (plan?_parts planned).1
  rw [Ssh.merge_eq] at merged
  unfold destination? chosenServer sshLevels
  split at merged
  · rename_i silent
    rw [← Except.ok.inj merged, silent]
    rfl
  · split at merged
    · cases merged
    · rename_i server named
      rw [← Except.ok.inj merged, named]
      rfl

theorem ofPane_of_fault {windowIndex paneIndex : UInt32} {cause : Error}
    (faulty : fault? session options window pane windowIndex paneIndex = some cause) :
    ofPane session options window pane windowIndex paneIndex = .error cause := by
  rw [← errorOf_ofPane] at faulty
  cases result : ofPane session options window pane windowIndex paneIndex with
  | ok plan => simp [result] at faulty
  | error other => simpa [result] using faulty

theorem plan?_of_faultless {windowIndex paneIndex : UInt32}
    (faultless : fault? session options window pane windowIndex paneIndex = none) :
    ∃ plan, plan? session options window pane = some plan := by
  rw [← errorOf_ofPane] at faultless
  cases result : ofPane session options window pane windowIndex paneIndex with
  | error cause => simp [result] at faultless
  | ok plan => exact ⟨plan, (ofPane_eq_ok_iff _ _ _ _ _ _ _).mp result⟩

end

end PanePlan

end TmuxPlan
