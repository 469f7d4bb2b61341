import TmuxPlan.Normalize
import TmuxPlan.Proofs.Description.Longhand

/-!
Shorthands mean what they are written out to. Every reader gives the same result for both sides of a
rule, errors included, since the index and the owner that an error names are those of the place and
not of the form. So a whole session reads alike after any number of rounds.
-/

set_option autoImplicit false

namespace TmuxPlan.Normalize

open Description

section

variable {α β : Type} {related : α → α → Prop}

theorem mapM_eq_of_forall₂ {read : α → Except Error β} {short long : List α}
    (same : List.Forall₂ related short long)
    (each : ∀ x y, related x y → read y = read x) : long.mapM read = short.mapM read := by
  induction same with
  | nil => rfl
  | cons head _ inductionHypothesis =>
    rw [List.mapM_cons, List.mapM_cons, each _ _ head, inductionHypothesis]

theorem mapM_zipIdx_eq_of_forall₂ {read : Nat → α → Except Error β} {short long : List α}
    (same : List.Forall₂ related short long)
    (each : ∀ index x y, related x y → read index y = read index x) (first : Nat) :
    (long.zipIdx first).mapM (fun (item, index) => read index item) =
      (short.zipIdx first).mapM fun (item, index) => read index item := by
  induction same generalizing first with
  | nil => rfl
  | cons head _ inductionHypothesis =>
    simp only [List.zipIdx_cons, List.mapM_cons, each _ _ _ head, inductionHypothesis]

theorem optional_eq_of_rel {read : α → Except Error β} {short long : Option α}
    (same : Option.Rel related short long)
    (each : ∀ x y, related x y → read y = read x) : optional read long = optional read short := by
  cases same with
  | none => rfl
  | some related => rw [optional, optional, each _ _ related]

end

theorem entry_writtenOut {short long : EntrySpec} (rule : short.WritesOut long) :
    entry long = entry short := by
  cases rule <;> rfl

theorem entries_writtenOut {short long : List EntrySpec} (rule : EntriesWriteOut short long) :
    entries long = entries short := by
  cases rule with
  | empty => rfl
  | members same =>
    cases same with
    | nil => rfl
    | cons head tail =>
      rw [entries, entries]
      · exact mapM_eq_of_forall₂ (.cons head tail) fun _ _ => entry_writtenOut
      · exact List.cons_ne_nil _ _
      · exact List.cons_ne_nil _ _

theorem shell_writtenOut {short long : ShellSpec} (rule : short.WritesOut long) :
    shell long = shell short := by
  cases rule with
  | kept spec => rfl
  | single command => rfl
  | multiple specs => exact entries_writtenOut specs

theorem ssh_writtenOut {short long : SshSpec} (rule : short.WritesOut long) :
    ssh long = ssh short := by
  cases rule <;> rfl

theorem optional_shell_writtenOut {short long : Option ShellSpec}
    (rules : Option.Rel ShellSpec.WritesOut short long) :
    optional shell long = optional shell short :=
  optional_eq_of_rel rules fun _ _ => shell_writtenOut

theorem optional_ssh_writtenOut {short long : Option SshSpec}
    (rules : Option.Rel SshSpec.WritesOut short long) :
    optional ssh long = optional ssh short :=
  optional_eq_of_rel rules fun _ _ => ssh_writtenOut

/-- A pane that is a list is the pane with this list for its shell. -/
theorem pane_list (owner : Owner) (index : Nat) (specs : List EntrySpec) :
    pane owner index (.list specs) =
      pane owner index (.structured { shell := some (.multiple specs) }) := by
  simp only [pane, optional, shell]
  cases entries specs <;> rfl

theorem pane_writtenOut (owner : Owner) (index : Nat) {short long : PaneSpec}
    (rule : short.WritesOut long) : pane owner index long = pane owner index short := by
  cases rule with
  | kept spec => rfl
  | bareAsList command => rfl
  | bareAsShell command => rfl
  | list specs => rw [pane, pane, entries_writtenOut specs]
  | listAsShell specs =>
    rw [← pane_list, pane, pane, entries_writtenOut specs]
  | structured fields shells sshs =>
    simp only [pane, optional_shell_writtenOut shells, optional_ssh_writtenOut sshs]

theorem panes_writtenOut (owner : Owner) {short long : Option PanesSpec}
    (rule : PanesWriteOut short long) : panes owner long = panes owner short := by
  cases rule with
  | kept spec => rfl
  | empty => rfl
  | members same =>
    cases same with
    | nil => rfl
    | cons head tail =>
      simp only [panes]
      rw [mapM_zipIdx_eq_of_forall₂ (.cons head tail) fun index _ _ => pane_writtenOut owner index]

/-- A bare name and a mapping with nothing but this name differ only where the name is empty: there
the mapping counts as nameless. -/
theorem window_named (sessionPanes : Option (List Pane)) (index : Nat) {name : String}
    (nonempty : name ≠ "") :
    window sessionPanes index (.structured { name := some name }) =
      window sessionPanes index (.named name) := by
  simp [window, windowName, optional, panes, Option.filter, nonempty, bind, Except.bind, pure,
    Except.pure]

theorem window_writtenOut (sessionPanes : Option (List Pane)) (index : Nat)
    {short long : WindowSpec} (named : short ≠ .named "") (rule : short.WritesOut long) :
    window sessionPanes index long = window sessionPanes index short := by
  cases rule with
  | kept spec => rfl
  | named name => exact window_named sessionPanes index (by simpa using named)
  | structured fields lists shells sshs =>
    simp only [window, windowName, optional_ssh_writtenOut sshs, optional_shell_writtenOut shells,
      panes_writtenOut _ lists]

theorem windows_writtenOut (sessionPanes : Option (List Pane))
    {short long : Option (List WindowSpec)}
    (named : ∀ spec ∈ short.getD [], spec ≠ .named "") (rule : WindowsWriteOut short long) :
    windows sessionPanes long = windows sessionPanes short := by
  have implicit : windows sessionPanes (some [.structured { name := some "ultimux" }]) =
      windows sessionPanes none := by
    rfl
  cases rule with
  | kept specs => rfl
  | absent => exact implicit
  | empty => exact implicit
  | members same =>
    cases same with
    | nil => rfl
    | cons head tail =>
      have inPlace := (List.forall₂_and_left _ _).mpr ⟨named, List.Forall₂.cons head tail⟩
      exact mapM_zipIdx_eq_of_forall₂ inPlace
        (fun index _ _ rule => window_writtenOut sessionPanes index rule.1 rule.2) 0

/-- One round of writing out changes nothing. -/
theorem normalize_writtenOut {short long : SessionSpec} (upToDate : short.schema = .current)
    (named : short.NamesBareWindows) (rule : short.WritesOut long) (name : String) :
    normalize name long = normalize name short := by
  have sameReading : ∀ name : SessionName, current name long = current name short := by
    intro name
    cases rule with
    | intro windows panes shell ssh =>
      simp only [current, panes_writtenOut _ panes, windows_writtenOut _ named windows,
        optional_shell_writtenOut shell, optional_ssh_writtenOut ssh]
  have noOlderKey : short.isLegacy = false := by
    simpa [SessionSpec.schema] using upToDate
  simp [normalize, rule.isLegacy_eq, noOlderKey, bind, Except.bind, sameReading]

/-- Shorthands are sugar. A description in the current spelling without an empty bare window name is
normalized to the same session, or stopped by the same error, after any of its shorthands have been
written out, in any number of rounds. -/
theorem shorthands_are_sugar {short long : SessionSpec} (upToDate : short.schema = .current)
    (named : short.NamesBareWindows) (rounds : Relation.ReflTransGen SessionSpec.WritesOut short long)
    (name : String) : normalize name long = normalize name short := by
  -- What the rules need of a description holds again after every round.
  have kept : long.schema = .current ∧ long.NamesBareWindows ∧
      normalize name long = normalize name short := by
    induction rounds with
    | refl => exact ⟨upToDate, named, rfl⟩
    | tail _ rule inductionHypothesis =>
      obtain ⟨current, named, same⟩ := inductionHypothesis
      refine ⟨?_, rule.namesBareWindows named, ?_⟩
      · rwa [SessionSpec.schema, rule.isLegacy_eq]
      · rw [normalize_writtenOut current named rule, same]
  exact kept.2.2

/-- A window that is named after its server, with a pane that cannot be read. The window is written
out and its first pane twice, and the error still names the same pane of the same window. -/
theorem shorthands_are_sugar_db :
    ∃ short long : SessionSpec, short.schema = .current ∧ short.NamesBareWindows ∧
      Relation.ReflTransGen SessionSpec.WritesOut short long ∧
      normalize "dev" short = .error (.malformed (.unreadablePane 1 (.window "db"))) ∧
      normalize "dev" long = .error (.malformed (.unreadablePane 1 (.window "db"))) := by
  let spec (first : WindowSpec) (ssh : SshSpec) (pane : PaneSpec) : SessionSpec :=
    { windows := some [first, .structured { ssh, panes := some (.list [pane, .other]) }] }
  let short := spec (.named "logs") (.server "db") (.bare "top")
  let middle := spec (.structured { name := some "logs" }) (.server "db") (.list [.bare "top"])
  let long := spec (.structured { name := some "logs" }) (.options { server := some "db" })
    (.structured { shell := some (.multiple [.structured { shell := some "top" }]) })
  have firstRound : short.WritesOut middle :=
    .intro short
      (.members (.cons (.named "logs") (.cons
        (.structured _ (.members (.cons (.bareAsList "top") (.cons (.kept .other) .nil))) .none
          (.some (.kept _))) .nil)))
      (.kept none) .none .none
  have secondRound : middle.WritesOut long :=
    .intro middle
      (.members (.cons (.kept _) (.cons
        (.structured _ (.members (.cons (.listAsShell (.members (.cons (.bare "top") .nil)))
            (.cons (.kept .other) .nil))) .none (.some (.server "db"))) .nil)))
      (.kept none) .none .none
  have rounds : Relation.ReflTransGen SessionSpec.WritesOut short long :=
    .tail (.single firstRound) secondRound
  have upToDate : short.schema = .current := rfl
  have named : short.NamesBareWindows := by
    simp [SessionSpec.NamesBareWindows, short, spec]
  have stopped : normalize "dev" short =
      .error (.malformed (.unreadablePane 1 (.window "db"))) := by
    rfl
  refine ⟨short, long, upToDate, named, rounds, stopped, ?_⟩
  rw [shorthands_are_sugar upToDate named rounds "dev", stopped]

/-- An empty bare name is kept, but a mapping with an empty name counts as nameless. -/
example : (Normalize.window none 0 (.named "")).map Window.name = .ok "" ∧
    (Normalize.window none 0 (.structured { name := some "" })).map Window.name = .ok "win0" :=
  ⟨rfl, rfl⟩

end TmuxPlan.Normalize
