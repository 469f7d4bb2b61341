import TmuxPlan.Proofs.Description.Fields
import TmuxPlan.Proofs.Description.Respelling

/-!
Descriptions written as values: a text for a bare name or command, a list for a list, and for
everything that is given by fields a mapping of the fields that are set, in any order, under any of
their names and among other keys. Reading is the inverse: of the shapes that are tried in turn none
takes the written form of a later one.
-/

set_option autoImplicit false

namespace TmuxPlan.Description

open Document (Value Field)
open Document.Field (Holds Unambiguous)

inductive EntrySpec.Written : EntrySpec → Value → Prop where
  | bare (command : String) : Written (.bare command) (.text command)
  | structured (fields : EntryFields) {entries : List (Value × Value)} :
      Field.Writes EntryFields.fields
        [("shell", fields.shell.map .text), ("cmds", fields.cmds.map .text),
          ("split", fields.split.map .text)] entries →
      Written (.structured fields) (.map entries)

inductive ShellSpec.Written : ShellSpec → Value → Prop where
  | single (command : String) : Written (.single command) (.text command)
  | multiple {entries : List EntrySpec} {items : List Value} :
      List.Forall₂ EntrySpec.Written entries items → Written (.multiple entries) (.list items)

inductive SshSpec.Written : SshSpec → Value → Prop where
  | server (name : String) : Written (.server name) (.text name)
  | list (items : List Value) : Written (.list items.length) (.list items)
  | options (fragment : Ssh.Fragment) {entries : List (Value × Value)} :
      Field.Writes SshSpec.fields
        [("server", fragment.server.map .text), ("user", fragment.user.map .text),
          ("login_only", fragment.loginOnly.map .bool)] entries →
      Written (.options fragment) (.map entries)

inductive PaneSpec.Written : PaneSpec → Value → Prop where
  | bare (command : String) : Written (.bare command) (.text command)
  | list {entries : List EntrySpec} {items : List Value} :
      List.Forall₂ EntrySpec.Written entries items → Written (.list entries) (.list items)
  | structured (fields : PaneFields) {shell cmds ssh : Option Value}
      {entries : List (Value × Value)} :
      Option.Rel ShellSpec.Written fields.shell shell →
      Option.Rel ShellSpec.Written fields.cmds cmds →
      Option.Rel SshSpec.Written fields.ssh ssh →
      Field.Writes PaneFields.fields
        [("shell", shell), ("cmds", cmds), ("dir", fields.dir.map .text), ("ssh", ssh)] entries →
      Written (.structured fields) (.map entries)

inductive PanesSpec.Written : PanesSpec → Value → Prop where
  | list {panes : List PaneSpec} {items : List Value} :
      List.Forall₂ PaneSpec.Written panes items → Written (.list panes) (.list items)

/-- A layout is written by its name or another spelling of it. -/
inductive Layout.Written : Layout → Value → Prop where
  | text {layout : Layout} {text : String} :
      text ∈ layout.spellings → Written layout (.text text)

inductive WindowSpec.Written : WindowSpec → Value → Prop where
  | named (name : String) : Written (.named name) (.text name)
  | list (items : List Value) : Written (.list items.length) (.list items)
  | structured (fields : WindowFields) {panes sections shell cmds ssh layout : Option Value}
      {entries : List (Value × Value)} :
      Option.Rel PanesSpec.Written fields.panes panes →
      Option.Rel PanesSpec.Written fields.sections sections →
      Option.Rel ShellSpec.Written fields.shell shell →
      Option.Rel ShellSpec.Written fields.cmds cmds →
      Option.Rel SshSpec.Written fields.ssh ssh →
      Option.Rel Layout.Written fields.layout layout →
      Field.Writes WindowFields.fields
        [("name", fields.name.map .text), ("panes", panes), ("sections", sections),
          ("shell", shell), ("cmds", cmds), ("dir", fields.dir.map .text), ("ssh", ssh),
          ("layout", layout), ("synchronize", fields.synchronize.map .bool)] entries →
      Written (.structured fields) (.map entries)

inductive WindowsWritten : List WindowSpec → Value → Prop where
  | list {windows : List WindowSpec} {items : List Value} :
      List.Forall₂ WindowSpec.Written windows items → WindowsWritten windows (.list items)

inductive SessionSpec.Written : SessionSpec → Value → Prop where
  | intro (spec : SessionSpec) {windows panes sections shell cmds ssh layout : Option Value}
      {entries : List (Value × Value)} :
      Option.Rel WindowsWritten spec.windows windows →
      Option.Rel PanesSpec.Written spec.panes panes →
      Option.Rel PanesSpec.Written spec.sections sections →
      Option.Rel ShellSpec.Written spec.shell shell →
      Option.Rel ShellSpec.Written spec.cmds cmds →
      Option.Rel SshSpec.Written spec.ssh ssh →
      Option.Rel Layout.Written spec.layout layout →
      Field.Writes SessionSpec.fields
        [("name", spec.name.map .text), ("windows", windows), ("panes", panes),
          ("sections", sections), ("shell", shell), ("cmds", cmds), ("dir", spec.dir.map .text),
          ("ssh", ssh), ("layout", layout), ("synchronize", spec.synchronize.map .bool),
          ("focus", spec.focus.map .text), ("interactive", spec.interactive.map .bool)] entries →
      Written spec (.map entries)

/-! ### What is written is read back -/

theorem mapM_eq_some_iff {α β : Type} {read : β → Option α} {xs : List α} {ys : List β} :
    ys.mapM read = some xs ↔ List.Forall₂ (fun x y => read y = some x) xs ys := by
  induction ys generalizing xs with
  | nil => simp
  | cons y ys inductionHypothesis =>
    simp only [List.mapM_cons, Option.bind_eq_bind, Option.bind_eq_some_iff, inductionHypothesis,
      List.forall₂_cons_right_iff]
    constructor
    · rintro ⟨x, first, xs, later, ⟨⟩⟩
      exact ⟨x, xs, first, later, rfl⟩
    · rintro ⟨x, xs, first, later, rfl⟩
      exact ⟨x, first, xs, later, rfl⟩

theorem map_eq_of_forall₂ {α β : Type} {read : β → α} {xs : List α} {ys : List β}
    (each : List.Forall₂ (fun x y => read y = x) xs ys) : ys.map read = xs := by
  rw [← List.forall₂_eq_eq_eq, List.forall₂_map_left_iff]
  exact each.flip

theorem EntryFields.unambiguous : Unambiguous EntryFields.fields := by
  decide

theorem SshSpec.unambiguous : Unambiguous SshSpec.fields := by
  decide

theorem PaneFields.unambiguous : Unambiguous PaneFields.fields := by
  decide

theorem WindowFields.unambiguous : Unambiguous WindowFields.fields := by
  decide

theorem SessionSpec.unambiguous : Unambiguous SessionSpec.fields := by
  decide

theorem EntrySpec.Written.read {spec : EntrySpec} {value : Value} (written : spec.Written value) :
    value ≠ .null ∧ EntrySpec.read? value = some spec := by
  refine ⟨?_, ?_⟩
  · cases written <;> exact Value.noConfusion
  · cases written with
    | bare command => rfl
    | @structured fields entries writes =>
      have fieldsRead : EntryFields.read? (.map entries) = some fields := by
        refine (EntryFields.isReader _ _).mpr (writes.heldBy EntryFields.unambiguous rfl ?_)
        exact .cons ⟨rfl, .text _⟩ (.cons ⟨rfl, .text _⟩ (.cons ⟨rfl, .text _⟩ .nil))
      rw [EntrySpec.read?, fieldsRead, Option.map_some]
      exact fun _ => Value.noConfusion

theorem ShellSpec.Written.read {spec : ShellSpec} {value : Value} (written : spec.Written value) :
    value ≠ .null ∧ ShellSpec.read? value = some spec := by
  cases written with
  | single command => exact ⟨Value.noConfusion, rfl⟩
  | multiple entries =>
    have each := entries.imp fun _ _ written => EntrySpec.Written.read written |>.2
    refine ⟨Value.noConfusion, ?_⟩
    rw [ShellSpec.read?, mapM_eq_some_iff.mpr each, Option.map_some]

theorem SshSpec.Written.read {spec : SshSpec} {value : Value} (written : spec.Written value) :
    value ≠ .null ∧ SshSpec.read? value = some spec := by
  cases written with
  | server name => exact ⟨Value.noConfusion, rfl⟩
  | list items => exact ⟨Value.noConfusion, rfl⟩
  | @options fragment entries writes =>
    have optionsRead : SshSpec.readOptions? (.map entries) = some fragment := by
      refine (SshSpec.isReader _ _).mpr (writes.heldBy SshSpec.unambiguous rfl ?_)
      exact .cons ⟨rfl, .text _⟩ (.cons ⟨rfl, .text _⟩ (.cons ⟨rfl, .flag _⟩ .nil))
    refine ⟨Value.noConfusion, ?_⟩
    rw [SshSpec.read?, optionsRead, Option.map_some]
    all_goals exact fun _ => Value.noConfusion

theorem PaneSpec.Written.read {spec : PaneSpec} {value : Value} (written : spec.Written value) :
    PaneSpec.ofValue value = spec := by
  cases written with
  | bare command => rfl
  | list entries =>
    have each := entries.imp fun _ _ written => EntrySpec.Written.read written |>.2
    rw [PaneSpec.ofValue, mapM_eq_some_iff.mpr each]
  | @structured fields shell cmds ssh entries shellWritten cmdsWritten sshWritten writes =>
    have fieldsRead : PaneFields.read? (.map entries) = some fields := by
      refine (PaneFields.isReader _ _).mpr (writes.heldBy PaneFields.unambiguous rfl ?_)
      simp only [PaneFields.columns, List.forall₂_cons]
      exact ⟨⟨rfl, .ofRel ShellSpec.Written.read shellWritten⟩,
        ⟨rfl, .ofRel ShellSpec.Written.read cmdsWritten⟩, ⟨rfl, .text _⟩,
        ⟨rfl, .ofRel SshSpec.Written.read sshWritten⟩, .nil⟩
    simp only [PaneSpec.ofValue, PaneSpec.structuredOrOther, fieldsRead]

theorem PanesSpec.Written.read {spec : PanesSpec} {value : Value} (written : spec.Written value) :
    value ≠ .null ∧ (some ∘ PanesSpec.ofValue) value = some spec := by
  cases written with
  | list panes =>
    have each := panes.imp fun _ _ => PaneSpec.Written.read
    exact ⟨Value.noConfusion, congrArg (some ∘ PanesSpec.list) (map_eq_of_forall₂ each)⟩

theorem Layout.Written.read {layout : Layout} {value : Value}
    (written : Layout.Written layout value) :
    value ≠ .null ∧ Layout.read? value = some layout := by
  cases written with
  | text spelled => exact ⟨Value.noConfusion, Layout.ofText?_of_mem_spellings layout _ spelled⟩

theorem Layout.Written.readLayout {layout : Layout} {value : Value}
    (written : Layout.Written layout value) :
    value ≠ .null ∧ SessionSpec.readLayout? value = some layout := by
  cases written with
  | text spelled => exact ⟨Value.noConfusion, Layout.ofText?_of_mem_spellings layout _ spelled⟩

theorem WindowSpec.Written.read {spec : WindowSpec} {value : Value} (written : spec.Written value) :
    WindowSpec.ofValue value = spec := by
  cases written with
  | named name => rfl
  | list items => rfl
  | @structured fields panes sections shell cmds ssh layout entries panesWritten sectionsWritten
      shellWritten cmdsWritten sshWritten layoutWritten writes =>
    have fieldsRead : WindowFields.read? (.map entries) = some fields := by
      refine (WindowFields.isReader _ _).mpr (writes.heldBy WindowFields.unambiguous rfl ?_)
      simp only [WindowFields.columns, List.forall₂_cons]
      exact ⟨⟨rfl, .text _⟩, ⟨rfl, .ofRel PanesSpec.Written.read panesWritten⟩,
        ⟨rfl, .ofRel PanesSpec.Written.read sectionsWritten⟩,
        ⟨rfl, .ofRel ShellSpec.Written.read shellWritten⟩,
        ⟨rfl, .ofRel ShellSpec.Written.read cmdsWritten⟩, ⟨rfl, .text _⟩,
        ⟨rfl, .ofRel SshSpec.Written.read sshWritten⟩,
        ⟨rfl, .ofRel Layout.Written.read layoutWritten⟩, ⟨rfl, .flag _⟩, .nil⟩
    simp only [WindowSpec.ofValue, fieldsRead]

theorem WindowsWritten.read {windows : List WindowSpec} {value : Value}
    (written : WindowsWritten windows value) :
    value ≠ .null ∧ WindowSpec.readAll? value = some windows := by
  cases written with
  | list each =>
    have each := each.imp fun _ _ => WindowSpec.Written.read
    exact ⟨Value.noConfusion, congrArg some (map_eq_of_forall₂ each)⟩

theorem SessionSpec.Written.read {spec : SessionSpec} {value : Value}
    (written : spec.Written value) :
    SessionSpec.read? value = some spec := by
  cases written with
  | @intro windows panes sections shell cmds ssh layout entries windowsWritten panesWritten
      sectionsWritten shellWritten cmdsWritten sshWritten layoutWritten writes =>
    refine (SessionSpec.isReader _ _).mpr (writes.heldBy SessionSpec.unambiguous rfl ?_)
    simp only [SessionSpec.columns, List.forall₂_cons]
    exact ⟨⟨rfl, .text _⟩, ⟨rfl, .ofRel WindowsWritten.read windowsWritten⟩,
      ⟨rfl, .ofRel PanesSpec.Written.read panesWritten⟩,
      ⟨rfl, .ofRel PanesSpec.Written.read sectionsWritten⟩,
      ⟨rfl, .ofRel ShellSpec.Written.read shellWritten⟩,
      ⟨rfl, .ofRel ShellSpec.Written.read cmdsWritten⟩, ⟨rfl, .text _⟩,
      ⟨rfl, .ofRel SshSpec.Written.read sshWritten⟩,
      ⟨rfl, .ofRel Layout.Written.readLayout layoutWritten⟩, ⟨rfl, .flag _⟩, ⟨rfl, .text _⟩,
      ⟨rfl, .flag _⟩, .nil⟩

/-! ### What can be written -/

/-- The part has a shape that no written form reads as. -/
def Part.isOther : Part → Bool
  | .window .other | .panes .other | .pane .other => true
  | _ => false

section

variable {α : Type} {written : α → Value → Prop}

theorem exists_written_option {content : Option α}
    (atValue : ∀ given ∈ content, ∃ value, written given value) :
    ∃ value, Option.Rel written content value := by
  cases content with
  | none => exact ⟨none, .none⟩
  | some given =>
    obtain ⟨value, written⟩ := atValue given rfl
    exact ⟨some value, .some written⟩

theorem exists_written_list {contents : List α}
    (atMember : ∀ content ∈ contents, ∃ value, written content value) :
    ∃ items, List.Forall₂ written contents items := by
  obtain ⟨items, each⟩ := @exists_forall₂ _ _ (flip written) _ atMember
  exact ⟨items, each.flip⟩

end

theorem EntrySpec.exists_written (spec : EntrySpec) : ∃ value, spec.Written value := by
  cases spec with
  | bare command => exact ⟨_, .bare command⟩
  | structured fields =>
    exact Field.exists_writes EntryFields.fields (.structured fields) rfl

theorem ShellSpec.exists_written (spec : ShellSpec) : ∃ value, spec.Written value := by
  cases spec with
  | single command => exact ⟨_, .single command⟩
  | multiple entries =>
    obtain ⟨items, each⟩ := exists_written_list fun entry (_ : entry ∈ entries) =>
      entry.exists_written
    exact ⟨_, .multiple each⟩

theorem SshSpec.exists_written (spec : SshSpec) : ∃ value, spec.Written value := by
  cases spec with
  | server name => exact ⟨_, .server name⟩
  | list length =>
    have written := SshSpec.Written.list (List.replicate length .null)
    rw [List.length_replicate] at written
    exact ⟨_, written⟩
  | options fragment =>
    exact Field.exists_writes SshSpec.fields (.options fragment) rfl

theorem Layout.exists_written (layout : Layout) : ∃ value, Layout.Written layout value :=
  ⟨_, .text (List.mem_cons_self ..)⟩

theorem PaneSpec.exists_written (spec : PaneSpec)
    (described : ∀ part ∈ spec.parts, ¬ part.isOther) : ∃ value, spec.Written value := by
  cases spec with
  | bare command => exact ⟨_, .bare command⟩
  | list entries =>
    obtain ⟨items, each⟩ := exists_written_list fun entry (_ : entry ∈ entries) =>
      entry.exists_written
    exact ⟨_, .list each⟩
  | structured fields =>
    obtain ⟨shell, shellWritten⟩ := exists_written_option fun given (_ : given ∈ fields.shell) =>
      given.exists_written
    obtain ⟨cmds, cmdsWritten⟩ := exists_written_option fun given (_ : given ∈ fields.cmds) =>
      given.exists_written
    obtain ⟨ssh, sshWritten⟩ := exists_written_option fun given (_ : given ∈ fields.ssh) =>
      given.exists_written
    exact Field.exists_writes PaneFields.fields
      (.structured fields shellWritten cmdsWritten sshWritten) rfl
  | other => exact absurd rfl (described _ (List.mem_singleton_self _))

theorem PanesSpec.exists_written (spec : PanesSpec)
    (described : ∀ part ∈ spec.parts, ¬ part.isOther) : ∃ value, spec.Written value := by
  cases spec with
  | list panes =>
    rw [parts, List.forall_mem_cons, List.forall_mem_flatMap] at described
    obtain ⟨items, each⟩ := exists_written_list fun pane listed =>
      PaneSpec.exists_written pane (described.2 pane listed)
    exact ⟨_, .list each⟩
  | other => exact absurd rfl (described _ (List.mem_singleton_self _))

theorem WindowSpec.exists_written (spec : WindowSpec)
    (described : ∀ part ∈ spec.parts, ¬ part.isOther) : ∃ value, spec.Written value := by
  cases spec with
  | named name => exact ⟨_, .named name⟩
  | list length =>
    have written := WindowSpec.Written.list (List.replicate length .null)
    rw [List.length_replicate] at written
    exact ⟨_, written⟩
  | structured fields =>
    simp only [parts, List.forall_mem_cons, List.forall_mem_append, forall_keyParts] at described
    obtain ⟨-, -, ⟨panesDescribed, sectionsDescribed⟩, -⟩ := described
    obtain ⟨panes, panesWritten⟩ := exists_written_option fun given present =>
      PanesSpec.exists_written given (panesDescribed given present)
    obtain ⟨sections, sectionsWritten⟩ := exists_written_option fun given present =>
      PanesSpec.exists_written given (sectionsDescribed given present)
    obtain ⟨shell, shellWritten⟩ := exists_written_option fun given (_ : given ∈ fields.shell) =>
      given.exists_written
    obtain ⟨cmds, cmdsWritten⟩ := exists_written_option fun given (_ : given ∈ fields.cmds) =>
      given.exists_written
    obtain ⟨ssh, sshWritten⟩ := exists_written_option fun given (_ : given ∈ fields.ssh) =>
      given.exists_written
    obtain ⟨layout, layoutWritten⟩ := exists_written_option fun given (_ : given ∈ fields.layout) =>
      Layout.exists_written given
    exact Field.exists_writes WindowFields.fields
      (.structured fields panesWritten sectionsWritten shellWritten cmdsWritten sshWritten
        layoutWritten) rfl
  | other => exact absurd rfl (described _ (List.mem_singleton_self _))

theorem exists_windowsWritten {windows : List WindowSpec}
    (described : ∀ part ∈ windows.flatMap WindowSpec.parts, ¬ part.isOther) :
    ∃ value, WindowsWritten windows value := by
  rw [List.forall_mem_flatMap] at described
  obtain ⟨items, each⟩ := exists_written_list fun window listed =>
    WindowSpec.exists_written window (described window listed)
  exact ⟨_, .list each⟩

theorem SessionSpec.exists_written (spec : SessionSpec)
    (described : ∀ part ∈ spec.parts, ¬ part.isOther) : ∃ value, spec.Written value := by
  simp only [parts, List.forall_mem_cons, List.forall_mem_append, forall_keyParts,
    forall_partsOf] at described
  obtain ⟨-, -, ⟨panesDescribed, sectionsDescribed⟩, -, windowsDescribed⟩ := described
  obtain ⟨windows, windowsWritten⟩ := exists_written_option fun given present =>
    exists_windowsWritten (windowsDescribed given present)
  obtain ⟨panes, panesWritten⟩ := exists_written_option fun given present =>
    PanesSpec.exists_written given (panesDescribed given present)
  obtain ⟨sections, sectionsWritten⟩ := exists_written_option fun given present =>
    PanesSpec.exists_written given (sectionsDescribed given present)
  obtain ⟨shell, shellWritten⟩ := exists_written_option fun given (_ : given ∈ spec.shell) =>
    given.exists_written
  obtain ⟨cmds, cmdsWritten⟩ := exists_written_option fun given (_ : given ∈ spec.cmds) =>
    given.exists_written
  obtain ⟨ssh, sshWritten⟩ := exists_written_option fun given (_ : given ∈ spec.ssh) =>
    given.exists_written
  obtain ⟨layout, layoutWritten⟩ := exists_written_option fun given (_ : given ∈ spec.layout) =>
    Layout.exists_written given
  exact Field.exists_writes SessionSpec.fields
    (.intro spec windowsWritten panesWritten sectionsWritten shellWritten cmdsWritten sshWritten
      layoutWritten) rfl

/-- A description without unreadable panes or windows can be written, and however it is written, it
is read back. -/
theorem SessionSpec.written_reads_back (spec : SessionSpec)
    (described : ∀ part ∈ spec.parts, ¬ part.isOther) :
    (∃ value, spec.Written value) ∧
      ∀ value, spec.Written value → SessionSpec.read? value = some spec :=
  ⟨spec.exists_written described, fun _ => SessionSpec.Written.read⟩

/-- A pane of older spelling with options of its own. -/
def topPane : PaneSpec :=
  .structured {
    cmds := some (.multiple [.structured { shell := some "top", split := some "h" }])
    ssh := some (.options { server := some "web01", loginOnly := some true }) }

/-- Its fields stand in another order, go by other names, and stand among others. -/
def topPaneValue : Value :=
  .map [
    (.text "ssh", .map [(.text "loginOnly", .bool true), (.text "server", .text "web01")]),
    (.text "note", .number),
    (.text "cmds", .list [
      .map [(.text "splitDirection", .text "h"), (.text "command", .text "top")]])]

theorem topPane_written : topPane.Written topPaneValue := by
  have entry : EntrySpec.Written (.structured { shell := some "top", split := some "h" })
      (.map [(.text "splitDirection", .text "h"), (.text "command", .text "top")]) := by
    refine .structured _ ⟨_, .swap .., ?_⟩
    exact .field _ (.tail _ (.tail _ (.head _))) (.tail _ (.tail _ (.head _)))
      (.field _ (.head _) (.tail _ (.head _)) .nothing)
  have ssh : SshSpec.Written (.options { server := some "web01", loginOnly := some true })
      (.map [(.text "loginOnly", .bool true), (.text "server", .text "web01")]) := by
    refine .options _ ⟨_, .swap .., ?_⟩
    exact .field _ (.tail _ (.tail _ (.head _))) (.tail _ (.head _))
      (.field _ (.head _) (.head _) .nothing)
  refine .structured _ .none (.some (.multiple (.cons entry .nil))) (.some ssh) ⟨_, .swap .., ?_⟩
  refine .field _ (.tail _ (.tail _ (.tail _ (.head _)))) (.head _) (.other _ (by decide) ?_)
  exact .field _ (.tail _ (.head _)) (.head _) .nothing

def topSpec : SessionSpec where
  panes := some (.list [.list [], topPane])
  windows := some [.named "logs"]

def topValue : Value :=
  .map [(.text "panes", .list [.list [], topPaneValue]), (.text "windows", .list [.text "logs"])]

theorem topSpec_reads_back :
    (∀ part ∈ topSpec.parts, ¬ part.isOther) ∧ topSpec.Written topValue ∧
      SessionSpec.read? topValue = some topSpec := by
  have described : ∀ part ∈ topSpec.parts, ¬ part.isOther := by decide
  have written : topSpec.Written topValue := by
    have panes := PanesSpec.Written.list (.cons (.list .nil) (.cons topPane_written .nil))
    have windows := WindowsWritten.list (.cons (.named "logs") .nil)
    refine .intro _ (.some windows) (.some panes) .none .none .none .none .none
      ⟨_, .swap .., ?_⟩
    exact .field _ (.tail _ (.tail _ (.head _))) (.head _)
      (.field _ (.tail _ (.head _)) (.head _) .nothing)
  exact ⟨described, written, (topSpec.written_reads_back described).2 _ written⟩

end TmuxPlan.Description
