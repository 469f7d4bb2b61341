import TmuxPlan.Normalize
import TmuxPlan.Proofs.Description.Parts
import Mathlib.Data.List.Forall2

/-!
What the nodes of a canonical session are read from. The relations say of every node of a
description what becomes of it, in either spelling. For a description in the current spelling each
reader is settled by them: it gives a value that stands in the relation if every part can be read,
and a defect of the description otherwise.
-/

set_option autoImplicit false

namespace TmuxPlan.Normalize

open Description

inductive EntryReading : EntrySpec → CommandEntry → Prop where
  | bare (command : String) : EntryReading (.bare command) ⟨command, none⟩
  | structured (fields : EntryFields) {command : String} :
      fields.shell.or fields.cmds = some command →
      EntryReading (.structured fields) ⟨command, fields.split⟩

/-- An empty list is one empty command. -/
inductive ShellReading : ShellSpec → List CommandEntry → Prop where
  | single (command : String) : ShellReading (.single command) [⟨command, none⟩]
  | empty : ShellReading (.multiple []) [⟨"", none⟩]
  | multiple {specs : List EntrySpec} {entries : List CommandEntry} :
      specs ≠ [] → List.Forall₂ EntryReading specs entries →
      ShellReading (.multiple specs) entries

inductive SshReading : SshSpec → Ssh.Fragment → Prop where
  | server (name : String) : SshReading (.server name) { server := some name }
  | options (fragment : Ssh.Fragment) : SshReading (.options fragment) fragment

/-- A bare command or a list of entries is the shell of a pane that sets nothing else. -/
inductive PaneReading : PaneSpec → Pane → Prop where
  | bare (command : String) : PaneReading (.bare command) { shell := some [⟨command, none⟩] }
  | list {specs : List EntrySpec} {entries : List CommandEntry} :
      ShellReading (.multiple specs) entries →
      PaneReading (.list specs) { shell := some entries }
  | structured (fields : PaneFields) {shell : Option (List CommandEntry)}
      {ssh : Option Ssh.Fragment} :
      Option.Rel ShellReading (fields.shell.or fields.cmds) shell →
      Option.Rel SshReading fields.ssh ssh →
      PaneReading (.structured fields) { shell, dir := fields.dir, ssh }

/-- The panes that a node lists. -/
def listedPanes : Option PanesSpec → List PaneSpec
  | some (.list specs) => specs
  | none | some .other => []

/-- The panes of a window: those it lists, else those that the session lists, else one that leaves
everything open. -/
inductive PanesReading : List PaneSpec → List PaneSpec → List Pane → Prop where
  | own {own shared : List PaneSpec} {panes : List Pane} :
      own ≠ [] → List.Forall₂ PaneReading own panes → PanesReading own shared panes
  | shared {shared : List PaneSpec} {panes : List Pane} :
      shared ≠ [] → List.Forall₂ PaneReading shared panes → PanesReading [] shared panes
  | neither : PanesReading [] [] [{}]

inductive WindowReading (shared : List PaneSpec) : WindowSpec → Window → Prop where
  | named (name : String) {panes : List Pane} :
      PanesReading [] shared panes → WindowReading shared (.named name) { name, panes }
  | structured (fields : WindowFields) {name : String} {panes : List Pane}
      {shell : Option (List CommandEntry)} {ssh : Option Ssh.Fragment} :
      (∀ own, fields.name = some own → own ≠ "" → name = own) →
      PanesReading (listedPanes (fields.panes.or fields.sections)) shared panes →
      Option.Rel ShellReading (fields.shell.or fields.cmds) shell →
      Option.Rel SshReading fields.ssh ssh →
      WindowReading shared (.structured fields) {
        name, panes, shell, dir := fields.dir, ssh
        layout := fields.layout, synchronize := fields.synchronize }

/-- Where no windows are listed there is one that shows the panes of the session. -/
inductive WindowsReading (shared : List PaneSpec) : List WindowSpec → List Window → Prop where
  | listed {specs : List WindowSpec} {windows : List Window} :
      specs ≠ [] → List.Forall₂ (WindowReading shared) specs windows →
      WindowsReading shared specs windows
  | implicit {panes : List Pane} :
      PanesReading [] shared panes → WindowsReading shared [] [{ name := "ultimux", panes }]

structure SessionReading (spec : SessionSpec) (session : Session) : Prop where
  windows : WindowsReading (listedPanes (spec.panes.or spec.sections)) (spec.windows.getD [])
    session.windows
  shell : Option.Rel ShellReading (spec.shell.or spec.cmds) session.shell
  dir : session.dir = spec.dir
  ssh : Option.Rel SshReading spec.ssh session.ssh
  layout : session.layout = spec.layout
  synchronize : session.synchronize = spec.synchronize
  interactive : session.interactive = spec.interactive.getD false
  focus : Normalize.focus spec.focus = .ok session.focus

/-! ### Settled results -/

/-- The result is a value that fits if the description can be read, and else one of its defects. -/
def Settles {α : Type} (result : Except Error α) (readable : Prop) (fits : α → Prop) : Prop :=
  match result with
  | .ok value => readable ∧ fits value
  | .error cause => ¬ readable ∧ ∃ defect, cause = .malformed defect

namespace Settles

variable {α β : Type} {readable more : Prop}

theorem imp {result : Except Error α} {fits others : α → Prop}
    (settles : Settles result readable fits) (same : readable ↔ more)
    (weaker : ∀ value, fits value → others value) : Settles result more others := by
  cases result with
  | ok value => exact ⟨same.mp settles.1, weaker value settles.2⟩
  | error cause => exact ⟨fun all => settles.1 (same.mpr all), settles.2⟩

theorem bind {result : Except Error α} {next : α → Except Error β} {fits : α → Prop}
    {goal : β → Prop} (first : Settles result readable fits)
    (later : ∀ value, fits value → Settles (next value) more goal) :
    Settles (result >>= next) (readable ∧ more) goal := by
  cases result with
  | error cause => exact ⟨fun all => first.1 all.1, first.2⟩
  | ok value => exact (later value first.2).imp (by simp [first.1]) fun _ => id

theorem bind_pure {result : Except Error α} {f : α → β} {fits : α → Prop} {goal : β → Prop}
    (first : Settles result readable fits) (fit : ∀ value, fits value → goal (f value)) :
    Settles (result >>= fun value => pure (f value)) readable goal := by
  cases result with
  | error cause => exact first
  | ok value => exact ⟨first.1, fit value first.2⟩

theorem mapM {read : α → Except Error β} {readable : α → Prop} {fits : α → β → Prop}
    {items : List α} (atItem : ∀ item ∈ items, Settles (read item) (readable item) (fits item)) :
    Settles (items.mapM read) (∀ item ∈ items, readable item) (List.Forall₂ fits items) := by
  induction items with
  | nil => exact ⟨by simp, .nil⟩
  | cons item items inductionHypothesis =>
    obtain ⟨first, later⟩ := List.forall_mem_cons.mp atItem
    rw [List.mapM_cons, List.forall_mem_cons]
    exact first.bind fun value fit =>
      (inductionHypothesis later).bind_pure fun values fits => .cons fit fits

/-- Where the number of an item matters to its errors only, it does not matter here. -/
theorem mapM_zipIdx {read : Nat → α → Except Error β} {readable : α → Prop} {fits : α → β → Prop}
    {items : List α}
    (atItem : ∀ item ∈ items, ∀ index, Settles (read index item) (readable item) (fits item)) :
    Settles (items.zipIdx.mapM fun (item, index) => read index item)
      (∀ item ∈ items, readable item) (List.Forall₂ fits items) := by
  have firsts := List.zipIdx_map_fst 0 items
  have numbered : Settles (items.zipIdx.mapM fun (item, index) => read index item)
      (∀ item ∈ items.zipIdx, readable item.1)
      (List.Forall₂ (fun item value => fits item.1 value) items.zipIdx) :=
    mapM fun item listed => atItem item.1 (List.fst_mem_of_mem_zipIdx listed) item.2
  refine numbered.imp ?_ fun values fit => ?_
  · rw [← List.forall_mem_map (f := Prod.fst) (P := readable), firsts]
  · rwa [← List.forall₂_map_left_iff, firsts] at fit

theorem optional {read : α → Except Error β} {readable : α → Prop} {fits : α → β → Prop}
    {item : Option α}
    (atItem : ∀ given ∈ item, Settles (read given) (readable given) (fits given)) :
    Settles (Normalize.optional read item) (∀ given ∈ item, readable given)
      (Option.Rel fits item) := by
  cases item with
  | none => exact ⟨by simp, .none⟩
  | some given =>
    have opened : Normalize.optional read (some given) =
        read given >>= fun value => pure (some value) := by
      rw [Normalize.optional]
      cases read given <;> rfl
    rw [opened]
    exact ((atItem given rfl).bind_pure fun value fit => Option.Rel.some fit).imp (by simp)
      fun _ => id

end Settles

/-! ### The readers -/

theorem entry_settles {spec : EntrySpec} (current : ∀ part ∈ spec.parts, ¬ part.isOlder) :
    Settles (entry spec) (∀ part ∈ spec.parts, ¬ part.isUnreadable) (EntryReading spec) := by
  cases spec with
  | bare command => exact ⟨by simp [EntrySpec.parts, Part.isUnreadable], .bare command⟩
  | structured fields =>
    obtain ⟨shell, cmds, split⟩ := fields
    obtain rfl : cmds = none := by simpa [EntrySpec.parts, Part.isOlder] using current
    cases shell with
    | none => exact ⟨by simp [EntrySpec.parts, Part.isUnreadable], _, rfl⟩
    | some command =>
      exact ⟨by simp [EntrySpec.parts, Part.isUnreadable],
        .structured ⟨some command, none, split⟩ rfl⟩

theorem entries_settle {specs : List EntrySpec}
    (current : ∀ part ∈ specs.flatMap EntrySpec.parts, ¬ part.isOlder) :
    Settles (entries specs) (∀ part ∈ specs.flatMap EntrySpec.parts, ¬ part.isUnreadable)
      (ShellReading (.multiple specs)) := by
  rw [List.forall_mem_flatMap] at current ⊢
  cases specs with
  | nil => exact ⟨by simp, .empty⟩
  | cons spec specs =>
    exact (Settles.mapM fun entry listed => entry_settles (current entry listed)).imp .rfl
      fun _ fit => .multiple (List.cons_ne_nil _ _) fit

theorem shell_settles {spec : ShellSpec} (current : ∀ part ∈ spec.parts, ¬ part.isOlder) :
    Settles (shell spec) (∀ part ∈ spec.parts, ¬ part.isUnreadable) (ShellReading spec) := by
  cases spec with
  | single command => exact ⟨by simp [ShellSpec.parts], .single command⟩
  | multiple entries => exact entries_settle current

theorem ssh_settles (spec : SshSpec) :
    Settles (ssh spec) (∀ part ∈ spec.parts, ¬ part.isUnreadable) (SshReading spec) := by
  cases spec with
  | server name => exact ⟨by simp [SshSpec.parts, Part.isUnreadable], .server name⟩
  | options fragment => exact ⟨by simp [SshSpec.parts, Part.isUnreadable], .options fragment⟩
  | list length => exact ⟨by simp [SshSpec.parts, Part.isUnreadable], _, rfl⟩

theorem optional_shell_settles {value : Option ShellSpec}
    (current : ∀ given ∈ value, ∀ part ∈ given.parts, ¬ part.isOlder) :
    Settles (optional shell value) (∀ given ∈ value, ∀ part ∈ given.parts, ¬ part.isUnreadable)
      (Option.Rel ShellReading value) :=
  .optional fun given set => shell_settles (current given set)

theorem optional_ssh_settles (value : Option SshSpec) :
    Settles (optional ssh value) (∀ given ∈ value, ∀ part ∈ given.parts, ¬ part.isUnreadable)
      (Option.Rel SshReading value) :=
  .optional fun given _ => ssh_settles given

theorem pane_settles {spec : PaneSpec} (current : ∀ part ∈ spec.parts, ¬ part.isOlder)
    (owner : Owner) (index : Nat) :
    Settles (pane owner index spec) (∀ part ∈ spec.parts, ¬ part.isUnreadable)
      (PaneReading spec) := by
  cases spec with
  | bare command => exact ⟨by simp [PaneSpec.parts, Part.isUnreadable], .bare command⟩
  | list specs =>
    rw [PaneSpec.parts, List.forall_mem_cons] at current ⊢
    exact ((entries_settle current.2).bind_pure fun _ fit => PaneReading.list fit).imp
      (by simp [Part.isUnreadable]) fun _ => id
  | structured fields =>
    obtain ⟨shell, cmds, dir, ssh⟩ := fields
    simp only [PaneSpec.parts, List.forall_mem_cons, List.forall_mem_append, forall_keyParts,
      forall_partsOf] at current ⊢
    obtain ⟨own, ⟨below, -⟩, -⟩ := current
    obtain rfl : cmds = none := by simpa [Part.isOlder] using own
    have read := (optional_shell_settles below).bind fun _ shellFits =>
      (optional_ssh_settles ssh).bind_pure fun _ sshFits =>
        PaneReading.structured ⟨shell, none, dir, ssh⟩ (by rwa [Option.or_none]) sshFits
    exact read.imp (by simp [Part.isUnreadable]) fun _ => id
  | other => exact ⟨by simp [PaneSpec.parts, Part.isUnreadable], _, rfl⟩

/-- The panes that a node lists itself, if it lists any. -/
inductive OwnReading : List PaneSpec → Option (List Pane) → Prop where
  | absent : OwnReading [] none
  | listed {specs : List PaneSpec} {panes : List Pane} :
      specs ≠ [] → List.Forall₂ PaneReading specs panes → OwnReading specs (some panes)

theorem OwnReading.panes {own shared : List PaneSpec} {panes sessionPanes : Option (List Pane)}
    (ownRead : OwnReading own panes) (sharedRead : OwnReading shared sessionPanes) :
    PanesReading own shared (panes.getD (fallbackPanes sessionPanes)) := by
  cases ownRead with
  | listed nonempty fits => exact .own nonempty fits
  | absent =>
    cases sharedRead with
    | listed nonempty fits => exact .shared nonempty fits
    | absent => exact .neither

theorem panes_settle {spec : Option PanesSpec}
    (current : ∀ given ∈ spec, ∀ part ∈ given.parts, ¬ part.isOlder) (owner : Owner) :
    Settles (panes owner spec) (∀ given ∈ spec, ∀ part ∈ given.parts, ¬ part.isUnreadable)
      (OwnReading (listedPanes spec)) := by
  rw [← forall_partsOf] at current ⊢
  cases spec with
  | none => exact ⟨by simp, .absent⟩
  | some list =>
    rw [partsOf_some] at current ⊢
    cases list with
    | other => exact ⟨by simp [PanesSpec.parts, Part.isUnreadable], _, rfl⟩
    | list specs =>
      rw [PanesSpec.parts, List.forall_mem_cons, List.forall_mem_flatMap] at current ⊢
      cases specs with
      | nil => exact ⟨by simp [Part.isUnreadable], .absent⟩
      | cons spec specs =>
        have read := (Settles.mapM_zipIdx fun pane listed index =>
          pane_settles (current.2 pane listed) owner index).bind_pure fun _ fits =>
            OwnReading.listed (List.cons_ne_nil _ _) fits
        exact read.imp (and_iff_right Bool.false_ne_true).symm fun _ => id

theorem windowName_of_named {fields : WindowFields} {name : String}
    (named : fields.name = some name) (nonempty : name ≠ "") (ssh : Option Ssh.Fragment)
    (index : Nat) : windowName fields ssh index = name := by
  simp [windowName, named, Option.filter, nonempty]

section

variable {shared : List PaneSpec} {sessionPanes : Option (List Pane)}

theorem window_settles {spec : WindowSpec} (current : ∀ part ∈ spec.parts, ¬ part.isOlder)
    (sharedRead : OwnReading shared sessionPanes) (index : Nat) :
    Settles (window sessionPanes index spec) (∀ part ∈ spec.parts, ¬ part.isUnreadable)
      (WindowReading shared spec) := by
  cases spec with
  | named name =>
    exact ⟨by simp [WindowSpec.parts, Part.isUnreadable],
      .named name (OwnReading.absent.panes sharedRead)⟩
  | list length => exact ⟨by simp [WindowSpec.parts, Part.isUnreadable], _, rfl⟩
  | other => exact ⟨by simp [WindowSpec.parts, Part.isUnreadable], _, rfl⟩
  | structured fields =>
    obtain ⟨name, panes, sections, shell, cmds, dir, ssh, layout, synchronize⟩ := fields
    simp only [WindowSpec.parts, List.forall_mem_cons, List.forall_mem_append, forall_keyParts,
      forall_partsOf] at current ⊢
    obtain ⟨own, ⟨shells, -⟩, ⟨lists, -⟩, -⟩ := current
    obtain ⟨rfl, rfl⟩ : cmds = none ∧ sections = none := by simpa [Part.isOlder] using own
    rw [window]
    apply Settles.imp
    case weaker => exact fun _ fit => fit
    case settles =>
      apply (optional_ssh_settles ssh).bind
      intro sshRead sshFits
      apply (panes_settle lists _).bind
      intro panesRead panesFit
      apply (optional_shell_settles shells).bind_pure
      intro shellRead shellFits
      apply WindowReading.structured
      · intro own named nonempty
        exact windowName_of_named named nonempty sshRead index
      · rw [Option.or_none]
        exact panesFit.panes sharedRead
      · rw [Option.or_none]
        exact shellFits
      · exact sshFits
    case same =>
      constructor
      · rintro ⟨sshs, lists, shells⟩
        exact ⟨Bool.false_ne_true, ⟨shells, by simp⟩, ⟨lists, by simp⟩, sshs⟩
      · rintro ⟨-, ⟨shells, -⟩, ⟨lists, -⟩, sshs⟩
        exact ⟨sshs, lists, shells⟩

theorem windows_settle {specs : Option (List WindowSpec)}
    (current : ∀ given ∈ specs, ∀ part ∈ given.flatMap WindowSpec.parts, ¬ part.isOlder)
    (sharedRead : OwnReading shared sessionPanes) :
    Settles (windows sessionPanes specs)
      (∀ given ∈ specs, ∀ part ∈ given.flatMap WindowSpec.parts, ¬ part.isUnreadable)
      (WindowsReading shared (specs.getD [])) := by
  have implicit := WindowsReading.implicit (OwnReading.absent.panes sharedRead)
  rw [← forall_partsOf] at current ⊢
  cases specs with
  | none => exact ⟨by simp, implicit⟩
  | some specs =>
    rw [partsOf_some, List.forall_mem_flatMap] at current ⊢
    cases specs with
    | nil => exact ⟨by simp, implicit⟩
    | cons spec specs =>
      exact (Settles.mapM_zipIdx fun window listed index =>
        window_settles (current window listed) sharedRead index).imp .rfl
          fun _ fits => .listed (List.cons_ne_nil _ _) fits

end

/-- Once its focus is read, a description in the current spelling is settled by its parts. -/
theorem current_settles (name : SessionName) {spec : SessionSpec} {focused : PaneFocus}
    (upToDate : ∀ part ∈ spec.parts, ¬ part.isOlder) (read : focus spec.focus = .ok focused) :
    Settles (current name spec) (∀ part ∈ spec.parts, ¬ part.isUnreadable)
      fun session => session.name = name ∧ SessionReading spec session := by
  obtain ⟨base, windows, panes, sections, shell, cmds, dir, ssh, layout, synchronize, focus,
    interactive⟩ := spec
  simp only [SessionSpec.parts, List.forall_mem_cons, List.forall_mem_append, forall_keyParts,
    forall_partsOf] at upToDate ⊢
  obtain ⟨own, ⟨shells, -⟩, ⟨lists, -⟩, -, members⟩ := upToDate
  obtain ⟨rfl, rfl⟩ : cmds = none ∧ sections = none := by simpa [Part.isOlder] using own
  rw [current, read]
  apply Settles.imp
  case weaker => exact fun _ fit => fit
  case settles =>
    apply (panes_settle lists .session).bind
    intro panesRead listed
    apply (windows_settle members listed).bind
    intro windowsRead windowsFit
    apply (optional_shell_settles shells).bind
    intro shellRead shellFits
    apply (optional_ssh_settles ssh).bind_pure
    intro sshRead sshFits
    refine ⟨rfl, ?_⟩
    exact {
      windows := by rwa [Option.or_none]
      shell := by rwa [Option.or_none]
      dir := rfl
      ssh := sshFits
      layout := rfl
      synchronize := rfl
      interactive := rfl
      focus := read }
  case same =>
    -- The readers take the parts in another order than they are listed in.
    constructor
    · rintro ⟨lists, windows, shells, sshs⟩
      exact ⟨Bool.false_ne_true, ⟨shells, by simp⟩, ⟨lists, by simp⟩, sshs, windows⟩
    · rintro ⟨-, ⟨shells, -⟩, ⟨lists, -⟩, sshs, windows⟩
      exact ⟨lists, windows, shells, sshs⟩

end TmuxPlan.Normalize
