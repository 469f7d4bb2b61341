import TmuxPlan.Proofs.Description.Parts
import Mathlib.Data.List.Forall2

/-!
One description in two spellings. The first description uses the current keys throughout; the second
is the same tree, where at any set of nodes a value stands under the older key instead, also inside
values that stand under an older key themselves.
-/

set_option autoImplicit false

namespace TmuxPlan.Description

section

variable {α β : Type}

/-- The value of a key, if it has one, stands under one of the two spellings, as a related value. -/
inductive Respelled (related : α → β → Prop) : Option α → Option β → Option β → Prop where
  | absent : Respelled related none none none
  | kept {value : α} {other : β} : related value other →
      Respelled related (some value) (some other) none
  | moved {value : α} {other : β} : related value other →
      Respelled related (some value) none (some other)

end

inductive EntrySpec.Respelling : EntrySpec → EntrySpec → Prop where
  | bare (command : String) : Respelling (.bare command) (.bare command)
  | structured (fields : EntryFields) {shell : Option String} :
      Respelled Eq shell fields.shell fields.cmds →
      Respelling (.structured { fields with shell, cmds := none }) (.structured fields)

inductive ShellSpec.Respelling : ShellSpec → ShellSpec → Prop where
  | single (command : String) : Respelling (.single command) (.single command)
  | multiple {entries others : List EntrySpec} :
      List.Forall₂ EntrySpec.Respelling entries others →
      Respelling (.multiple entries) (.multiple others)

inductive PaneSpec.Respelling : PaneSpec → PaneSpec → Prop where
  | bare (command : String) : Respelling (.bare command) (.bare command)
  | list {entries others : List EntrySpec} :
      List.Forall₂ EntrySpec.Respelling entries others →
      Respelling (.list entries) (.list others)
  | structured (fields : PaneFields) {shell : Option ShellSpec} :
      Respelled ShellSpec.Respelling shell fields.shell fields.cmds →
      Respelling (.structured { fields with shell, cmds := none }) (.structured fields)
  | other : Respelling .other .other

inductive PanesSpec.Respelling : PanesSpec → PanesSpec → Prop where
  | list {panes others : List PaneSpec} :
      List.Forall₂ PaneSpec.Respelling panes others →
      Respelling (.list panes) (.list others)
  | other : Respelling .other .other

inductive WindowSpec.Respelling : WindowSpec → WindowSpec → Prop where
  | named (name : String) : Respelling (.named name) (.named name)
  | list (length : Nat) : Respelling (.list length) (.list length)
  | structured (fields : WindowFields) {shell : Option ShellSpec} {panes : Option PanesSpec} :
      Respelled ShellSpec.Respelling shell fields.shell fields.cmds →
      Respelled PanesSpec.Respelling panes fields.panes fields.sections →
      Respelling (.structured { fields with shell, cmds := none, panes, sections := none })
        (.structured fields)
  | other : Respelling .other .other

/-- The second description is the first one with some of its values under the older keys. -/
inductive SessionSpec.Respelling : SessionSpec → SessionSpec → Prop where
  | intro (spec : SessionSpec) {shell : Option ShellSpec} {panes : Option PanesSpec}
      {windows : Option (List WindowSpec)} :
      Respelled ShellSpec.Respelling shell spec.shell spec.cmds →
      Respelled PanesSpec.Respelling panes spec.panes spec.sections →
      Option.Rel (List.Forall₂ WindowSpec.Respelling) windows spec.windows →
      Respelling { spec with shell, cmds := none, panes, sections := none, windows } spec

/-! ### The parts of the two descriptions -/

/-- What a part has to do with the same part in the other spelling. -/
structure Part.Agrees (part other : Part) : Prop where
  current : part.isOlder = false
  whole : other.isTorn = false
  readable : other.isUnreadable = part.isUnreadable

theorem Part.Agrees.lists {parts others : List Part}
    (agree : List.Forall₂ Part.Agrees parts others) :
    (∀ part ∈ parts, ¬ part.isOlder) ∧ (∀ part ∈ others, ¬ part.isTorn) ∧
      ((∀ part ∈ parts, ¬ part.isUnreadable) ↔ ∀ part ∈ others, ¬ part.isUnreadable) := by
  induction agree with
  | nil => simp
  | cons agrees agree inductionHypothesis =>
    obtain ⟨current, whole, readable⟩ := inductionHypothesis
    simp only [List.forall_mem_cons, agrees.current, agrees.whole, agrees.readable, readable]
    exact ⟨⟨Bool.false_ne_true, current⟩, ⟨Bool.false_ne_true, whole⟩, trivial⟩

section

variable {α : Type} {related : α → α → Prop} {parts : α → List Part}

theorem Respelled.once {value current older : Option α}
    (respelled : Respelled related value current older) :
    (current.isSome && older.isSome) = false := by
  cases respelled <;> rfl

theorem Respelled.isNone {value current older : Option α}
    (respelled : Respelled related value current older) :
    (current.isNone && older.isNone) = value.isNone := by
  cases respelled <;> rfl

theorem Respelled.parts_agree {value current older : Option α}
    (respelled : Respelled related value current older)
    (atValue : ∀ value other, related value other →
      List.Forall₂ Part.Agrees (parts value) (parts other)) :
    List.Forall₂ Part.Agrees (keyParts parts value none) (keyParts parts current older) := by
  cases respelled with
  | absent => exact .nil
  | kept same => simpa [keyParts] using atValue _ _ same
  | moved same => simpa [keyParts] using atValue _ _ same

theorem optional_agree {value other : Option α} (same : Option.Rel related value other)
    (atValue : ∀ value other, related value other →
      List.Forall₂ Part.Agrees (parts value) (parts other)) :
    List.Forall₂ Part.Agrees (partsOf parts value) (partsOf parts other) := by
  cases same with
  | none => exact .nil
  | some same => simpa using atValue _ _ same

theorem members_agree {members others : List α}
    (same : List.Forall₂ related members others)
    (atMember : ∀ member other, related member other →
      List.Forall₂ Part.Agrees (parts member) (parts other)) :
    List.Forall₂ Part.Agrees (members.flatMap parts) (others.flatMap parts) :=
  List.rel_flatMap same atMember

end

theorem EntrySpec.Respelling.parts_agree {spec older : EntrySpec} (same : spec.Respelling older) :
    List.Forall₂ Part.Agrees spec.parts older.parts := by
  cases same with
  | bare command => exact .cons ⟨rfl, rfl, rfl⟩ .nil
  | structured fields shell =>
    refine .cons ⟨rfl, shell.once, ?_⟩ .nil
    simp [Part.isUnreadable, shell.isNone]

theorem ShellSpec.Respelling.parts_agree {spec older : ShellSpec} (same : spec.Respelling older) :
    List.Forall₂ Part.Agrees spec.parts older.parts := by
  cases same with
  | single command => exact .nil
  | multiple entries => exact members_agree entries fun _ _ => EntrySpec.Respelling.parts_agree

theorem ssh_agree (ssh : Option SshSpec) :
    List.Forall₂ Part.Agrees (partsOf SshSpec.parts ssh) (partsOf SshSpec.parts ssh) := by
  rw [List.forall₂_same]
  intro part listed
  obtain ⟨spec, -, listed⟩ := List.mem_flatMap.mp listed
  obtain rfl := List.mem_singleton.mp listed
  exact ⟨rfl, rfl, rfl⟩

theorem PaneSpec.Respelling.parts_agree {spec older : PaneSpec} (same : spec.Respelling older) :
    List.Forall₂ Part.Agrees spec.parts older.parts := by
  cases same with
  | bare command => exact .cons ⟨rfl, rfl, rfl⟩ .nil
  | list entries =>
    exact .cons ⟨rfl, rfl, rfl⟩ (members_agree entries fun _ _ => EntrySpec.Respelling.parts_agree)
  | structured fields shell =>
    refine .cons ⟨rfl, shell.once, rfl⟩ ?_
    exact List.rel_append (shell.parts_agree fun _ _ => ShellSpec.Respelling.parts_agree)
      (ssh_agree _)
  | other => exact .cons ⟨rfl, rfl, rfl⟩ .nil

theorem PanesSpec.Respelling.parts_agree {spec older : PanesSpec} (same : spec.Respelling older) :
    List.Forall₂ Part.Agrees spec.parts older.parts := by
  cases same with
  | list panes =>
    exact .cons ⟨rfl, rfl, rfl⟩ (members_agree panes fun _ _ => PaneSpec.Respelling.parts_agree)
  | other => exact .cons ⟨rfl, rfl, rfl⟩ .nil

theorem WindowSpec.Respelling.parts_agree {spec older : WindowSpec} (same : spec.Respelling older) :
    List.Forall₂ Part.Agrees spec.parts older.parts := by
  cases same with
  | named name => exact .cons ⟨rfl, rfl, rfl⟩ .nil
  | list length => exact .cons ⟨rfl, rfl, rfl⟩ .nil
  | structured fields shell panes =>
    refine .cons ⟨rfl, ?_, rfl⟩ ?_
    · simp [Part.isTorn, shell.once, panes.once]
    · exact List.rel_append (shell.parts_agree fun _ _ => ShellSpec.Respelling.parts_agree)
        (List.rel_append (panes.parts_agree fun _ _ => PanesSpec.Respelling.parts_agree)
          (ssh_agree _))
  | other => exact .cons ⟨rfl, rfl, rfl⟩ .nil

theorem SessionSpec.Respelling.parts_agree {spec older : SessionSpec}
    (same : spec.Respelling older) : List.Forall₂ Part.Agrees spec.parts older.parts := by
  cases same with
  | intro older shell panes windows =>
    refine .cons ⟨rfl, ?_, rfl⟩ ?_
    · simp [Part.isTorn, shell.once, panes.once]
    · refine List.rel_append (shell.parts_agree fun _ _ => ShellSpec.Respelling.parts_agree) ?_
      refine List.rel_append (panes.parts_agree fun _ _ => PanesSpec.Respelling.parts_agree) ?_
      refine List.rel_append (ssh_agree _) ?_
      exact optional_agree windows fun _ _ listed =>
        members_agree listed fun _ _ => WindowSpec.Respelling.parts_agree

namespace SessionSpec.Respelling

variable {spec older : SessionSpec}

theorem current (same : spec.Respelling older) : ∀ part ∈ spec.parts, ¬ part.isOlder :=
  (Part.Agrees.lists same.parts_agree).1

theorem whole (same : spec.Respelling older) : ∀ part ∈ older.parts, ¬ part.isTorn :=
  (Part.Agrees.lists same.parts_agree).2.1

theorem focus_eq (same : spec.Respelling older) : spec.focus = older.focus := by
  cases same
  rfl

theorem readable_iff (same : spec.Respelling older) :
    (∀ part ∈ spec.parts, ¬ part.isUnreadable) ↔ ∀ part ∈ older.parts, ¬ part.isUnreadable :=
  (Part.Agrees.lists same.parts_agree).2.2

end SessionSpec.Respelling

/-! ### A description in the current spelling -/

theorem Respelled.self {α : Type} {related : α → α → Prop} {value : Option α}
    (atValue : ∀ given ∈ value, related given given) : Respelled related value value none := by
  cases value with
  | none => exact .absent
  | some given => exact .kept (atValue given rfl)

theorem EntrySpec.respelling_self {spec : EntrySpec}
    (current : ∀ part ∈ spec.parts, ¬ part.isOlder) : spec.Respelling spec := by
  cases spec with
  | bare command => exact .bare command
  | structured fields =>
    obtain ⟨shell, cmds, split⟩ := fields
    obtain rfl : cmds = none := by simpa [parts, Part.isOlder] using current
    exact .structured ⟨shell, none, split⟩ (.self fun _ _ => rfl)

theorem entries_respelling_self {entries : List EntrySpec}
    (current : ∀ part ∈ entries.flatMap EntrySpec.parts, ¬ part.isOlder) :
    List.Forall₂ EntrySpec.Respelling entries entries := by
  rw [List.forall_mem_flatMap] at current
  exact List.forall₂_same.mpr fun entry listed => EntrySpec.respelling_self (current entry listed)

theorem ShellSpec.respelling_self {spec : ShellSpec}
    (current : ∀ part ∈ spec.parts, ¬ part.isOlder) : spec.Respelling spec := by
  cases spec with
  | single command => exact .single command
  | multiple entries => exact .multiple (entries_respelling_self current)

theorem PaneSpec.respelling_self {spec : PaneSpec}
    (current : ∀ part ∈ spec.parts, ¬ part.isOlder) : spec.Respelling spec := by
  cases spec with
  | bare command => exact .bare command
  | list entries =>
    rw [parts, List.forall_mem_cons] at current
    exact .list (entries_respelling_self current.2)
  | structured fields =>
    obtain ⟨shell, cmds, dir, ssh⟩ := fields
    simp only [parts, List.forall_mem_cons, List.forall_mem_append, forall_keyParts] at current
    obtain ⟨own, ⟨below, -⟩, -⟩ := current
    obtain rfl : cmds = none := by simpa [Part.isOlder] using own
    exact .structured ⟨shell, none, dir, ssh⟩
      (.self fun given set => ShellSpec.respelling_self (below given set))
  | other => exact .other

theorem PanesSpec.respelling_self {spec : PanesSpec}
    (current : ∀ part ∈ spec.parts, ¬ part.isOlder) : spec.Respelling spec := by
  cases spec with
  | list panes =>
    rw [parts, List.forall_mem_cons, List.forall_mem_flatMap] at current
    exact .list (List.forall₂_same.mpr fun pane listed =>
      PaneSpec.respelling_self (current.2 pane listed))
  | other => exact .other

theorem WindowSpec.respelling_self {spec : WindowSpec}
    (current : ∀ part ∈ spec.parts, ¬ part.isOlder) : spec.Respelling spec := by
  cases spec with
  | named name => exact .named name
  | list length => exact .list length
  | structured fields =>
    obtain ⟨name, panes, sections, shell, cmds, dir, ssh, layout, synchronize⟩ := fields
    simp only [parts, List.forall_mem_cons, List.forall_mem_append, forall_keyParts] at current
    obtain ⟨own, ⟨shells, -⟩, ⟨lists, -⟩, -⟩ := current
    obtain ⟨rfl, rfl⟩ : cmds = none ∧ sections = none := by simpa [Part.isOlder] using own
    exact .structured ⟨name, panes, none, shell, none, dir, ssh, layout, synchronize⟩
      (.self fun given set => ShellSpec.respelling_self (shells given set))
      (.self fun given set => PanesSpec.respelling_self (lists given set))
  | other => exact .other

/-- A description without an older key is a respelling of itself. -/
theorem SessionSpec.respelling_self {spec : SessionSpec}
    (current : ∀ part ∈ spec.parts, ¬ part.isOlder) : spec.Respelling spec := by
  obtain ⟨name, windows, panes, sections, shell, cmds, dir, ssh, layout, synchronize, focus,
    interactive⟩ := spec
  simp only [parts, List.forall_mem_cons, List.forall_mem_append, forall_keyParts,
    forall_partsOf] at current
  obtain ⟨own, ⟨shells, -⟩, ⟨lists, -⟩, -, members⟩ := current
  obtain ⟨rfl, rfl⟩ : cmds = none ∧ sections = none := by simpa [Part.isOlder] using own
  refine .intro ⟨name, windows, panes, none, shell, none, dir, ssh, layout, synchronize, focus,
    interactive⟩
    (.self fun given set => ShellSpec.respelling_self (shells given set))
    (.self fun given set => PanesSpec.respelling_self (lists given set)) ?_
  cases windows with
  | none => exact .none
  | some windows =>
    have below := List.forall_mem_flatMap.mp (members windows rfl)
    exact .some (List.forall₂_same.mpr fun window listed =>
      WindowSpec.respelling_self (below window listed))

/-! ### A description that sets no key twice -/

section

variable {α : Type} {related : α → α → Prop}

theorem exists_forall₂ {α β : Type} {related : α → β → Prop} {others : List β}
    (atMember : ∀ other ∈ others, ∃ member, related member other) :
    ∃ members, List.Forall₂ related members others := by
  induction others with
  | nil => exact ⟨[], .nil⟩
  | cons other others inductionHypothesis =>
    obtain ⟨first, later⟩ := List.forall_mem_cons.mp atMember
    obtain ⟨member, same⟩ := first
    obtain ⟨members, rest⟩ := inductionHypothesis later
    exact ⟨member :: members, .cons same rest⟩

theorem exists_respelled {current older : Option α}
    (once : (current.isSome && older.isSome) = false)
    (atCurrent : ∀ given ∈ current, ∃ value, related value given)
    (atOlder : ∀ given ∈ older, ∃ value, related value given) :
    ∃ value, Respelled related value current older := by
  cases current with
  | none =>
    cases older with
    | none => exact ⟨none, .absent⟩
    | some given =>
      obtain ⟨value, same⟩ := atOlder given rfl
      exact ⟨some value, .moved same⟩
  | some given =>
    obtain rfl : older = none := by simpa using once
    obtain ⟨value, same⟩ := atCurrent given rfl
    exact ⟨some value, .kept same⟩

end

theorem EntrySpec.exists_respelling (spec : EntrySpec)
    (whole : ∀ part ∈ spec.parts, ¬ part.isTorn) : ∃ tree : EntrySpec, tree.Respelling spec := by
  cases spec with
  | bare command => exact ⟨_, .bare command⟩
  | structured fields =>
    have once : (fields.shell.isSome && fields.cmds.isSome) = false := by
      simpa [parts, Part.isTorn] using whole
    have adopted : ∃ shell, Respelled Eq shell fields.shell fields.cmds :=
      exists_respelled once (fun given _ => ⟨given, rfl⟩) fun given _ => ⟨given, rfl⟩
    obtain ⟨shell, same⟩ := adopted
    exact ⟨_, .structured fields same⟩

theorem exists_entries_respelling (entries : List EntrySpec)
    (whole : ∀ part ∈ entries.flatMap EntrySpec.parts, ¬ part.isTorn) :
    ∃ trees, List.Forall₂ EntrySpec.Respelling trees entries := by
  rw [List.forall_mem_flatMap] at whole
  exact exists_forall₂ fun entry listed => entry.exists_respelling (whole entry listed)

theorem ShellSpec.exists_respelling (spec : ShellSpec)
    (whole : ∀ part ∈ spec.parts, ¬ part.isTorn) : ∃ tree : ShellSpec, tree.Respelling spec := by
  cases spec with
  | single command => exact ⟨_, .single command⟩
  | multiple entries =>
    obtain ⟨trees, same⟩ := exists_entries_respelling entries whole
    exact ⟨_, .multiple same⟩

theorem PaneSpec.exists_respelling (spec : PaneSpec)
    (whole : ∀ part ∈ spec.parts, ¬ part.isTorn) : ∃ tree : PaneSpec, tree.Respelling spec := by
  cases spec with
  | bare command => exact ⟨_, .bare command⟩
  | list entries =>
    rw [parts, List.forall_mem_cons] at whole
    obtain ⟨trees, same⟩ := exists_entries_respelling entries whole.2
    exact ⟨_, .list same⟩
  | structured fields =>
    simp only [parts, List.forall_mem_cons, List.forall_mem_append, forall_keyParts] at whole
    obtain ⟨own, ⟨current, older⟩, -⟩ := whole
    have once : (fields.shell.isSome && fields.cmds.isSome) = false := by
      simpa only [Part.isTorn, Bool.not_eq_true] using own
    obtain ⟨shell, same⟩ := exists_respelled once
      (fun given set => given.exists_respelling (current given set))
      fun given set => given.exists_respelling (older given set)
    exact ⟨_, .structured fields same⟩
  | other => exact ⟨_, .other⟩

theorem PanesSpec.exists_respelling (spec : PanesSpec)
    (whole : ∀ part ∈ spec.parts, ¬ part.isTorn) : ∃ tree : PanesSpec, tree.Respelling spec := by
  cases spec with
  | list panes =>
    rw [parts, List.forall_mem_cons, List.forall_mem_flatMap] at whole
    obtain ⟨trees, same⟩ := exists_forall₂ fun pane listed =>
      PaneSpec.exists_respelling pane (whole.2 pane listed)
    exact ⟨_, .list same⟩
  | other => exact ⟨_, .other⟩

theorem WindowSpec.exists_respelling (spec : WindowSpec)
    (whole : ∀ part ∈ spec.parts, ¬ part.isTorn) : ∃ tree : WindowSpec, tree.Respelling spec := by
  cases spec with
  | named name => exact ⟨_, .named name⟩
  | list length => exact ⟨_, .list length⟩
  | structured fields =>
    simp only [parts, List.forall_mem_cons, List.forall_mem_append, forall_keyParts] at whole
    obtain ⟨own, ⟨currentShell, olderShell⟩, ⟨currentPanes, olderPanes⟩, -⟩ := whole
    obtain ⟨onceShell, oncePanes⟩ : (fields.shell.isSome && fields.cmds.isSome) = false ∧
        (fields.panes.isSome && fields.sections.isSome) = false := by
      simpa only [Part.isTorn, Bool.not_eq_true, Bool.or_eq_false_iff] using own
    obtain ⟨shell, sameShell⟩ := exists_respelled onceShell
      (fun given set => given.exists_respelling (currentShell given set))
      fun given set => given.exists_respelling (olderShell given set)
    obtain ⟨panes, samePanes⟩ := exists_respelled oncePanes
      (fun given set => given.exists_respelling (currentPanes given set))
      fun given set => given.exists_respelling (olderPanes given set)
    exact ⟨_, .structured fields sameShell samePanes⟩
  | other => exact ⟨_, .other⟩

theorem exists_windows_respelling (windows : Option (List WindowSpec))
    (whole : ∀ given ∈ windows, ∀ part ∈ given.flatMap WindowSpec.parts, ¬ part.isTorn) :
    ∃ trees, Option.Rel (List.Forall₂ WindowSpec.Respelling) trees windows := by
  cases windows with
  | none => exact ⟨none, .none⟩
  | some windows =>
    have below := List.forall_mem_flatMap.mp (whole windows rfl)
    obtain ⟨trees, same⟩ := exists_forall₂ fun window listed =>
      WindowSpec.exists_respelling window (below window listed)
    exact ⟨some trees, .some same⟩

/-- A description is a respelling of another one unless a part of it sets a key in both
spellings. -/
theorem SessionSpec.exists_respelling_iff (spec : SessionSpec) :
    (∃ tree : SessionSpec, tree.Respelling spec) ↔ ∀ part ∈ spec.parts, ¬ part.isTorn := by
  constructor
  · rintro ⟨tree, same⟩
    exact same.whole
  · intro whole
    simp only [parts, List.forall_mem_cons, List.forall_mem_append, forall_keyParts,
      forall_partsOf] at whole
    obtain ⟨own, ⟨currentShell, olderShell⟩, ⟨currentPanes, olderPanes⟩, -, members⟩ := whole
    obtain ⟨onceShell, oncePanes⟩ : (spec.shell.isSome && spec.cmds.isSome) = false ∧
        (spec.panes.isSome && spec.sections.isSome) = false := by
      simpa only [Part.isTorn, Bool.not_eq_true, Bool.or_eq_false_iff] using own
    obtain ⟨shell, sameShell⟩ := exists_respelled onceShell
      (fun given set => given.exists_respelling (currentShell given set))
      fun given set => given.exists_respelling (olderShell given set)
    obtain ⟨panes, samePanes⟩ := exists_respelled oncePanes
      (fun given set => given.exists_respelling (currentPanes given set))
      fun given set => given.exists_respelling (olderPanes given set)
    obtain ⟨windows, sameWindows⟩ := exists_windows_respelling spec.windows members
    exact ⟨_, .intro spec sameShell samePanes sameWindows⟩

end TmuxPlan.Description
