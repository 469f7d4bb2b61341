import TmuxPlan.Proofs.Description.Writing

/-!
Lists where a mapping is expected. For the options of ssh and for a window they are kept apart, but
the fields of a pane and of an entry are also read from a list that gives them in order.
-/

set_option autoImplicit false

namespace TmuxPlan

open Document (Value Field Column IsReader)
open Document.Field (Holds Unambiguous)

namespace Document.Field

theorem lookup_zip {names : List String} (distinct : names.Nodup) {position : Nat} {name : String}
    (placed : names[position]? = some name) (items : List Value) :
    (names.zip items).lookup name = items[position]? := by
  induction names generalizing position items with
  | nil => cases placed
  | cons first names inductionHypothesis =>
    obtain ⟨fresh, distinct⟩ := List.nodup_cons.mp distinct
    cases items with
    | nil => rfl
    | cons item items =>
      cases position with
      | zero =>
        cases placed
        exact List.lookup_cons_self
      | succ position =>
        have later : name ∈ names := List.mem_of_getElem? placed
        have apart : (name == first) = false := by
          rw [beq_eq_false_iff_ne]
          rintro rfl
          exact fresh later
        rw [List.zip_cons_cons, List.lookup_cons, apart, List.getElem?_cons_succ]
        exact inductionHypothesis distinct placed items

theorem lookup_ofItems {fields : List Field} (unambiguous : Unambiguous fields) {position : Nat}
    {name : String} (placed : (fields.map Field.name)[position]? = some name)
    (items : List Value) : (ofItems fields items).lookup name = items[position]? :=
  lookup_zip unambiguous.names placed items

theorem ofValue?_list_eq_some_iff {fields : List Field} {items : List Value}
    {given : List (String × Value)} :
    ofValue? fields (.list items) = some given ↔
      items.length ≤ fields.length ∧ ofItems fields items = given := by
  by_cases short : items.length ≤ fields.length <;> simp [ofValue?, short]

end Document.Field

/-- From a list a record is read column by column, in the order of the list. -/
theorem Document.IsReader.read?_list {Record : Type} {columns : List (Column Record)}
    {fields : List Field} {read? : Value → Option Record}
    (reader : IsReader columns (Field.ofValue? fields) read?) (unambiguous : Unambiguous fields)
    (complete : columns.map Column.name = fields.map Field.name) {items : List Value}
    {record : Record} :
    read? (.list items) = some record ↔
      items.length ≤ fields.length ∧
        ∀ entry ∈ columns.zipIdx, Holds entry.1.read items[entry.2]? (entry.1.content record) := by
  have placed {column : Column Record} {position : Nat}
      (listed : columns[position]? = some column) :
      (Field.ofItems fields items).lookup column.name = items[position]? := by
    apply Field.lookup_ofItems unambiguous
    rw [← complete, List.getElem?_map, listed, Option.map_some]
  rw [reader]
  constructor
  · rintro ⟨given, admitted, held⟩
    obtain ⟨short, rfl⟩ := Field.ofValue?_list_eq_some_iff.mp admitted
    refine ⟨short, ?_⟩
    rintro ⟨column, position⟩ numbered
    have listed := List.mem_zipIdx_iff_getElem?.mp numbered
    rw [← placed listed]
    exact held column (List.mem_of_getElem? listed)
  · rintro ⟨short, each⟩
    refine ⟨_, Field.ofValue?_list_eq_some_iff.mpr ⟨short, rfl⟩, ?_⟩
    intro column listed
    obtain ⟨position, found⟩ := List.mem_iff_getElem?.mp listed
    rw [placed found]
    exact each (column, position) (List.mem_zipIdx_iff_getElem?.mpr found)

namespace Description

/-- The items are the fields of an entry in order, as far as they go. -/
structure EntryFields.InOrder (items : List Value) (fields : EntryFields) : Prop where
  short : items.length ≤ 3
  shell : Holds Value.text? items[0]? fields.shell
  cmds : Holds Value.text? items[1]? fields.cmds
  split : Holds Value.text? items[2]? fields.split

/-- The items are the fields of a pane in order, as far as they go. -/
structure PaneFields.InOrder (items : List Value) (fields : PaneFields) : Prop where
  short : items.length ≤ 4
  shell : Holds ShellSpec.read? items[0]? fields.shell
  cmds : Holds ShellSpec.read? items[1]? fields.cmds
  dir : Holds Value.text? items[2]? fields.dir
  ssh : Holds SshSpec.read? items[3]? fields.ssh

/-- What a list in the place of a pane reads as. -/
inductive PaneSpec.OfItems (items : List Value) : PaneSpec → Prop where
  | list {entries : List EntrySpec} :
      List.Forall₂ (fun entry item => EntrySpec.read? item = some entry) entries items →
      OfItems items (.list entries)
  | structured {fields : PaneFields} : (∃ item ∈ items, EntrySpec.read? item = none) →
      fields.InOrder items → OfItems items (.structured fields)
  | other : (∃ item ∈ items, EntrySpec.read? item = none) →
      (∀ fields : PaneFields, ¬ fields.InOrder items) → OfItems items .other

variable {items : List Value}

theorem EntryFields.read?_list {fields : EntryFields} :
    read? (.list items) = some fields ↔ fields.InOrder items := by
  rw [EntryFields.isReader.read?_list EntryFields.unambiguous rfl]
  simp only [columns, List.zipIdx_cons, List.zipIdx_nil, List.forall_mem_cons, List.not_mem_nil,
    false_implies, implies_true, and_true]
  constructor
  · rintro ⟨short, shell, cmds, split⟩
    exact ⟨short, shell, cmds, split⟩
  · rintro ⟨short, shell, cmds, split⟩
    exact ⟨short, shell, cmds, split⟩

theorem PaneFields.read?_list {fields : PaneFields} :
    read? (.list items) = some fields ↔ fields.InOrder items := by
  rw [PaneFields.isReader.read?_list PaneFields.unambiguous rfl]
  simp only [columns, List.zipIdx_cons, List.zipIdx_nil, List.forall_mem_cons, List.not_mem_nil,
    false_implies, implies_true, and_true]
  constructor
  · rintro ⟨short, shell, cmds, dir, ssh⟩
    exact ⟨short, shell, cmds, dir, ssh⟩
  · rintro ⟨short, shell, cmds, dir, ssh⟩
    exact ⟨short, shell, cmds, dir, ssh⟩

theorem EntrySpec.read?_list {spec : EntrySpec} :
    read? (.list items) = some spec ↔
      ∃ fields : EntryFields, fields.InOrder items ∧ spec = .structured fields := by
  have unfolded : read? (.list items) = (EntryFields.read? (.list items)).map .structured := rfl
  rw [unfolded, Option.map_eq_some_iff]
  simp only [EntryFields.read?_list, @eq_comm _ _ spec]

theorem mapM_eq_none_iff {α β : Type} {read : α → Option β} {xs : List α} :
    xs.mapM read = none ↔ ∃ x ∈ xs, read x = none := by
  induction xs with
  | nil => simp
  | cons x xs inductionHypothesis =>
    rw [List.mapM_cons, List.exists_mem_cons_iff, ← inductionHypothesis]
    cases first : read x <;> cases later : xs.mapM read <;> simp

theorem PaneSpec.exists_ofItems (items : List Value) : ∃ spec, OfItems items spec := by
  cases asEntries : items.mapM EntrySpec.read? with
  | some entries => exact ⟨_, .list (mapM_eq_some_iff.mp asEntries)⟩
  | none =>
    have unread := mapM_eq_none_iff.mp asEntries
    by_cases inOrder : ∃ fields : PaneFields, fields.InOrder items
    · obtain ⟨fields, inOrder⟩ := inOrder
      exact ⟨_, .structured unread inOrder⟩
    · exact ⟨_, .other unread (not_exists.mp inOrder)⟩

theorem PaneSpec.OfItems.ofValue_eq {spec : PaneSpec} (ofItems : OfItems items spec) :
    ofValue (.list items) = spec := by
  cases ofItems with
  | list each => simp only [ofValue, mapM_eq_some_iff.mpr each]
  | structured unread inOrder =>
    simp only [ofValue, mapM_eq_none_iff.mpr unread, structuredOrOther,
      PaneFields.read?_list.mpr inOrder]
  | other unread outOfOrder =>
    have noFields : PaneFields.read? (.list items) = none :=
      Option.eq_none_iff_forall_ne_some.mpr fun fields read =>
        outOfOrder fields (PaneFields.read?_list.mp read)
    simp only [ofValue, mapM_eq_none_iff.mpr unread, structuredOrOther, noFields]

theorem PaneSpec.ofValue_list {spec : PaneSpec} :
    ofValue (.list items) = spec ↔ OfItems items spec := by
  constructor
  · rintro rfl
    obtain ⟨spec, ofItems⟩ := exists_ofItems items
    rw [ofItems.ofValue_eq]
    exact ofItems
  · exact OfItems.ofValue_eq

/-- Lists in the place of mappings: options and windows keep them apart, an entry takes its fields
from them in order, and a pane does so where they are no entries. -/
theorem lists_for_mappings (items : List Value) :
    SshSpec.read? (.list items) = some (.list items.length) ∧
      WindowSpec.ofValue (.list items) = .list items.length ∧
      (∀ spec, EntrySpec.read? (.list items) = some spec ↔
        ∃ fields : EntryFields, fields.InOrder items ∧ spec = .structured fields) ∧
      ∀ spec, PaneSpec.ofValue (.list items) = spec ↔ PaneSpec.OfItems items spec :=
  ⟨rfl, rfl, fun _ => EntrySpec.read?_list, fun _ => PaneSpec.ofValue_list⟩

theorem list_may_be_fields :
    PaneSpec.ofValue (.list [.text "ls", .null, .text "/tmp"]) =
        .structured { shell := some (.single "ls"), dir := some "/tmp" } ∧
      EntrySpec.read? (.list [.text "ls"]) = some (.structured { shell := some "ls" }) :=
  ⟨rfl, rfl⟩

end Description

end TmuxPlan
