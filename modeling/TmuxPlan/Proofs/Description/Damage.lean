import TmuxPlan.Proofs.Description.Fields

/-!
A description in which one value is replaced: the panes of the session or of a window, one of them,
or a whole window. The replacement is read by itself, and the reading of everything else stays.
-/

set_option autoImplicit false

namespace TmuxPlan.Description

open Document (Value Field Column)
open Document.Field (Holds Differ)

/-- Whatever was there, the given one takes its place. -/
def Becomes {α : Type} (new : α) : α → α → Prop :=
  fun _ changed => changed = new

theorem Becomes.map {α β : Type} (read : α → β) {new old changed : α}
    (becomes : Becomes new old changed) : Becomes (read new) (read old) (read changed) :=
  congrArg read becomes

/-- Two lists that differ in the member at one place. -/
inductive AtPlace {α : Type} (place : Nat) (change : α → α → Prop) : List α → List α → Prop where
  | intro {before after : List α} {old new : α} : before.length = place → change old new →
      AtPlace place change (before ++ old :: after) (before ++ new :: after)

theorem AtPlace.map {α β : Type} {place : Nat} {change : α → α → Prop} {outcome : β → β → Prop}
    (read : α → β) (atMember : ∀ old new, change old new → outcome (read old) (read new))
    {members changed : List α} (replaced : AtPlace place change members changed) :
    AtPlace place outcome (members.map read) (changed.map read) := by
  cases replaced with
  | @intro before after old new placed change =>
    rw [List.map_append, List.map_append, List.map_cons, List.map_cons]
    exact .intro (by rwa [List.length_map]) (atMember old new change)

theorem AtPlace.exists_mem {α : Type} {place : Nat} {change : α → α → Prop}
    {members changed : List α} (replaced : AtPlace place change members changed) :
    ∃ old, ∃ new ∈ changed, change old new := by
  cases replaced with
  | intro placed change => exact ⟨_, _, List.mem_append_cons_self, change⟩

/-- The two keys under which panes stand. -/
inductive PanesKey where
  | panes
  | sections

def PanesKey.name : PanesKey → String
  | .panes => "panes"
  | .sections => "sections"

/-- All that stands under a key of panes, or one pane of the list there. -/
inductive PanesSpot where
  | whole
  | pane (index : Nat)

/-- The places of a description where what does not read is kept. -/
inductive Spot where
  | panes (key : PanesKey) (spot : PanesSpot)
  | window (index : Nat)
  | inWindow (index : Nat) (key : PanesKey) (spot : PanesSpot)

/-! ### The values -/

/-- Two lists that differ in one item. -/
inductive ItemChanged (place : Nat) (change : Value → Value → Prop) : Value → Value → Prop where
  | list {items changed : List Value} : AtPlace place change items changed →
      ItemChanged place change (.list items) (.list changed)

def PanesSpot.Replaced (new : Value) : PanesSpot → Value → Value → Prop
  | .whole => Becomes new
  | .pane index => ItemChanged index (Becomes new)

/-- The second value is the first one with another value in one place. -/
def Spot.Replaced (new : Value) : Spot → Value → Value → Prop
  | .panes key spot => Field.Changed SessionSpec.fields key.name (spot.Replaced new)
  | .window index => Field.Changed SessionSpec.fields "windows" (ItemChanged index (Becomes new))
  | .inWindow index key spot =>
    Field.Changed SessionSpec.fields "windows"
      (ItemChanged index (Field.Changed WindowFields.fields key.name (spot.Replaced new)))

/-! ### The descriptions -/

/-- What a field of panes reads as: null is the same as no panes. -/
def PanesSpec.ofField : Value → Option PanesSpec
  | .null => none
  | value => some (ofValue value)

inductive PanesSpot.Reread (new : Value) :
    PanesSpot → Option PanesSpec → Option PanesSpec → Prop where
  | whole (panes : Option PanesSpec) : Reread new .whole panes (PanesSpec.ofField new)
  | pane {index : Nat} {panes damaged : List PaneSpec} :
      AtPlace index (Becomes (PaneSpec.ofValue new)) panes damaged →
      Reread new (.pane index) (some (.list panes)) (some (.list damaged))

namespace WindowFields

def under (fields : WindowFields) : PanesKey → Option PanesSpec
  | .panes => fields.panes
  | .sections => fields.sections

def put (fields : WindowFields) (key : PanesKey) (panes : Option PanesSpec) : WindowFields :=
  match key with
  | .panes => { fields with panes }
  | .sections => { fields with sections := panes }

end WindowFields

/-- Two windows that differ in what stands under one key of panes. What reads as something else than
a mapping stays what it is. -/
inductive WindowSpec.AtKey (key : PanesKey)
    (change : Option PanesSpec → Option PanesSpec → Prop) : WindowSpec → WindowSpec → Prop where
  | structured (fields : WindowFields) {panes : Option PanesSpec} :
      change (fields.under key) panes →
      AtKey key change (.structured fields) (.structured (fields.put key panes))
  | list (length : Nat) : AtKey key change (.list length) (.list length)
  | other : AtKey key change .other .other

namespace SessionSpec

def under (spec : SessionSpec) : PanesKey → Option PanesSpec
  | .panes => spec.panes
  | .sections => spec.sections

def put (spec : SessionSpec) (key : PanesKey) (panes : Option PanesSpec) : SessionSpec :=
  match key with
  | .panes => { spec with panes }
  | .sections => { spec with sections := panes }

/-- The second description is the first one with the reading of another value in one place. -/
inductive Reread (new : Value) : Spot → SessionSpec → SessionSpec → Prop where
  | panes (spec : SessionSpec) {key : PanesKey} {spot : PanesSpot} {panes : Option PanesSpec} :
      spot.Reread new (spec.under key) panes →
      Reread new (.panes key spot) spec (spec.put key panes)
  | window (spec : SessionSpec) {index : Nat} {windows damaged : List WindowSpec} :
      spec.windows = some windows →
      AtPlace index (Becomes (WindowSpec.ofValue new)) windows damaged →
      Reread new (.window index) spec { spec with windows := some damaged }
  | inWindow (spec : SessionSpec) {index : Nat} {key : PanesKey} {spot : PanesSpot}
      {windows damaged : List WindowSpec} :
      spec.windows = some windows →
      AtPlace index (WindowSpec.AtKey key (spot.Reread new)) windows damaged →
      Reread new (.inWindow index key spot) spec { spec with windows := some damaged }

end SessionSpec

/-! ### From the values to the descriptions -/

theorem PanesSpec.holds_iff {value : Value} {panes : Option PanesSpec} :
    Holds (some ∘ ofValue) (some value) panes ↔ ofField value = panes := by
  constructor
  · intro holds
    cases holds with
    | null => rfl
    | value nonnull read =>
      cases read
      cases value <;> first | rfl | exact absurd rfl nonnull
  · rintro rfl
    cases value with
    | null => exact .null
    | _ => exact .value Value.noConfusion rfl

theorem PanesSpot.Replaced.reread {new value changed : Value} {spot : PanesSpot}
    (replaced : spot.Replaced new value changed) :
    spot.Reread new (PanesSpec.ofField value) (PanesSpec.ofField changed) := by
  cases spot with
  | whole =>
    obtain rfl := replaced
    exact .whole _
  | pane index =>
    cases replaced with
    | list replaced => exact .pane (replaced.map PaneSpec.ofValue fun _ _ => .map _)

def WindowFields.panesColumn (key : PanesKey) : Column WindowFields :=
  ⟨key.name, PanesSpec, some ∘ PanesSpec.ofValue, (·.under key)⟩

def SessionSpec.panesColumn (key : PanesKey) : Column SessionSpec :=
  ⟨key.name, PanesSpec, some ∘ PanesSpec.ofValue, (·.under key)⟩

def SessionSpec.windowsColumn : Column SessionSpec :=
  ⟨"windows", List WindowSpec, WindowSpec.readAll?, windows⟩

theorem WindowFields.panes_setBy (key : PanesKey) :
    (panesColumn key).SetBy columns fun fields panes => fields.put key panes := by
  cases key <;> constructor <;> simp [columns, panesColumn, PanesKey.name, under, put]

theorem SessionSpec.panes_setBy (key : PanesKey) :
    (panesColumn key).SetBy columns fun spec panes => spec.put key panes := by
  cases key <;> constructor <;> simp [columns, panesColumn, PanesKey.name, under, put]

theorem SessionSpec.windows_setBy :
    windowsColumn.SetBy columns fun spec windows => { spec with windows } := by
  constructor <;> simp [columns, windowsColumn]

theorem WindowFields.read?_replaced {key : PanesKey} {old new : Value}
    {entries others : List (Value × Value)}
    (related : Option.Rel (Differ key.name old new)
      (Field.ofEntries? WindowFields.fields entries) (Field.ofEntries? WindowFields.fields others))
    {fields : WindowFields} (read : WindowFields.read? (.map entries) = some fields) :
    PanesSpec.ofField old = fields.under key ∧
      WindowFields.read? (.map others) = some (fields.put key (PanesSpec.ofField new)) := by
  have given : Option.Rel (Differ key.name old new)
      (Field.ofValue? WindowFields.fields (.map entries))
      (Field.ofValue? WindowFields.fields (.map others)) := related
  obtain ⟨before, after⟩ := WindowFields.isReader.put (panes_setBy key) given read
  exact ⟨PanesSpec.holds_iff.mp before, after _ (PanesSpec.holds_iff.mpr rfl)⟩

theorem WindowSpec.ofValue_of_read {entries : List (Value × Value)} {fields : WindowFields}
    (read : WindowFields.read? (.map entries) = some fields) :
    ofValue (.map entries) = .structured fields := by
  simp only [ofValue, read]

theorem WindowSpec.ofValue_of_unread {entries : List (Value × Value)}
    (unread : WindowFields.read? (.map entries) = none) : ofValue (.map entries) = .other := by
  simp only [ofValue, unread]

/-- Other panes do not change whether a window reads. -/
theorem WindowSpec.ofValue_replaced {key : PanesKey} {change : Value → Value → Prop}
    {outcome : Option PanesSpec → Option PanesSpec → Prop}
    (atPanes : ∀ old new, change old new → outcome (PanesSpec.ofField old) (PanesSpec.ofField new))
    {value damaged : Value}
    (replaced : Field.Changed WindowFields.fields key.name change value damaged) :
    WindowSpec.AtKey key outcome (ofValue value) (ofValue damaged) := by
  cases replaced with
  | @item old new before after placed change =>
    have sameLength : (before ++ new :: after).length = (before ++ old :: after).length := by simp
    rw [ofValue, ofValue, sameLength]
    exact .list _
  | @entry fieldKey old new before after named change =>
    have forth := Field.ofEntries?_changed WindowFields.fields named old new before after
    have back := Field.ofEntries?_changed WindowFields.fields named new old before after
    cases read : WindowFields.read? (.map (before ++ (fieldKey, old) :: after)) with
    | some fields =>
      obtain ⟨same, readAgain⟩ := WindowFields.read?_replaced forth read
      rw [ofValue_of_read read, ofValue_of_read readAgain]
      exact .structured fields (same ▸ atPanes old new change)
    | none =>
      cases readAgain : WindowFields.read? (.map (before ++ (fieldKey, new) :: after)) with
      | none =>
        rw [ofValue_of_unread read, ofValue_of_unread readAgain]
        exact .other
      | some fields =>
        obtain ⟨-, readBefore⟩ := WindowFields.read?_replaced back readAgain
        cases read.symm.trans readBefore

theorem SessionSpec.given?_replaced {name : String} {change : Value → Value → Prop}
    {value damaged : Value}
    (replaced : Field.Changed SessionSpec.fields name change value damaged) :
    ∃ old new, change old new ∧
      Option.Rel (Differ name old new) (given? value) (given? damaged) := by
  cases replaced with
  | @entry key old new before after named change =>
    exact ⟨old, new, change,
      Field.ofEntries?_changed SessionSpec.fields named old new before after⟩
  | @item old new before after placed change =>
    exact ⟨old, new, change,
      .some (Field.ofItems_changed SessionSpec.fields (by decide) placed old new after)⟩

/-- Windows are read one by one. -/
theorem SessionSpec.read?_replacedWindow {place : Nat} {change : Value → Value → Prop}
    {outcome : WindowSpec → WindowSpec → Prop}
    (atWindow : ∀ old new, change old new →
      outcome (WindowSpec.ofValue old) (WindowSpec.ofValue new))
    {value damaged : Value}
    (replaced : Field.Changed SessionSpec.fields "windows" (ItemChanged place change) value damaged)
    {spec : SessionSpec} (read : read? value = some spec) :
    ∃ windows others, spec.windows = some windows ∧ AtPlace place outcome windows others ∧
      read? damaged = some { spec with windows := some others } := by
  obtain ⟨_, _, ⟨atItem⟩, related⟩ := given?_replaced replaced
  obtain ⟨before, after⟩ := SessionSpec.isReader.put windows_setBy related read
  generalize listed : windowsColumn.content spec = windows at before
  cases before with
  | value _ readBefore =>
    cases readBefore
    exact ⟨_, _, listed, atItem.map WindowSpec.ofValue atWindow,
      after _ (.value Value.noConfusion rfl)⟩

/-- Whatever stands in its place, the rest of a description reads as before. -/
theorem SessionSpec.read?_replaced {new value damaged : Value} {spot : Spot}
    (replaced : spot.Replaced new value damaged) {spec : SessionSpec}
    (read : read? value = some spec) :
    ∃ reread, read? damaged = some reread ∧ Reread new spot spec reread := by
  cases spot with
  | panes key spot =>
    obtain ⟨old, other, atPanes, related⟩ := given?_replaced replaced
    obtain ⟨before, after⟩ := SessionSpec.isReader.put (panes_setBy key) related read
    have same : PanesSpec.ofField old = spec.under key := PanesSpec.holds_iff.mp before
    refine ⟨_, after _ (PanesSpec.holds_iff.mpr rfl), ?_⟩
    exact .panes spec (same ▸ atPanes.reread)
  | window index =>
    obtain ⟨windows, others, listed, atPlace, reads⟩ :=
      read?_replacedWindow (fun _ _ => Becomes.map WindowSpec.ofValue) replaced read
    exact ⟨_, reads, .window spec listed atPlace⟩
  | inWindow index key spot =>
    obtain ⟨windows, others, listed, atPlace, reads⟩ :=
      read?_replacedWindow
        (fun _ _ => WindowSpec.ofValue_replaced fun _ _ => PanesSpot.Replaced.reread) replaced read
    exact ⟨_, reads, .inWindow spec listed atPlace⟩

end TmuxPlan.Description
