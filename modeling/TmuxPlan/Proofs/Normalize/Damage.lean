import TmuxPlan.Proofs.Description.Damage
import TmuxPlan.Proofs.Normalize.Acceptance

/-!
Damage in a description is reported when it is normalized: a value that reads as no panes, no pane
or no window is kept where it stands, and normalization fails because of it.
-/

set_option autoImplicit false

namespace TmuxPlan

open Document (Value Field)

namespace Description

/-- The value reads as nothing that can stand in this place. -/
def PanesSpot.ReadsOther (new : Value) : PanesSpot → Prop
  | .whole => PanesSpec.ofField new = some .other
  | .pane _ => PaneSpec.ofValue new = .other

def Spot.ReadsOther (new : Value) : Spot → Prop
  | .panes _ spot => spot.ReadsOther new
  | .window _ => WindowSpec.ofValue new = .other
  | .inWindow _ _ spot => spot.ReadsOther new

variable {new : Value}

/-! ### Where the parts stand -/

theorem mem_keyParts {α : Type} {parts : α → List Part} {current older : Option α} {value : α}
    (present : current = some value ∨ older = some value) {part : Part}
    (listed : part ∈ parts value) : part ∈ keyParts parts current older := by
  rw [keyParts, List.mem_append]
  rcases present with rfl | rfl
  · exact .inl (by rwa [partsOf_some])
  · exact .inr (by rwa [partsOf_some])

theorem SessionSpec.mem_parts_of_panes {spec : SessionSpec} {key : PanesKey} {panes : PanesSpec}
    (present : spec.under key = some panes) {part : Part} (listed : part ∈ panes.parts) :
    part ∈ spec.parts := by
  have inKeys : part ∈ keyParts PanesSpec.parts spec.panes spec.sections := by
    apply mem_keyParts _ listed
    cases key with
    | panes => exact .inl present
    | sections => exact .inr present
  simp [parts, inKeys]

theorem WindowFields.mem_parts_of_panes {fields : WindowFields} {key : PanesKey}
    {panes : PanesSpec} (present : fields.under key = some panes) {part : Part}
    (listed : part ∈ panes.parts) : part ∈ (WindowSpec.structured fields).parts := by
  have inKeys : part ∈ keyParts PanesSpec.parts fields.panes fields.sections := by
    apply mem_keyParts _ listed
    cases key with
    | panes => exact .inl present
    | sections => exact .inr present
  simp [WindowSpec.parts, inKeys]

theorem SessionSpec.mem_parts_of_window {spec : SessionSpec} {windows : List WindowSpec}
    (present : spec.windows = some windows) {window : WindowSpec} (member : window ∈ windows)
    {part : Part} (listed : part ∈ window.parts) : part ∈ spec.parts := by
  have inWindows : part ∈ partsOf (List.flatMap WindowSpec.parts) spec.windows := by
    rw [present, partsOf_some]
    exact List.mem_flatMap.mpr ⟨window, member, listed⟩
  simp [parts, inWindows]

@[simp]
theorem SessionSpec.under_put (spec : SessionSpec) (key : PanesKey) (panes : Option PanesSpec) :
    (spec.put key panes).under key = panes := by
  cases key <;> rfl

@[simp]
theorem WindowFields.under_put (fields : WindowFields) (key : PanesKey)
    (panes : Option PanesSpec) : (fields.put key panes).under key = panes := by
  cases key <;> rfl

/-! ### What cannot be read is a part of the description -/

theorem PanesSpot.Reread.unreadable {spot : PanesSpot} {panes damaged : Option PanesSpec}
    (reread : spot.Reread new panes damaged) (other : spot.ReadsOther new) :
    ∃ given, damaged = some given ∧ ∃ part ∈ given.parts, part.isUnreadable := by
  cases reread with
  | whole =>
    rw [show PanesSpec.ofField new = some .other from other]
    exact ⟨_, rfl, _, List.mem_singleton_self _, rfl⟩
  | pane atPlace =>
    obtain ⟨_, pane, member, same⟩ := atPlace.exists_mem
    obtain rfl : pane = .other := same.trans other
    refine ⟨_, rfl, .pane .other, ?_, rfl⟩
    exact List.mem_cons_of_mem _ (List.mem_flatMap.mpr ⟨_, member, List.mem_singleton_self _⟩)

theorem WindowSpec.AtKey.unreadable {key : PanesKey} {spot : PanesSpot}
    {window damaged : WindowSpec} (atKey : AtKey key (spot.Reread new) window damaged)
    (other : spot.ReadsOther new) : ∃ part ∈ damaged.parts, part.isUnreadable := by
  cases atKey with
  | structured fields reread =>
    obtain ⟨panes, present, part, listed, unreadable⟩ := reread.unreadable other
    have stands := WindowFields.mem_parts_of_panes (fields.under_put key _ |>.trans present) listed
    exact ⟨part, stands, unreadable⟩
  | list length => exact ⟨_, List.mem_singleton_self _, rfl⟩
  | other => exact ⟨_, List.mem_singleton_self _, rfl⟩

theorem SessionSpec.Reread.unreadable {spot : Spot} {spec damaged : SessionSpec}
    (reread : Reread new spot spec damaged) (other : spot.ReadsOther new) :
    ∃ part ∈ damaged.parts, part.isUnreadable := by
  cases reread with
  | @panes _ key _ _ reread =>
    obtain ⟨panes, present, part, listed, unreadable⟩ := reread.unreadable other
    have stands := SessionSpec.mem_parts_of_panes (spec.under_put key _ |>.trans present) listed
    exact ⟨part, stands, unreadable⟩
  | window _ _ atPlace =>
    obtain ⟨_, window, member, same⟩ := atPlace.exists_mem
    obtain rfl : window = .other := same.trans other
    exact ⟨_, SessionSpec.mem_parts_of_window rfl member (List.mem_singleton_self _), rfl⟩
  | inWindow _ _ atPlace =>
    obtain ⟨_, window, member, atKey⟩ := atPlace.exists_mem
    obtain ⟨part, listed, unreadable⟩ := atKey.unreadable other
    exact ⟨part, SessionSpec.mem_parts_of_window rfl member listed, unreadable⟩

theorem SessionSpec.Reread.focus_eq {spot : Spot} {spec damaged : SessionSpec}
    (reread : Reread new spot spec damaged) : damaged.focus = spec.focus := by
  cases reread with
  | @panes _ key => cases key <;> rfl
  | window => rfl
  | inWindow => rfl

end Description

namespace Normalize

open Description

theorem malformed_of_unreadable {name : String} {spec : SessionSpec} (named : NameFits name)
    (focused : ∀ text ∈ spec.focus, FocusFits text)
    (unreadable : ∃ part ∈ spec.parts, part.isUnreadable) :
    ∃ defect, normalize name spec = .error (.malformed defect) := by
  have settles := normalize_settles name spec
  cases normalized : normalize name spec with
  | ok session =>
    rw [normalized] at settles
    obtain ⟨part, listed, damaged⟩ := unreadable
    exact absurd damaged (settles.readable part listed)
  | error cause =>
    rw [normalized] at settles
    cases settles with
    | unnamed unnamed => exact absurd named unnamed
    | torn key => exact ⟨_, rfl⟩
    | unfocused text _ _ set unfit => exact absurd (focused text set) unfit
    | unreadable defect => exact ⟨_, rfl⟩

/-- Another value in the place of panes, of a pane or of a window leaves a description that is read,
and read the same everywhere else. If it reads as nothing that can stand there, the description is
malformed. -/
theorem damage_stays_local {new value damaged : Value} {spot : Spot} {spec : SessionSpec}
    (read : SessionSpec.read? value = some spec) (replaced : spot.Replaced new value damaged) :
    ∃ reread, SessionSpec.read? damaged = some reread ∧
      SessionSpec.Reread new spot spec reread ∧
      (spot.ReadsOther new → ∀ name, NameFits name → (∀ text ∈ spec.focus, FocusFits text) →
        ∃ defect, normalize name reread = .error (.malformed defect)) := by
  obtain ⟨reread, readAgain, elsewhere⟩ := SessionSpec.read?_replaced replaced read
  refine ⟨reread, readAgain, elsewhere, ?_⟩
  intro other name named focused
  rw [← elsewhere.focus_eq] at focused
  exact malformed_of_unreadable named focused (elsewhere.unreadable other)

/-- A session with two panes in a window. -/
def besideLs (pane : Value) : Value :=
  .map [(.text "windows", .list [.map [(.text "panes", .list [.text "ls", pane])]])]

theorem damage_stays_local_number :
    ∃ reread, SessionSpec.read? (besideLs (.natural 42)) = some reread ∧
      reread.windows = some [.structured { panes := some (.list [.bare "ls", .other]) }] ∧
      ∃ defect, normalize "dev" reread = .error (.malformed defect) := by
  have read : SessionSpec.read? (besideLs (.text "top")) = some {
      windows := some [.structured { panes := some (.list [.bare "ls", .bare "top"]) }] } := by
    rfl
  have replaced : (Spot.inWindow 0 .panes (.pane 1)).Replaced (.natural 42)
      (besideLs (.text "top")) (besideLs (.natural 42)) := by
    have atPane := @AtPlace.intro Value 1 (Becomes (.natural 42)) [.text "ls"] [] (.text "top") _
      rfl rfl
    have atWindow := @Field.Changed.entry WindowFields.fields "panes" _ (.text "panes") _ _ [] []
      rfl (ItemChanged.list atPane)
    have atSession := @AtPlace.intro Value 0 _ [] [] _ _ rfl atWindow
    exact @Field.Changed.entry SessionSpec.fields "windows" _ (.text "windows") _ _ [] []
      rfl (.list atSession)
  obtain ⟨reread, readAgain, -, fails⟩ := damage_stays_local read replaced
  refine ⟨reread, readAgain, ?_, fails rfl "dev" (SessionName.isUsable_iff.mp rfl) nofun⟩
  cases readAgain
  rfl

end Normalize

end TmuxPlan
