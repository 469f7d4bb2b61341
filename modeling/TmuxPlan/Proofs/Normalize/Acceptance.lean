import TmuxPlan.Proofs.Normalize.Reading
import TmuxPlan.Proofs.Normalize.Spelling
import TmuxPlan.Proofs.Session.Addresses

/-!
Which descriptions are normalized. Four conditions decide: on the name, on the spelling of the keys,
on the focus, and on the shapes of all parts. The first one that fails gives the error.
-/

set_option autoImplicit false

namespace TmuxPlan.Normalize

open Description

/-- Not empty, and free of the characters that separate the parts of a tmux target. -/
def NameFits (name : String) : Prop :=
  name ≠ "" ∧ ∀ c ∈ name.toList, c ≠ '.' ∧ c ≠ ':' ∧ c ≠ ' '

/-- Two runs of digits with a point between them, each a number that 32 bits hold. -/
def FocusFits (text : String) : Prop :=
  ∃ window pane : List Char, text.toList = window ++ '.' :: pane ∧
    Text.IsWord window ∧ Text.IsWord pane

structure WellFormed (name : String) (spec : SessionSpec) : Prop where
  named : NameFits name
  whole : ∀ part ∈ spec.parts, ¬ part.isTorn
  focused : ∀ text ∈ spec.focus, FocusFits text
  readable : ∀ part ∈ spec.parts, ¬ part.isUnreadable

/-- The errors of a description, in the order in which its conditions are looked at. -/
inductive Rejection (name : String) (spec : SessionSpec) : Error → Prop where
  | unnamed : ¬ NameFits name → Rejection name spec (.invalidSessionName name)
  | torn (key : RenamedKey) : NameFits name → ¬ (∀ part ∈ spec.parts, ¬ part.isTorn) →
      Rejection name spec (.malformed (.bothSpellings key))
  | unfocused (text : String) : NameFits name → (∀ part ∈ spec.parts, ¬ part.isTorn) →
      spec.focus = some text → ¬ FocusFits text → Rejection name spec (.invalidFocus text)
  | unreadable (defect : Malformed) : NameFits name → (∀ part ∈ spec.parts, ¬ part.isTorn) →
      (∀ text ∈ spec.focus, FocusFits text) → ¬ (∀ part ∈ spec.parts, ¬ part.isUnreadable) →
      Rejection name spec (.malformed defect)

theorem Rejection.not_wellFormed {name : String} {spec : SessionSpec} {cause : Error}
    (rejected : Rejection name spec cause) : ¬ WellFormed name spec := by
  intro wellFormed
  cases rejected with
  | unnamed unnamed => exact unnamed wellFormed.named
  | torn key named torn => exact torn wellFormed.whole
  | unfocused text named whole set unfocused => exact unfocused (wellFormed.focused text set)
  | unreadable defect named whole focused unreadable => exact unreadable wellFormed.readable

/-! ### The conditions one by one -/

theorem ofText_name_settles (name : String) :
    (∃ usable, SessionName.ofText name = .ok ⟨name, usable⟩ ∧ NameFits name) ∨
      (SessionName.ofText name = .error (.invalidSessionName name) ∧ ¬ NameFits name) := by
  by_cases usable : SessionName.isUsable name = true
  · exact .inl ⟨usable, SessionName.ofText_eq_ok_iff.mpr rfl, SessionName.isUsable_iff.mp usable⟩
  · exact .inr ⟨SessionName.ofText_eq_error_iff.mpr ⟨rfl, usable⟩,
      fun fits => usable (SessionName.isUsable_iff.mpr fits)⟩

theorem focusFits_iff {text : String} :
    FocusFits text ↔ ∃ focus, PaneFocus.ofText? text = some focus :=
  PaneFocus.exists_ofText?_iff.symm

theorem focus_settles (text : Option String) :
    (∃ focused, focus text = .ok focused ∧ ∀ given ∈ text, FocusFits given) ∨
      ∃ given, text = some given ∧ focus text = .error (.invalidFocus given) ∧
        ¬ FocusFits given := by
  cases text with
  | none => exact .inl ⟨{}, rfl, nofun⟩
  | some given =>
    by_cases fits : FocusFits given
    · obtain ⟨focused, read⟩ := focusFits_iff.mp fits
      refine .inl ⟨focused, PaneFocus.ofText_eq_ok_iff.mpr read, ?_⟩
      rintro _ ⟨⟩
      exact fits
    · have unread : ¬ ∃ focused, PaneFocus.ofText? given = some focused :=
        fun read => fits (focusFits_iff.mpr read)
      exact .inr ⟨given, rfl, PaneFocus.ofText_eq_error_iff.mpr ⟨rfl, unread⟩, fits⟩

theorem migrate_settles (spec : SessionSpec) :
    (∃ tree : SessionSpec, spec.migrate = .ok tree ∧ tree.Respelling spec ∧
        ∀ part ∈ spec.parts, ¬ part.isTorn) ∨
      ∃ key, spec.migrate = .error (.malformed (.bothSpellings key)) ∧
        ¬ ∀ part ∈ spec.parts, ¬ part.isTorn := by
  cases migrated : spec.migrate with
  | ok tree =>
    have same := SessionSpec.migrate_eq_ok_iff.mp migrated
    exact .inl ⟨tree, rfl, same, same.whole⟩
  | error cause =>
    have torn : ¬ ∀ part ∈ spec.parts, ¬ part.isTorn := by
      rw [← spec.exists_respelling_iff]
      rintro ⟨tree, same⟩
      rw [SessionSpec.migrate_eq_ok_iff.mpr same] at migrated
      cases migrated
    unfold SessionSpec.migrate at migrated
    split at migrated
    · cases migrated
    · rename_i key _
      cases migrated
      exact .inr ⟨key, rfl, torn⟩

theorem normalize_settles (name : String) (spec : SessionSpec) :
    match normalize name spec with
    | .ok _ => WellFormed name spec
    | .error cause => Rejection name spec cause := by
  rw [normalize_eq]
  rcases ofText_name_settles name with ⟨usable, atName, named⟩ | ⟨atName, unnamed⟩
  · rw [atName]
    rcases migrate_settles spec with ⟨tree, migrated, same, whole⟩ | ⟨key, migrated, torn⟩
    · rw [migrated]
      show match current ⟨name, usable⟩ tree with
        | .ok _ => WellFormed name spec
        | .error cause => Rejection name spec cause
      -- The migrated tree decides, but it has the focus of the description, and its parts can be
      -- read exactly if those of the description can.
      rcases focus_settles tree.focus with ⟨focused, atFocus, fits⟩ | ⟨text, set, atFocus, unfit⟩
      · have settles := current_settles ⟨name, usable⟩ same.current atFocus
        rw [same.focus_eq] at fits
        cases read : current ⟨name, usable⟩ tree with
        | ok session =>
          rw [read] at settles
          exact ⟨named, whole, fits, same.readable_iff.mp settles.1⟩
        | error cause =>
          rw [read] at settles
          obtain ⟨unreadable, defect, rfl⟩ := settles
          rw [same.readable_iff] at unreadable
          exact .unreadable defect named whole fits unreadable
      · rw [same.focus_eq] at set
        rw [current, atFocus]
        exact .unfocused text named whole set unfit
    · rw [migrated]
      exact .torn key named torn
  · rw [atName]
    exact .unnamed unnamed

/-- Normalization accepts the well-formed descriptions and no others, and what it says of any other
one is the first condition that fails. -/
theorem normalize_accepts (name : String) (spec : SessionSpec) :
    ((∃ session, normalize name spec = .ok session) ↔ WellFormed name spec) ∧
      ∀ cause, normalize name spec = .error cause → Rejection name spec cause := by
  have settles := normalize_settles name spec
  cases normalized : normalize name spec with
  | ok session =>
    rw [normalized] at settles
    refine ⟨⟨fun _ => settles, fun _ => ⟨session, rfl⟩⟩, ?_⟩
    intro cause failed
    cases failed
  | error cause =>
    rw [normalized] at settles
    refine ⟨⟨?_, fun wellFormed => absurd wellFormed settles.not_wellFormed⟩, ?_⟩
    · rintro ⟨session, accepted⟩
      cases accepted
    · intro other failed
      cases failed
      exact settles

end TmuxPlan.Normalize
