import TmuxPlan.Session.Target

/-!
Which texts are addresses. The names and focuses that are accepted, said of their characters.
-/

set_option autoImplicit false

namespace TmuxPlan

namespace Text

/-- A run of digits, not empty, whose number is this word. -/
def Denotes (digits : List Char) (word : UInt32) : Prop :=
  digits ≠ [] ∧ (∀ c ∈ digits, c.isDigit) ∧ digitsValue digits = word.toNat

theorem word32?_eq_some_iff {digits : List Char} {word : UInt32} :
    word32? digits = some word ↔ Denotes digits word := by
  have run : isDigits digits = true ↔ digits ≠ [] ∧ ∀ c ∈ digits, c.isDigit := by
    simp [isDigits]
  unfold word32? Denotes
  by_cases read : isDigits digits = true
  · obtain ⟨nonempty, all⟩ := run.mp read
    simp only [read, if_true, nonempty, ne_eq, not_false_eq_true, true_and]
    by_cases fits : digitsValue digits < UInt32.size
    · simp only [fits, dite_true, Option.some.injEq, ← UInt32.toNat_inj, UInt32.toNat_ofNatLT]
      exact ⟨fun same => ⟨all, same⟩, And.right⟩
    · simp only [fits, dite_false, reduceCtorEq, false_iff, not_and]
      intro _ same
      exact fits (same ▸ word.toNat_lt)
  · simp only [read, Bool.false_eq_true, if_false, reduceCtorEq, false_iff]
    rintro ⟨nonempty, all, -⟩
    exact read (run.mpr ⟨nonempty, all⟩)

/-- A run of digits, not empty, whose number 32 bits hold. -/
def IsWord (digits : List Char) : Prop :=
  digits ≠ [] ∧ (∀ c ∈ digits, c.isDigit) ∧ digitsValue digits ≤ 4294967295

theorem isWord_iff {digits : List Char} : IsWord digits ↔ ∃ word, Denotes digits word := by
  constructor
  · rintro ⟨nonempty, all, fits⟩
    have small : digitsValue digits < UInt32.size := Nat.lt_succ_of_le fits
    exact ⟨.ofNatLT _ small, nonempty, all, UInt32.toNat_ofNatLT.symm⟩
  · rintro ⟨word, nonempty, all, same⟩
    exact ⟨nonempty, all, same ▸ Nat.le_of_lt_succ word.toNat_lt⟩

theorem Denotes.ne_point {digits : List Char} {word : UInt32} (denotes : Denotes digits word) :
    ∀ c ∈ digits, decide (c ≠ '.') = true := by
  intro c listed
  have digit := denotes.2.1 c listed
  rw [decide_eq_true_eq]
  rintro rfl
  exact absurd digit (by decide)

end Text

theorem SessionName.isUsable_iff {text : String} :
    SessionName.isUsable text = true ↔
      text ≠ "" ∧ ∀ c ∈ text.toList, c ≠ '.' ∧ c ≠ ':' ∧ c ≠ ' ' := by
  simp only [isUsable, isSeparator, Bool.and_eq_true, Bool.not_eq_true', List.isEmpty_eq_false_iff,
    List.any_eq_false, Bool.or_eq_true, beq_iff_eq, not_or, ne_eq, and_assoc,
    String.toList_eq_nil_iff]

theorem SessionName.text_of_ofText {text : String} {name : SessionName}
    (named : SessionName.ofText text = .ok name) : name.text = text := by
  unfold SessionName.ofText at named
  split at named
  · cases named
    rfl
  · cases named

theorem SessionName.ofText_eq_ok_iff {text : String} {name : SessionName} :
    SessionName.ofText text = .ok name ↔ name.text = text := by
  constructor
  · exact text_of_ofText
  · rintro rfl
    simp [SessionName.ofText, name.usable]

theorem SessionName.ofText_eq_error_iff {text : String} {cause : Error} :
    SessionName.ofText text = .error cause ↔
      cause = .invalidSessionName text ∧ ¬ SessionName.isUsable text = true := by
  unfold SessionName.ofText
  by_cases usable : SessionName.isUsable text = true <;> simp [usable, eq_comm]

namespace PaneFocus

theorem ofText?_eq_some_iff {text : String} {focus : PaneFocus} :
    ofText? text = some focus ↔
      ∃ window pane : List Char, text.toList = window ++ '.' :: pane ∧
        Text.Denotes window focus.window ∧ Text.Denotes pane focus.pane := by
  constructor
  · intro read
    obtain ⟨word, atWindow, read⟩ := Option.bind_eq_some_iff.mp read
    have whole := List.takeWhile_append_dropWhile (p := (· ≠ '.')) (l := text.toList)
    have stops := List.head_dropWhile_not (· ≠ '.') (l := text.toList)
    cases rest : text.toList.dropWhile (· ≠ '.') with
    | nil =>
      rw [rest] at read
      cases read
    | cons point pane =>
      rw [rest] at read
      obtain ⟨other, atPane, same⟩ := Option.bind_eq_some_iff.mp read
      cases same
      simp only [rest] at stops whole
      obtain rfl := Decidable.not_not.mp (of_decide_eq_false (stops (List.cons_ne_nil _ _)))
      exact ⟨_, pane, whole.symm, Text.word32?_eq_some_iff.mp atWindow,
        Text.word32?_eq_some_iff.mp atPane⟩
  · rintro ⟨window, pane, shape, atWindow, atPane⟩
    have before : text.toList.takeWhile (· ≠ '.') = window := by
      rw [shape, List.takeWhile_append_of_pos atWindow.ne_point]
      simp
    have after : text.toList.dropWhile (· ≠ '.') = '.' :: pane := by
      rw [shape, List.dropWhile_append_of_pos atWindow.ne_point]
      simp
    simp only [ofText?, before, after, Text.word32?_eq_some_iff.mpr atWindow,
      Text.word32?_eq_some_iff.mpr atPane]
    rfl

theorem exists_ofText?_iff {text : String} :
    (∃ focus, ofText? text = some focus) ↔
      ∃ window pane : List Char, text.toList = window ++ '.' :: pane ∧
        Text.IsWord window ∧ Text.IsWord pane := by
  simp only [ofText?_eq_some_iff, Text.isWord_iff]
  constructor
  · rintro ⟨focus, window, pane, shape, atWindow, atPane⟩
    exact ⟨window, pane, shape, ⟨_, atWindow⟩, _, atPane⟩
  · rintro ⟨window, pane, shape, ⟨first, atWindow⟩, second, atPane⟩
    exact ⟨⟨first, second⟩, window, pane, shape, atWindow, atPane⟩

theorem ofText_eq_ok_iff {text : String} {focus : PaneFocus} :
    ofText text = .ok focus ↔ ofText? text = some focus := by
  unfold ofText
  cases ofText? text <;> simp

theorem ofText_eq_error_iff {text : String} {cause : Error} :
    ofText text = .error cause ↔
      cause = .invalidFocus text ∧ ¬ ∃ focus, ofText? text = some focus := by
  unfold ofText
  cases ofText? text <;> simp [eq_comm]

end PaneFocus

end TmuxPlan
