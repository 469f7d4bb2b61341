import TmuxPlan.Proofs.Session.Digits

/-!
The texts of a focus. A focus is written as two numbers with a point between them. It is read from
this text and from every other that differs from it in leading zeros only, and from no more.
-/

set_option autoImplicit false

namespace TmuxPlan.PaneFocus

theorem toList_text (focus : PaneFocus) :
    focus.text.toList =
      (Text.word32Text focus.window).toList ++ '.' :: (Text.word32Text focus.pane).toList := by
  simp [text]

theorem ofText?_text (focus : PaneFocus) : ofText? focus.text = some focus :=
  ofText?_eq_some_iff.mpr ⟨_, _, focus.toList_text, Text.denotes_word32Text _,
    Text.denotes_word32Text _⟩

/-- The accepted texts are two runs of digits, of any length, with a point between them, each of
which stands for a number that 32 bits hold. Such a text is read as its numbers, which are shown
again without leading zeros; any other is given back in the error. What is shown of a focus reads
as that focus. -/
theorem texts_of_focus :
    (∀ text : String, (∃ focus, ofText text = .ok focus) ↔
      ∃ window pane : List Char, text.toList = window ++ '.' :: pane ∧
        Text.IsWord window ∧ Text.IsWord pane) ∧
    (∀ (text : String) (focus : PaneFocus), ofText text = .ok focus ↔
      ∃ window pane : List Char, text.toList = window ++ '.' :: pane ∧
        Text.Denotes window focus.window ∧ Text.Denotes pane focus.pane ∧
        focus.text.toList = Text.bareDigits window ++ '.' :: Text.bareDigits pane) ∧
    (∀ (text : String) (cause : Error), ofText text = .error cause ↔
      cause = .invalidFocus text ∧ ¬ ∃ focus, ofText text = .ok focus) ∧
    ∀ focus : PaneFocus, ofText focus.text = .ok focus := by
  refine ⟨?_, ?_, ?_, ?_⟩
  · intro text
    simp only [ofText_eq_ok_iff]
    exact exists_ofText?_iff
  · intro text focus
    rw [ofText_eq_ok_iff, ofText?_eq_some_iff]
    constructor
    · rintro ⟨window, pane, shape, atWindow, atPane⟩
      refine ⟨window, pane, shape, atWindow, atPane, ?_⟩
      rw [focus.toList_text, atWindow.toList_word32Text, atPane.toList_word32Text]
    · rintro ⟨window, pane, shape, atWindow, atPane, -⟩
      exact ⟨window, pane, shape, atWindow, atPane⟩
  · intro text cause
    simp only [ofText_eq_ok_iff]
    exact ofText_eq_error_iff
  · intro focus
    exact ofText_eq_ok_iff.mpr focus.ofText?_text

example : ofText? "007.0" = some ⟨7, 0⟩ ∧ (⟨7, 0⟩ : PaneFocus).text = "7.0" := by
  decide +kernel

end TmuxPlan.PaneFocus
