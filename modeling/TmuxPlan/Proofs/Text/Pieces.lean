import TmuxPlan.Text.Blank

/-!
The pieces of a text. Cutting at a separator takes a text apart into the pieces of what it was put
together from, wherever the separator or a blank stands in the parts. A piece is not empty, has no
blank at either end and no separator in it.
-/

set_option autoImplicit false

namespace TmuxPlan.Text

/-! ### Trimming -/

theorem trimRight_cons (c : Char) (cs : List Char) :
    trimRight (c :: cs) =
      if trimRight cs = [] then (if isBlank c then [] else [c]) else c :: trimRight cs := by
  rw [trimRight]
  split
  · rename_i empty
    rw [if_pos empty]
  · rename_i nonempty
    rw [if_neg nonempty]

theorem isPrefix_trimRight (cs : List Char) : trimRight cs <+: cs := by
  induction cs with
  | nil => exact List.nil_prefix
  | cons c cs inductionHypothesis =>
    rw [trimRight_cons]
    split
    · split
      · exact List.nil_prefix
      · exact List.cons_prefix_cons.mpr ⟨rfl, List.nil_prefix⟩
    · exact List.cons_prefix_cons.mpr ⟨rfl, inductionHypothesis⟩

theorem isBlank_last_trimRight (cs : List Char) :
    ∀ c ∈ (trimRight cs).getLast?, isBlank c = false := by
  induction cs with
  | nil => simp [trimRight]
  | cons c cs inductionHypothesis =>
    rw [trimRight_cons]
    split
    · split <;> simp_all
    · rename_i nonempty
      rw [List.getLast?_cons_of_ne_nil nonempty]
      exact inductionHypothesis

/-- What already ends in no blank is left as it is. -/
theorem trimRight_eq_self {cs : List Char} (ends : ∀ c ∈ cs.getLast?, isBlank c = false) :
    trimRight cs = cs := by
  induction cs with
  | nil => rfl
  | cons c cs inductionHypothesis =>
    cases cs with
    | nil => simp_all [trimRight]
    | cons next cs =>
      rw [List.getLast?_cons_cons] at ends
      rw [trimRight_cons, inductionHypothesis ends, if_neg (List.cons_ne_nil _ _)]

theorem trimRight_append (first second : List Char) :
    trimRight (first ++ second) =
      if trimRight second = [] then trimRight first else first ++ trimRight second := by
  by_cases blank : trimRight second = []
  · rw [if_pos blank]
    induction first with
    | nil => exact blank
    | cons c first inductionHypothesis =>
      rw [List.cons_append, trimRight_cons, trimRight_cons, inductionHypothesis]
  · rw [if_neg blank]
    induction first with
    | nil => rfl
    | cons c first inductionHypothesis =>
      have remains : first ++ trimRight second ≠ [] := List.append_ne_nil_of_right_ne_nil _ blank
      rw [List.cons_append, trimRight_cons, inductionHypothesis, if_neg remains, List.cons_append]

theorem trimChars_cons_of_isBlank {c : Char} (blank : isBlank c = true) (cs : List Char) :
    trimChars (c :: cs) = trimChars cs := by
  rw [trimChars, trimChars, List.dropWhile_cons_of_pos blank]

theorem trimChars_cons_of_not_isBlank {c : Char} (solid : isBlank c = false) (cs : List Char) :
    trimChars (c :: cs) = trimRight (c :: cs) := by
  rw [trimChars, List.dropWhile_cons_of_neg (by simp [solid])]

theorem isInfix_trimChars (cs : List Char) : trimChars cs <:+: cs :=
  (isPrefix_trimRight _).isInfix.trans (List.dropWhile_suffix _).isInfix

theorem trimChars_eq_nil {cs : List Char} (blank : ∀ c ∈ cs, isBlank c = true) :
    trimChars cs = [] := by
  rw [trimChars, trimRight_eq_nil_iff]
  intro c remains
  exact blank c ((List.dropWhile_suffix _).subset remains)

/-- Neither end is a blank. -/
def IsTrimmed (cs : List Char) : Prop :=
  (∀ c ∈ cs.head?, isBlank c = false) ∧ ∀ c ∈ cs.getLast?, isBlank c = false

theorem isTrimmed_trimChars (cs : List Char) : IsTrimmed (trimChars cs) := by
  refine ⟨?_, isBlank_last_trimRight _⟩
  induction cs with
  | nil => simp [trimChars, trimRight]
  | cons c cs inductionHypothesis =>
    cases blank : isBlank c with
    | true =>
      rw [trimChars_cons_of_isBlank blank]
      exact inductionHypothesis
    | false =>
      rw [trimChars_cons_of_not_isBlank blank, trimRight_cons]
      split <;> simp [blank]

/-! ### Cutting -/

section

variable (separator : Char)

theorem cut_eq_splitOn (cs : List Char) : cut separator cs = cs.splitOn separator := by
  induction cs with
  | nil => rfl
  | cons c cs inductionHypothesis =>
    obtain ⟨part, parts, shape⟩ :=
      List.exists_cons_of_ne_nil (List.splitOn_ne_nil separator cs)
    rw [shape] at inductionHypothesis
    simp [cut, inductionHypothesis, List.splitOn_cons_eq_if_modifyHead, shape]

/-- The first part ends where the first separator stands. -/
theorem cut_eq_cons (cs : List Char) :
    ∃ parts, cut separator cs = cs.takeWhile (· ≠ separator) :: parts := by
  have whole := List.takeWhile_append_dropWhile (p := (· ≠ separator)) (l := cs)
  have stops := List.head_dropWhile_not (· ≠ separator) (l := cs)
  have inside : separator ∉ cs.takeWhile (· ≠ separator) := by
    intro held
    simpa using List.all_eq_true.mp List.all_takeWhile separator held
  rw [cut_eq_splitOn]
  cases remains : cs.dropWhile (· ≠ separator) with
  | nil =>
    rw [remains, List.append_nil] at whole
    rw [whole] at inside ⊢
    exact ⟨[], List.splitOn_eq_singleton inside⟩
  | cons c rest =>
    simp only [remains] at stops whole
    have ends : c = separator :=
      Decidable.not_not.mp (of_decide_eq_false (stops (List.cons_ne_nil _ _)))
    subst ends
    refine ⟨rest.splitOn c, ?_⟩
    rw [← List.splitOn_append_cons_self_of_not_mem inside, whole]

theorem cut_cons_of_ne {c : Char} {cs part : List Char} {parts : List (List Char)}
    (other : c ≠ separator) (shape : cut separator cs = part :: parts) :
    cut separator (c :: cs) = (c :: part) :: parts := by
  simp [cut, shape, other]

theorem mem_of_mem_cut {cs part : List Char} (listed : part ∈ cut separator cs) :
    ∀ c ∈ part, c ∈ cs ∧ c ≠ separator := by
  rw [cut_eq_splitOn] at listed
  induction cs generalizing part with
  | nil => simp_all
  | cons c cs inductionHypothesis =>
    have later (other : List Char) (listed : other ∈ cs.splitOn separator) :
        ∀ d ∈ other, d ∈ c :: cs ∧ d ≠ separator := by
      intro d held
      obtain ⟨inText, kept⟩ := inductionHypothesis listed d held
      exact ⟨List.mem_cons_of_mem _ inText, kept⟩
    rw [List.splitOn_cons_eq_if_modifyHead] at listed
    split at listed
    · rcases List.mem_cons.mp listed with rfl | listed
      · simp
      · exact later part listed
    · rename_i goesOn
      obtain ⟨head, parts, shape⟩ :=
        List.exists_cons_of_ne_nil (List.splitOn_ne_nil separator cs)
      rw [shape] at later
      rw [shape, List.modifyHead_cons, List.mem_cons] at listed
      rcases listed with rfl | listed
      · intro d held
        rcases List.mem_cons.mp held with rfl | held
        · exact ⟨List.mem_cons_self .., by simpa using goesOn⟩
        · exact later head (List.mem_cons_self ..) d held
      · exact later part (List.mem_cons_of_mem _ listed)

end

/-! ### Pieces -/

/-- The pieces of a text as lists of characters. -/
def pieceChars (separator : Char) (cs : List Char) : List (List Char) :=
  ((cut separator cs).map trimChars).filter (· ≠ [])

theorem pieces_eq (separator : Char) (text : String) :
    pieces separator text = (pieceChars separator text.toList).map String.ofList := rfl

section

variable (separator : Char)

theorem pieceChars_append (first second : List Char) :
    pieceChars separator (first ++ separator :: second) =
      pieceChars separator first ++ pieceChars separator second := by
  simp only [pieceChars, cut_eq_splitOn, List.splitOn_append_cons_self, List.map_append,
    List.filter_append]

theorem pieceChars_cons_of_isBlank {c : Char} (blank : isBlank c = true) (other : c ≠ separator)
    (cs : List Char) : pieceChars separator (c :: cs) = pieceChars separator cs := by
  obtain ⟨parts, shape⟩ := cut_eq_cons separator cs
  rw [pieceChars, pieceChars, cut_cons_of_ne separator other shape, shape, List.map_cons,
    List.map_cons, trimChars_cons_of_isBlank blank]

theorem pieceChars_of_blank {cs : List Char} (blank : ∀ c ∈ cs, isBlank c = true) :
    pieceChars separator cs = [] := by
  rw [pieceChars, List.filter_eq_nil_iff]
  intro _ cut
  obtain ⟨part, listed, rfl⟩ := List.mem_map.mp cut
  rw [decide_eq_true_eq, Decidable.not_not]
  apply trimChars_eq_nil
  intro c held
  exact blank c (mem_of_mem_cut separator listed c held).1

/-- A text that begins with neither a blank nor a separator begins with a piece. -/
theorem pieceChars_cons_of_solid {c : Char} (solid : isBlank c = false) (other : c ≠ separator)
    (cs : List Char) :
    ∃ rest, pieceChars separator (c :: cs) =
      trimRight (c :: cs.takeWhile (· ≠ separator)) :: rest := by
  obtain ⟨parts, shape⟩ := cut_eq_cons separator cs
  refine ⟨(parts.map trimChars).filter (· ≠ []), ?_⟩
  rw [pieceChars, cut_cons_of_ne separator other shape, List.map_cons,
    trimChars_cons_of_not_isBlank solid, List.filter_cons_of_pos (by simp [solid])]

end

/-- A text put together at a semicolon falls into the pieces of both sides. -/
theorem pieces_joined (first second : String) :
    pieces ';' (first ++ "; " ++ second) = pieces ';' first ++ pieces ';' second := by
  have blank : pieceChars ';' (' ' :: second.toList) = pieceChars ';' second.toList :=
    pieceChars_cons_of_isBlank ';' (by decide) (by decide) _
  have whole : (first ++ "; " ++ second).toList = first.toList ++ ';' :: ' ' :: second.toList := by
    simp
  rw [pieces_eq, whole, pieceChars_append, blank, List.map_append]
  rfl

theorem pieces_of_isBlankText {text : String} (blank : isBlankText text = true)
    (separator : Char) : pieces separator text = [] := by
  rw [pieces_eq, pieceChars_of_blank separator (by simpa [isBlankText] using blank), List.map_nil]

/-- A piece is worth typing: it is not empty, it is trimmed, and it cannot be cut again. -/
theorem mem_pieces {separator : Char} {text piece : String}
    (listed : piece ∈ pieces separator text) :
    piece ≠ "" ∧ IsTrimmed piece.toList ∧
      ∀ c ∈ piece.toList, c ∈ text.toList ∧ c ≠ separator := by
  obtain ⟨_, kept, rfl⟩ := List.mem_map.mp listed
  obtain ⟨trimmed, nonempty⟩ := List.mem_filter.mp kept
  obtain ⟨part, cut, rfl⟩ := List.mem_map.mp trimmed
  rw [String.toList_ofList]
  refine ⟨by simpa using nonempty, isTrimmed_trimChars part, ?_⟩
  intro c held
  exact mem_of_mem_cut separator cut c ((isInfix_trimChars part).subset held)

end TmuxPlan.Text
