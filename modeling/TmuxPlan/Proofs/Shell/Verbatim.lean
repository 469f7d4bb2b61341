import TmuxPlan.Proofs.Shell.Words
import Mathlib.Algebra.GroupWithZero.Nat
import Mathlib.Tactic.SplitIfs

/-!
Texts that a shell takes as they stand. Reading a character adds at most one to what is in the
words read so far, and outside of quotes only a character that stands for itself adds one. So a text
of which every character is to arrive in the words has to consist of such characters.
-/

set_option autoImplicit false

namespace TmuxPlan.Shell

/-! ### Characters that stand for themselves -/

/-- Every character of a text stands for itself where the text is a word: none is special
everywhere, the first one begins neither a comment nor the name of a home directory, and no closing
bracket comes after an opening one. -/
structure Literal (cs : List Char) : Prop where
  plain : ∀ c ∈ cs, isSpecial c = false
  begins : ∀ c ∈ cs.head?, c ≠ '#' ∧ c ≠ '~'
  unclosed : ∀ first rest, cs = first ++ ']' :: rest → '[' ∉ first

/-- Whether characters that come after the given part of a word all stand for themselves. -/
def standsFrom (word : Option (List Char)) : List Char → Bool
  | [] => true
  | c :: cs => standsAfter word c && standsFrom (some (word.getD [] ++ [c])) cs

theorem standsAfter_some_iff (w : List Char) (c : Char) :
    standsAfter (some w) c = true ↔ isSpecial c = false ∧ (c = ']' → '[' ∉ w) := by
  simp [standsAfter, isUnreadAfter, Decidable.imp_iff_not_or]

theorem standsAfter_none_iff (c : Char) :
    standsAfter none c = true ↔ isSpecial c = false ∧ c ≠ '#' ∧ c ≠ '~' := by
  simp [standsAfter, isUnreadAfter, and_assoc]

theorem standsFrom_some_iff (w cs : List Char) :
    standsFrom (some w) cs = true ↔
      (∀ c ∈ cs, isSpecial c = false) ∧
        ∀ first rest, cs = first ++ ']' :: rest → '[' ∉ w ++ first := by
  induction cs generalizing w with
  | nil => simp [standsFrom]
  | cons c cs inductionHypothesis =>
    rw [standsFrom, Bool.and_eq_true, standsAfter_some_iff, Option.getD_some, inductionHypothesis,
      List.forall_mem_cons]
    constructor
    · rintro ⟨⟨here, atOnce⟩, later, closed⟩
      refine ⟨⟨here, later⟩, ?_⟩
      rintro (_ | ⟨_, first⟩) rest same
      · simpa using atOnce (List.cons.inj same).1
      · obtain ⟨rfl, later⟩ := List.cons.inj same
        simpa using closed first rest later
    · rintro ⟨⟨here, later⟩, closed⟩
      refine ⟨⟨here, ?_⟩, later, ?_⟩
      · rintro rfl
        simpa using closed [] cs rfl
      · rintro first rest rfl
        simpa using closed (c :: first) rest rfl

theorem standsFrom_none_iff (cs : List Char) : standsFrom none cs = true ↔ Literal cs := by
  cases cs with
  | nil => exact ⟨fun _ => ⟨nofun, nofun, by simp⟩, fun _ => rfl⟩
  | cons c cs =>
    rw [standsFrom, Bool.and_eq_true, standsAfter_none_iff, Option.getD_none, standsFrom_some_iff]
    constructor
    · rintro ⟨⟨here, begins⟩, later, closed⟩
      refine ⟨List.forall_mem_cons.mpr ⟨here, later⟩, by simpa using begins, ?_⟩
      rintro (_ | ⟨_, first⟩) rest same
      · exact List.not_mem_nil
      · obtain ⟨rfl, later⟩ := List.cons.inj same
        exact closed first rest later
    · rintro ⟨plain, begins, closed⟩
      obtain ⟨here, later⟩ := List.forall_mem_cons.mp plain
      refine ⟨⟨here, by simpa using begins⟩, later, ?_⟩
      rintro first rest rfl
      exact closed (c :: first) rest rfl

instance (cs : List Char) : Decidable (Literal cs) :=
  decidable_of_iff _ (standsFrom_none_iff cs)

/-! ### What arrives in the words -/

/-- How many characters a token holds. -/
def Token.weight : Token → Nat
  | .word text => text.length
  | .mark _ => 0

def totalWeight (tokens : List Token) : Nat :=
  (tokens.map Token.weight).sum

@[simp]
theorem totalWeight_append (first second : List Token) :
    totalWeight (first ++ second) = totalWeight first + totalWeight second := by
  simp [totalWeight]

@[simp]
theorem totalWeight_word (text : String) : totalWeight [.word text] = text.length := by
  simp [totalWeight, Token.weight]

@[simp]
theorem totalWeight_mark (mark : Mark) : totalWeight [.mark mark] = 0 := rfl

namespace TokenReader

/-- How many characters stand in words, counting a backslash that may turn out to be one of them. -/
def weight (reader : TokenReader) : Nat :=
  totalWeight reader.tokens + (reader.word.getD []).length +
    if reader.quoting = .escapeInDouble then 1 else 0

section

variable (reader : TokenReader)

@[simp]
theorem close_word : reader.close.word = none := by
  unfold close
  split
  · assumption
  · rfl

@[simp]
theorem close_quoting : reader.close.quoting = .none := by
  unfold close
  split <;> rfl

theorem totalWeight_close :
    totalWeight reader.close.tokens = totalWeight reader.tokens + (reader.word.getD []).length := by
  unfold close
  cases word : reader.word with
  | none => simp
  | some cs => simp

theorem weight_close : reader.close.weight ≤ reader.weight := by
  rw [weight, totalWeight_close, close_word, close_quoting]
  exact Nat.le_add_right _ _

theorem weight_mark (mark : Mark) : (reader.mark mark).weight ≤ reader.weight := by
  have closed : (reader.mark mark).weight = reader.close.weight := by
    simp [TokenReader.mark, weight]
  rw [closed]
  exact reader.weight_close

theorem weight_add (cs : List Char) {quoting : Quoting} (other : quoting ≠ .escapeInDouble) :
    (reader.add cs quoting).weight =
      totalWeight reader.tokens + (reader.word.getD []).length + cs.length := by
  simp [weight, add, other, Nat.add_assoc]

end

variable {word : Option (List Char)} {tokens : List Token} {reader next : TokenReader} {c : Char}

/-- Characters that stand for themselves are a word. -/
theorem foldlM_stands {cs : List Char} (nonempty : cs ≠ []) (stands : standsFrom word cs = true) :
    cs.foldlM (step noParameters) ⟨.none, word, tokens⟩ =
      some ⟨.none, some (word.getD [] ++ cs), tokens⟩ := by
  induction cs generalizing word with
  | nil => exact absurd rfl nonempty
  | cons c cs inductionHypothesis =>
    rw [standsFrom, Bool.and_eq_true] at stands
    rw [foldlM_cons_of_eq_some (step_stands stands.1 noParameters tokens)]
    by_cases last : cs = []
    · subst last
      rfl
    · simpa using inductionHypothesis last stands.2

theorem quotingAfter?_ne_escapeInDouble (c : Char) :
    quotingAfter? c ≠ some .escapeInDouble := by
  unfold quotingAfter?
  split <;> decide

/-- What a character can do outside of quotes: it stands for itself, it changes how the next one is
taken, or it ends the word. -/
theorem stepUnquoted_cases (read : stepUnquoted ⟨.none, word, tokens⟩ c = some next) :
    standsAfter word c = true ∨
      (∃ quoting, quoting ≠ .escapeInDouble ∧
        (next = add ⟨.none, word, tokens⟩ [] quoting ∨ next = ⟨quoting, word, tokens⟩)) ∨
      next = close ⟨.none, word, tokens⟩ ∨ ∃ ending, next = mark ⟨.none, word, tokens⟩ ending := by
  rw [stepUnquoted] at read
  split at read
  · exact .inr (.inr (.inl (Option.some.inj read).symm))
  split at read
  · exact .inr (.inr (.inr ⟨_, (Option.some.inj read).symm⟩))
  split at read
  · exact .inr (.inl ⟨.comment, by decide, .inr (Option.some.inj read).symm⟩)
  split at read
  · cases read
  rename_i blank sequel comment unread
  simp only [Bool.not_eq_true, Bool.or_eq_false_iff, decide_eq_false_iff_not] at *
  split at read
  · rename_i unchanged
    have plain : isSpecial c = false := by
      rw [← Bool.not_eq_true, isSpecial_iff]
      simp [blank, sequel, unread, unchanged]
    left
    rw [standsAfter, plain, comment, unread.2]
    rfl
  · exact .inr (.inl ⟨.single, by decide, .inl (Option.some.inj read).symm⟩)
  · exact .inr (.inl ⟨.double, by decide, .inl (Option.some.inj read).symm⟩)
  · rename_i quoting _ _ changes
    refine .inr (.inl ⟨quoting, ?_, .inr (Option.some.inj read).symm⟩)
    rintro rfl
    exact quotingAfter?_ne_escapeInDouble c changes

/-- Outside of quotes no other character adds to a word. -/
theorem weight_of_not_stands (special : standsAfter word c = false)
    (read : step noParameters ⟨.none, word, tokens⟩ c = some next) :
    next.weight ≤ weight ⟨.none, word, tokens⟩ := by
  obtain stands | ⟨quoting, other, rfl | rfl⟩ | rfl | ⟨ending, rfl⟩ := stepUnquoted_cases read
  · rw [special] at stands
    cases stands
  · rw [weight_add _ _ other]
    exact Nat.le_add_right _ _
  · simp [weight, other]
  · exact weight_close _
  · exact weight_mark _ _

/-- One character adds at most one. -/
theorem weight_step (read : step noParameters reader c = some next) :
    next.weight ≤ reader.weight + 1 := by
  obtain ⟨quoting, word, tokens⟩ := reader
  cases quoting with
  | none =>
    cases stands : standsAfter word c with
    | true =>
      rw [step_stands stands] at read
      rw [← Option.some.inj read]
      simp [weight, Nat.add_assoc]
    | false => exact Nat.le_succ_of_le (weight_of_not_stands stands read)
  | single =>
    rw [← Option.some.inj read]
    split
    · exact Nat.le_add_right _ _
    · rw [weight_add _ _ (by decide)]
      exact Nat.le_refl _
  | double =>
    simp only [step] at read
    split_ifs at read with closing escape parameter
    · rw [← Option.some.inj read]
      exact Nat.le_add_right _ _
    · rw [← Option.some.inj read]
      exact Nat.le_refl _
    · rw [← Option.some.inj read]
      exact Nat.le_add_right _ _
    · rw [← Option.some.inj read, weight_add _ _ (by decide)]
      exact Nat.le_refl _
  | comment =>
    rw [← Option.some.inj read]
    split
    · exact Nat.le_succ_of_le (weight_mark _ _)
    · exact Nat.le_add_right _ _
  | escape =>
    rw [← Option.some.inj read]
    split
    · exact Nat.le_add_right _ _
    · rw [weight_add _ _ (by decide)]
      exact Nat.le_refl _
  | escapeInDouble =>
    -- the backslash has been counted already, so that it and this character add one together
    rw [← Option.some.inj read]
    split
    · rw [weight_add _ _ (by decide)]
      exact Nat.le_add_right _ _
    · split
      · exact Nat.le_add_right_of_le (Nat.le_add_right _ _)
      · rw [weight_add _ _ (by decide)]
        exact Nat.le_refl _
  | parameter => cases read
  | parameterInDouble => cases read
  | half mark =>
    cases mark with
    | sequel => cases read
    | onSuccess | onFailure =>
      obtain ⟨-, same⟩ := Option.ite_none_right_eq_some.mp read
      rw [← Option.some.inj same]
      exact Nat.le_succ_of_le (weight_mark _ _)

theorem weight_foldlM {cs : List Char} {final : TokenReader}
    (read : cs.foldlM (step noParameters) reader = some final) :
    final.weight ≤ reader.weight + cs.length := by
  induction cs generalizing reader with
  | nil =>
    rw [← Option.some.inj read]
    exact Nat.le_refl _
  | cons c cs inductionHypothesis =>
    rw [List.foldlM_cons] at read
    obtain ⟨next, first, rest⟩ := Option.bind_eq_some_iff.mp read
    have here := weight_step first
    have later := inductionHypothesis rest
    rw [List.length_cons]
    omega

/-- If no character is lost each of them stands for itself, so that none is in quotes. -/
theorem standsFrom_of_weight {cs : List Char} {final : TokenReader}
    (read : cs.foldlM (step noParameters) ⟨.none, word, tokens⟩ = some final)
    (full : weight ⟨.none, word, tokens⟩ + cs.length ≤ final.weight) :
    standsFrom word cs = true := by
  induction cs generalizing word with
  | nil => rfl
  | cons c cs inductionHypothesis =>
    rw [List.foldlM_cons] at read
    obtain ⟨next, first, rest⟩ := Option.bind_eq_some_iff.mp read
    have later := weight_foldlM rest
    rw [List.length_cons] at full
    cases stands : standsAfter word c with
    | false =>
      have here := weight_of_not_stands stands first
      omega
    | true =>
      rw [step_stands stands] at first
      obtain rfl := Option.some.inj first
      rw [standsFrom, stands, Bool.true_and]
      apply inductionHypothesis rest
      have grown : weight ⟨.none, some (word.getD [] ++ [c]), tokens⟩ =
          weight ⟨.none, word, tokens⟩ + 1 := by
        simp [weight, Nat.add_assoc]
      omega

theorem totalWeight_finish {read : List Token} (finished : reader.finish = some read) :
    totalWeight read ≤ reader.weight := by
  obtain ⟨-, same⟩ := Option.ite_none_right_eq_some.mp finished
  rw [← Option.some.inj same, totalWeight_close]
  exact Nat.le_add_right _ _

/-- What is typed of a text is read as this text, all in one word, only if all of it is typed and
every character stands for itself. -/
theorem read_as_word_iff {typed wanted : List Char} (begins : typed <+: wanted)
    (nonempty : wanted ≠ []) (tokens : List Token) :
    (typed.foldlM (step noParameters) ⟨.none, none, tokens⟩).bind finish =
        some (tokens ++ [.word (String.ofList wanted)]) ↔
      typed = wanted ∧ Literal wanted := by
  rw [← standsFrom_none_iff]
  constructor
  · intro read
    obtain ⟨final, folded, finished⟩ := Option.bind_eq_some_iff.mp read
    have arrived := totalWeight_finish finished
    have atMost := weight_foldlM folded
    have shorter := begins.length_le
    have start : weight ⟨.none, none, tokens⟩ = totalWeight tokens := by
      simp [weight]
    rw [totalWeight_append, totalWeight_word, String.length_ofList] at arrived
    have whole : typed = wanted := begins.eq_of_length (by omega)
    subst whole
    exact ⟨rfl, standsFrom_of_weight folded (by omega)⟩
  · rintro ⟨rfl, stands⟩
    rw [foldlM_stands nonempty stands]
    simp [finish, close]

end TokenReader

end TmuxPlan.Shell
