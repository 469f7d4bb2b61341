import TmuxPlan.Shell.Quote
import TmuxPlan.Shell.Token

/-!
Reading back what was quoted. The text is read as one in which no shell expands anything: it is
refused if a character that some shell takes for more than itself in some place stands outside of
quotes, also where it would be harmless. Whatever text is quoted, the reader comes out of it with
this text added to the word it is in.
-/

set_option autoImplicit false

namespace TmuxPlan.Shell

/-- Characters that a shell may take for more than themselves outside of quotes, apart from those
that separate and quote. Some of them are special in some places or to some shells only. -/
def isActive (c : Char) : Bool :=
  "\"$\x60|&;<>()*?[]\x7b\x7d~#!^".toList.contains c

/-- Reads on, unless an active character stands outside of quotes. -/
def TokenReader.literalStep (reader : TokenReader) (c : Char) : Option TokenReader :=
  if reader.quoting = .none && isActive c then none else reader.step noParameters c

/-- The tokens of a text in which nothing can be expanded. -/
def literalTokens? (text : String) : Option (List Token) := do
  (← text.toList.foldlM TokenReader.literalStep {}).finish

/-- The simple commands of a text in which nothing can be expanded, as their words. -/
def simpleCommands? (text : String) : Option (List (List String)) :=
  (literalTokens? text).map fun tokens =>
    ((commandsOf .sequel [] tokens).map Prod.snd).filter (· ≠ [])

/-! ### Reading in parts -/

section

variable {α β : Type} {step : β → α → Option β} {state next : β}

theorem foldlM_cons_of_eq_some {head : α} {tail : List α} (read : step state head = some next) :
    (head :: tail).foldlM step state = tail.foldlM step next := by
  rw [List.foldlM_cons, read]
  rfl

theorem foldlM_append_of_eq_some {first second : List α}
    (read : first.foldlM step state = some next) :
    (first ++ second).foldlM step state = second.foldlM step next := by
  rw [List.foldlM_append, read]
  rfl

end

/-! ### Characters of a list -/

section

variable {chars : List Char} {holds : Char → Bool} {c : Char}

theorem holds_of_contains (each : chars.all holds = true) (listed : chars.contains c = true) :
    holds c = true :=
  List.all_eq_true.mp each c (List.contains_iff_mem.mp listed)

theorem contains_eq_false (none : (chars.all fun d => !holds d) = true) (held : holds c = true) :
    chars.contains c = false := by
  rw [← Bool.not_eq_true]
  intro listed
  have unheld := holds_of_contains none listed
  rw [held] at unheld
  cases unheld

end

/-! ### Characters that stand for themselves -/

/-- Characters that a shell takes for more than themselves wherever they stand outside of quotes. -/
def specials : List Char :=
  "|&;<>()$\x60\\\"' \t\n*?".toList

def isSpecial (c : Char) : Bool :=
  specials.contains c

/-- Whether a character stands for itself after the given part of a word. -/
def standsAfter (word : Option (List Char)) (c : Char) : Bool :=
  !isSpecial c && !(c = '#' && word.isNone) && !isUnreadAfter word c

theorem isSpecial_iff (c : Char) :
    isSpecial c = true ↔ (c = ' ' ∨ c = '\t') ∨ (c = '\n' ∨ c = ';') ∨ isUnread c = true ∨
      (quotingAfter? c).isSome = true := by
  constructor
  · intro special
    have kinds : (specials.all fun d => (d = ' ' || d = '\t') || (d = '\n' || d = ';') ||
        isUnread d || (quotingAfter? d).isSome) = true := by
      decide
    have kind := holds_of_contains kinds special
    simpa only [Bool.or_eq_true, decide_eq_true_eq, or_assoc] using kind
  · rintro ((rfl | rfl) | (rfl | rfl) | unread | changes)
    · rfl
    · rfl
    · rfl
    · rfl
    · exact holds_of_contains (by decide) unread
    · unfold quotingAfter? at changes
      split at changes <;> first | rfl | cases changes

theorem TokenReader.step_stands {word : Option (List Char)} {c : Char}
    (stands : standsAfter word c = true) (parameters : Parameters) (tokens : List Token) :
    step parameters ⟨.none, word, tokens⟩ c =
      some ⟨.none, some (word.getD [] ++ [c]), tokens⟩ := by
  simp only [standsAfter, Bool.and_eq_true, Bool.not_eq_true'] at stands
  obtain ⟨⟨plain, uncommented⟩, unexpanded⟩ := stands
  have ordinary := mt (isSpecial_iff c).mpr (by simp [plain])
  simp only [not_or, Bool.not_eq_true, Option.isSome_eq_false_iff, Option.isNone_iff_eq_none]
    at ordinary
  obtain ⟨⟨space, tab⟩, ⟨lineFeed, semicolon⟩, unread, unchanged⟩ := ordinary
  simp [step, stepUnquoted, space, tab, lineFeed, semicolon, uncommented, unread, unexpanded,
    unchanged, add]

/-! ### Inert characters -/

/-- Characters that a shell takes for themselves outside of quotes, in every place. -/
def isInert (c : Char) : Bool :=
  !isActive c && !" \t\n'\\".toList.contains c

theorem isActive_eq_false_of_isInert {c : Char} (inert : isInert c = true) :
    isActive c = false := by
  simpa using (Bool.and_eq_true_iff.mp inert).1

theorem standsAfter_of_isInert (word : Option (List Char)) {c : Char} (inert : isInert c = true) :
    standsAfter word c = true := by
  have apart (d : Char) (active : isInert d = false) : c ≠ d := by
    rintro rfl
    rw [inert] at active
    cases active
  have plain : isSpecial c = false := contains_eq_false (by decide) inert
  simp [standsAfter, isUnreadAfter, plain, apart '#' rfl, apart '~' rfl, apart ']' rfl]

theorem isInert_of_isPlain {c : Char} (plain : isPlain c = true) : isInert c = true := by
  rw [isInert, isActive, contains_eq_false (by decide) plain,
    contains_eq_false (by decide) plain]
  rfl

namespace TokenReader

variable (word : Option (List Char)) (tokens : List Token)

theorem literalStep_inert {c : Char} (inert : isInert c = true) :
    literalStep ⟨.none, word, tokens⟩ c = some ⟨.none, some (word.getD [] ++ [c]), tokens⟩ := by
  rw [literalStep, isActive_eq_false_of_isInert inert]
  exact step_stands (standsAfter_of_isInert word inert) noParameters tokens

theorem foldlM_inert (w cs : List Char) (inert : ∀ c ∈ cs, isInert c = true) :
    cs.foldlM literalStep ⟨.none, some w, tokens⟩ = some ⟨.none, some (w ++ cs), tokens⟩ := by
  induction cs generalizing w with
  | nil => simp
  | cons c cs inductionHypothesis =>
    obtain ⟨first, later⟩ := List.forall_mem_cons.mp inert
    rw [foldlM_cons_of_eq_some (literalStep_inert _ _ first)]
    simpa using inductionHypothesis (w ++ [c]) later

/-- Inert characters are a word as they stand. -/
theorem foldlM_inertWord {cs : List Char} (nonempty : cs ≠ [])
    (inert : ∀ c ∈ cs, isInert c = true) :
    cs.foldlM literalStep ⟨.none, none, tokens⟩ = some ⟨.none, some cs, tokens⟩ := by
  cases cs with
  | nil => exact absurd rfl nonempty
  | cons c cs =>
    obtain ⟨first, later⟩ := List.forall_mem_cons.mp inert
    rw [foldlM_cons_of_eq_some (literalStep_inert _ _ first)]
    exact foldlM_inert tokens [c] cs later

/-! ### Quoted characters -/

theorem literalStep_quoted (w : List Char) {c : Char} (inside : c ≠ '\'') :
    literalStep ⟨.single, some w, tokens⟩ c = some ⟨.single, some (w ++ [c]), tokens⟩ := by
  simp [literalStep, step, inside, add]

/-- The way out of a quotation, through an escaped quote and back into the next quotation. -/
theorem foldlM_escapedQuote (w : List Char) :
    ['\'', '\\', '\'', '\''].foldlM literalStep ⟨.single, some w, tokens⟩ =
      some ⟨.single, some (w ++ ['\'']), tokens⟩ := by
  simp [literalStep, step, stepUnquoted, isActive, isUnread, isUnreadAfter, quotingAfter?, add]

theorem foldlM_escapeQuotes (w cs : List Char) :
    (escapeQuotes cs).foldlM literalStep ⟨.single, some w, tokens⟩ =
      some ⟨.single, some (w ++ cs), tokens⟩ := by
  induction cs generalizing w with
  | nil => simp [escapeQuotes]
  | cons c cs inductionHypothesis =>
    by_cases quote : c = '\''
    · subst quote
      have escaped : escapeQuotes ('\'' :: cs) = ['\'', '\\', '\'', '\''] ++ escapeQuotes cs := rfl
      rw [escaped, foldlM_append_of_eq_some (foldlM_escapedQuote _ _)]
      simpa using inductionHypothesis (w ++ ['\''])
    · have kept : escapeQuotes (c :: cs) = c :: escapeQuotes cs := by
        rw [escapeQuotes]
        simpa using quote
      rw [kept, foldlM_cons_of_eq_some (literalStep_quoted _ _ quote)]
      simpa using inductionHypothesis (w ++ [c])

/-- A quoted text is taken for exactly this text, whether it had to be quoted or not. -/
theorem foldlM_quoteChars (cs : List Char) :
    (quoteChars cs).foldlM literalStep ⟨.none, none, tokens⟩ = some ⟨.none, some cs, tokens⟩ := by
  unfold quoteChars
  split
  · rename_i plain
    simp only [Bool.and_eq_true, Bool.not_eq_true', List.isEmpty_eq_false_iff,
      List.all_eq_true] at plain
    obtain ⟨nonempty, plain⟩ := plain
    exact foldlM_inertWord tokens nonempty fun c held => isInert_of_isPlain (plain c held)
  · have opens : literalStep ⟨.none, none, tokens⟩ '\'' = some ⟨.single, some [], tokens⟩ := rfl
    rw [foldlM_cons_of_eq_some opens, foldlM_append_of_eq_some (foldlM_escapeQuotes _ _ _)]
    rfl

end TokenReader

/-- A quoted text is one word, and the word is this text. -/
theorem literalTokens?_quote (text : String) : literalTokens? (quote text) = some [.word text] := by
  have read := TokenReader.foldlM_quoteChars [] text.toList
  simp only [literalTokens?, quote, String.toList_ofList]
  rw [read]
  simp [TokenReader.finish, TokenReader.close]

/-- What is read where nothing is expanded is read so whatever the parameters are. -/
theorem TokenReader.step_of_literalStep {reader next : TokenReader} {c : Char}
    (read : literalStep reader c = some next) (parameters : Parameters) :
    step parameters reader c = some next := by
  obtain ⟨-, read⟩ := Option.ite_none_left_eq_some.mp read
  obtain ⟨quoting, word, tokens⟩ := reader
  cases quoting with
  | parameter | parameterInDouble => cases read
  | half mark => cases mark <;> exact read
  | _ => exact read

theorem TokenReader.foldlM_of_literalStep {cs : List Char} {reader final : TokenReader}
    (read : cs.foldlM literalStep reader = some final) (parameters : Parameters) :
    cs.foldlM (step parameters) reader = some final := by
  induction cs generalizing reader with
  | nil => exact read
  | cons c cs inductionHypothesis =>
    rw [List.foldlM_cons] at read
    obtain ⟨next, first, later⟩ := Option.bind_eq_some_iff.mp read
    rw [foldlM_cons_of_eq_some (step_of_literalStep first parameters)]
    exact inductionHypothesis later

/-- The stricter reading agrees with that of a script: it only refuses more. -/
theorem tokens?_of_literalTokens? {text : String} {tokens : List Token}
    (read : literalTokens? text = some tokens) (parameters : Parameters) :
    tokens? parameters text = some tokens := by
  obtain ⟨final, folded, finished⟩ := Option.bind_eq_some_iff.mp read
  exact Option.bind_eq_some_iff.mpr
    ⟨final, TokenReader.foldlM_of_literalStep folded parameters, finished⟩

/-! ### Lines -/

def lineChars (program : String) (args : List String) : List Char :=
  program.toList ++ args.flatMap fun arg => ' ' :: quoteChars arg.toList

theorem toList_line (program : String) (args : List String) :
    (line program args).toList = lineChars program args := by
  induction args generalizing program with
  | nil => simp [line, lineChars]
  | cons arg args inductionHypothesis =>
    have further : line program (arg :: args) = line (program ++ " " ++ quote arg) args := rfl
    rw [further, inductionHypothesis]
    simp [lineChars, quote]

namespace TokenReader

/-- The arguments of a line add a word each, and the line feed after them ends the command. -/
theorem foldlM_arguments (tokens : List Token) (w : List Char) (args : List String) :
    ((args.flatMap fun arg => ' ' :: quoteChars arg.toList) ++ ['\n']).foldlM literalStep
        ⟨.none, some w, tokens⟩ =
      some ⟨.none, none, tokens ++ .word (String.ofList w) :: args.map .word ++ [.mark .sequel]⟩ := by
  induction args generalizing w tokens with
  | nil => simp [literalStep, step, stepUnquoted, isActive, mark, close]
  | cons arg args inductionHypothesis =>
    have blank : literalStep ⟨.none, some w, tokens⟩ ' ' =
        some ⟨.none, none, tokens ++ [.word (String.ofList w)]⟩ := by
      rfl
    rw [List.flatMap_cons, List.append_assoc, List.cons_append, foldlM_cons_of_eq_some blank,
      foldlM_append_of_eq_some (foldlM_quoteChars _ _), inductionHypothesis]
    simp

end TokenReader

end TmuxPlan.Shell
