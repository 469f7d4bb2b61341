import TmuxPlan.Proofs.Shell.Words
import TmuxPlan.Replay

/-!
What is printed can be pasted into a shell. The listing is an empty line and one line for every
command. Read with nothing to expand it falls into exactly the commands that are listed, each with its
arguments as they are, also where an argument holds line feeds or quotes of its own.
-/

set_option autoImplicit false

namespace TmuxPlan

open Shell

namespace Shell

/-- The words of one command, and the end of it. -/
def commandTokens (words : List String) : List Token :=
  words.map .word ++ [.mark .sequel]

theorem foldlM_lineChars (program : String) (plain : program.toList.all isPlain = true)
    (nonempty : program ≠ "") (args : List String) (tokens : List Token) :
    (lineChars program args ++ ['\n']).foldlM TokenReader.literalStep ⟨.none, none, tokens⟩ =
      some ⟨.none, none, tokens ++ commandTokens (program :: args)⟩ := by
  rw [List.all_eq_true] at plain
  rw [lineChars, List.append_assoc,
    foldlM_append_of_eq_some (TokenReader.foldlM_inertWord tokens (by simpa using nonempty)
      fun c held => isInert_of_isPlain (plain c held)),
    TokenReader.foldlM_arguments, String.ofList_toList]
  simp [commandTokens]

theorem commandsOf_words (mark : Mark) (begun words : List String) (rest : List Token) :
    commandsOf mark begun (commandTokens words ++ rest) =
      (mark, begun ++ words) :: commandsOf .sequel [] rest := by
  induction words generalizing begun with
  | nil => simp [commandTokens, commandsOf]
  | cons word words inductionHypothesis =>
    have further : commandTokens (word :: words) = .word word :: commandTokens words := rfl
    rw [further, List.cons_append, commandsOf, inductionHypothesis]
    simp

theorem commandsOf_flatMap (commands : List (List String)) :
    (commandsOf .sequel [] (commands.flatMap commandTokens)).map Prod.snd = commands ++ [[]] := by
  induction commands with
  | nil => rfl
  | cons words commands inductionHypothesis =>
    rw [List.flatMap_cons, commandsOf_words, List.map_cons, inductionHypothesis]
    rfl

end Shell

namespace Command

def words (command : Command) : List String :=
  "tmux" :: command.args

theorem toList_line (command : Command) : command.line.toList = lineChars "tmux" command.args :=
  Shell.toList_line "tmux" command.args

theorem foldlM_line (command : Command) (tokens : List Token) :
    (command.line.toList ++ ['\n']).foldlM TokenReader.literalStep ⟨.none, none, tokens⟩ =
      some ⟨.none, none, tokens ++ commandTokens command.words⟩ := by
  rw [toList_line, foldlM_lineChars "tmux" (by decide) (by decide)]
  rfl

/-- The line of a command determines its arguments. -/
theorem line_eq_line_iff (first second : Command) :
    first.line = second.line ↔ first.args = second.args := by
  constructor
  · intro same
    have read := first.foldlM_line []
    rw [same, second.foldlM_line []] at read
    have sameWords : second.words.map Token.word = first.words.map Token.word := by
      simpa [commandTokens] using read
    have sameTexts := (List.map_inj_right fun _ _ => Token.word.inj).mp sameWords
    exact (List.cons.inj sameTexts).2.symm
  · intro same
    rw [line, line, same]

end Command

namespace Replay

theorem toList_listing (commands : List Command) :
    (listing commands).toList =
      '\n' :: commands.flatMap fun command => command.line.toList ++ ['\n'] := by
  have further : ∀ text : String,
      (commands.foldl (fun text command => text ++ command.line ++ "\n") text).toList =
        text.toList ++ commands.flatMap fun command => command.line.toList ++ ['\n'] := by
    induction commands with
    | nil => simp
    | cons command commands inductionHypothesis =>
      intro text
      rw [List.foldl_cons, inductionHypothesis]
      simp
  exact further "\n"

theorem foldlM_lines (commands : List Command) (tokens : List Token) :
    (commands.flatMap fun command => command.line.toList ++ ['\n']).foldlM
        TokenReader.literalStep ⟨.none, none, tokens⟩ =
      some ⟨.none, none, tokens ++ (commands.map Command.words).flatMap commandTokens⟩ := by
  induction commands generalizing tokens with
  | nil => simp
  | cons command commands inductionHypothesis =>
    rw [List.flatMap_cons, foldlM_append_of_eq_some (command.foldlM_line tokens),
      inductionHypothesis]
    simp

theorem simpleCommands?_listing (commands : List Command) :
    simpleCommands? (listing commands) = some (commands.map Command.words) := by
  have emptyLine : TokenReader.literalStep {} '\n' = some ⟨.none, none, commandTokens []⟩ := rfl
  have tokens : literalTokens? (listing commands) =
      some (([] :: commands.map Command.words).flatMap commandTokens) := by
    rw [literalTokens?, toList_listing, foldlM_cons_of_eq_some emptyLine, foldlM_lines]
    rfl
  have nonempty : ∀ words ∈ commands.map Command.words, words ≠ [] := by
    simp [Command.words]
  rw [simpleCommands?, tokens, Option.map_some, commandsOf_flatMap, List.cons_append,
    List.filter_cons, List.filter_append]
  simpa using nonempty

/-- Printed commands are faithful shell. A shell that has nothing to expand reads the listing as the
commands, each with its arguments; a quoted text is one word, and commands that differ in their
arguments differ in their lines. -/
theorem print_reads_back (commands : List Command) :
    (∃ text, (print commands).run {} = .ok () { written := Console.bytes text } ∧
      simpleCommands? text = some (commands.map fun command => "tmux" :: command.args)) ∧
    (∀ text, literalTokens? (quote text) = some [.word text]) ∧
    (∀ first second : Command, first.line = second.line ↔ first.args = second.args) := by
  refine ⟨⟨listing commands, ?_, simpleCommands?_listing commands⟩, literalTokens?_quote,
    Command.line_eq_line_iff⟩
  rfl

end Replay

end TmuxPlan
