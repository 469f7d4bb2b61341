import TmuxPlan.Proofs.Replay.Listing
import TmuxPlan.Proofs.Replay.Starting

/-!
Consent comes before the first command. A replay that asks has written all of its question and read
one line of the input by then, and that line says yes. Everything else ends the replay before it
began, so what becomes of the commands does not matter there.
-/

set_option autoImplicit false

namespace TmuxPlan.Replay

open Console (FirstLine)

/-- An empty line, the commands line by line, and what is asked. -/
def question (commands : List Command) : String :=
  "\n" ++ String.join (commands.map fun command => command.line ++ "\n") ++
    "\nExecute these commands? [y/N] "

/-- The first line of an input says yes. -/
def SaysYes (input : List UInt8) : Prop :=
  ∃ line rest text, FirstLine input line rest ∧ Console.text? line = some text ∧
    Text.asciiLower (Text.trim text) ∈ ["y", "yes"]

section

variable (commands : List Command) (console : Console)

/-- The whole question fits on the output. -/
abbrev Fits : Prop :=
  console.Takes (Console.bytes (question commands)).length

def Consents : Prop :=
  Fits commands console ∧ SaysYes console.input

/-- Why a replay that asks ends before its first command. -/
inductive Denied : Error → Prop where
  | unshown : ¬ Fits commands console → Denied (.io .outputFull)
  | unreadable {line rest : List UInt8} :
      Fits commands console → FirstLine console.input line rest →
      Console.text? line = none → Denied (.io .notUtf8)
  | declined {line rest : List UInt8} {text : String} :
      Fits commands console → FirstLine console.input line rest →
      Console.text? line = some text →
      Text.asciiLower (Text.trim text) ∉ ["y", "yes"] → Denied .aborted

/-- All of the question is written and the line that answers it is read. -/
def asked (rest : List UInt8) : Console :=
  { console.wrote (question commands) with input := rest }

end

theorem question_eq (commands : List Command) : question commands = listing commands ++ prompt := by
  apply String.toList_inj.mp
  rw [String.toList_append, toList_listing]
  simp [question, prompt, List.flatMap_map]

theorem isConsent_iff (text : String) :
    isConsent text = true ↔ Text.asciiLower (Text.trim text) ∈ ["y", "yes"] :=
  List.contains_iff_mem

section

variable {commands : List Command} {console : Console} {line rest : List UInt8} {cause : Error}

theorem consents_iff_of_unbounded (unbounded : console.capacity = none) :
    Consents commands console ↔ SaysYes console.input := by
  simp [Consents, Console.Takes, unbounded]

/-- Without consent there is something that ends the replay, and only then. -/
theorem not_consents_iff :
    ¬ Consents commands console ↔ ∃ cause, Denied commands console cause := by
  constructor
  · intro dissents
    by_cases fits : Fits commands console
    · have first := Console.firstLine_cutLine console.input
      cases readable : Console.text? (Console.cutLine console.input).1 with
      | none => exact ⟨_, .unreadable fits first readable⟩
      | some text =>
        by_cases agrees : Text.asciiLower (Text.trim text) ∈ ["y", "yes"]
        · exact absurd ⟨fits, _, _, text, first, readable, agrees⟩ dissents
        · exact ⟨_, .declined fits first readable agrees⟩
    · exact ⟨_, .unshown fits⟩
  · rintro ⟨cause, denied⟩ ⟨fits, line, rest, text, first, readable, agrees⟩
    cases denied with
    | unshown full => exact full fits
    | unreadable _ again unreadable =>
      obtain ⟨rfl, -⟩ := first.unique again
      simp [readable] at unreadable
    | declined _ again readableAgain declines =>
      obtain ⟨rfl, -⟩ := first.unique again
      obtain rfl := Option.some.inj (readable.symm.trans readableAgain)
      exact declines agrees

/-! ### Asking -/

theorem confirm_eq (commands : List Command) (console : Console) :
    (confirm commands).run console =
      match (Console.write (question commands)).run console with
      | .ok _ shown => (do return isConsent (← Console.readLine)).run shown
      | .error cause shown => .error cause shown := by
  rw [question_eq, Console.write_append, EStateM.run_bind, confirm, print, EStateM.run_bind]
  cases (Console.write (listing commands)).run console with
  | error => rfl
  | ok _ shown =>
    dsimp only
    rw [EStateM.run_bind]
    cases (Console.write prompt).run shown <;> rfl

theorem confirm_of_fits (fits : Fits commands console)
    (first : FirstLine console.input line rest) :
    (confirm commands).run console =
      match Console.text? line with
      | some text => .ok (isConsent text) (asked commands console rest)
      | none => .error (.io .notUtf8) (asked commands console rest) := by
  have read := @Console.readLine_eq (console.wrote (question commands)) line rest first
  rw [confirm_eq, Console.write_of_takes fits]
  dsimp only
  rw [EStateM.run_bind, read]
  cases Console.text? line <;> rfl

theorem confirm_of_not_fits (full : ¬ Fits commands console) :
    (confirm commands).run console = .error (.io .outputFull) (console.filled (question commands)) := by
  rw [confirm_eq, Console.write_of_not_takes full]

theorem stateOf_confirm_of_fits (fits : Fits commands console)
    (first : FirstLine console.input line rest) :
    stateOf ((confirm commands).run console) = asked commands console rest := by
  rw [confirm_of_fits fits first]
  cases Console.text? line <;> rfl

theorem confirm_of_consents (consents : Consents commands console) :
    ∃ after, (confirm commands).run console = .ok true after := by
  obtain ⟨fits, line, rest, text, first, readable, agrees⟩ := consents
  refine ⟨asked commands console rest, ?_⟩
  rw [confirm_of_fits fits first, readable, ← (isConsent_iff text).mpr agrees]

theorem confirm_of_denied (denied : Denied commands console cause) :
    ∃ after, (confirm commands).run console = .error cause after ∨
      (confirm commands).run console = .ok false after ∧ cause = .aborted := by
  cases denied with
  | unshown full => exact ⟨_, .inl (confirm_of_not_fits full)⟩
  | @unreadable line rest fits first unreadable =>
    refine ⟨asked commands console rest, .inl ?_⟩
    rw [confirm_of_fits fits first, unreadable]
  | @declined line rest text fits first readable declines =>
    refine ⟨asked commands console rest, .inr ⟨?_, rfl⟩⟩
    have refused : isConsent text = false := by
      rw [← Bool.not_eq_true, isConsent_iff]
      exact declines
    rw [confirm_of_fits fits first, readable, ← refused]

theorem stateOf_confirm_of_not_fits (full : ¬ Fits commands console) :
    stateOf ((confirm commands).run console) = console.filled (question commands) := by
  rw [confirm_of_not_fits full]
  rfl

theorem written_of_confirm (commands : List Command) (console : Console) :
    ∃ part, part <+: Console.bytes (question commands) ∧
      (stateOf ((confirm commands).run console)).written = console.written ++ part := by
  by_cases fits : Fits commands console
  · rw [stateOf_confirm_of_fits fits (Console.firstLine_cutLine _)]
    exact ⟨_, List.prefix_rfl, rfl⟩
  · rw [stateOf_confirm_of_not_fits fits]
    exact ⟨_, Console.accepted_prefix, rfl⟩

end

/-! ### Replaying -/

section

variable {runner : Runner} {commands : List Command} {progress : Progress}

theorem execute_unasked :
    (execute false runner commands).run progress = (commands.forM (start runner)).run progress :=
  rfl

theorem run_atConsole {α : Type} (step : EStateM Error Console α) :
    (atConsole step).run progress =
      match step.run progress.console with
      | .ok value console => .ok value { progress with console }
      | .error cause console => .error cause { progress with console } :=
  rfl

theorem execute_asking :
    (execute true runner commands).run progress =
      match (confirm commands).run progress.console with
      | .ok true console => (commands.forM (start runner)).run { progress with console }
      | .ok false console => .error .aborted { progress with console }
      | .error cause console => .error cause { progress with console } := by
  simp only [execute, if_true, EStateM.run_bind, run_atConsole]
  cases (confirm commands).run progress.console with
  | error cause console => rfl
  | ok agreed console =>
    cases agreed with
    | true => simp
    | false => simp

/-- The replay of commands that were agreed to. -/
theorem execute_of_consents (consents : Consents commands progress.console) :
    (execute true runner commands).run progress =
      (commands.forM (start runner)).run
        { progress with console := stateOf ((confirm commands).run progress.console) } := by
  obtain ⟨after, confirmed⟩ := confirm_of_consents consents
  rw [execute_asking, confirmed]
  rfl

theorem execute_of_denied {cause : Error} (denied : Denied commands progress.console cause) :
    (execute true runner commands).run progress = .error cause
      { progress with console := stateOf ((confirm commands).run progress.console) } := by
  obtain ⟨after, failed | ⟨declined, rfl⟩⟩ := confirm_of_denied denied
  · rw [execute_asking, failed]
    rfl
  · rw [execute_asking, declined]
    rfl

theorem console_of_execute_unasked :
    (stateOf ((execute false runner commands).run progress)).console = progress.console := by
  rw [execute_unasked, stateOf_forM_start]
  rfl

theorem console_of_execute_asking :
    (stateOf ((execute true runner commands).run progress)).console =
      stateOf ((confirm commands).run progress.console) := by
  by_cases consents : Consents commands progress.console
  · rw [execute_of_consents consents, stateOf_forM_start]
    rfl
  · obtain ⟨cause, denied⟩ := not_consents_iff.mp consents
    rw [execute_of_denied denied]
    rfl

end

section

variable (interactive : Bool) (runner : Runner) (commands : List Command)

theorem replayed_of_allowed (console : Console)
    (allowed : interactive = true → Consents commands console) :
    Replayed runner commands ((execute interactive runner commands).run { console }) := by
  cases interactive with
  | false => exact replayed_forM_start runner commands console
  | true =>
    rw [execute_of_consents (allowed rfl)]
    exact replayed_forM_start runner commands _

/-- No command is tried before the answer to the whole question said yes, if there is a question.
The output holds a part of that question at most, and of the input one line is read at most. Once the
commands may run, they run in their order up to the first that cannot be started, and a warning is
logged for those that tmux rejects. -/
theorem replay_needs_consent (capacity : Option Nat) (input : List UInt8) :
    let console : Console := { capacity, input }
    let result := (execute interactive runner commands).run { console }
    let progress := stateOf result
    (progress.console.written <+: if interactive then Console.bytes (question commands) else []) ∧
    (interactive = true → Fits commands console → ∃ line rest, FirstLine input line rest ∧
      progress.console = asked commands console rest) ∧
    (¬ (interactive = true ∧ Fits commands console) → progress.console.input = input) ∧
    (interactive = true → ¬ Consents commands console →
      (∃ cause, Denied commands console cause ∧ failureOf result = some cause) ∧
      progress.ran = [] ∧ progress.log = [] ∧
      ∀ other, (execute interactive other commands).run { console } = result) ∧
    ((interactive = true → Consents commands console) → Replayed runner commands result) := by
  intro console result progress
  refine ⟨?written, ?asking, ?unread, ?denied, replayed_of_allowed _ _ _ console⟩
  case written =>
    cases interactive with
    | false =>
      have same : progress.console = console := console_of_execute_unasked
      rw [same]
      exact List.prefix_rfl
    | true =>
      have same : progress.console = stateOf ((confirm commands).run console) :=
        console_of_execute_asking
      obtain ⟨part, isPart, written⟩ := written_of_confirm commands console
      rw [same, written]
      exact isPart
  case asking =>
    rintro rfl fits
    have first := Console.firstLine_cutLine input
    exact ⟨_, _, first, console_of_execute_asking.trans (stateOf_confirm_of_fits fits first)⟩
  case unread =>
    intro unasked
    cases interactive with
    | false => exact congrArg Console.input console_of_execute_unasked
    | true =>
      have full : ¬ Fits commands console := fun fits => unasked ⟨rfl, fits⟩
      exact congrArg Console.input
        (console_of_execute_asking.trans (stateOf_confirm_of_not_fits full))
  case denied =>
    rintro rfl dissents
    obtain ⟨cause, denied⟩ := not_consents_iff.mp dissents
    -- The runner is not asked anything, so every runner gives the same result.
    have ended : ∀ other, (execute true other commands).run { console } = .error cause
        { console := stateOf ((confirm commands).run console) } :=
      fun other => execute_of_denied denied
    have endedHere : result = _ := ended runner
    refine ⟨⟨cause, denied, ?_⟩, ?_, ?_, ?_⟩
    · rw [endedHere]
      rfl
    · simp only [progress, endedHere, stateOf]
    · simp only [progress, endedHere, stateOf]
    · intro other
      rw [ended other, endedHere]

end

end TmuxPlan.Replay
