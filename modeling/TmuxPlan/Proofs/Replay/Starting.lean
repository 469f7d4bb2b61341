import TmuxPlan.Proofs.Console.Streams
import TmuxPlan.Replay

/-!
Running commands one after another. The commands before the first that cannot be started are started,
each once and in their order, whatever becomes of them; that one command is tried and ends the replay.
What is logged says which ones were tried and which ones tmux rejected.
-/

set_option autoImplicit false

namespace TmuxPlan

/-- What a run does outside of itself. -/
inductive Deed where
  /-- A destination is asked whether it answers. -/
  | checked (destination : String)
  /-- A tmux command is started, or cannot be. -/
  | tried (command : Command)
  deriving DecidableEq

/-- What was done, as far as the event tells. The answer of a destination is logged when it is there,
a command before it is started. -/
def Log.Event.deed? : Log.Event → Option Deed
  | .reachable destination | .unreachable destination => some (.checked destination)
  | .running command => some (.tried command)
  | _ => none

namespace Replay

def Start.refusal? (command : Command) : Start → Option Error
  | .succeeded | .failed => none
  | .notStarted fault => some (.tmuxNotStarted command.kind fault)

/-! ### What a replay comes to

A command is taken together with the number of its start. -/

section

variable (runner : Runner)

def refusal? (numbered : Command × Nat) : Option Error :=
  (runner numbered.2 numbered.1).refusal? numbered.1

def startedFrom (first : Nat) (commands : List Command) : List (Command × Nat) :=
  (commands.zipIdx first).takeWhile fun numbered => (refusal? runner numbered).isNone

/-- The commands that are started and the one, if any, that cannot be. -/
def triedFrom (first : Nat) (commands : List Command) : List (Command × Nat) :=
  (commands.zipIdx first).take ((startedFrom runner first commands).length + 1)

def stopFrom? (first : Nat) (commands : List Command) : Option Error :=
  (commands.zipIdx first).findSome? (refusal? runner)

def isRejected (numbered : Command × Nat) : Bool :=
  runner numbered.2 numbered.1 = .failed

/-- What is logged about a command that is tried. -/
def reports (numbered : Command × Nat) : List Log.Event :=
  .running numbered.1 :: if isRejected runner numbered then [.rejected numbered.1] else []

def started (commands : List Command) : List Command :=
  (startedFrom runner 0 commands).map Prod.fst

/-- The commands that tmux rejects. -/
def rejected (commands : List Command) : List Command :=
  ((startedFrom runner 0 commands).filter (isRejected runner)).map Prod.fst

/-- The failure of the first command that cannot be started. -/
def stop? (commands : List Command) : Option Error :=
  stopFrom? runner 0 commands

def afterStart (command : Command) (progress : Progress) : Progress :=
  { progress with
    ran := progress.ran ++ [command]
    log := progress.log ++ reports runner (command, progress.ran.length) }

def afterRefusal (command : Command) (progress : Progress) : Progress :=
  { progress with log := progress.log ++ reports runner (command, progress.ran.length) }

/-- Where a replay arrives. -/
def arrival (commands : List Command) (progress : Progress) : Progress :=
  { progress with
    ran := progress.ran ++ (startedFrom runner progress.ran.length commands).map Prod.fst
    log := progress.log ++
      (triedFrom runner progress.ran.length commands).flatMap (reports runner) }

end

section

variable {runner : Runner} {command : Command} {commands : List Command} {first : Nat}

theorem refusal?_eq_some {cause : Error} (stops : refusal? runner (command, first) = some cause) :
    ∃ fault, runner first command = .notStarted fault ∧
      Error.tmuxNotStarted command.kind fault = cause := by
  unfold refusal? at stops
  cases outcome : runner first command with
  | succeeded => simp [outcome, Start.refusal?] at stops
  | failed => simp [outcome, Start.refusal?] at stops
  | notStarted fault => exact ⟨fault, rfl, by simpa [outcome, Start.refusal?] using stops⟩

theorem startedFrom_cons_of_none (starts : refusal? runner (command, first) = none) :
    startedFrom runner first (command :: commands) =
      (command, first) :: startedFrom runner (first + 1) commands := by
  simp [startedFrom, starts]

theorem startedFrom_cons_of_some {cause : Error}
    (stops : refusal? runner (command, first) = some cause) :
    startedFrom runner first (command :: commands) = [] := by
  simp [startedFrom, stops]

theorem triedFrom_cons_of_none (starts : refusal? runner (command, first) = none) :
    triedFrom runner first (command :: commands) =
      (command, first) :: triedFrom runner (first + 1) commands := by
  simp [triedFrom, startedFrom_cons_of_none starts]

theorem triedFrom_cons_of_some {cause : Error}
    (stops : refusal? runner (command, first) = some cause) :
    triedFrom runner first (command :: commands) = [(command, first)] := by
  simp [triedFrom, startedFrom_cons_of_some stops]

theorem stopFrom?_cons :
    stopFrom? runner first (command :: commands) =
      (refusal? runner (command, first)).or (stopFrom? runner (first + 1) commands) := by
  simp only [stopFrom?, List.zipIdx_cons, List.findSome?_cons]
  cases refusal? runner (command, first) <;> rfl

/-! ### One start, and all of them -/

theorem start_step (progress : Progress) :
    (start runner command).run progress =
      match refusal? runner (command, progress.ran.length) with
      | none => .ok () (afterStart runner command progress)
      | some cause => .error cause (afterRefusal runner command progress) := by
  cases outcome : runner progress.ran.length command <;>
    simp [start, report, afterStart, afterRefusal, reports, isRejected, refusal?, outcome,
      Start.accepted, Start.refusal?]

theorem arrival_cons_of_none {progress : Progress}
    (starts : refusal? runner (command, progress.ran.length) = none) :
    arrival runner (command :: commands) progress =
      arrival runner commands (afterStart runner command progress) := by
  simp [arrival, afterStart, startedFrom_cons_of_none starts, triedFrom_cons_of_none starts]

theorem arrival_cons_of_some {progress : Progress} {cause : Error}
    (stops : refusal? runner (command, progress.ran.length) = some cause) :
    arrival runner (command :: commands) progress = afterRefusal runner command progress := by
  simp [arrival, afterRefusal, startedFrom_cons_of_some stops, triedFrom_cons_of_some stops]

/-- The commands are run up to the first that cannot be started. -/
theorem forM_start (runner : Runner) (commands : List Command) (progress : Progress) :
    (commands.forM (start runner)).run progress =
      match stopFrom? runner progress.ran.length commands with
      | none => .ok () (arrival runner commands progress)
      | some cause => .error cause (arrival runner commands progress) := by
  induction commands generalizing progress with
  | nil => simp [arrival, startedFrom, triedFrom, stopFrom?]
  | cons command commands inductionHypothesis =>
    rw [List.forM_eq_forM, List.forM_cons, EStateM.run_bind, start_step, stopFrom?_cons]
    cases step : refusal? runner (command, progress.ran.length) with
    | none =>
      -- The number of a start is the count of the commands that ran before it.
      have counted : (afterStart runner command progress).ran.length = progress.ran.length + 1 :=
        List.length_append
      rw [arrival_cons_of_none step, Option.none_or, ← counted]
      exact inductionHypothesis _
    | some cause => rw [arrival_cons_of_some step, Option.some_or]

theorem stateOf_forM_start (runner : Runner) (commands : List Command) (progress : Progress) :
    stateOf ((commands.forM (start runner)).run progress) = arrival runner commands progress := by
  rw [forM_start]
  cases stopFrom? runner progress.ran.length commands <;> rfl

theorem failureOf_forM_start (runner : Runner) (commands : List Command) (progress : Progress) :
    failureOf ((commands.forM (start runner)).run progress) =
      stopFrom? runner progress.ran.length commands := by
  rw [forM_start]
  cases stopFrom? runner progress.ran.length commands <;> rfl

end

/-! ### What is read off a replay -/

section

variable {runner : Runner} {commands : List Command}

theorem deeds_of_reports (tried : List (Command × Nat)) :
    (tried.flatMap (reports runner)).filterMap Log.Event.deed? =
      (tried.map Prod.fst).map .tried := by
  induction tried with
  | nil => rfl
  | cons numbered tried inductionHypothesis =>
    rw [List.flatMap_cons, List.filterMap_append, inductionHypothesis]
    by_cases rejected : isRejected runner numbered <;>
      simp [reports, rejected, Log.Event.deed?]

theorem tried_eq_take :
    (triedFrom runner 0 commands).map Prod.fst =
      commands.take ((started runner commands).length + 1) := by
  rw [triedFrom, List.map_take, List.zipIdx_map_fst, started, List.length_map]

theorem warnings_eq_rejected (first : Nat) :
    ((triedFrom runner first commands).flatMap (reports runner)).filter (·.level = .warn) =
      ((startedFrom runner first commands).filter (isRejected runner)).map
        fun numbered => .rejected numbered.1 := by
  induction commands generalizing first with
  | nil => rfl
  | cons command commands inductionHypothesis =>
    cases step : refusal? runner (command, first) with
    | none =>
      rw [triedFrom_cons_of_none step, startedFrom_cons_of_none step, List.flatMap_cons,
        List.filter_append, inductionHypothesis, List.filter_cons]
      by_cases rejected : isRejected runner (command, first) <;>
        simp [reports, rejected, Log.Event.level]
    | some cause =>
      obtain ⟨fault, refused, rfl⟩ := refusal?_eq_some step
      rw [triedFrom_cons_of_some step, startedFrom_cons_of_some step]
      simp [reports, isRejected, refused, Log.Event.level]

/-- The commands that can be started ran, and nothing else is reported than the first start that
failed, the commands that were tried and those that tmux rejected. -/
structure Replayed (runner : Runner) (commands : List Command)
    (result : EStateM.Result Error Progress Unit) : Prop where
  ran : (stateOf result).ran = started runner commands
  failure : failureOf result = stop? runner commands
  tried : (stateOf result).log.filterMap Log.Event.deed? =
    (commands.take ((started runner commands).length + 1)).map .tried
  warned : (stateOf result).log.filter (·.level = .warn) =
    (rejected runner commands).map .rejected

theorem replayed_forM_start (runner : Runner) (commands : List Command) (console : Console) :
    Replayed runner commands ((commands.forM (start runner)).run { console }) where
  ran := by
    rw [stateOf_forM_start]
    rfl
  failure := failureOf_forM_start runner commands _
  tried := by
    rw [stateOf_forM_start, ← tried_eq_take]
    exact deeds_of_reports _
  warned := by
    rw [stateOf_forM_start, rejected, List.map_map]
    exact warnings_eq_rejected 0

end

end Replay

end TmuxPlan
