import TmuxPlan.Command
import TmuxPlan.Proofs.Session.Digits

/-!
What tmux commands are aimed at. A session is named by its name and a pane by its coordinate. A name
holds neither a colon nor a point and a number holds digits only, so a coordinate can be taken apart
at its first colon and the first point behind it, and is never taken for the name of a session.
-/

set_option autoImplicit false

namespace TmuxPlan

namespace Text

/-- What stands before the first separator, and what stands behind it. -/
def cutFirst? (separator : Char) : List Char → Option (List Char × List Char)
  | [] => none
  | c :: cs =>
    if c = separator then some ([], cs)
    else (cutFirst? separator cs).map fun (before, behind) => (c :: before, behind)

theorem cutFirst?_append {separator : Char} {before : List Char} (clear : separator ∉ before)
    (behind : List Char) :
    cutFirst? separator (before ++ separator :: behind) = some (before, behind) := by
  induction before with
  | nil => simp [cutFirst?]
  | cons c before inductionHypothesis =>
    rw [List.mem_cons, not_or] at clear
    rw [List.cons_append, cutFirst?, if_neg (Ne.symm clear.1), inductionHypothesis clear.2,
      Option.map_some]

theorem point_not_mem_word32Text (word : UInt32) : '.' ∉ (word32Text word).toList := by
  intro point
  simpa using (denotes_word32Text word).ne_point _ point

end Text

namespace SessionName

theorem text_inj {one other : SessionName} : one.text = other.text ↔ one = other := by
  cases one
  cases other
  simp

theorem not_isUsable_iff {text : String} :
    ¬ SessionName.isUsable text = true ↔
      text = "" ∨ ∃ c ∈ text.toList, c = '.' ∨ c = ':' ∨ c = ' ' := by
  have clear : SessionName.isUsable text = true ↔
      ¬ (text = "" ∨ ∃ c ∈ text.toList, c = '.' ∨ c = ':' ∨ c = ' ') := by
    rw [SessionName.isUsable_iff]
    simp only [not_or, not_exists, not_and, ne_eq]
  rw [clear, Classical.not_not]

theorem colon_not_mem (name : SessionName) : ':' ∉ name.text.toList := by
  intro colon
  obtain ⟨-, clear⟩ := SessionName.isUsable_iff.mp name.usable
  exact (clear ':' colon).2.1 rfl

end SessionName

namespace PaneCoordinate

/-- The parts of a coordinate: up to the first colon, from there to the first point, and the rest. -/
def cut? (text : String) : Option (List Char × List Char × List Char) := do
  let (session, address) ← Text.cutFirst? ':' text.toList
  let (window, pane) ← Text.cutFirst? '.' address
  return (session, window, pane)

/-- The coordinate that has these parts. -/
def ofText? (text : String) : Option PaneCoordinate := do
  let (session, window, pane) ← cut? text
  let name ← (SessionName.ofText (String.ofList session)).toOption
  return ⟨name, ← Text.word32? window, ← Text.word32? pane⟩

theorem toList_text (coordinate : PaneCoordinate) :
    coordinate.text.toList = coordinate.session.text.toList ++
      ':' :: ((Text.word32Text coordinate.window).toList ++
        '.' :: (Text.word32Text coordinate.pane).toList) := by
  simp [text]

theorem cut?_text (coordinate : PaneCoordinate) :
    cut? coordinate.text = some (coordinate.session.text.toList,
      (Text.word32Text coordinate.window).toList, (Text.word32Text coordinate.pane).toList) := by
  have atColon := Text.cutFirst?_append coordinate.session.colon_not_mem
  have atPoint := Text.cutFirst?_append (Text.point_not_mem_word32Text coordinate.window)
  rw [cut?, coordinate.toList_text, atColon]
  show (Text.cutFirst? '.' _).bind _ = _
  rw [atPoint]
  rfl

theorem ofText?_text (coordinate : PaneCoordinate) : ofText? coordinate.text = some coordinate := by
  have named := SessionName.ofText_eq_ok_iff.mpr (rfl : coordinate.session.text = _)
  have window := Text.word32?_eq_some_iff.mpr (Text.denotes_word32Text coordinate.window)
  have pane := Text.word32?_eq_some_iff.mpr (Text.denotes_word32Text coordinate.pane)
  simp [ofText?, cut?_text, named, window, pane, Except.toOption]

theorem text_inj {one other : PaneCoordinate} : one.text = other.text ↔ one = other := by
  constructor
  · intro same
    rw [← Option.some_inj, ← one.ofText?_text, same, other.ofText?_text]
  · exact congrArg text

theorem text_ne_name (coordinate : PaneCoordinate) (name : SessionName) :
    coordinate.text ≠ name.text := by
  intro same
  apply name.colon_not_mem
  rw [← same, coordinate.toList_text]
  simp

end PaneCoordinate

/-- What a command is aimed at: a session as a whole, or one pane. -/
inductive Target where
  | session (name : SessionName)
  | pane (coordinate : PaneCoordinate)
  deriving DecidableEq

def Target.text : Target → String
  | .session name => name.text
  | .pane coordinate => coordinate.text

theorem Target.text_inj {one other : Target} : one.text = other.text ↔ one = other := by
  cases one with
  | session name =>
    cases other with
    | session otherName => simp [Target.text, SessionName.text_inj]
    | pane coordinate => simpa [Target.text] using (coordinate.text_ne_name name).symm
  | pane coordinate =>
    cases other with
    | session name => simpa [Target.text] using coordinate.text_ne_name name
    | pane otherCoordinate => simp [Target.text, PaneCoordinate.text_inj]

/-- Starting a session and setting a global option are aimed at nothing that is there. -/
def Command.target? : Command → Option Target
  | .newWindow session _ | .splitRow session | .splitPane session _ | .setSynchronize session _
  | .selectLayout session _ => some (.session session)
  | .sendKeys coordinate _ _ | .selectPane coordinate | .attach coordinate =>
    some (.pane coordinate)
  | .newSession _ _ | .setGlobalOption _ _ => none

theorem Command.target_infix_args {command : Command} {target : Target}
    (aimed : command.target? = some target) : ["-t", target.text] <:+: command.args := by
  cases command <;> cases aimed
  case newWindow session window => exact ⟨["new-window"], ["-n", window], rfl⟩
  case splitRow session => exact ⟨["split-window", "-f"], [], rfl⟩
  case splitPane session direction => exact ⟨["split-window", direction.flag], [], rfl⟩
  case sendKeys coordinate text enter => exact ⟨["send-keys"], _, rfl⟩
  case setSynchronize session on => exact ⟨["set-option"], _, rfl⟩
  case selectLayout session layout => exact ⟨["select-layout"], [layout.name], rfl⟩
  case selectPane coordinate => exact ⟨["select-pane"], [], rfl⟩
  case attach coordinate => exact ⟨["attach"], [], rfl⟩

/-- Cut at the first colon and the first point behind it, a coordinate gives back its session and
its two numbers as they are written. So no two coordinates are shown alike, and none is shown like a
session, whichever commands are aimed at them. The names refused for a session are the empty one and
those with a point, a colon or a space in them. -/
theorem targets_are_unambiguous :
    (∀ coordinate : PaneCoordinate,
      PaneCoordinate.cut? coordinate.text = some (coordinate.session.text.toList,
        (Text.word32Text coordinate.window).toList, (Text.word32Text coordinate.pane).toList) ∧
      PaneCoordinate.ofText? coordinate.text = some coordinate) ∧
    (∀ one other : Target, one.text = other.text ↔ one = other) ∧
    (∀ (command : Command) (target : Target), command.target? = some target →
      ["-t", target.text] <:+: command.args) ∧
    (∀ (text : String) (name : SessionName),
      SessionName.ofText text = .ok name ↔ name.text = text) ∧
    ∀ (text : String) (cause : Error), SessionName.ofText text = .error cause ↔
      cause = .invalidSessionName text ∧
        (text = "" ∨ ∃ c ∈ text.toList, c = '.' ∨ c = ':' ∨ c = ' ') := by
  refine ⟨?_, ?_, ?_, ?_, ?_⟩
  · intro coordinate
    exact ⟨coordinate.cut?_text, coordinate.ofText?_text⟩
  · intro one other
    exact Target.text_inj
  · intro command target aimed
    exact Command.target_infix_args aimed
  · intro text name
    exact SessionName.ofText_eq_ok_iff
  · intro text cause
    rw [SessionName.ofText_eq_error_iff, SessionName.not_isUsable_iff]

/-- Attaching to a pane of a session whose name looks like a number. -/
theorem targets_are_unambiguous_attach :
    ∃ (command : Command) (target : Target), command.target? = some target ∧
      target.text = "1:0.13" ∧ ["-t", target.text] <:+: command.args := by
  let coordinate : PaneCoordinate := ⟨⟨"1", by decide⟩, 0, 13⟩
  exact ⟨.attach coordinate, .pane coordinate, rfl, by decide +kernel,
    targets_are_unambiguous.2.2.1 _ _ rfl⟩

end TmuxPlan
