import TmuxPlan.Error
import TmuxPlan.Text.Blank

/-!
The addresses tmux understands: session names, the focused pane, and the coordinate
`session:window.pane` of one pane.
-/

set_option autoImplicit false

namespace TmuxPlan

/-- Characters that separate the parts of a tmux target. -/
def SessionName.isSeparator (c : Char) : Bool :=
  c == '.' || c == ':' || c == ' '

def SessionName.isUsable (text : String) : Bool :=
  !text.toList.isEmpty && !text.toList.any SessionName.isSeparator

/-- A name that tmux can target: not empty, and free of the target separators. -/
structure SessionName where
  text : String
  usable : SessionName.isUsable text = true
  deriving DecidableEq

def SessionName.ofText (text : String) : Except Error SessionName :=
  if usable : SessionName.isUsable text = true then .ok ⟨text, usable⟩
  else .error (.invalidSessionName text)

structure PaneFocus where
  window : UInt32 := 0
  pane : UInt32 := 0
  deriving DecidableEq, Repr

namespace PaneFocus

/-- Two runs of digits with a point between them, each a 32-bit number. -/
def ofText? (text : String) : Option PaneFocus := do
  let cs := text.toList
  let window ← Text.word32? (cs.takeWhile (· ≠ '.'))
  match cs.dropWhile (· ≠ '.') with
  | [] => none
  | _ :: rest =>
    let pane ← Text.word32? rest
    some ⟨window, pane⟩

def ofText (text : String) : Except Error PaneFocus :=
  match ofText? text with
  | some focus => .ok focus
  | none => .error (.invalidFocus text)

def text (focus : PaneFocus) : String :=
  Text.word32Text focus.window ++ "." ++ Text.word32Text focus.pane

end PaneFocus

structure PaneCoordinate where
  session : SessionName
  window : UInt32
  pane : UInt32
  deriving DecidableEq

def PaneCoordinate.text (target : PaneCoordinate) : String :=
  target.session.text ++ ":" ++ Text.word32Text target.window ++ "." ++
    Text.word32Text target.pane

/-- Which way a pane is split: the new pane to the right, or below. -/
inductive SplitDirection where
  | horizontal
  | vertical
  deriving DecidableEq, Repr

namespace SplitDirection

def flag : SplitDirection → String
  | .horizontal => "-h"
  | .vertical => "-v"

/-- Blanks around the spelling do not count; an error names the spelling without them. -/
def ofText (text : String) : Except Error SplitDirection :=
  let spelling := Text.trim text
  if ["horizontal", "h", "-h"].contains spelling then .ok .horizontal
  else if ["vertical", "v", "-v"].contains spelling then .ok .vertical
  else .error (.invalidSplit spelling)

/-- Horizontal where none is asked for. -/
def ofText? : Option String → Except Error SplitDirection
  | none => .ok .horizontal
  | some text => ofText text

end SplitDirection

end TmuxPlan
