/-!
The tokens of a YAML text. Block collections are opened and closed by tokens of their own, which
stand for the indentation; the end of the list is the end of the stream.
-/

set_option autoImplicit false

namespace TmuxPlan.Yaml

/-- How a scalar is written. Only plain scalars are typed by their text. -/
inductive Style where
  | plain
  | quoted
  | literal
  | folded
  deriving DecidableEq, Repr

inductive Token where
  | versionDirective (major minor : Nat)
  | tagDirective (handle start : String)
  | documentStart
  | documentEnd
  | blockSequenceStart
  | blockMappingStart
  | blockEnd
  | flowSequenceStart
  | flowSequenceEnd
  | flowMappingStart
  | flowMappingEnd
  | blockEntry
  | flowEntry
  | key
  | value
  | alias (name : String)
  | anchor (name : String)
  | tag (handle suffix : String)
  | scalar (style : Style) (text : String)
  deriving DecidableEq, Repr

end TmuxPlan.Yaml
