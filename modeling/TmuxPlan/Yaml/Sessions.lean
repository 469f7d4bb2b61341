import TmuxPlan.Description.Reading
import TmuxPlan.Yaml.Node
import TmuxPlan.Yaml.Plain

/-!
From a document to the sessions it describes. The scalars of a session's own fields are taken by the
kind of the field, so that a name or a focus may look like a number; what stands below them is a
value by its own look. Aliases stand for their nodes; how often they may be followed and how deep
kept values may nest is limited.
-/

set_option autoImplicit false

namespace TmuxPlan.Yaml

open Document (Value)
open Description (SessionSpec)

/-- A tag of the core schema. -/
def coreTag (name : String) : String :=
  "tag:yaml.org,2002:" ++ name

/-- A tag that belongs to an application, without its mark. -/
def customTag? (tag : Option String) : Option String :=
  tag.bind fun tag =>
    match tag.toList with
    | '!' :: name => some (String.ofList name)
    | _ => none

/-- The value of a scalar by its tag, or by its look where it is plain and has none. -/
def scalarValue? (tag : Option String) (style : Style) (text : String) : Option Value :=
  match tag with
  | none => if style = .plain then Plain.value? text else some (.text text)
  | some tag =>
    if (customTag? (some tag)).isSome then none
    else if tag = coreTag "bool" then (Plain.bool? text).map .bool
    else if tag = coreTag "int" then (Plain.integerValue? text).join
    else if tag = coreTag "float" then if Plain.isFraction text then some .number else none
    else if tag = coreTag "null" then if Plain.isNull text then some .null else none
    else some (.text text)

/-- Following aliases uses up a number of jumps. -/
abbrev Following := StateT Nat Option

namespace Following

variable (tree : Tree)

/-- The node itself, or the one its alias stands for. -/
def resolve : Node → Following Node
  | .alias number => do
    match ← get with
    | 0 => failure
    | left + 1 =>
      set left
      match tree.node? number with
      | some node => return node
      | none => failure
  | node => return node

/-- The value of a node, of which `depth` levels of collections may be kept. -/
def value (depth : Nat) (node : Node) : Following Value := do
  match ← resolve tree node with
  | .scalar tag style text => (scalarValue? tag style text : Option Value)
  | .alias _ => failure
  | .list tag items =>
    match depth with
    | 0 => failure
    | depth + 1 =>
      if (customTag? tag).isSome then failure
      else return .list (← items.mapM (value depth))
  | .map tag entries =>
    match depth with
    | 0 => failure
    | depth + 1 =>
      if (customTag? tag).isSome then failure
      else
        return .map (← entries.mapM fun (key, entry) => do
          let key ← value depth key
          return (key, ← value depth entry))

/-- Whether a scalar of a session's own field means that the field is absent. -/
def isAbsent? (tag : Option String) (style : Style) (text : String) : Option Bool :=
  if style ≠ .plain then some false
  else
    match tag with
    | none => some (text.isEmpty || Plain.isNull text)
    | some tag =>
      if tag ≠ coreTag "null" then some false
      else if Plain.isNull text then some true else none

/-- The kinds of a session's own fields. -/
inductive FieldKind where
  | text
  | flag
  | layout
  | items
  | any

def FieldKind.ofName (name : String) : FieldKind :=
  if ["name", "dir", "focus"].contains name then .text
  else if ["synchronize", "interactive"].contains name then .flag
  else if name = "layout" then .layout
  else if name = "windows" then .items
  else .any

/-- The value of a scalar in a field of this kind. -/
def fieldScalar? (kind : FieldKind) (tag : Option String) (style : Style) (text : String) :
    Option Value :=
  match kind with
  | .text => some (.text text)
  | .flag =>
    if style = .plain || (style = .literal && tag = some (coreTag "bool")) then
      (Plain.bool? text).map .bool
    else none
  | .layout =>
    match customTag? tag with
    | none => some (.text text)
    | some name =>
      if style = .plain && (text.isEmpty || Plain.isNull text) then some (.text name) else none
  | .items => if style = .plain && text.isEmpty then some (.list []) else none
  | .any => scalarValue? tag style text

/-- The value of a field of a session. -/
def field (depth : Nat) (kind : FieldKind) (node : Node) : Following Value := do
  match ← resolve tree node with
  | .scalar tag style text =>
    match isAbsent? tag style text with
    | none => failure
    | some true => return .null
    | some false => (fieldScalar? kind tag style text : Option Value)
  | .list tag items =>
    match kind with
    | .any => value tree depth (.list tag items)
    | .items =>
      match depth with
      | 0 => failure
      | depth + 1 => return .list (← items.mapM (value tree depth))
    | .text | .flag | .layout => failure
  | .map tag entries =>
    match kind with
    | .any => value tree depth (.map tag entries)
    | .text | .flag | .layout | .items => failure
  | .alias _ => failure

/-- The text of a key. -/
def key (node : Node) : Following String := do
  match ← resolve tree node with
  | .scalar _ _ text => return text
  | _ => failure

/-- The entries of a mapping; a plain scalar without text is an empty mapping. -/
def entries (node : Node) : Following (List (Node × Node)) := do
  match ← resolve tree node with
  | .map _ entries => return entries
  | .scalar _ .plain "" => return []
  | _ => failure

/-- The value of a session: its known fields. What stands under other keys is not looked at. -/
def session (depth : Nat) (node : Node) : Following Value := do
  let given ← (← entries tree node).mapM fun (keyNode, fieldNode) => do
    let name ← key tree keyNode
    if SessionSpec.fields.any (·.names.contains name) then
      return some (.text name, ← field tree depth (FieldKind.ofName name) fieldNode)
    else return none
  return .map (given.filterMap id)

/-- The sessions of a document, by their keys. -/
def sessions (root : Node) : Following (List (String × Value)) := do
  (← entries tree root).mapM fun (keyNode, sessionNode) => do
    let name ← key tree keyNode
    return (name, ← session tree 126 sessionNode)

end Following

/-- The sessions that a text describes, in the order in which it gives them. -/
def sessions? (text : String) : Option (List (String × Value)) := do
  let tree ← Tree.ofTokens? (← tokens? text)
  match tree.root with
  | none => return []
  | some root => (Following.sessions tree root).run' (100 * tree.size)

end TmuxPlan.Yaml
