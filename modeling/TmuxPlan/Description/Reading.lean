import TmuxPlan.Description.Basic
import TmuxPlan.Document.Value

/-!
Reading descriptions out of values. Where several shapes are possible they are tried in a fixed
order and the first that reads wins. A pane or a window that reads as nothing is kept as `other`;
anywhere else a value that does not read fails the whole session.
-/

set_option autoImplicit false

namespace TmuxPlan.Description

open Document

/-- A layout by name, or as a mapping of its name to nothing. -/
def Layout.read? : Value → Option Layout
  | .text name => Layout.ofText? name
  | .map [(.text name, .null)] => Layout.ofText? name
  | .map [(.natural position, .null)] => Layout.all[position.toNat]?
  | _ => none

namespace EntryFields

def fields : List Field :=
  [⟨"shell", ["command"]⟩, ⟨"cmds", []⟩, ⟨"split", ["split_direction", "splitDirection"]⟩]

def read? (value : Value) : Option EntryFields := do
  let given ← Field.ofValue? fields value
  let shell ← Field.read? given "shell" Value.text?
  let cmds ← Field.read? given "cmds" Value.text?
  let split ← Field.read? given "split" Value.text?
  return { shell, cmds, split }

end EntryFields

namespace EntrySpec

def read? : Value → Option EntrySpec
  | .text command => some (.bare command)
  | value => (EntryFields.read? value).map .structured

end EntrySpec

namespace ShellSpec

def read? : Value → Option ShellSpec
  | .text command => some (.single command)
  | .list items => (items.mapM EntrySpec.read?).map .multiple
  | _ => none

end ShellSpec

namespace SshSpec

def fields : List Field :=
  [⟨"server", []⟩, ⟨"user", []⟩, ⟨"login_only", ["loginOnly"]⟩]

def readOptions? (value : Value) : Option Ssh.Fragment := do
  let given ← Field.ofValue? fields value
  let server ← Field.read? given "server" Value.text?
  let user ← Field.read? given "user" Value.text?
  let loginOnly ← Field.read? given "login_only" Value.bool?
  return { server, user, loginOnly }

def read? : Value → Option SshSpec
  | .text name => some (.server name)
  | .list items => some (.list items.length)
  | value => (readOptions? value).map .options

end SshSpec

namespace PaneFields

def fields : List Field :=
  [⟨"shell", []⟩, ⟨"cmds", []⟩, ⟨"dir", []⟩, ⟨"ssh", []⟩]

def read? (value : Value) : Option PaneFields := do
  let given ← Field.ofValue? fields value
  let shell ← Field.read? given "shell" ShellSpec.read?
  let cmds ← Field.read? given "cmds" ShellSpec.read?
  let dir ← Field.read? given "dir" Value.text?
  let ssh ← Field.read? given "ssh" SshSpec.read?
  return { shell, cmds, dir, ssh }

end PaneFields

namespace PaneSpec

/-- A pane given by its fields, or none at all. -/
def structuredOrOther (value : Value) : PaneSpec :=
  match PaneFields.read? value with
  | some fields => .structured fields
  | none => .other

/-- A list is a list of entries if every member is one, and else the fields of a pane in order. -/
def ofValue : Value → PaneSpec
  | .text command => .bare command
  | .list items =>
    match items.mapM EntrySpec.read? with
    | some entries => .list entries
    | none => structuredOrOther (.list items)
  | value => structuredOrOther value

end PaneSpec

namespace PanesSpec

def ofValue : Value → PanesSpec
  | .list items => .list (items.map PaneSpec.ofValue)
  | _ => .other

end PanesSpec

namespace WindowFields

def fields : List Field :=
  [⟨"name", []⟩, ⟨"panes", []⟩, ⟨"sections", []⟩, ⟨"shell", []⟩, ⟨"cmds", []⟩, ⟨"dir", []⟩,
    ⟨"ssh", []⟩, ⟨"layout", []⟩, ⟨"synchronize", []⟩]

def read? (value : Value) : Option WindowFields := do
  let given ← Field.ofValue? fields value
  let name ← Field.read? given "name" Value.text?
  let panes ← Field.read? given "panes" (some ∘ PanesSpec.ofValue)
  let sections ← Field.read? given "sections" (some ∘ PanesSpec.ofValue)
  let shell ← Field.read? given "shell" ShellSpec.read?
  let cmds ← Field.read? given "cmds" ShellSpec.read?
  let dir ← Field.read? given "dir" Value.text?
  let ssh ← Field.read? given "ssh" SshSpec.read?
  let layout ← Field.read? given "layout" Layout.read?
  let synchronize ← Field.read? given "synchronize" Value.bool?
  return { name, panes, sections, shell, cmds, dir, ssh, layout, synchronize }

end WindowFields

namespace WindowSpec

def ofValue : Value → WindowSpec
  | .text name => .named name
  | .list items => .list items.length
  | value =>
    match WindowFields.read? value with
    | some fields => .structured fields
    | none => .other

def readAll? : Value → Option (List WindowSpec)
  | .list items => some (items.map ofValue)
  | _ => none

end WindowSpec

namespace SessionSpec

def fields : List Field :=
  [⟨"name", []⟩, ⟨"windows", []⟩, ⟨"panes", []⟩, ⟨"sections", []⟩, ⟨"shell", []⟩, ⟨"cmds", []⟩,
    ⟨"dir", []⟩, ⟨"ssh", []⟩, ⟨"layout", []⟩, ⟨"synchronize", []⟩, ⟨"focus", []⟩,
    ⟨"interactive", []⟩]

/-- The fields of a session: a list gives them in order, and what it has too much is passed over. -/
def given? : Value → Option (List (String × Value))
  | .map entries => Field.ofEntries? fields entries
  | .list items => some (Field.ofItems fields items)
  | _ => none

/-- At the level of the session a layout's name may also stand over an empty mapping or list. -/
def readLayout? : Value → Option Layout
  | .map [(.text name, .map [])] | .map [(.text name, .list [])] => Layout.ofText? name
  | value => Layout.read? value

def read? (value : Value) : Option SessionSpec := do
  let given ← given? value
  let name ← Field.read? given "name" Value.text?
  let windows ← Field.read? given "windows" WindowSpec.readAll?
  let panes ← Field.read? given "panes" (some ∘ PanesSpec.ofValue)
  let sections ← Field.read? given "sections" (some ∘ PanesSpec.ofValue)
  let shell ← Field.read? given "shell" ShellSpec.read?
  let cmds ← Field.read? given "cmds" ShellSpec.read?
  let dir ← Field.read? given "dir" Value.text?
  let ssh ← Field.read? given "ssh" SshSpec.read?
  let layout ← Field.read? given "layout" readLayout?
  let synchronize ← Field.read? given "synchronize" Value.bool?
  let focus ← Field.read? given "focus" Value.text?
  let interactive ← Field.read? given "interactive" Value.bool?
  return {
    name, windows, panes, sections, shell, cmds, dir, ssh
    layout, synchronize, focus, interactive }

end SessionSpec

end TmuxPlan.Description
