import TmuxPlan.Path.Basic

/-!
What stands under a path. A tree is given by the files and directories in it; the directories above
them are there too.
-/

set_option autoImplicit false

namespace TmuxPlan

inductive FileEntry where
  | file (bytes : ByteArray)
  | directory
  /-- Something is there that the system does not let be read, for this reason. -/
  | unreadable (reason : String)

/-- What stands under each path, seen from one directory. -/
abbrev Files := String → Option FileEntry

/-- Files and directories by the names on the way to them. -/
structure FileTree where
  nodes : List (List String × FileEntry)

namespace FileTree

def ofList (nodes : List (String × FileEntry)) : FileTree :=
  ⟨nodes.map fun (path, node) => (Path.parts path, node)⟩

/-- What stands under the names, from the top of the tree on. -/
def at? (tree : FileTree) (names : List String) : Option FileEntry :=
  match tree.nodes.lookup names with
  | some node => some node
  | none =>
    if names.isEmpty || tree.nodes.any (fun (path, _) => names.isPrefixOf path) then
      some .directory
    else none

/-- Follows the parts of a path. Only a directory can be followed further, also by nothing. -/
def walk? (tree : FileTree) : List String → List String → Option FileEntry
  | names, [] => tree.at? names
  | names, part :: rest =>
    match tree.at? names with
    | some .directory =>
      if part = "" || part = "." then walk? tree names rest
      else if part = ".." then
        if names.isEmpty then none else walk? tree names.dropLast rest
      else walk? tree (names ++ [part]) rest
    | _ => none

def find? (tree : FileTree) : Files := fun path =>
  if path.isEmpty || Path.isAbsolute path then none
  else tree.walk? [] ((Text.cut '/' path.toList).map String.ofList)

end FileTree

end TmuxPlan
