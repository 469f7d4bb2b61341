import TmuxPlan.Error
import TmuxPlan.Text.Blank

/-!
Paths as texts: joining them, the extension of the file they name, and a mark for the home
directory.
-/

set_option autoImplicit false

namespace TmuxPlan.Path

def isAbsolute (path : String) : Bool :=
  path.toList.head? == some '/'

/-- Joins a path to a base. An absolute path replaces the base; a separator is put between them
unless the base ends in one or is empty. -/
def join (base path : String) : String :=
  if isAbsolute path then path
  else if base.isEmpty || base.toList.getLast? == some '/' then base ++ path
  else base ++ "/" ++ path

/-- The parts of a path between its separators, without those that stand for the same directory. -/
def parts (path : String) : List String :=
  ((Text.cut '/' path.toList).filter fun part => part ≠ [] && part ≠ ['.']).map String.ofList

/-- The name of the file, unless the path ends in a step up or has no names at all. -/
def fileName? (path : String) : Option String :=
  (parts path).getLast?.filter (· ≠ "..")

/-- What follows the last point of the file's name, unless only that point is in front of it. -/
def extension? (path : String) : Option String := do
  let name ← fileName? path
  let reversed := name.toList.reverse
  match reversed.dropWhile (· ≠ '.') with
  | [] | [_] => none
  | _ :: _ => some (String.ofList (reversed.takeWhile (· ≠ '.')).reverse)

/-- Puts the home directory, if it is known, in the place of a mark in front of the path. -/
def expandHome (home : Option String) (path : String) : Except Error String :=
  match path.toList, home with
  | '~' :: '/' :: rest, some home => .ok (join home (String.ofList rest))
  | '~' :: '/' :: _, none => .error .noConfigDir
  | _, _ => .ok path

end TmuxPlan.Path
