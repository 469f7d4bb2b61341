/-!
Calls of other programs, why the system may refuse to start one, and how one ends that was started.
-/

set_option autoImplicit false

namespace TmuxPlan

structure Call where
  program : String
  args : List String := []
  deriving DecidableEq, Repr

namespace Call

def words (call : Call) : List String :=
  call.program :: call.args

/-- The reason given when a program cannot be found. -/
def noSuchFile : String := "No such file or directory (os error 2)"

/-- The reason given when a word holds the character that ends words for the system. -/
def nulByte : String := "nul byte found in provided data"

def refusal? (call : Call) (installed : Bool) : Option String :=
  if call.words.any (·.toList.contains '\x00') then some nulByte
  else if installed then none
  else some noSuchFile

end Call

structure Finish where
  /-- The exit status, unless a signal ended the program. -/
  status : Option Nat
  /-- How long the program ran, in milliseconds. -/
  elapsed : Nat := 0
  deriving DecidableEq, Repr

def Finish.succeeded (finish : Finish) : Bool :=
  finish.status == some 0

/-- How a call ends on a machine, unless the program is not there. -/
abbrev Programs := Call → Option Finish

end TmuxPlan
