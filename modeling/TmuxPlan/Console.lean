import TmuxPlan.Error

/-!
The two ends a run talks to: an output that may take only so many bytes, and an input that is read
line by line.
-/

set_option autoImplicit false

namespace TmuxPlan

structure Console where
  /-- What has been written, in bytes. -/
  written : List UInt8 := []
  /-- How many bytes the output takes in all; absent if it takes any number. -/
  capacity : Option Nat := none
  /-- What has not been read yet, in bytes. -/
  input : List UInt8 := []

namespace Console

def bytes (text : String) : List UInt8 :=
  text.toUTF8.toList

/-- Writes a text; where it does not fit the output is filled up first. -/
def write (text : String) : EStateM Error Console Unit := fun console =>
  let bytes := bytes text
  let fits := console.capacity.all (console.written.length + bytes.length ≤ ·)
  if fits then .ok () { console with written := console.written ++ bytes }
  else
    let room := console.capacity.getD 0 - console.written.length
    .error (.io .outputFull) { console with written := console.written ++ bytes.take room }

/-- Cuts bytes after their first line feed. -/
def cutLine : List UInt8 → List UInt8 × List UInt8
  | [] => ([], [])
  | byte :: rest =>
    if byte = 10 then ([byte], rest)
    else
      let (line, after) := cutLine rest
      (byte :: line, after)

def text? (bytes : List UInt8) : Option String :=
  String.fromUTF8? bytes.toByteArray

def readLine : EStateM Error Console String := fun console =>
  let (line, input) := cutLine console.input
  match text? line with
  | some text => .ok text { console with input }
  | none => .error (.io .notUtf8) { console with input }

/-- What was written, as text; a character that was cut off at the end shows as U+FFFD. -/
def shown (console : Console) : String :=
  let total := console.written.length
  let cut (dropped : Nat) : Option String :=
    (text? (console.written.take (total - dropped))).map fun text =>
      if dropped = 0 then text else text ++ "\ufffd"
  ([0, 1, 2, 3].findSome? cut).getD ""

end Console

end TmuxPlan
