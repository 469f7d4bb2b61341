/-!
Decimal numbers with a bound: reading a run of ASCII digits and the words that hold the result.
-/

set_option autoImplicit false

namespace TmuxPlan.Text

/-- A run of ASCII digits, not empty. -/
def isDigits (cs : List Char) : Bool :=
  !cs.isEmpty && cs.all Char.isDigit

/-- The number that a run of digits denotes. -/
def digitsValue (cs : List Char) : Nat :=
  Nat.ofDigitChars 10 cs 0

/-- The first number that so many bits do not hold. -/
def wordLimit (bits : Nat) : Nat :=
  Nat.pow 2 bits

/-- Reads digits whose number fits a 32-bit word; leading zeros do not count against it. -/
def word32? (cs : List Char) : Option UInt32 :=
  if isDigits cs then
    let n := digitsValue cs
    if fits : n < UInt32.size then some (UInt32.ofNatLT n fits) else none
  else none

def word32Text (n : UInt32) : String :=
  n.toNat.repr

end TmuxPlan.Text
