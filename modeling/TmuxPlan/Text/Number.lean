import TmuxPlan.Text.Decimal

/-!
Numbers as they are written in text: digits of a base, character codes, and decimal fractions with
the question whether they fit a double.
-/

set_option autoImplicit false

namespace TmuxPlan.Text

/-- The value of a digit, in bases up to sixteen. -/
def hexDigit? (c : Char) : Option Nat :=
  if c.isDigit then some (c.toNat - '0'.toNat)
  else if 'a' ≤ c && c ≤ 'f' then some (c.toNat - 'a'.toNat + 10)
  else if 'A' ≤ c && c ≤ 'F' then some (c.toNat - 'A'.toNat + 10)
  else none

/-- The value of a digit of the given base. -/
def digit? (base : Nat) (c : Char) : Option Nat :=
  (hexDigit? c).filter (· < base)

/-- The number that a run of digits denotes; not the empty run. -/
def number? (base : Nat) : List Char → Option Nat
  | [] => none
  | cs => cs.foldl (fun value c => do return base * (← value) + (← digit? base c)) (some 0)

/-- The character with this code, if there is one. -/
def charOfCode? (code : Nat) : Option Char :=
  if code.isValidChar then some (Char.ofNat code) else none

/-- The sign in front: whether it is a minus, and the rest. -/
def takeSign : List Char → Bool × List Char
  | '-' :: cs => (true, cs)
  | '+' :: cs => (false, cs)
  | cs => (false, cs)

/-- A decimal fraction without its sign: its digits without the point, and the power of ten they
count. -/
structure Decimal where
  digits : Nat
  exponent : Int

namespace Decimal

def exponent? : List Char → Option Int
  | [] => some 0
  | c :: cs =>
    if c = 'e' || c = 'E' then
      let (negative, rest) := takeSign cs
      (number? 10 rest).map fun n => if negative then -n else n
    else none

/-- Digits, a point anywhere among them, and an exponent. -/
def ofChars? (cs : List Char) : Option Decimal :=
  let whole := cs.takeWhile Char.isDigit
  let rest := cs.dropWhile Char.isDigit
  let (fraction, rest) :=
    match rest with
    | '.' :: rest => (rest.takeWhile Char.isDigit, rest.dropWhile Char.isDigit)
    | rest => ([], rest)
  if whole.isEmpty && fraction.isEmpty then none
  else
    (exponent? rest).map fun exponent =>
      ⟨Nat.ofDigitChars 10 (whole ++ fraction) 0, exponent - fraction.length⟩

/-- Whether the number rounds to a finite double: it is below 2^1024 less half a step. -/
def isFinite (decimal : Decimal) : Bool :=
  let limit := wordLimit 1024 - wordLimit 970
  let length : Int := (Nat.toDigits 10 decimal.digits).length
  if decimal.digits = 0 || decimal.exponent + length < 300 then true
  else if 320 < decimal.exponent + length then false
  else if 0 ≤ decimal.exponent then
    decimal.digits * Nat.pow 10 decimal.exponent.toNat < limit
  else decimal.digits < limit * Nat.pow 10 (-decimal.exponent).toNat

end Decimal

end TmuxPlan.Text
