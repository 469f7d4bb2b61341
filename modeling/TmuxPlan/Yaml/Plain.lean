import TmuxPlan.Document.Value
import TmuxPlan.Text.Number

/-!
What a plain scalar means: nothing, a truth value, a number, or its own text.
-/

set_option autoImplicit false

namespace TmuxPlan.Yaml.Plain

open Document (Value)
open Text

def isNull (text : String) : Bool :=
  ["null", "Null", "NULL", "~"].contains text

def bool? (text : String) : Option Bool :=
  if ["true", "True", "TRUE"].contains text then some true
  else if ["false", "False", "FALSE"].contains text then some false
  else none

/-- A run of digits with the mark of its base in front. -/
def based? : List Char → Option Nat
  | '0' :: 'x' :: cs => number? 16 cs
  | '0' :: 'o' :: cs => number? 8 cs
  | '0' :: 'b' :: cs => number? 2 cs
  | _ => none

/-- Several digits of which the first is a zero are a text and no number. -/
def isPadded : List Char → Bool
  | '0' :: c :: cs => (c :: cs).all Char.isDigit
  | _ => false

/-- The number without its sign. -/
def magnitude? (cs : List Char) : Option Nat :=
  based? cs <|> if isPadded cs then none else number? 10 cs

def integer? (cs : List Char) : Option Int :=
  let (negative, rest) := takeSign cs
  (magnitude? rest).map fun n => if negative then -n else n

/-- A number that is no integer: an infinity, not a number, or a finite fraction. -/
def isFraction (text : String) : Bool :=
  [".inf", ".Inf", ".INF", "+.inf", "+.Inf", "+.INF", "-.inf", "-.Inf", "-.INF",
    ".nan", ".NaN", ".NAN"].contains text ||
    (Decimal.ofChars? (takeSign text.toList).2).any Decimal.isFinite

/-- An integer as a value. One of 64 bits is a value; one that only 128 bits hold is refused, and
for a larger one the inner level is `none`. -/
def integerValue? (text : String) : Option (Option Value) :=
  match integer? text.toList with
  | none => some none
  | some n =>
    if text.startsWith "-" then
      if -(wordLimit 63 : Int) ≤ n then some (some .number)
      else if -(wordLimit 127 : Int) ≤ n then none
      else some none
    else if n < wordLimit 64 then some (some (.natural n.toNat.toUInt64))
    else if n < wordLimit 128 then none
    else some none

/-- The value of a plain scalar without a tag. -/
def value? (text : String) : Option Value :=
  if text.isEmpty || isNull text then some .null
  else
    match bool? text with
    | some b => some (.bool b)
    | none =>
      match integerValue? text with
      | none => none
      | some (some value) => some value
      | some none =>
        if !isPadded (takeSign text.toList).2 && isFraction text then some .number
        else some (.text text)

end TmuxPlan.Yaml.Plain
