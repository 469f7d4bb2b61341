import TmuxPlan.Text.Number

/-!
Numbers, dates and times of a TOML text. Their values do not matter, only whether they are well
formed and in range.
-/

set_option autoImplicit false

namespace TmuxPlan.Toml.Number

/-- A number of exactly so many digits. -/
def digitRun? (count : Nat) (cs : List Char) : Option (Nat × List Char) := do
  let digits := cs.take count
  if digits.length = count && digits.all Char.isDigit then
    return (Nat.ofDigitChars 10 digits 0, cs.drop count)
  else none

/-- A number of two digits that is at least `low` and at most `high`. -/
def two? (low high : Nat) (cs : List Char) : Option (Nat × List Char) := do
  let (n, rest) ← digitRun? 2 cs
  if low ≤ n && n ≤ high then return (n, rest) else none

def drop? (c : Char) : List Char → Option (List Char)
  | [] => none
  | d :: cs => if d = c then some cs else none

def isLeapYear (year : Nat) : Bool :=
  year % 4 = 0 && (year % 100 ≠ 0 || year % 400 = 0)

def daysIn (year month : Nat) : Nat :=
  if month = 2 then (if isLeapYear year then 29 else 28)
  else if [4, 6, 9, 11].contains month then 30
  else 31

/-- A date; gives the rest of the text. -/
def date? (cs : List Char) : Option (List Char) := do
  let (year, cs) ← digitRun? 4 cs
  let (month, cs) ← two? 1 12 (← drop? '-' cs)
  let (_, cs) ← two? 1 (daysIn year month) (← drop? '-' cs)
  return cs

/-- A time of day, with fractions of a second or without. -/
def time? (cs : List Char) : Option (List Char) := do
  let (_, cs) ← two? 0 23 cs
  let (_, cs) ← two? 0 59 (← drop? ':' cs)
  let (_, cs) ← two? 0 60 (← drop? ':' cs)
  match cs with
  | '.' :: rest =>
    if rest.head?.any Char.isDigit then return rest.dropWhile Char.isDigit else none
  | cs => return cs

/-- The offset from universal time; the text is unchanged where none stands. -/
def offset? : List Char → Option (List Char)
  | [] => some []
  | c :: cs =>
    if c = 'Z' || c = 'z' then some cs
    else if c = '+' || c = '-' then do
      let (_, cs) ← two? 0 23 cs
      let (_, cs) ← two? 0 59 (← drop? ':' cs)
      return cs
    else some (c :: cs)

/-- A date, a time, or both with an offset or without. -/
def moment? (cs : List Char) : Option (List Char) :=
  match date? cs with
  | none => time? cs
  | some rest =>
    match rest with
    | [] => some []
    | c :: after =>
      if c = 'T' || c = 't' || c = ' ' then
        match time? after with
        | some rest => offset? rest
        | none => some (c :: after)
      else some (c :: after)

/-- Digits with single underscores between them. -/
def digits? (isDigit : Char → Bool) : List Char → Option (List Char × List Char)
  | [] => none
  | c :: cs => if isDigit c then some (go [c] cs) else none
where
  go (taken : List Char) : List Char → List Char × List Char
    | '_' :: d :: cs =>
      if isDigit d then go (d :: taken) cs else (taken.reverse, '_' :: d :: cs)
    | c :: cs => if isDigit c then go (c :: taken) cs else (taken.reverse, c :: cs)
    | [] => (taken.reverse, [])

/-- A decimal number without its sign: no zero in front of other digits. -/
def whole? : List Char → Option (List Char × List Char)
  | '0' :: cs => some (['0'], cs)
  | cs => digits? Char.isDigit cs

/-- An exponent with its mark, as it is written but without underscores. -/
def exponent? : List Char → Option (List Char × List Char)
  | c :: cs =>
    if c = 'e' || c = 'E' then
      let sign := cs.takeWhile fun d => d = '+' || d = '-'
      if 1 < sign.length then none
      else do
        let (digits, rest) ← digits? Char.isDigit (cs.drop sign.length)
        return (c :: (sign ++ digits), rest)
    else none
  | [] => none

/-- A fraction: a whole number, digits after a point, an exponent, or both of these. -/
def fraction? (cs : List Char) : Option (List Char × List Char) := do
  let (whole, rest) ← whole? cs
  match rest with
  | '.' :: after =>
    let (digits, rest) ← digits? Char.isDigit after
    match exponent? rest with
    | some (exponent, rest) => return (whole ++ '.' :: (digits ++ exponent), rest)
    | none => return (whole ++ '.' :: digits, rest)
  | rest =>
    let (exponent, rest) ← exponent? rest
    return (whole ++ exponent, rest)

/-- A number in the given base that 64 bits hold with a sign. -/
def based? (base : Nat) (cs : List Char) : Option (List Char) := do
  let (digits, rest) ← digits? (fun c => (TmuxPlan.Text.digit? base c).isSome) cs
  if (← TmuxPlan.Text.number? base digits) < TmuxPlan.Text.wordLimit 63 then return rest else none

/-- A number or one of the words for infinity and for what is no number. A number too large for a
double is refused unless it is negative. -/
def signed? (cs : List Char) : Option (List Char) :=
  let (negative, unsigned) := TmuxPlan.Text.takeSign cs
  match unsigned with
  | 'i' :: 'n' :: 'f' :: rest | 'n' :: 'a' :: 'n' :: rest => some rest
  | _ =>
    match fraction? unsigned with
    | some (digits, rest) =>
      if negative || (TmuxPlan.Text.Decimal.ofChars? digits).any TmuxPlan.Text.Decimal.isFinite
      then some rest else none
    | none => do
      let (digits, rest) ← whole? unsigned
      let n := Nat.ofDigitChars 10 digits 0
      let limit := TmuxPlan.Text.wordLimit 63
      if n < limit || (negative && n = limit) then return rest else none

def read? : List Char → Option (List Char)
  | '0' :: 'x' :: cs => based? 16 cs
  | '0' :: 'o' :: cs => based? 8 cs
  | '0' :: 'b' :: cs => based? 2 cs
  | cs => signed? cs

end TmuxPlan.Toml.Number
