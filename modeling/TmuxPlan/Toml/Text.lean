import TmuxPlan.Text.Number

/-!
Strings and keys of a TOML text. Every reader takes the characters after the mark that announces what
is read and gives back the result and the characters that follow. A line ends with a line feed
alone; the carriage returns before line feeds are gone when these readers see the text.
-/

set_option autoImplicit false

namespace TmuxPlan.Toml

/-- Characters that may stand in strings and comments. -/
def isTextChar (c : Char) : Bool :=
  c == '\t' || (0x20 ≤ c.toNat && c.toNat ≠ 0x7F)

def isSpace (c : Char) : Bool :=
  c == ' ' || c == '\t'

def dropSpaces (cs : List Char) : List Char :=
  cs.dropWhile isSpace

/-- Skips a comment, if one stands here. -/
def dropComment : List Char → List Char
  | '#' :: cs => cs.dropWhile isTextChar
  | cs => cs

/-- Skips blanks and a comment up to the end of the line. -/
def finishLine? (cs : List Char) : Option (List Char) :=
  match dropComment (dropSpaces cs) with
  | [] => some []
  | '\n' :: rest => some rest
  | _ => none

namespace Text

/-- Where the reader of a string with escapes stands. -/
inductive Place where
  | body
  /-- After so many quotes in a row. -/
  | quotes (count : Nat)
  | escape
  /-- In a character code, with so many digits to come. -/
  | code (left value : Nat)
  /-- Between a backslash and the line break it takes away. -/
  | lineEnd
  /-- In the blanks and line breaks after that. -/
  | margin

def escaped? (c : Char) : Option Char :=
  [('b', '\x08'), ('t', '\t'), ('n', '\n'), ('f', '\x0c'), ('r', '\r'), ('"', '"'),
    ('\\', '\\')].lookup c

def codeLength? (c : Char) : Option Nat :=
  [('u', 4), ('U', 8)].lookup c

def done (reversed rest : List Char) : Option (String × List Char) :=
  some (String.ofList reversed.reverse, rest)

/-- Reads a string with escapes after its opening quote, or after three of them if `long` is set. A
long string may end in up to two quotes of its own. -/
def basic? (long : Bool) : Place → List Char → List Char → Option (String × List Char)
  | .quotes count, taken, [] => if 3 ≤ count then done (quoteRun (count - 3) ++ taken) [] else none
  | _, _, [] => none
  | .quotes count, taken, c :: cs =>
    if c == '"' then
      if count = 4 then done (quoteRun 2 ++ taken) cs else basic? long (.quotes (count + 1)) taken cs
    else if 3 ≤ count then done (quoteRun (count - 3) ++ taken) (c :: cs)
    else plain? (quoteRun count ++ taken) c cs
  | .escape, taken, c :: cs =>
    match escaped? c, codeLength? c with
    | some e, _ => basic? long .body (e :: taken) cs
    | none, some digits => basic? long (.code digits 0) taken cs
    | none, none =>
      if long && c == '\n' then basic? long .margin taken cs
      else if long && isSpace c then basic? long .lineEnd taken cs
      else none
  | .code left value, taken, c :: cs =>
    match Text.hexDigit? c with
    | none => none
    | some digit =>
      let value := 16 * value + digit
      if 1 < left then basic? long (.code (left - 1) value) taken cs
      else
        match Text.charOfCode? value with
        | some e => basic? long .body (e :: taken) cs
        | none => none
  | .lineEnd, taken, c :: cs =>
    if c == '\n' then basic? long .margin taken cs
    else if isSpace c then basic? long .lineEnd taken cs
    else none
  | .margin, taken, c :: cs =>
    if c == '\n' || isSpace c then basic? long .margin taken cs
    else plain? taken c cs
  | .body, taken, c :: cs => plain? taken c cs
where
  quoteRun (count : Nat) : List Char := List.replicate count '"'
  /-- A character that is not in an escape. -/
  plain? (taken : List Char) (c : Char) (cs : List Char) : Option (String × List Char) :=
    if c == '"' then
      if long then basic? long (.quotes 1) taken cs else done taken cs
    else if c == '\\' then basic? long .escape taken cs
    else if isTextChar c || (long && c == '\n') then basic? long .body (c :: taken) cs
    else none

/-- Reads a string without escapes on one line. -/
def literal? (cs : List Char) : Option (String × List Char) :=
  let isBody (c : Char) := isTextChar c && c ≠ '\''
  match cs.dropWhile isBody with
  | '\'' :: rest => some (String.ofList (cs.takeWhile isBody), rest)
  | _ => none

/-- Reads a string without escapes on several lines, after so many quotes in a row. -/
def longLiteral? : Nat → List Char → List Char → Option (String × List Char)
  | count, taken, [] => if 3 ≤ count then done (quoteRun (count - 3) ++ taken) [] else none
  | count, taken, c :: cs =>
    if c == '\'' then
      if count = 4 then done (quoteRun 2 ++ taken) cs else longLiteral? (count + 1) taken cs
    else if 3 ≤ count then done (quoteRun (count - 3) ++ taken) (c :: cs)
    else if isTextChar c || c == '\n' then longLiteral? 0 (c :: (quoteRun count ++ taken)) cs
    else none
where
  quoteRun (count : Nat) : List Char := List.replicate count '\''

/-- A line break right after the opening quotes does not count. -/
def afterOpening : List Char → List Char
  | '\n' :: cs => cs
  | cs => cs

/-- Reads a string in any of the four written forms. -/
def read? : List Char → Option (String × List Char)
  | '"' :: '"' :: '"' :: cs => basic? true .body [] (afterOpening cs)
  | '\'' :: '\'' :: '\'' :: cs => longLiteral? 0 [] (afterOpening cs)
  | '"' :: cs => basic? false .body [] cs
  | '\'' :: cs => literal? cs
  | _ => none

end Text

namespace Key

def isBareChar (c : Char) : Bool :=
  c.isAlphanum || c == '_' || c == '-'

/-- One part of a key: bare or in quotes. -/
def part? : List Char → Option (String × List Char)
  | '"' :: cs => Text.basic? false .body [] cs
  | '\'' :: cs => Text.literal? cs
  | cs =>
    match cs.takeWhile isBareChar with
    | [] => none
    | name => some (String.ofList name, cs.dropWhile isBareChar)

/-- The parts of a key with points between them. The fuel bounds their number. -/
def parts? : Nat → List Char → Option (List String × List Char)
  | 0, _ => none
  | fuel + 1, cs => do
    let (first, rest) ← part? (dropSpaces cs)
    match dropSpaces rest with
    | '.' :: rest =>
      let (more, rest) ← parts? fuel rest
      return (first :: more, rest)
    | rest => return ([first], rest)

/-- How deep keys and values may nest. -/
def depthLimit : Nat := 80

/-- A key with the blanks around it: the tables it goes through, and its last part. -/
def read? (cs : List Char) : Option ((List String × String) × List Char) := do
  let (parts, rest) ← parts? (depthLimit - 1) cs
  let last ← parts.getLast?
  return ((parts.dropLast, last), rest)

end Key

end TmuxPlan.Toml
