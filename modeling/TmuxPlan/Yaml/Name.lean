import TmuxPlan.Text.Number
import TmuxPlan.Yaml.Cell
import TmuxPlan.Yaml.Token

/-!
Names in a YAML text: anchors, aliases, tags and directives. Every reader takes the cells after the
mark that announces the name and gives back a token and the cells that follow.
-/

set_option autoImplicit false

namespace TmuxPlan.Yaml.Name

def take (cells : List Cell) : String × List Cell :=
  (Cell.text (cells.takeWhile (isNameChar ·.char)), cells.dropWhile (isNameChar ·.char))

/-- Characters that may follow the name of an anchor. -/
def endsAnchor : List Cell → Bool
  | [] => true
  | cell :: _ => isSpaceOrBreak cell.char || "?:,]\x7d%@\x60".toList.contains cell.char

/-- The name of an anchor or alias. -/
def anchor? (cells : List Cell) : Option (String × List Cell) :=
  let (name, rest) := take cells
  if name.isEmpty || !endsAnchor rest then none else some (name, rest)

/-- How many octets follow the first one of a character, and what the first one adds to it. -/
def leadOctet? (octet : Nat) : Option (Nat × Nat) :=
  if octet < 0x80 then some (0, octet)
  else if 0xC0 ≤ octet && octet < 0xE0 then some (1, octet - 0xC0)
  else if 0xE0 ≤ octet && octet < 0xF0 then some (2, octet - 0xE0)
  else if 0xF0 ≤ octet && octet < 0xF8 then some (3, octet - 0xF0)
  else none

def isUriChar (inBrackets : Bool) (c : Char) : Bool :=
  isNameChar c || ";/?:@&=+$.!~*'()".toList.contains c ||
    (inBrackets && (c == ',' || c == '[' || c == ']'))

/-- The characters of a tag; `left` octets of an escaped character are still to come. -/
def uri? (inBrackets : Bool) (left value : Nat) : List Cell → Option (List Char × List Cell)
  | [] => if left = 0 then some ([], []) else none
  | cell :: rest =>
    if cell.char == '%' then
      match rest with
      | high :: low :: rest =>
        match Text.hexDigit? high.char, Text.hexDigit? low.char with
        | some high, some low =>
          let octet := 16 * high + low
          if left = 0 then
            match leadOctet? octet with
            | none => none
            | some (0, value) => (uri? inBrackets 0 0 rest).map (.map (Char.ofNat value :: ·) id)
            | some (more, value) => uri? inBrackets more value rest
          else if octet < 0x80 || 0xC0 ≤ octet then none
          else
            let value := 64 * value + (octet - 0x80)
            if left = 1 then (uri? inBrackets 0 0 rest).map (.map (Char.ofNat value :: ·) id)
            else uri? inBrackets (left - 1) value rest
        | _, _ => none
      | _ => none
    else if left ≠ 0 then none
    else if isUriChar inBrackets cell.char then
      (uri? inBrackets 0 0 rest).map (.map (cell.char :: ·) id)
    else some ([], cell :: rest)

/-- The handle of a tag after its first mark: a name between marks, or only the mark and a name. -/
def handle (cells : List Cell) : String × List Cell :=
  match take cells with
  | (name, cell :: rest) =>
    if cell.char == '!' then ("!" ++ name ++ "!", rest) else ("!" ++ name, cell :: rest)
  | (name, []) => ("!" ++ name, [])

/-- A tag after its first mark, without regard to what follows. -/
def tagParts? (cells : List Cell) : Option (Token × List Cell) :=
  match cells with
  | cell :: rest =>
    if cell.char == '<' then verbatim? rest else shorthand? (cell :: rest)
  | [] => shorthand? []
where
  verbatim? (cells : List Cell) : Option (Token × List Cell) :=
    match uri? true 0 0 cells with
    | some (c :: cs, close :: rest) =>
      if close.char == '>' then some (.tag "" (String.ofList (c :: cs)), rest) else none
    | _ => none
  shorthand? (cells : List Cell) : Option (Token × List Cell) :=
    let (handle, rest) := handle cells
    match uri? false 0 0 rest with
    | none => none
    | some (suffix, after) =>
      if 1 < handle.length && handle.endsWith "!" then
        if suffix.isEmpty then none else some (.tag handle (String.ofList suffix), after)
      else
        match handle.toList.drop 1 ++ suffix with
        | [] => some (.tag "" "!", after)
        | suffix => some (.tag "!" (String.ofList suffix), after)

def tag? (inFlow : Bool) (cells : List Cell) : Option (Token × List Cell) := do
  let (token, rest) ← tagParts? cells
  if (inFlow && Cell.startsWith ',' rest) || Cell.endsWord rest then return (token, rest) else none

/-- A number of one to nine digits. -/
def versionNumber? (cells : List Cell) : Option (Nat × List Cell) :=
  let digits := cells.takeWhile (·.char.isDigit)
  if digits.isEmpty || 9 < digits.length then none
  else some (Nat.ofDigitChars 10 (digits.map Cell.char) 0, cells.drop digits.length)

def version? (cells : List Cell) : Option (Token × List Cell) := do
  let (major, rest) ← versionNumber? (Cell.dropSpaces cells)
  match rest with
  | point :: rest =>
    if point.char ≠ '.' then none
    else
      let (minor, rest) ← versionNumber? rest
      return (.versionDirective major minor, rest)
  | [] => none

def tagRule? (cells : List Cell) : Option (Token × List Cell) := do
  match Cell.dropSpaces cells with
  | [] => none
  | mark :: rest =>
    if mark.char ≠ '!' then none
    else
      let (handle, rest) := handle rest
      if (handle ≠ "!" && !handle.endsWith "!") || !rest.head?.any (isSpaceOrTab ·.char) then none
      else
        let (start, rest) ← uri? true 0 0 (Cell.dropSpaces rest)
        if start.isEmpty || !Cell.endsWord rest then none
        else return (.tagDirective handle (String.ofList start), rest)

/-- A directive after its percent sign, up to the end of its line. -/
def directive? (cells : List Cell) : Option (Token × List Cell) := do
  let (name, rest) := take cells
  if !Cell.endsWord rest then none
  else
    let (token, rest) ← if name = "YAML" then version? rest
      else if name = "TAG" then tagRule? rest else none
    return (token, ← Cell.finishLine? rest)

end TmuxPlan.Yaml.Name
