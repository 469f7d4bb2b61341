/-!
YAML text as a list of cells: characters that know their line and column. Line breaks are made equal
here, so that the rest of the reader sees a line feed wherever a line ends with one of the control
characters that may end it; the two Unicode separators stay what they are.
-/

set_option autoImplicit false

namespace TmuxPlan.Yaml

structure Cell where
  char : Char
  line : Nat
  column : Nat
  deriving Repr

/-- Characters that may stand in a YAML text. -/
def isAllowed (c : Char) : Bool :=
  c == '\t' || c == '\n' || c == '\r' || (0x20 ≤ c.toNat && c.toNat ≤ 0x7E) ||
    c.toNat == 0x85 || (0xA0 ≤ c.toNat && c.toNat ≤ 0xFFFD) || 0x10000 ≤ c.toNat

def isSpaceOrTab (c : Char) : Bool :=
  c == ' ' || c == '\t'

/-- Line breaks, once control characters that end a line are made equal. -/
def isBreak (c : Char) : Bool :=
  c == '\n' || c == '\u2028' || c == '\u2029'

def isSpaceOrBreak (c : Char) : Bool :=
  isSpaceOrTab c || isBreak c

/-- Characters of names: of anchors, tag handles and directives. -/
def isNameChar (c : Char) : Bool :=
  c.isAlphanum || c == '_' || c == '-'

namespace Cell

/-- Gives characters their places, from the given one on. -/
def place (line column : Nat) : List Char → List Cell
  | [] => []
  | '\r' :: '\n' :: cs => ⟨'\n', line, column⟩ :: place (line + 1) 0 cs
  | c :: cs =>
    if c == '\r' || c.toNat == 0x85 then ⟨'\n', line, column⟩ :: place (line + 1) 0 cs
    else if isBreak c then ⟨c, line, column⟩ :: place (line + 1) 0 cs
    else ⟨c, line, column⟩ :: place line (column + 1) cs

def ofText? (text : String) : Option (List Cell) :=
  let cs := text.toList
  if cs.all isAllowed then some (place 0 0 cs) else none

/-- Whether a list starts with the character. -/
def startsWith (c : Char) : List Cell → Bool
  | [] => false
  | cell :: _ => cell.char == c

/-- Whether the list ends or goes on with a blank or a line break. -/
def endsWord : List Cell → Bool
  | [] => true
  | cell :: _ => isSpaceOrBreak cell.char

/-- Whether a document marker made of three such characters stands here. -/
def isMarker (c : Char) : List Cell → Bool
  | c₁ :: c₂ :: c₃ :: rest =>
    c₁.column == 0 && c₁.char == c && c₂.char == c && c₃.char == c && endsWord rest
  | _ => false

def startsDocument (cells : List Cell) : Bool :=
  isMarker '-' cells || isMarker '.' cells

def text (cells : List Cell) : String :=
  String.ofList (cells.map Cell.char)

def dropSpaces (cells : List Cell) : List Cell :=
  cells.dropWhile (isSpaceOrTab ·.char)

def dropLine (cells : List Cell) : List Cell :=
  cells.dropWhile (!isBreak ·.char)

/-- Skips blanks, a comment and the line break: all that may follow on the line. -/
def finishLine? (cells : List Cell) : Option (List Cell) :=
  let rest := dropSpaces cells
  match if startsWith '#' rest then dropLine rest else rest with
  | [] => some []
  | cell :: rest => if isBreak cell.char then some rest else none

end Cell

end TmuxPlan.Yaml
