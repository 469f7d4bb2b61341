import TmuxPlan.Text.Number
import TmuxPlan.Yaml.Cell
import TmuxPlan.Yaml.Token

/-!
The four written forms of a scalar: plain, in single quotes, in double quotes, and as a block. Every
reader takes the cells after the mark that opened the scalar and gives back the text and the cells
that follow.
-/

set_option autoImplicit false

namespace TmuxPlan.Yaml

/-- What separates two words of a scalar: blanks on one line, or line breaks, of which the first is
kept apart because it may be folded. -/
inductive Gap where
  | blanks (chars : List Char)
  | breaks (first : Option Char) (more : List Char)

namespace Gap

def add (c : Char) : Gap → Gap
  | .blanks chars => if isBreak c then .breaks (some c) [] else .blanks (chars ++ [c])
  | .breaks first more => if isBreak c then .breaks first (more ++ [c]) else .breaks first more

def isBroken : Gap → Bool
  | .blanks _ => false
  | .breaks .. => true

/-- One line break is a space; of several the first is dropped. -/
def chars : Gap → List Char
  | .blanks chars => chars
  | .breaks (some '\n') [] => [' ']
  | .breaks (some '\n') more => more
  | .breaks first more => first.toList ++ more

end Gap

/-- A scalar that was read, and what comes after it. -/
structure ScalarRead where
  text : String
  rest : List Cell
  /-- A line was left behind, so a key may start here. -/
  onNewLine : Bool := false

namespace ScalarRead

def ofReversed (reversed : List Char) (rest : List Cell) (onNewLine : Bool) : ScalarRead :=
  ⟨String.ofList reversed.reverse, rest, onNewLine⟩

/-- Characters that end a plain scalar inside a flow collection. -/
def isFlowIndicator (c : Char) : Bool :=
  c == ',' || c == '[' || c == ']' || c == '\x7b' || c == '\x7d'

/-- Reads a plain scalar; `gap` is what was skipped since the last word, `none` inside a word. -/
def plain? (inFlow : Bool) (margin : Nat) :
    Option Gap → List Char → List Cell → Option ScalarRead
  | gap, taken, [] => some (ofReversed taken [] (gap.any Gap.isBroken))
  | gap, taken, cell :: rest =>
    let broken := gap.any Gap.isBroken
    let ends :=
      (broken && !inFlow && cell.column < margin) ||
        (gap.isSome && (Cell.startsDocument (cell :: rest) || cell.char == '#'))
    if isSpaceOrBreak cell.char then
      if broken && cell.char == '\t' && cell.column < margin then none
      else plain? inFlow margin (some ((gap.getD (.blanks [])).add cell.char)) taken rest
    else if ends then some (ofReversed taken (cell :: rest) broken)
    else if cell.char == ':' && inFlow &&
        rest.head?.any (fun next => isFlowIndicator next.char || next.char == '?') then none
    else if (cell.char == ':' && Cell.endsWord rest) ||
        (inFlow && isFlowIndicator cell.char) then
      some (ofReversed taken (cell :: rest) broken)
    else
      plain? inFlow margin none
        (cell.char :: ((gap.map Gap.chars).getD []).reverse ++ taken) rest

/-- Where a reader of a quoted scalar stands. -/
inductive Quoting where
  | body (gap : Option Gap)
  | escape
  /-- In a character code, with so many digits to come. -/
  | code (left value : Nat)
  /-- After a single quote, which may be the first of two. -/
  | quote

/-- The character that an escape of one letter stands for. -/
def escaped? (c : Char) : Option Char :=
  [('0', '\x00'), ('a', '\x07'), ('b', '\x08'), ('t', '\t'), ('\t', '\t'), ('n', '\n'),
    ('v', '\x0b'), ('f', '\x0c'), ('r', '\r'), ('e', '\x1b'), (' ', ' '), ('"', '"'),
    ('/', '/'), ('\\', '\\'), ('N', '\u0085'), ('_', '\u00a0'), ('L', '\u2028'),
    ('P', '\u2029')].lookup c

/-- How many digits the character code after this letter has. -/
def codeLength? (c : Char) : Option Nat :=
  [('x', 2), ('u', 4), ('U', 8)].lookup c

def quoted? (single : Bool) : Quoting → List Char → List Cell → Option ScalarRead
  | .quote, taken, [] => some (ofReversed taken [] false)
  | _, _, [] => none
  | .quote, taken, cell :: rest =>
    if cell.char == '\'' then quoted? single (.body none) ('\'' :: taken) rest
    else some (ofReversed taken (cell :: rest) false)
  | .escape, taken, cell :: rest =>
    if isBreak cell.char then quoted? single (.body (some (.breaks none []))) taken rest
    else
      match escaped? cell.char, codeLength? cell.char with
      | some c, _ => quoted? single (.body none) (c :: taken) rest
      | none, some digits => quoted? single (.code digits 0) taken rest
      | none, none => none
  | .code left value, taken, cell :: rest =>
    match Text.hexDigit? cell.char with
    | none => none
    | some digit =>
      let value := 16 * value + digit
      if 1 < left then quoted? single (.code (left - 1) value) taken rest
      else
        match Text.charOfCode? value with
        | some c => quoted? single (.body none) (c :: taken) rest
        | none => none
  | .body gap, taken, cell :: rest =>
    if isSpaceOrBreak cell.char then
      quoted? single (.body (some ((gap.getD (.blanks [])).add cell.char))) taken rest
    else if Cell.startsDocument (cell :: rest) then none
    else
      let taken := ((gap.map Gap.chars).getD []).reverse ++ taken
      if single then
        if cell.char == '\'' then quoted? single .quote taken rest
        else quoted? single (.body none) (cell.char :: taken) rest
      else if cell.char == '"' then some (ofReversed taken rest false)
      else if cell.char == '\\' then quoted? single .escape taken rest
      else quoted? single (.body none) (cell.char :: taken) rest

/-- What happens to the line breaks at the end of a block scalar. -/
inductive Chomping where
  | strip
  | clip
  | keep
  deriving DecidableEq

/-- A block scalar while it is read. -/
structure Block where
  folded : Bool
  chomping : Chomping
  /-- The column of the text, once it is known. -/
  indent : Option Nat
  /-- The widest indentation of the lines so far. -/
  widest : Nat := 0
  taken : List Char := []
  /-- The break after the last line of text. -/
  lineEnd : List Char := []
  /-- The breaks of the empty lines after it. -/
  emptyLines : List Char := []
  /-- The last line of text starts with a blank. -/
  blankStart : Bool := false

namespace Block

/-- The text of the lines before, with the break to the line that starts with `c`. -/
def openLine (block : Block) (c : Char) : Block :=
  let folds := block.folded && block.lineEnd == ['\n'] && !block.blankStart && !isSpaceOrTab c
  let between :=
    if folds then (if block.emptyLines.isEmpty then [' '] else block.emptyLines)
    else block.lineEnd ++ block.emptyLines
  { block with
    taken := between.reverse ++ block.taken
    lineEnd := [], emptyLines := [], blankStart := isSpaceOrTab c }

def finish (block : Block) (rest : List Cell) : ScalarRead :=
  let tail :=
    match block.chomping with
    | .strip => []
    | .clip => block.lineEnd
    | .keep => block.lineEnd ++ block.emptyLines
  ofReversed (tail.reverse ++ block.taken) rest true

/-- Where the text starts: at the widest line so far, and inside the collection around it. -/
def indentAt (block : Block) (margin column : Nat) : Nat :=
  block.indent.getD (max (max block.widest column) (max margin 1))

/-- Reads lines; `inLine` inside the text of a line, else in the indentation before it. -/
def read? (margin : Nat) : Block → Bool → List Cell → Option ScalarRead
  | block, _, [] => some (block.finish [])
  | block, true, cell :: rest =>
    if isBreak cell.char then read? margin { block with lineEnd := [cell.char] } false rest
    else read? margin { block with taken := cell.char :: block.taken } true rest
  | block, false, cell :: rest =>
    let indented := block.indent.all (cell.column < ·)
    if indented && cell.char == ' ' then read? margin block false rest
    else if indented && cell.char == '\t' then none
    else if isBreak cell.char then
      read? margin { block with
        widest := max block.widest cell.column
        emptyLines := block.emptyLines ++ [cell.char] } false rest
    else
      let indent := block.indentAt margin cell.column
      if cell.column == indent then
        let opened := ({ block with indent := some indent }).openLine cell.char
        read? margin { opened with taken := cell.char :: opened.taken } true rest
      else some (block.finish (cell :: rest))

/-- The marks after the one that opens a block scalar: chomping and indentation, in any order. -/
def header? (folded : Bool) (margin : Nat) (cells : List Cell) : Option (Block × List Cell) :=
  let (chomping, cells) := takeChomping cells
  match takeIndent? cells with
  | none => none
  | some (indent, cells) =>
    let (late, cells) :=
      if chomping.isNone && indent.isSome then takeChomping cells else (none, cells)
    let indent := indent.map (margin - 1 + ·)
    some ({ folded, chomping := (chomping <|> late).getD .clip, indent }, cells)
where
  takeChomping : List Cell → Option Chomping × List Cell
    | [] => (none, [])
    | cell :: rest =>
      if cell.char == '+' then (some .keep, rest)
      else if cell.char == '-' then (some .strip, rest)
      else (none, cell :: rest)
  takeIndent? : List Cell → Option (Option Nat × List Cell)
    | [] => some (none, [])
    | cell :: rest =>
      if cell.char == '0' then none
      else if cell.char.isDigit then some (some (cell.char.toNat - '0'.toNat), rest)
      else some (none, cell :: rest)

end Block

/-- Reads a block scalar after its `|` or `>`; `margin` is 1 more than the column of the collection
around it, or 0. -/
def block? (folded : Bool) (margin : Nat) (cells : List Cell) : Option ScalarRead := do
  let (block, rest) ← Block.header? folded margin cells
  block.read? margin false (← Cell.finishLine? rest)

end ScalarRead

end TmuxPlan.Yaml
