import TmuxPlan.Yaml.Name
import TmuxPlan.Yaml.Scalar

/-!
From cells to tokens. Indentation opens and closes block collections. What may turn out to be a key
is remembered until a colon follows on the same line; the tokens that make it a key are then inserted
at the place where it started.
-/

set_option autoImplicit false

namespace TmuxPlan.Yaml

/-- A place where a key may have started. -/
structure SimpleKey where
  /-- It must be a key, because it stands at the column of its mapping. -/
  required : Bool
  /-- How many tokens there were before it. -/
  token : Nat
  line : Nat
  column : Nat

structure Scan where
  cells : List Cell
  tokens : Array Token := #[]
  /-- 1 more than the column of the innermost block collection, or 0. -/
  margin : Nat := 0
  outerMargins : List Nat := []
  key : Option SimpleKey := none
  /-- The keys of the flow collections around this place; none outside of them. -/
  outerKeys : List (Option SimpleKey) := []
  keyAllowed : Bool := true

namespace Scan

def inFlow (scan : Scan) : Bool :=
  !scan.outerKeys.isEmpty

def push (token : Token) (scan : Scan) : Scan :=
  { scan with tokens := scan.tokens.push token }

/-- Skips blanks, comments, line breaks, and a byte order mark at the start of a line; a new line
allows a key in block collections. -/
def skip (inFlow : Bool) : Bool → Bool → List Cell → Bool × List Cell
  | allowed, _, [] => (allowed, [])
  | allowed, inComment, cell :: rest =>
    if isBreak cell.char then skip inFlow (allowed || !inFlow) false rest
    else if cell.char == '\ufeff' && cell.column == 0 then skip inFlow allowed false rest
    else if inComment || cell.char == '#' then skip inFlow allowed true rest
    else if cell.char == ' ' || (cell.char == '\t' && (inFlow || !allowed)) then
      skip inFlow allowed false rest
    else (allowed, cell :: rest)

def skipGap (scan : Scan) : Scan :=
  let (keyAllowed, cells) := skip scan.inFlow scan.keyAllowed false scan.cells
  { scan with cells, keyAllowed }

/-- Gives up on a key that is not on this line, or more than 1024 characters back. -/
def keepKey? (line column : Nat) : Option SimpleKey → Option (Option SimpleKey)
  | none => some none
  | some key =>
    if key.line < line || key.column + 1024 < column then
      if key.required then none else some none
    else some (some key)

def keepKeys? (line column : Nat) (scan : Scan) : Option Scan := do
  let key ← keepKey? line column scan.key
  let outerKeys ← scan.outerKeys.mapM (keepKey? line column)
  return { scan with key, outerKeys }

/-- Forgets the key of this level, which must not be one that is required. -/
def dropKey? (scan : Scan) : Option Scan :=
  if scan.key.any SimpleKey.required then none else some { scan with key := none }

/-- Remembers that a key may start at this cell, if keys are allowed here. -/
def saveKey? (start : Cell) (scan : Scan) : Option Scan := do
  if scan.keyAllowed then
    let scan ← scan.dropKey?
    let required := !scan.inFlow && scan.margin == start.column + 1
    return { scan with key := some ⟨required, scan.tokens.size, start.line, start.column⟩ }
  else return scan

/-- Opens a block collection at a column further in; its token goes to the given place. -/
def openBlock (column place : Nat) (token : Token) (scan : Scan) : Scan :=
  if !scan.inFlow && scan.margin ≤ column then
    { scan with
      margin := column + 1
      outerMargins := scan.margin :: scan.outerMargins
      tokens := scan.tokens.insertIdxIfInBounds place token }
  else scan

/-- Closes the block collections that start right of the column before `margin`. -/
def closeTo (margin : Nat) (scan : Scan) : Scan :=
  if scan.inFlow then scan else go scan.margin scan.outerMargins scan.tokens
where
  go (current : Nat) : List Nat → Array Token → Scan
    | [], tokens => { scan with margin := current, outerMargins := [], tokens }
    | outer :: outers, tokens =>
      if margin < current then go outer outers (tokens.push .blockEnd)
      else { scan with margin := current, outerMargins := outer :: outers, tokens }

/-- Takes a token that was read, with the cells after it. -/
def took (token : Token) (cells : List Cell) (scan : Scan) : Scan :=
  { scan.push token with cells }

def allow (keyAllowed : Bool) (scan : Scan) : Scan :=
  { scan with keyAllowed }

def directive? (rest : List Cell) (scan : Scan) : Option Scan := do
  let (token, rest) ← Name.directive? rest
  return (((← (scan.closeTo 0).dropKey?).took token rest).allow false)

def marker? (token : Token) (scan : Scan) : Option Scan := do
  return (((← (scan.closeTo 0).dropKey?).took token (scan.cells.drop 3)).allow false)

def flowOpen? (cell : Cell) (token : Token) (rest : List Cell) (scan : Scan) : Option Scan := do
  let scan ← scan.saveKey? cell
  let inner := { scan with key := none, outerKeys := scan.key :: scan.outerKeys }
  return (inner.took token rest).allow true

def flowClose? (token : Token) (rest : List Cell) (scan : Scan) : Option Scan := do
  let scan ← scan.dropKey?
  let outer := match scan.outerKeys with
    | [] => scan
    | key :: outerKeys => { scan with key, outerKeys }
  return (outer.took token rest).allow false

def flowItem? (rest : List Cell) (scan : Scan) : Option Scan := do
  return ((← scan.dropKey?).took .flowEntry rest).allow true

def blockItem? (cell : Cell) (rest : List Cell) (scan : Scan) : Option Scan := do
  if !scan.inFlow && !scan.keyAllowed then none
  else
    let scan := scan.openBlock cell.column scan.tokens.size .blockSequenceStart
    return ((← scan.dropKey?).took .blockEntry rest).allow true

def explicitKey? (cell : Cell) (rest : List Cell) (scan : Scan) : Option Scan := do
  if !scan.inFlow && !scan.keyAllowed then none
  else
    let scan := scan.openBlock cell.column scan.tokens.size .blockMappingStart
    return ((← scan.dropKey?).took .key rest).allow (!scan.inFlow)

/-- A colon: what was remembered becomes a key, or else a value follows an explicit key. -/
def value? (cell : Cell) (rest : List Cell) (scan : Scan) : Option Scan :=
  match scan.key with
  | some key =>
    let keyed := { scan with
      key := none
      tokens := scan.tokens.insertIdxIfInBounds key.token .key }
    some (((keyed.openBlock key.column key.token .blockMappingStart).took .value rest).allow false)
  | none =>
    if !scan.inFlow && !scan.keyAllowed then none
    else
      let scan := scan.openBlock cell.column scan.tokens.size .blockMappingStart
      some ((scan.took .value rest).allow (!scan.inFlow))

def anchor? (cell : Cell) (token : String → Token) (rest : List Cell) (scan : Scan) :
    Option Scan := do
  let scan ← scan.saveKey? cell
  let (name, rest) ← Name.anchor? rest
  return (scan.took (token name) rest).allow false

def tag? (cell : Cell) (rest : List Cell) (scan : Scan) : Option Scan := do
  let scan ← scan.saveKey? cell
  let (token, rest) ← Name.tag? scan.inFlow rest
  return (scan.took token rest).allow false

def block? (style : Style) (rest : List Cell) (scan : Scan) : Option Scan := do
  let scan ← scan.dropKey?
  let read ← ScalarRead.block? (style == .folded) scan.margin rest
  return (scan.took (.scalar style read.text) read.rest).allow true

def quoted? (cell : Cell) (rest : List Cell) (scan : Scan) : Option Scan := do
  let scan ← scan.saveKey? cell
  let read ← ScalarRead.quoted? (cell.char == '\'') (.body none) [] rest
  return (scan.took (.scalar .quoted read.text) read.rest).allow false

def plain? (cell : Cell) (scan : Scan) : Option Scan := do
  let scan ← scan.saveKey? cell
  let read ← ScalarRead.plain? scan.inFlow scan.margin (some (.blanks [])) [] scan.cells
  return (scan.took (.scalar .plain read.text) read.rest).allow read.onNewLine

/-- Whether a plain scalar may start with the character, given what follows it. -/
def startsPlain (inFlow : Bool) (c : Char) (rest : List Cell) : Bool :=
  !(isSpaceOrBreak c || "-?:,[]\x7b\x7d#&*!|>'\"%@\x60".toList.contains c) ||
    (c == '-' && !rest.head?.any (isSpaceOrTab ·.char)) ||
    (!inFlow && (c == '?' || c == ':') && !Cell.endsWord rest)

/-- One token, by the character it starts with. -/
def token? (cell : Cell) (rest : List Cell) (scan : Scan) : Option Scan :=
  let c := cell.char
  if c == '%' && cell.column == 0 then scan.directive? rest
  else if Cell.isMarker '-' scan.cells then scan.marker? .documentStart
  else if Cell.isMarker '.' scan.cells then scan.marker? .documentEnd
  else if c == '[' then scan.flowOpen? cell .flowSequenceStart rest
  else if c == '\x7b' then scan.flowOpen? cell .flowMappingStart rest
  else if c == ']' then scan.flowClose? .flowSequenceEnd rest
  else if c == '\x7d' then scan.flowClose? .flowMappingEnd rest
  else if c == ',' then scan.flowItem? rest
  else if c == '-' && Cell.endsWord rest then scan.blockItem? cell rest
  else if c == '?' && (scan.inFlow || Cell.endsWord rest) then scan.explicitKey? cell rest
  else if c == ':' && (scan.inFlow || Cell.endsWord rest) then scan.value? cell rest
  else if c == '*' then scan.anchor? cell .alias rest
  else if c == '&' then scan.anchor? cell .anchor rest
  else if c == '!' then scan.tag? cell rest
  else if c == '|' && !scan.inFlow then scan.block? .literal rest
  else if c == '>' && !scan.inFlow then scan.block? .folded rest
  else if c == '\'' || c == '"' then scan.quoted? cell rest
  else if startsPlain scan.inFlow c rest then scan.plain? cell
  else none

/-- Takes tokens until the text ends. Every token takes a cell, so the fuel is the number of cells
and one more. -/
def run? : Nat → Scan → Option (Array Token)
  | 0, _ => none
  | fuel + 1, scan =>
    let scan := scan.skipGap
    match scan.cells with
    | [] => do return (← (scan.closeTo 0).dropKey?).tokens
    | cell :: rest => do
      let scan ← scan.keepKeys? cell.line cell.column
      run? fuel (← (scan.closeTo (cell.column + 1)).token? cell rest)

end Scan

/-- The tokens of a text. -/
def tokens? (text : String) : Option (List Token) := do
  let cells ← Cell.ofText? text
  return (← Scan.run? (cells.length + 1) { cells }).toList

end TmuxPlan.Yaml
