import TmuxPlan.Toml.Number
import TmuxPlan.Toml.Table
import TmuxPlan.Toml.Text

/-!
The values and lines of a TOML document.
-/

set_option autoImplicit false

namespace TmuxPlan.Toml

namespace Item

/-- Skips blanks, comments and line breaks. -/
def skip (inComment : Bool) : List Char → Option (List Char)
  | [] => if inComment then none else some []
  | c :: cs =>
    if inComment then
      if c == '\n' then skip false cs else if isTextChar c then skip true cs else none
    else if c == '#' then skip true cs
    else if c == '\n' || isSpace c then skip false cs
    else some (c :: cs)

/-- A date, a time or a number. -/
def numeric? (cs : List Char) : Option (Item × List Char) :=
  match Number.moment? cs with
  | some rest => some (.moment, rest)
  | none => (Number.read? cs).map fun rest => (.number, rest)

mutual

/-- A value at a depth of nested values. The fuel bounds the steps and is taken from the length of
the text. -/
def read? (depth : Nat) : Nat → List Char → Option (Item × List Char)
  | 0, _ => none
  | fuel + 1, cs =>
    match cs with
    | [] => none
    | '[' :: rest =>
      if Key.depthLimit ≤ depth + 1 then none
      else do
        let (items, rest) ← items? (depth + 1) fuel rest
        return (.array items, rest)
    | '\x7b' :: rest =>
      if Key.depthLimit ≤ depth + 1 then none
      else do
        let (pairs, rest) ←
          match dropSpaces rest with
          | '\x7d' :: rest => some ([], rest)
          | rest => pairs? (depth + 1) fuel rest
        return (← inlineOf? pairs, rest)
    | 't' :: 'r' :: 'u' :: 'e' :: rest => some (.bool true, rest)
    | 'f' :: 'a' :: 'l' :: 's' :: 'e' :: rest => some (.bool false, rest)
    | c :: _ =>
      if c == '"' || c == '\'' then (Text.read? cs).map fun (s, rest) => (.text s, rest)
      else numeric? cs

/-- The members of an array, up to its end. -/
def items? (depth : Nat) : Nat → List Char → Option (List Item × List Char)
  | 0, _ => none
  | fuel + 1, cs => do
    match ← skip false cs with
    | ']' :: rest => return ([], rest)
    | cs =>
      let (item, rest) ← read? depth fuel cs
      match ← skip false rest with
      | ',' :: rest =>
        let (more, rest) ← items? depth fuel rest
        return (item :: more, rest)
      | ']' :: rest => return ([item], rest)
      | _ => none

/-- The entries of an inline table, one at least, up to its end. -/
def pairs? (depth : Nat) :
    Nat → List Char → Option (List ((List String × String) × Item) × List Char)
  | 0, _ => none
  | fuel + 1, cs => do
    let (key, rest) ← Key.read? cs
    match rest with
    | '=' :: rest =>
      let (item, rest) ← read? depth fuel (dropSpaces rest)
      match dropSpaces rest with
      | ',' :: rest =>
        let (more, rest) ← pairs? depth fuel rest
        return ((key, item) :: more, rest)
      | '\x7d' :: rest => return ([(key, item)], rest)
      | _ => none
    | _ => none

end

end Item

namespace Building

/-- One line that is not empty: a header, or a key with its value, which may take more lines. -/
def line? (building : Building) (cs : List Char) : Option (Building × List Char) :=
  match cs with
  | '[' :: '[' :: rest => do
    let ((path, key), rest) ← Key.read? rest
    match rest with
    | ']' :: ']' :: rest => return (← building.openArray? path key, ← finishLine? rest)
    | _ => none
  | '[' :: rest => do
    let ((path, key), rest) ← Key.read? rest
    match rest with
    | ']' :: rest => return (← building.openTable? path key, ← finishLine? rest)
    | _ => none
  | cs => do
    let ((path, key), rest) ← Key.read? cs
    match rest with
    | '=' :: rest =>
      let (item, rest) ← Item.read? 0 (2 * rest.length + 2) (dropSpaces rest)
      return (← building.add? path key item, ← finishLine? rest)
    | _ => none

/-- The lines of a document. Every line takes characters, so their number bounds the steps. -/
def lines? : Nat → Building → List Char → Option (Table Item)
  | 0, _, _ => none
  | fuel + 1, building, cs =>
    match dropSpaces cs with
    | [] => building.close?
    | '\n' :: rest => lines? fuel building rest
    | '#' :: rest => do lines? fuel building (← finishLine? ('#' :: rest))
    | cs => do
      let (building, rest) ← building.line? cs
      lines? fuel building rest

end Building

/-- Line breaks of two characters are made one. -/
def joinBreaks : List Char → List Char
  | '\r' :: '\n' :: cs => '\n' :: joinBreaks cs
  | c :: cs => c :: joinBreaks cs
  | [] => []

/-- The table that a text describes; a byte order mark in front is passed over. -/
def document? (text : String) : Option (Table Item) :=
  let cs := match text.toList with
    | '\ufeff' :: cs => cs
    | cs => cs
  Building.lines? (cs.length + 2) {} (joinBreaks cs)

end TmuxPlan.Toml
