/-!
The tables of a TOML document. A table that only came up on the way to another one is implicit until
it gets a header of its own; one that was made by a key with points in it can only be extended by
such keys. Nothing can be defined twice.
-/

set_option autoImplicit false

namespace TmuxPlan.Toml

structure Table (Item : Type) where
  entries : List (String × Item) := []
  implicit : Bool := false
  dotted : Bool := false

inductive Item where
  | text (s : String)
  | bool (b : Bool)
  | number
  | moment
  | array (items : List Item)
  | inline (table : Table Item)
  | table (table : Table Item)
  /-- An array of tables, of which the last is the one that can be extended. -/
  | tables (tables : List (Table Item))

namespace Table

/-- Replaces the item under a key, or adds it at the end. -/
def put (table : Table Item) (key : String) (item : Item) : Table Item :=
  if table.entries.any (·.1 == key) then
    { table with entries := table.entries.map fun (k, old) => (k, if k == key then item else old) }
  else { table with entries := table.entries ++ [(key, item)] }

def erase (table : Table Item) (key : String) : Table Item :=
  { table with entries := table.entries.filter (·.1 ≠ key) }

/-- Adds an item under a key that is free. A key after a path of other keys needs a table that was
made by such keys, and a key alone needs one that was not. -/
def add? (path : List String) (key : String) (item : Item) (table : Table Item) :
    Option (Table Item) :=
  if table.dotted == path.isEmpty || (table.entries.lookup key).isSome then none
  else some (table.put key item)

/-- Changes the table at the end of a path of headers, or of a key if `dotted` is set, and makes the
tables on the way. -/
def descend? (dotted : Bool) (change : Table Item → Option (Table Item)) :
    List String → Table Item → Option (Table Item)
  | [], table => change table
  | key :: path, table =>
    match table.entries.lookup key with
    | none => do
      return table.put key (.table (← descend? dotted change path { implicit := true, dotted }))
    | some (.table inner) =>
      if dotted && !inner.implicit then none
      else do return table.put key (.table (← descend? dotted change path inner))
    | some (.tables all) => do
      let last ← all.getLast?
      return table.put key (.tables (all.dropLast ++ [← descend? dotted change path last]))
    | some _ => none

/-- The same for inline tables, where all that is made on the way is inline too. -/
def descendInline? (change : Table Item → Option (Table Item)) :
    List String → Table Item → Option (Table Item)
  | [], table => change table
  | key :: path, table =>
    match table.entries.lookup key with
    | none => do
      let made : Table Item := { implicit := true, dotted := true }
      return table.put key (.inline (← descendInline? change path made))
    | some (.inline inner) =>
      if !inner.implicit then none
      else do return table.put key (.inline (← descendInline? change path inner))
    | some _ => none

/-- The item under the last key of a path of headers, if there is one. -/
def find? (key : String) : List String → Table Item → Option Item
  | [], table => table.entries.lookup key
  | first :: path, table =>
    match table.entries.lookup first with
    | some (.table inner) => find? key path inner
    | some (.tables all) => all.getLast?.bind (find? key path)
    | _ => none

end Table

/-- An inline table from its keys and items, in order. -/
def Item.inlineOf? (pairs : List ((List String × String) × Item)) : Option Item := do
  let table ← pairs.foldlM (fun (table : Table Item) pair =>
    let ((path, key), item) := pair
    table.descendInline? (Table.add? path key item) path) {}
  return .inline table

/-- A document while it is read: what is finished, and the table that the last header opened. -/
structure Building where
  root : Table Item := {}
  current : Table Item := {}
  path : List String := []
  inArray : Bool := false

namespace Building

/-- Puts the open table into its place. -/
def close? (building : Building) : Option (Table Item) :=
  match building.path.getLast? with
  | none => some building.current
  | some key =>
    building.root.descend? false (fun parent =>
      match parent.entries.lookup key, building.inArray with
      | none, true => some (parent.put key (.tables [building.current]))
      | some (.tables all), true => some (parent.put key (.tables (all ++ [building.current])))
      | none, false => some (parent.put key (.table building.current))
      | some _, _ => none) building.path.dropLast

/-- Opens the table of a header. One that is there already must be implicit so far. -/
def openTable? (path : List String) (key : String) (building : Building) : Option Building := do
  let root ← building.close?
  let current ← match root.find? key path with
    | none => some {}
    | some (.table found) =>
      if found.implicit && !found.dotted then some { found with implicit := false } else none
    | some _ => none
  let root ← root.descend? false (fun parent => some (parent.erase key)) path
  return { root, current, path := path ++ [key], inArray := false }

/-- Opens the next table of an array of tables. -/
def openArray? (path : List String) (key : String) (building : Building) : Option Building := do
  let root ← building.close?
  let root ← root.descend? false (fun parent =>
    match parent.entries.lookup key with
    | none | some (.tables _) => some parent
    | some _ => none) path
  return { root, current := {}, path := path ++ [key], inArray := true }

def add? (path : List String) (key : String) (item : Item) (building : Building) :
    Option Building := do
  return { building with
    current := ← building.current.descend? true (Table.add? path key item) path }

end Building

end TmuxPlan.Toml
