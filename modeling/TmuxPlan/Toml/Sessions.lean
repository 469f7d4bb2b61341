import TmuxPlan.Document.Value
import TmuxPlan.Toml.Document

/-!
From a TOML document to the sessions it describes: every entry of the document is one.
-/

set_option autoImplicit false

namespace TmuxPlan.Toml

open TmuxPlan.Document (Value)

namespace Item

mutual

/-- A date or time stands as a mapping with one key that no shape knows. -/
def value : Item → Value
  | .text s => .text s
  | .bool b => .bool b
  | .number => .number
  | .moment => .map [(.text "", .text "")]
  | .array items => .list (values items)
  | .inline inner | .table inner => tableValue inner
  | .tables all => .list (tableValues all)

def values : List Item → List Value
  | [] => []
  | item :: items => item.value :: values items

def tableValue : Table Item → Value
  | ⟨entries, _, _⟩ => .map (entryValues entries)

def entryValues : List (String × Item) → List (Value × Value)
  | [] => []
  | (key, item) :: entries => (.text key, item.value) :: entryValues entries

def tableValues : List (Table Item) → List Value
  | [] => []
  | first :: rest => tableValue first :: tableValues rest

end

end Item

/-- The sessions that a text describes, in the order in which it gives them. -/
def sessions? (text : String) : Option (List (String × Value)) := do
  let table ← document? text
  return table.entries.map fun (key, item) => (key, item.value)

end TmuxPlan.Toml
