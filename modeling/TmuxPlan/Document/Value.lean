/-!
The values that a config file holds, without regard to its format. Numbers are told apart only as
far as a mapping's keys need it: an unsigned integer of 64 bits, the widest that is read, may stand
for the position of a field.
-/

set_option autoImplicit false

namespace TmuxPlan.Document

inductive Value where
  | null
  | bool (b : Bool)
  | natural (n : UInt64)
  | number
  | text (s : String)
  | list (items : List Value)
  | map (entries : List (Value × Value))
  deriving Repr, Inhabited

/-- A declared field of a mapping: its name and the other names it is known by. -/
structure Field where
  name : String
  aliases : List String := []

namespace Field

def names (field : Field) : List String :=
  field.name :: field.aliases

/-- The declared field a key stands for: by name or, for an unsigned integer, by position. A key of
another kind cannot name a field. -/
def ofKey? (fields : List Field) : Value → Option (Option Field)
  | .text key => some (fields.find? fun field => field.names.contains key)
  | .natural position => some fields[position.toNat]?
  | _ => none

/-- The values that the entries of a mapping give to declared fields, by the field's name. Unknown
keys are passed over; a field given twice is refused. -/
def ofEntries? (fields : List Field) :
    List (Value × Value) → Option (List (String × Value))
  | [] => some []
  | (key, value) :: entries => do
    let given ← ofEntries? fields entries
    match ← ofKey? fields key with
    | none => return given
    | some field =>
      if (given.lookup field.name).isSome then none else return (field.name, value) :: given

def ofItems (fields : List Field) (items : List Value) : List (String × Value) :=
  (fields.map Field.name).zip items

/-- The fields of a mapping, or of a list that is no longer than they are. -/
def ofValue? (fields : List Field) : Value → Option (List (String × Value))
  | .map entries => ofEntries? fields entries
  | .list items => if items.length ≤ fields.length then some (ofItems fields items) else none
  | _ => none

/-- Reads a field that may be absent; null is the same as absent. The outer level is `none` if the
value is there but does not read. -/
def read? {α : Type} (given : List (String × Value)) (name : String) (read : Value → Option α) :
    Option (Option α) :=
  match given.lookup name with
  | none | some .null => some none
  | some value => (read value).map some

end Field

namespace Value

def text? : Value → Option String
  | .text s => some s
  | _ => none

def bool? : Value → Option Bool
  | .bool b => some b
  | _ => none

end Value

end TmuxPlan.Document
