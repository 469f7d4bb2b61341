import TmuxPlan.Proofs.Document.Fields
import Mathlib.Data.List.Forall2

/-!
Records read from fields by name. The columns of a record say under which name each part of it is
given and how it is read. A reader of records is known by its columns, so that what follows for one
field of one record follows for every field of every record.
-/

set_option autoImplicit false

namespace TmuxPlan.Document

open Document.Field (Holds Differ)

/-- A part of a record: the name it is given under, how that is read, and the part itself. -/
structure Column (Record : Type) where
  name : String
  Content : Type
  read : Value → Option Content
  content : Record → Option Content

/-- Each part of the record is what its field holds. -/
def HeldBy {Record : Type} (columns : List (Column Record)) (given : List (String × Value))
    (record : Record) : Prop :=
  ∀ column ∈ columns, Holds column.read (given.lookup column.name) (column.content record)

/-- A reader that takes the fields a value gives, and reads a record from them column by column. -/
def IsReader {Record : Type} (columns : List (Column Record))
    (fields? : Value → Option (List (String × Value))) (read? : Value → Option Record) : Prop :=
  ∀ value record, read? value = some record ↔
    ∃ given, fields? value = some given ∧ HeldBy columns given record

/-- What is put into a column gets there, and into no other one. -/
structure Column.SetBy {Record : Type} (column : Column Record) (columns : List (Column Record))
    (put : Record → Option column.Content → Record) : Prop where
  listed : column ∈ columns
  sole : ∀ other ∈ columns, other.name = column.name → other = column
  content_put : ∀ record content, column.content (put record content) = content
  others : ∀ other ∈ columns, other.name ≠ column.name →
    ∀ record content, other.content (put record content) = other.content record

/-- An entry to write is what a column is read from. -/
def Column.MetBy {Record : Type} (record : Record) (column : Column Record)
    (entry : String × Option Value) : Prop :=
  entry.1 = column.name ∧ Holds column.read entry.2 (column.content record)

section

variable {Record : Type} {columns : List (Column Record)} {record : Record}

@[simp]
theorem heldBy_nil (given : List (String × Value)) (record : Record) : HeldBy [] given record :=
  nofun

@[simp]
theorem heldBy_cons (column : Column Record) (given : List (String × Value)) :
    HeldBy (column :: columns) given record ↔
      Holds column.read (given.lookup column.name) (column.content record) ∧
        HeldBy columns given record :=
  List.forall_mem_cons

/-- The field of a column is read, and then the others. What has been read so far goes to its place
in the record. -/
theorem read?_bind_eq_some_iff {Content : Type} {name : String} {read : Value → Option Content}
    {content : Record → Option Content} {given : List (String × Value)}
    {next : Option Content → Option Record} {placed : Prop}
    (later : ∀ part, next part = some record ↔
      (placed ∧ part = content record) ∧ HeldBy columns given record) :
    (Field.read? given name read).bind next = some record ↔
      placed ∧ HeldBy (⟨name, Content, read, content⟩ :: columns) given record := by
  simp only [Option.bind_eq_some_iff, Field.read?_eq_some_iff, later, heldBy_cons]
  constructor
  · rintro ⟨_, holds, ⟨placed, rfl⟩, rest⟩
    exact ⟨placed, holds, rest⟩
  · rintro ⟨placed, holds, rest⟩
    exact ⟨_, holds, ⟨placed, rfl⟩, rest⟩

theorem isReader_of_bind {fields? : Value → Option (List (String × Value))}
    {read? : Value → Option Record} {next : List (String × Value) → Option Record}
    (shape : ∀ value, read? value = (fields? value).bind next)
    (each : ∀ given record, next given = some record ↔ True ∧ HeldBy columns given record) :
    IsReader columns fields? read? := by
  intro value record
  simp only [shape, Option.bind_eq_some_iff, each, true_and]

/-- Another value for the field of a column changes this column of the record and no other. -/
theorem HeldBy.put {given changed : List (String × Value)} (held : HeldBy columns given record)
    {column : Column Record} {put : Record → Option column.Content → Record}
    (set : column.SetBy columns put) {old new : Value}
    (differ : Differ column.name old new given changed) {content : Option column.Content}
    (newHeld : Holds column.read (some new) content) :
    HeldBy columns changed (put record content) := by
  intro other listed
  by_cases same : other.name = column.name
  · obtain rfl := set.sole other listed same
    rw [differ.after, set.content_put]
    exact newHeld
  · rw [differ.others _ same, set.others other listed same]
    exact held other listed

theorem IsReader.put {fields? : Value → Option (List (String × Value))}
    {read? : Value → Option Record} (reader : IsReader columns fields? read?)
    {column : Column Record} {put : Record → Option column.Content → Record}
    (set : column.SetBy columns put) {old new value damaged : Value}
    (related : Option.Rel (Differ column.name old new) (fields? value) (fields? damaged))
    (read : read? value = some record) :
    Holds column.read (some old) (column.content record) ∧
      ∀ content, Holds column.read (some new) content →
        read? damaged = some (put record content) := by
  obtain ⟨given, admitted, held⟩ := (reader value record).mp read
  rw [admitted] at related
  generalize alsoAdmitted : fields? damaged = outcome at related
  cases related with
  | @some _ changed differ =>
    constructor
    · rw [← differ.before]
      exact held column set.listed
    · intro content newHeld
      exact (reader damaged _).mpr ⟨changed, alsoAdmitted, held.put set differ newHeld⟩

/-- Entries that are written for a record give its columns. -/
theorem Field.Writes.heldBy {fields : List Field} {held : List (String × Option Value)}
    {entries : List (Value × Value)} (written : Writes fields held entries)
    (unambiguous : Unambiguous fields) (complete : held.map Prod.fst = fields.map Field.name)
    (met : List.Forall₂ (Column.MetBy record) columns held) :
    ∃ given, Field.ofEntries? fields entries = some given ∧ HeldBy columns given record := by
  obtain ⟨given, admitted, lookups⟩ := written.ofEntries? fields unambiguous complete
  refine ⟨given, admitted, ?_⟩
  clear admitted complete written
  induction met with
  | nil => exact heldBy_nil given record
  | cons first met inductionHypothesis =>
    obtain ⟨here, later⟩ := List.forall_mem_cons.mp lookups
    obtain ⟨named, holds⟩ := first
    rw [← here, named] at holds
    exact (heldBy_cons _ given).mpr ⟨holds, inductionHypothesis later⟩

end

end TmuxPlan.Document
