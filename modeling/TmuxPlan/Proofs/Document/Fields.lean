import TmuxPlan.Document.Value
import Mathlib.Data.List.Nodup

/-!
What the entries of a mapping give to its declared fields. The keys alone decide whether they give
anything: each has to be one that can name a field, and no field may be named twice. So another
value under one of the keys changes what that field holds, and nothing else.
-/

set_option autoImplicit false

namespace TmuxPlan.Document.Field

variable (fields : List Field)

/-- The name of the declared field that a key stands for. -/
def named? (key : Value) : Option String :=
  (ofKey? fields key).join.map Field.name

/-- The values of the declared fields, in the order of the entries. -/
def contents (entries : List (Value × Value)) : List (String × Value) :=
  entries.filterMap fun (key, value) => (named? fields key).map (·, value)

/-- Each key can name a field, and no two of them name the same. -/
def Admits (keys : List Value) : Prop :=
  (∀ key ∈ keys, (ofKey? fields key).isSome) ∧ (keys.filterMap (named? fields)).Nodup

theorem contents_append (first second : List (Value × Value)) :
    contents fields (first ++ second) = contents fields first ++ contents fields second := by
  simp [contents]

theorem contents_cons_of_named {key : Value} {name : String} (named : named? fields key = some name)
    (value : Value) (entries : List (Value × Value)) :
    contents fields ((key, value) :: entries) = (name, value) :: contents fields entries := by
  simp [contents, named]

theorem contents_keys (entries : List (Value × Value)) :
    (contents fields entries).map Prod.fst =
      (entries.map Prod.fst).filterMap (named? fields) := by
  rw [contents, List.map_filterMap, List.filterMap_map]
  congr 1
  funext entry
  cases named : named? fields entry.1 <;> simp [named]

theorem lookup_eq_none_iff {given : List (String × Value)} {name : String} :
    given.lookup name = none ↔ name ∉ given.map Prod.fst := by
  simp only [List.lookup_eq_none_iff, List.mem_map, not_exists, not_and]
  constructor
  · intro missed entry listed same
    simpa [same] using missed entry listed
  · intro missed entry listed
    simpa using fun same => missed entry listed same.symm

theorem admits_cons {key : Value} {keys : List Value} :
    Admits fields (key :: keys) ↔
      (ofKey? fields key).isSome ∧
        (∀ name ∈ named? fields key, name ∉ keys.filterMap (named? fields)) ∧
          Admits fields keys := by
  unfold Admits
  cases named : named? fields key with
  | none =>
    rw [List.filterMap_cons_none named, List.forall_mem_cons]
    simp [and_assoc]
  | some name =>
    rw [List.filterMap_cons_some named, List.forall_mem_cons, List.nodup_cons]
    simp only [Option.mem_some_iff, forall_eq']
    exact ⟨fun ⟨⟨usable, later⟩, fresh, distinct⟩ => ⟨usable, fresh, later, distinct⟩,
      fun ⟨usable, fresh, later, distinct⟩ => ⟨⟨usable, later⟩, fresh, distinct⟩⟩

theorem ofEntries?_eq_some_iff {entries : List (Value × Value)} {given : List (String × Value)} :
    ofEntries? fields entries = some given ↔
      Admits fields (entries.map Prod.fst) ∧ contents fields entries = given := by
  induction entries generalizing given with
  | nil => simp [ofEntries?, Admits, contents]
  | cons entry entries inductionHypothesis =>
    obtain ⟨key, value⟩ := entry
    rw [List.map_cons, admits_cons, ← contents_keys]
    simp only [ofEntries?, Option.bind_eq_bind, Option.bind_eq_some_iff, inductionHypothesis]
    cases known : ofKey? fields key with
    | none => simp
    | some field =>
      cases field with
      | none =>
        have unnamed : named? fields key = none := by simp [named?, known]
        simp [unnamed, contents]
      | some field =>
        have named : named? fields key = some field.name := by simp [named?, known]
        rw [contents_cons_of_named fields named]
        simp only [named, Option.mem_some_iff, forall_eq', ← lookup_eq_none_iff]
        cases found : (contents fields entries).lookup field.name <;> simp [found]

/-- What a field holds, and what is read from it: null is the same as nothing. -/
inductive Holds {α : Type} (read : Value → Option α) : Option Value → Option α → Prop where
  | absent : Holds read none none
  | null : Holds read (some .null) none
  | value {given : Value} {content : α} :
      given ≠ .null → read given = some content → Holds read (some given) (some content)

theorem read?_eq_some_iff {α : Type} {given : List (String × Value)} {name : String}
    {read : Value → Option α} {content : Option α} :
    read? given name read = some content ↔ Holds read (given.lookup name) content := by
  unfold read?
  generalize given.lookup name = held
  constructor
  · intro found
    split at found
    · cases found
      exact .absent
    · cases found
      exact .null
    · rename_i value nonnull
      obtain ⟨inner, readInner, rfl⟩ := Option.map_eq_some_iff.mp found
      exact .value nonnull readInner
  · intro holds
    cases holds with
    | absent => rfl
    | null => rfl
    | value nonnull readInner => simp [readInner]

theorem Holds.text (content : Option String) :
    Holds Value.text? (content.map .text) content := by
  cases content with
  | none => exact .absent
  | some text => exact .value Value.noConfusion rfl

theorem Holds.flag (content : Option Bool) : Holds Value.bool? (content.map .bool) content := by
  cases content with
  | none => exact .absent
  | some flag => exact .value Value.noConfusion rfl

theorem Holds.ofRel {α : Type} {read : Value → Option α} {written : α → Value → Prop}
    (atValue : ∀ {content value}, written content value →
      value ≠ .null ∧ read value = some content)
    {content : Option α} {value : Option Value} (related : Option.Rel written content value) :
    Holds read value content := by
  cases related with
  | none => exact .absent
  | some written => exact .value (atValue written).1 (atValue written).2

/-! ### Another value for one field -/

/-- Two values that differ in what one field holds: under its key in a mapping, or in its place in a
list that gives the fields in order. -/
inductive Changed (name : String) (change : Value → Value → Prop) : Value → Value → Prop where
  | entry {key old new : Value} {before after : List (Value × Value)} :
      named? fields key = some name → change old new →
      Changed name change (.map (before ++ (key, old) :: after))
        (.map (before ++ (key, new) :: after))
  | item {old new : Value} {before after : List Value} :
      (fields.map Field.name)[before.length]? = some name → change old new →
      Changed name change (.list (before ++ old :: after)) (.list (before ++ new :: after))

/-- What fields hold before and after one of them is given another value. -/
structure Differ (name : String) (old new : Value) (given changed : List (String × Value)) :
    Prop where
  before : given.lookup name = some old
  after : changed.lookup name = some new
  others : ∀ other, other ≠ name → changed.lookup other = given.lookup other

theorem differ_of_fresh {name : String} {first : List (String × Value)}
    (fresh : name ∉ first.map Prod.fst) (old new : Value) (last : List (String × Value)) :
    Differ name old new (first ++ (name, old) :: last) (first ++ (name, new) :: last) := by
  have missed := lookup_eq_none_iff.mpr fresh
  refine ⟨by simp [List.lookup_append, missed], by simp [List.lookup_append, missed], ?_⟩
  intro other apart
  have unequal : (other == name) = false := by simpa using apart
  simp [List.lookup_append, List.lookup_cons, unequal]

/-- With the keys the same, both mappings are read or neither is. -/
theorem ofEntries?_changed {key : Value} {name : String} (named : named? fields key = some name)
    (old new : Value) (before after : List (Value × Value)) :
    Option.Rel (Differ name old new) (ofEntries? fields (before ++ (key, old) :: after))
      (ofEntries? fields (before ++ (key, new) :: after)) := by
  have sameKeys : (before ++ (key, new) :: after).map Prod.fst =
      (before ++ (key, old) :: after).map Prod.fst := by
    simp
  have split (value : Value) : contents fields (before ++ (key, value) :: after) =
      contents fields before ++ (name, value) :: contents fields after := by
    rw [contents_append, contents_cons_of_named fields named]
  by_cases admitted : Admits fields ((before ++ (key, old) :: after).map Prod.fst)
  · rw [(ofEntries?_eq_some_iff fields).mpr ⟨admitted, split old⟩,
      (ofEntries?_eq_some_iff fields).mpr ⟨sameKeys ▸ admitted, split new⟩]
    refine .some (differ_of_fresh ?_ old new _)
    have distinct := admitted.2
    rw [← contents_keys, split, List.map_append, List.map_cons] at distinct
    exact fun listed => (List.nodup_append.mp distinct).2.2 name listed name (by simp) rfl
  · have unread (value : Value) : ofEntries? fields (before ++ (key, value) :: after) = none := by
      refine Option.eq_none_iff_forall_not_mem.mpr fun given read => admitted ?_
      have read := ((ofEntries?_eq_some_iff fields).mp read).1
      simpa using read
    rw [unread old, unread new]
    exact .none

theorem ofItems_changed (distinct : (fields.map Field.name).Nodup) {name : String}
    {before : List Value} (placed : (fields.map Field.name)[before.length]? = some name)
    (old new : Value) (after : List Value) :
    Differ name old new (ofItems fields (before ++ old :: after))
      (ofItems fields (before ++ new :: after)) := by
  obtain ⟨inside, atPlace⟩ := List.getElem?_eq_some_iff.mp placed
  have names : fields.map Field.name =
      (fields.map Field.name).take before.length ++
        name :: (fields.map Field.name).drop (before.length + 1) := by
    rw [← atPlace, ← List.drop_eq_getElem_cons inside, List.take_append_drop]
  have sameLength : ((fields.map Field.name).take before.length).length = before.length :=
    List.length_take_of_le (Nat.le_of_lt inside)
  have split (value : Value) : ofItems fields (before ++ value :: after) =
      ((fields.map Field.name).take before.length).zip before ++
        (name, value) :: ((fields.map Field.name).drop (before.length + 1)).zip after := by
    conv_lhs => rw [ofItems, names, List.zip_append sameLength, List.zip_cons_cons]
  rw [split, split]
  refine differ_of_fresh ?_ old new _
  rw [List.map_fst_zip (Nat.le_of_eq sameLength)]
  rw [names] at distinct
  exact fun listed => (List.nodup_append.mp distinct).2.2 name listed name (by simp) rfl

/-! ### Writing fields -/

/-- Entries that set fields: each of them under any of its names, among keys that name no field. -/
inductive Sets : List (String × Value) → List (Value × Value) → Prop where
  | nothing : Sets [] []
  | field {field : Field} {name : String} (value : Value) {set : List (String × Value)}
      {entries : List (Value × Value)} :
      field ∈ fields → name ∈ field.names → Sets set entries →
      Sets ((field.name, value) :: set) ((.text name, value) :: entries)
  | other {key : String} (value : Value) {set : List (String × Value)}
      {entries : List (Value × Value)} :
      (∀ field ∈ fields, key ∉ field.names) → Sets set entries →
      Sets set ((.text key, value) :: entries)

/-- The fields that hold something. -/
def present (held : List (String × Option Value)) : List (String × Value) :=
  held.filterMap fun (name, value) => value.map (name, ·)

/-- Entries that set the fields which hold something, in any order. -/
def Writes (held : List (String × Option Value)) (entries : List (Value × Value)) : Prop :=
  ∃ set, List.Perm set (present held) ∧ Sets fields set entries

/-- No name stands for two fields. -/
def Unambiguous : Prop :=
  (fields.flatMap Field.names).Nodup

instance : Decidable (Unambiguous fields) :=
  inferInstanceAs (Decidable (fields.flatMap Field.names).Nodup)

theorem Unambiguous.find? {fields : List Field} (unambiguous : Unambiguous fields) {field : Field}
    (declared : field ∈ fields) {name : String} (listed : name ∈ field.names) :
    fields.find? (fun field => field.names.contains name) = some field := by
  induction fields with
  | nil => cases declared
  | cons first rest inductionHypothesis =>
    obtain ⟨-, later, apart⟩ := List.nodup_append.mp unambiguous
    rcases List.mem_cons.mp declared with rfl | declared
    · exact List.find?_cons_of_pos (by simpa using listed)
    · have missed : name ∉ first.names := by
        intro early
        exact apart name early name (List.mem_flatMap.mpr ⟨field, declared, listed⟩) rfl
      rw [List.find?_cons_of_neg (by simpa using missed)]
      exact inductionHypothesis later declared

theorem Unambiguous.names {fields : List Field} (unambiguous : Unambiguous fields) :
    (fields.map Field.name).Nodup := by
  refine List.Sublist.nodup ?_ unambiguous
  induction fields with
  | nil => exact .refl _
  | cons first rest inductionHypothesis =>
    obtain ⟨-, later, -⟩ := List.nodup_append.mp unambiguous
    rw [List.map_cons, List.flatMap_cons]
    exact ((inductionHypothesis later).trans (List.sublist_append_right _ _)).cons_cons first.name

theorem present_keys_sublist (held : List (String × Option Value)) :
    List.Sublist ((present held).map Prod.fst) (held.map Prod.fst) := by
  induction held with
  | nil => exact .refl _
  | cons entry held inductionHypothesis =>
    obtain ⟨name, value⟩ := entry
    cases value with
    | none => exact inductionHypothesis.cons name
    | some value => exact inductionHypothesis.cons_cons name

theorem Sets.contents {set : List (String × Value)} {entries : List (Value × Value)}
    (unambiguous : Unambiguous fields) (sets : Sets fields set entries) :
    contents fields entries = set ∧
      ∀ key ∈ entries.map Prod.fst, (ofKey? fields key).isSome := by
  induction sets with
  | nothing => exact ⟨rfl, nofun⟩
  | @field field name value set entries declared listed later inductionHypothesis =>
    have known : ofKey? fields (.text name) = some (some field) :=
      congrArg some (unambiguous.find? declared listed)
    have named : named? fields (.text name) = some field.name := by simp [named?, known]
    rw [contents_cons_of_named fields named, inductionHypothesis.1]
    exact ⟨rfl, List.forall_mem_cons.mpr ⟨rfl, inductionHypothesis.2⟩⟩
  | @other key value set entries unknown later inductionHypothesis =>
    have unnamed : named? fields (.text key) = none := by
      simpa [named?, ofKey?] using unknown
    refine ⟨?_, List.forall_mem_cons.mpr ⟨rfl, inductionHypothesis.2⟩⟩
    rw [← inductionHypothesis.1]
    simp [Field.contents, unnamed]

theorem lookup_of_mem {given : List (String × Value)} (distinct : (given.map Prod.fst).Nodup)
    {name : String} {value : Value} (listed : (name, value) ∈ given) :
    given.lookup name = some value := by
  obtain ⟨first, last, rfl⟩ := List.append_of_mem listed
  rw [List.map_append, List.map_cons] at distinct
  refine (differ_of_fresh ?_ value value last).before
  exact fun early => (List.nodup_append.mp distinct).2.2 name early name (by simp) rfl

/-- What is written for fields is what they are read to hold. -/
theorem Writes.ofEntries? {held : List (String × Option Value)} {entries : List (Value × Value)}
    (unambiguous : Unambiguous fields) (complete : held.map Prod.fst = fields.map Field.name)
    (written : Writes fields held entries) :
    ∃ given, ofEntries? fields entries = some given ∧
      ∀ entry ∈ held, given.lookup entry.1 = entry.2 := by
  obtain ⟨set, reordered, sets⟩ := written
  obtain ⟨shape, usable⟩ := sets.contents fields unambiguous
  have distinctHeld : (held.map Prod.fst).Nodup := complete ▸ unambiguous.names
  have distinct : (set.map Prod.fst).Nodup :=
    (reordered.map Prod.fst).nodup_iff.mpr ((present_keys_sublist held).nodup distinctHeld)
  refine ⟨set, (ofEntries?_eq_some_iff fields).mpr ⟨⟨usable, ?_⟩, shape⟩, ?_⟩
  · rwa [← contents_keys, shape]
  · rintro ⟨name, value⟩ listed
    cases value with
    | some value =>
      apply lookup_of_mem distinct
      rw [reordered.mem_iff]
      exact List.mem_filterMap.mpr ⟨_, listed, rfl⟩
    | none =>
      rw [lookup_eq_none_iff, (reordered.map Prod.fst).mem_iff]
      intro setElsewhere
      obtain ⟨⟨_, value⟩, inPresent, rfl⟩ := List.mem_map.mp setElsewhere
      obtain ⟨⟨_, other⟩, alsoListed, given⟩ := List.mem_filterMap.mp inPresent
      obtain ⟨_, rfl, ⟨⟩⟩ := Option.map_eq_some_iff.mp given
      cases List.inj_on_of_nodup_map distinctHeld listed alsoListed rfl

theorem exists_sets {set : List (String × Value)}
    (declared : ∀ entry ∈ set, ∃ field ∈ fields, field.name = entry.1) :
    ∃ entries, Sets fields set entries := by
  induction set with
  | nil => exact ⟨[], .nothing⟩
  | cons entry set inductionHypothesis =>
    obtain ⟨first, later⟩ := List.forall_mem_cons.mp declared
    obtain ⟨entries, sets⟩ := inductionHypothesis later
    obtain ⟨field, inFields, same⟩ := first
    obtain ⟨name, value⟩ := entry
    cases same
    exact ⟨_, .field value inFields (List.mem_cons_self ..) sets⟩

/-- Whatever the fields hold, there is a mapping that sets them. -/
theorem exists_writes {held : List (String × Option Value)} {property : Value → Prop}
    (fromEntries : ∀ {entries}, Writes fields held entries → property (.map entries))
    (complete : held.map Prod.fst = fields.map Field.name) : ∃ value, property value := by
  have declared : ∀ entry ∈ present held, ∃ field ∈ fields, field.name = entry.1 := by
    intro entry listed
    have named := (present_keys_sublist held).subset (List.mem_map_of_mem listed)
    rw [complete] at named
    exact List.mem_map.mp named
  obtain ⟨entries, sets⟩ := exists_sets fields declared
  exact ⟨_, fromEntries ⟨_, .refl _, sets⟩⟩

end TmuxPlan.Document.Field
