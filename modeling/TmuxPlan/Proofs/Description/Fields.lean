import TmuxPlan.Description.Reading
import TmuxPlan.Proofs.Document.Records

/-!
The columns of a description's mappings. A mapping reads exactly if its entries are admitted and
each of its fields reads by itself; which entry comes first does not matter.
-/

set_option autoImplicit false

namespace TmuxPlan.Description

open Document (Value Field Column IsReader isReader_of_bind read?_bind_eq_some_iff)

def EntryFields.columns : List (Column EntryFields) :=
  [⟨"shell", _, Value.text?, shell⟩, ⟨"cmds", _, Value.text?, cmds⟩,
    ⟨"split", _, Value.text?, split⟩]

def SshSpec.columns : List (Column Ssh.Fragment) :=
  [⟨"server", _, Value.text?, Ssh.Fragment.server⟩, ⟨"user", _, Value.text?, Ssh.Fragment.user⟩,
    ⟨"login_only", _, Value.bool?, Ssh.Fragment.loginOnly⟩]

def PaneFields.columns : List (Column PaneFields) :=
  [⟨"shell", _, ShellSpec.read?, shell⟩, ⟨"cmds", _, ShellSpec.read?, cmds⟩,
    ⟨"dir", _, Value.text?, dir⟩, ⟨"ssh", _, SshSpec.read?, ssh⟩]

def WindowFields.columns : List (Column WindowFields) :=
  [⟨"name", _, Value.text?, name⟩, ⟨"panes", _, some ∘ PanesSpec.ofValue, panes⟩,
    ⟨"sections", _, some ∘ PanesSpec.ofValue, sections⟩, ⟨"shell", _, ShellSpec.read?, shell⟩,
    ⟨"cmds", _, ShellSpec.read?, cmds⟩, ⟨"dir", _, Value.text?, dir⟩,
    ⟨"ssh", _, SshSpec.read?, ssh⟩, ⟨"layout", _, Layout.read?, layout⟩,
    ⟨"synchronize", _, Value.bool?, synchronize⟩]

def SessionSpec.columns : List (Column SessionSpec) :=
  [⟨"name", _, Value.text?, name⟩, ⟨"windows", _, WindowSpec.readAll?, windows⟩,
    ⟨"panes", _, some ∘ PanesSpec.ofValue, panes⟩,
    ⟨"sections", _, some ∘ PanesSpec.ofValue, sections⟩, ⟨"shell", _, ShellSpec.read?, shell⟩,
    ⟨"cmds", _, ShellSpec.read?, cmds⟩, ⟨"dir", _, Value.text?, dir⟩,
    ⟨"ssh", _, SshSpec.read?, ssh⟩, ⟨"layout", _, readLayout?, layout⟩,
    ⟨"synchronize", _, Value.bool?, synchronize⟩, ⟨"focus", _, Value.text?, focus⟩,
    ⟨"interactive", _, Value.bool?, interactive⟩]

theorem EntryFields.isReader :
    IsReader columns (Field.ofValue? EntryFields.fields) EntryFields.read? := by
  refine isReader_of_bind (fun _ => rfl) fun given record => ?_
  repeat refine read?_bind_eq_some_iff fun _ => ?_
  cases record
  simp [and_assoc]

theorem SshSpec.isReader : IsReader columns (Field.ofValue? SshSpec.fields) readOptions? := by
  refine isReader_of_bind (fun _ => rfl) fun given record => ?_
  repeat refine read?_bind_eq_some_iff fun _ => ?_
  cases record
  simp [and_assoc]

theorem PaneFields.isReader :
    IsReader columns (Field.ofValue? PaneFields.fields) PaneFields.read? := by
  refine isReader_of_bind (fun _ => rfl) fun given record => ?_
  repeat refine read?_bind_eq_some_iff fun _ => ?_
  cases record
  simp [and_assoc]

theorem WindowFields.isReader :
    IsReader columns (Field.ofValue? WindowFields.fields) WindowFields.read? := by
  refine isReader_of_bind (fun _ => rfl) fun given record => ?_
  repeat refine read?_bind_eq_some_iff fun _ => ?_
  cases record
  simp [and_assoc]

theorem SessionSpec.isReader : IsReader columns given? SessionSpec.read? := by
  refine isReader_of_bind (fun _ => rfl) fun given record => ?_
  repeat refine read?_bind_eq_some_iff fun _ => ?_
  cases record
  simp [and_assoc]

end TmuxPlan.Description
