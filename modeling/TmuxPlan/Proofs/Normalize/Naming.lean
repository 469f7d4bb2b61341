import TmuxPlan.Proofs.Emit.Openings
import TmuxPlan.Proofs.Normalize.Correspondence

/-!
The names of the windows of a canonical session. A window has its own name, that of the server it
logs into or one made of its number, whichever of them comes first and is not empty. But an empty
text that stands alone for a window, or for the server of a window without a name, is taken for the
name.
-/

set_option autoImplicit false

namespace TmuxPlan

namespace Description

def SshSpec.server? : SshSpec → Option String
  | .server name => some name
  | .list _ => none
  | .options fragment => fragment.server

namespace WindowSpec

/-- What may name the window, the best one first. -/
def nameCandidates : WindowSpec → List String
  | .named name => [name]
  | .structured fields => fields.name.toList ++ (fields.ssh.bind SshSpec.server?).toList
  | .list _ | .other => []

/-- The first candidate that is not empty, or else the number of the window. -/
def usableName (index : Nat) (spec : WindowSpec) : String :=
  (spec.nameCandidates.find? (· ≠ "")).getD ("win" ++ index.repr)

/-- An empty text is taken for the name of the window. -/
def isNameless : WindowSpec → Bool
  | .named name => name == ""
  | .structured fields =>
    (fields.name.filter (· ≠ "")).isNone && fields.ssh.bind SshSpec.server? == some ""
  | .list _ | .other => false

def givenName (index : Nat) (spec : WindowSpec) : String :=
  if spec.isNameless then "" else spec.usableName index

theorem usableName_ne_empty (index : Nat) (spec : WindowSpec) : spec.usableName index ≠ "" := by
  unfold usableName
  cases found : spec.nameCandidates.find? (· ≠ "") with
  | some name => simpa using List.find?_some found
  | none => simp

theorem givenName_ne_empty_iff {index : Nat} {spec : WindowSpec} :
    spec.givenName index ≠ "" ↔ ¬ spec.isNameless := by
  unfold givenName
  by_cases nameless : spec.isNameless
  · simp [nameless]
  · simp [nameless, usableName_ne_empty]

theorem Respelling.givenName_eq {spec older : WindowSpec} (same : spec.Respelling older)
    (index : Nat) : spec.givenName index = older.givenName index := by
  cases same <;> rfl

end WindowSpec

/-- The names of the windows that are listed, or of the one that stands for them if none is. -/
def windowNames : List WindowSpec → List String
  | [] => [Normalize.defaultWindowName]
  | specs => specs.mapIdx WindowSpec.givenName

theorem mapIdx_eq_of_forall₂ {α β γ : Type} {related : α → β → Prop} {xs : List α} {ys : List β}
    (matched : List.Forall₂ related xs ys) {f : Nat → α → γ} {g : Nat → β → γ}
    (each : ∀ index x y, related x y → f index x = g index y) : xs.mapIdx f = ys.mapIdx g := by
  induction matched generalizing f g with
  | nil => rfl
  | cons first _ inductionHypothesis =>
    rw [List.mapIdx_cons, List.mapIdx_cons, each 0 _ _ first,
      inductionHypothesis fun index x y => each (index + 1) x y]

theorem windowNames_respelled {specs older : List WindowSpec}
    (same : List.Forall₂ WindowSpec.Respelling specs older) :
    windowNames specs = windowNames older := by
  cases same with
  | nil => rfl
  | cons first later =>
    exact mapIdx_eq_of_forall₂ (.cons first later) fun index _ _ same => same.givenName_eq index

/-- A window without a usable name is the only reason for an empty one. -/
theorem windowNames_ne_empty_iff {specs : List WindowSpec} :
    (∀ name ∈ windowNames specs, name ≠ "") ↔ ∀ window ∈ specs, ¬ window.isNameless := by
  cases specs with
  | nil => simp [windowNames, Normalize.defaultWindowName]
  | cons first later =>
    rw [windowNames, List.forall_mem_iff_getElem, List.forall_mem_iff_getElem]
    · simp only [List.length_mapIdx, List.getElem_mapIdx, WindowSpec.givenName_ne_empty_iff]
    · exact List.cons_ne_nil _ _

end Description

namespace Normalize

open Description

theorem optional_ssh_server {spec : Option SshSpec} {fragment : Option Ssh.Fragment}
    (read : optional ssh spec = .ok fragment) :
    fragment.bind (·.server) = spec.bind SshSpec.server? := by
  cases spec with
  | none =>
    cases read
    rfl
  | some spec =>
    cases spec with
    | server name =>
      cases read
      rfl
    | list length => cases read
    | options fragment =>
      cases read
      rfl

theorem windowName_eq (fields : WindowFields) {fragment : Option Ssh.Fragment}
    (read : optional ssh fields.ssh = .ok fragment) (index : Nat) :
    windowName fields fragment index = (WindowSpec.structured fields).givenName index := by
  rw [windowName, optional_ssh_server read, WindowSpec.givenName, WindowSpec.isNameless,
    WindowSpec.usableName, WindowSpec.nameCandidates]
  generalize fields.ssh.bind SshSpec.server? = server
  have unnamed : (server.getD ("win" ++ index.repr)) =
      if (server == some "") = true then "" else
        (server.toList.find? (· ≠ "")).getD ("win" ++ index.repr) := by
    cases server with
    | none => rfl
    | some server => by_cases blank : server = "" <;> simp [blank]
  cases named : fields.name with
  | none => simpa [Option.filter] using unnamed
  | some name =>
    by_cases blank : name = ""
    · simpa [Option.filter, blank] using unnamed
    · simp [Option.filter, blank]

theorem window_name {sessionPanes : Option (List Pane)} {index : Nat} {spec : WindowSpec}
    {read : Window} (found : window sessionPanes index spec = .ok read) :
    read.name = spec.givenName index := by
  cases spec with
  | named name =>
    cases found
    by_cases blank : name = "" <;>
      simp [WindowSpec.givenName, WindowSpec.isNameless, WindowSpec.usableName,
        WindowSpec.nameCandidates, blank]
  | list length => cases found
  | other => cases found
  | structured fields =>
    obtain ⟨ssh, sshRead, found⟩ := bind_eq_ok.mp found
    obtain ⟨own, -, found⟩ := bind_eq_ok.mp found
    obtain ⟨shell, -, found⟩ := bind_eq_ok.mp found
    rw [pure_eq_ok] at found
    subst found
    exact windowName_eq fields sshRead index

theorem mapM_ok_map {α β γ : Type} {read : α → Except Error β} (f : β → γ) (g : α → γ)
    (each : ∀ item value, read item = .ok value → f value = g item) {items : List α}
    {values : List β} (found : items.mapM read = .ok values) : values.map f = items.map g := by
  induction items generalizing values with
  | nil =>
    rw [List.mapM_nil, pure_eq_ok] at found
    subst found
    rfl
  | cons item items inductionHypothesis =>
    rw [List.mapM_cons] at found
    obtain ⟨value, first, later⟩ := bind_eq_ok.mp found
    obtain ⟨rest, others, whole⟩ := bind_eq_ok.mp later
    rw [pure_eq_ok] at whole
    subst whole
    rw [List.map_cons, List.map_cons, each item value first, inductionHypothesis others]

theorem windows_names {sessionPanes : Option (List Pane)} {specs : Option (List WindowSpec)}
    {read : List Window} (found : windows sessionPanes specs = .ok read) :
    read.map Window.name = windowNames (specs.getD []) := by
  unfold windows at found
  split at found
  · cases found
    rfl
  · cases found
    rfl
  · rename_i specs nonempty
    have named := mapM_ok_map Window.name (fun item => item.1.givenName item.2)
      (fun _ _ => window_name) found
    rw [named, Option.getD_some, windowNames, List.mapIdx_eq_zipIdx_map]
    rintro rfl
    exact nonempty rfl

theorem normalize_names {name : String} {spec : SessionSpec} {session : Session}
    (normalized : normalize name spec = .ok session) :
    session.windows.map Window.name = windowNames (spec.windows.getD []) := by
  rw [normalize_eq] at normalized
  obtain ⟨usable, -, normalized⟩ := bind_eq_ok.mp normalized
  obtain ⟨tree, migrated, normalized⟩ := bind_eq_ok.mp normalized
  obtain ⟨sessionPanes, -, found⟩ := current_windows normalized
  rw [windows_names found]
  -- Migration leaves the names of the windows and their ssh as they are.
  have same := SessionSpec.migrate_eq_ok_iff.mp migrated
  cases same with
  | intro _ _ _ listed => exact windowNames_respelled (listedWindows_respelled listed)

/-- Every window of a normalized session has its own name, that of its server or one made of its
number, except where an empty text is taken for the name. These are the only empty names that are
ever handed to tmux. -/
theorem windows_are_named {name : String} {spec : SessionSpec} {session : Session}
    (normalized : normalize name spec = .ok session) :
    session.windows.map Window.name = windowNames (spec.windows.getD []) ∧
      ((∀ window ∈ session.windows, window.name ≠ "") ↔
        ∀ window ∈ spec.windows.getD [], ¬ window.isNameless) ∧
      (∀ options walk commands after, (Emit.create session options).run walk = .ok commands after →
        openedNames commands = windowNames (spec.windows.getD [])) ∧
      ∀ options walk cause stopped, (Emit.create session options).run walk = .error cause stopped →
        List.IsPrefix (openedNames stopped.commands) (windowNames (spec.windows.getD [])) := by
  have named := normalize_names normalized
  refine ⟨named, ?_, ?_, ?_⟩
  · rw [← windowNames_ne_empty_iff, ← named, List.forall_mem_map]
  · intro options walk commands after created
    exact (Emit.create_opens created).trans named
  · intro options walk cause stopped failed
    rw [← named]
    exact Emit.failed_create_opens failed

/-- A bare name, a window that is named after its server, and one without either. -/
theorem windows_are_named_logs :
    ∃ (spec : SessionSpec) (session : Session), normalize "dev" spec = .ok session ∧
      session.windows.map Window.name = ["logs", "web01", "win2"] ∧
      ∀ window ∈ session.windows, window.name ≠ "" := by
  let spec : SessionSpec := {
    windows := some [.named "logs",
      .structured { name := some "", ssh := some (.server "web01") }, .structured {}] }
  cases normalized : normalize "dev" spec with
  | error cause => cases normalized
  | ok session =>
    obtain ⟨named, nonempty, -⟩ := windows_are_named normalized
    exact ⟨spec, session, normalized, named.trans (by decide), nonempty.mpr (by decide)⟩

/-- An empty bare name, and a server that is an empty text. -/
theorem window_may_be_nameless :
    ∃ spec session walk commands after, normalize "s" spec = .ok session ∧
      (Emit.create session {}).run walk = .ok commands after ∧
      .newSession session.name "" ∈ commands ∧ .newWindow session.name "" ∈ commands := by
  let spec : SessionSpec := {
    panes := some (.list [.structured {
      shell := some (.single "ls"), ssh := some (.server "web01") }])
    windows := some [.named "", .structured { ssh := some (.options { server := some "" }) }] }
  let walk : Walk := { resolver := { probe := fun _ _ => true } }
  let pane : Pane := { shell := some [⟨"ls", none⟩], ssh := some { server := some "web01" } }
  let session : Session := {
    name := ⟨"s", by decide⟩
    windows := [{ name := "", panes := [pane] },
      { name := "", panes := [pane], ssh := some { server := some "" } }] }
  have normalized : normalize "s" spec = .ok session := by rfl
  have unfailed : (Emit.perform (Emit.acts session {}) walk.resolver).failure = none := by
    decide +kernel
  obtain ⟨after, created, -, -⟩ := Emit.create_of_unfailed unfailed
  exact ⟨spec, session, walk, _, after, normalized, created, by decide +kernel, by decide +kernel⟩

end Normalize

end TmuxPlan
