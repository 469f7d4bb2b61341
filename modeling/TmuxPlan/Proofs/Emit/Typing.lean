import TmuxPlan.Proofs.Emit.Performance
import TmuxPlan.Proofs.Emit.Places
import TmuxPlan.Proofs.Text.Pieces
import Mathlib.Data.List.Nodup

/-!
What is typed into each tmux pane. A session takes one tmux pane for every entry of its panes, and the
number of windows and panes before it is its address. What is sent to an address is the way to where
its command runs, and then the parts of the command itself; nothing else is sent there.
-/

set_option autoImplicit false

namespace TmuxPlan

/-! ### Texts -/

/-- What is typed for a command: the login, and then, unless it is all that is wanted, the way to
the directory and the parts of the command. -/
def typing (destination dir : Option String) (loginOnly : Bool) (command : String) : List String :=
  destination.toList.flatMap (fun destination => Text.pieces ';' ("ssh " ++ destination)) ++
    if loginOnly then []
    else dir.toList.flatMap (fun dir => Text.pieces ';' ("cd " ++ dir)) ++ Text.pieces ';' command

/-- Whatever is typed is a piece of the login, of the way to the directory or of the command. -/
theorem mem_typing {destination dir : Option String} {loginOnly : Bool} {command text : String}
    (listed : text ∈ typing destination dir loginOnly command) :
    ∃ whole, text ∈ Text.pieces ';' whole ∧
      ((∃ server ∈ destination, whole = "ssh " ++ server) ∨
        (∃ directory ∈ dir, whole = "cd " ++ directory) ∨ whole = command) := by
  rw [typing, List.mem_append, List.mem_flatMap] at listed
  rcases listed with ⟨server, named, login⟩ | located
  · exact ⟨_, login, .inl ⟨server, Option.mem_toList.mp named, rfl⟩⟩
  · split at located
    · cases located
    · rw [List.mem_append, List.mem_flatMap] at located
      rcases located with ⟨directory, chosen, change⟩ | run
      · exact ⟨_, change, .inr (.inl ⟨directory, Option.mem_toList.mp chosen, rfl⟩)⟩
      · exact ⟨_, run, .inr (.inr rfl)⟩

namespace PanePlan

theorem pieces_located (plan : PanePlan) (entry : CommandEntry) :
    Text.pieces ';' (plan.located entry) =
      plan.dir.toList.flatMap (fun dir => Text.pieces ';' ("cd " ++ dir)) ++
        Text.pieces ';' entry.command := by
  unfold located
  cases plan.dir with
  | none => simp
  | some dir =>
    simp only [Option.toList_some, List.flatMap_singleton]
    by_cases blank : Text.isBlankText entry.command = true
    · rw [if_pos blank, Text.pieces_of_isBlankText blank, List.append_nil]
    · rw [if_neg blank, Text.pieces_joined]

theorem pieces_text (plan : PanePlan) (entry : CommandEntry) :
    Text.pieces ';' (plan.text entry) =
      typing (plan.ssh.map Ssh.Options.destination) plan.dir (plan.ssh.any (·.loginOnly))
        entry.command := by
  unfold text typing
  cases plan.ssh with
  | none => simp [pieces_located]
  | some ssh =>
    simp only [Ssh.Options.compose, Ssh.Options.sshCommand, Option.map_some, Option.toList_some,
      List.flatMap_singleton, Option.any_some]
    by_cases alone : ssh.loginOnly = true
    · rw [if_pos alone, if_pos alone, List.append_nil]
    · rw [if_neg alone, if_neg alone, Text.pieces_joined, pieces_located]

variable (session : Session) (options : CompileOptions) (window : Window) (pane : Pane)

/-- Whether the innermost level that says so wants nothing but the login. -/
def loginOnly : Bool :=
  ((sshLevels session window pane).findSome? (·.loginOnly)).getD false

variable {session options window pane}

theorem plan?_loginOnly {plan : PanePlan} (planned : plan? session options window pane = some plan) :
    plan.ssh.any (·.loginOnly) = loginOnly session window pane := by
  have merged := (plan?_parts planned).1
  rw [Ssh.merge_eq] at merged
  unfold loginOnly sshLevels
  split at merged
  · rename_i silent
    rw [← Except.ok.inj merged, silent]
    rfl
  · split at merged
    · cases merged
    · rw [← Except.ok.inj merged]
      rfl

end PanePlan

/-! ### Tmux panes -/

/-- The address that a window and a pane get which have the given numbers. -/
def Session.address (session : Session) (number : Nat × Nat) : PaneCoordinate :=
  ⟨session.name, .ofNat number.1, .ofNat number.2⟩

/-- Whether numbers fit into an address. -/
def Fits (number : Nat × Nat) : Prop :=
  number.1 < UInt32.size ∧ number.2 < UInt32.size

theorem Session.address_inj {session : Session} {first second : Nat × Nat} (fitsFirst : Fits first)
    (fitsSecond : Fits second) (same : session.address first = session.address second) :
    first = second := by
  simp only [address, PaneCoordinate.mk.injEq, true_and, ← UInt32.toNat_inj] at same
  rw [UInt32.toNat_ofNat_of_lt' fitsFirst.1, UInt32.toNat_ofNat_of_lt' fitsFirst.2,
    UInt32.toNat_ofNat_of_lt' fitsSecond.1, UInt32.toNat_ofNat_of_lt' fitsSecond.2] at same
  exact Prod.ext same.1 same.2

/-- One tmux pane of a session: an entry of one of its panes. -/
structure Seat where
  place : Place
  entry : CommandEntry
  /-- How many tmux panes stand before it in its window. -/
  paneIndex : Nat
  deriving DecidableEq

namespace Seat

variable (session : Session) (options : CompileOptions) (seat : Seat)

def number : Nat × Nat :=
  (seat.place.windowIndex, seat.paneIndex)

def target : PaneCoordinate :=
  session.address seat.number

def destination? : Option String :=
  seat.place.destination? session

def texts : List String :=
  typing (seat.destination? session)
    (PanePlan.chosenDir session options seat.place.window seat.place.pane)
    (PanePlan.loginOnly session seat.place.window seat.place.pane) seat.entry.command

def ofPlace (place : Place) : List Seat :=
  ((PanePlan.resolvedEntries session options place.window place.pane).zipIdx
      (place.paneIndex session options)).map fun (entry, paneIndex) => ⟨place, entry, paneIndex⟩

end Seat

/-- All tmux panes of a session, in the order in which they are made. -/
def Session.seats (session : Session) (options : CompileOptions) : List Seat :=
  session.places.flatMap (Seat.ofPlace session options)

/-- Whether the numbers of all windows and panes fit into an address. -/
structure Session.Addressable (session : Session) (options : CompileOptions) : Prop where
  windows : session.windows.length ≤ UInt32.size
  panes : ∀ window ∈ session.windows,
    PanePlan.totalWidth session options window window.panes ≤ UInt32.size

theorem Seat.place_mem {session : Session} {options : CompileOptions} {seat : Seat}
    (listed : seat ∈ session.seats options) : seat.place ∈ session.places := by
  obtain ⟨place, inSession, held⟩ := List.mem_flatMap.mp listed
  obtain ⟨numbered, -, rfl⟩ := List.mem_map.mp held
  exact inSession

section

variable (session : Session) (options : CompileOptions)

theorem Seat.numbers_ofPlace (place : Place) :
    (ofPlace session options place).map number =
      (List.range' (place.paneIndex session options)
        (PanePlan.width session options place.window place.pane)).map
          (place.windowIndex, ·) := by
  unfold ofPlace
  rw [List.map_map, PanePlan.width, ← List.zipIdx_map_snd, List.map_map]
  rfl

theorem Seat.numbers_inWindow (windowsBefore : List Window) (window : Window)
    (panesBefore panes : List Pane) :
    ((Place.inWindow windowsBefore window panesBefore panes).flatMap
        (ofPlace session options)).map number =
      (List.range' (PanePlan.totalWidth session options window panesBefore)
        (PanePlan.totalWidth session options window panes)).map (windowsBefore.length, ·) := by
  induction panes generalizing panesBefore with
  | nil => rfl
  | cons pane panes inductionHypothesis =>
    have rest := inductionHypothesis (panesBefore ++ [pane])
    rw [PanePlan.totalWidth_append, PanePlan.totalWidth_cons, PanePlan.totalWidth_nil,
      Nat.add_zero] at rest
    rw [Place.inWindow, List.flatMap_cons, List.map_append, rest, numbers_ofPlace,
      PanePlan.totalWidth_cons, ← List.range'_append_1, List.map_append]
    rfl

/-- The numbers of all panes of windows with so many panes, from a numbered window on. -/
def numbering : Nat → List Nat → List (Nat × Nat)
  | _, [] => []
  | windowIndex, size :: sizes =>
    (List.range size).map (windowIndex, ·) ++ numbering (windowIndex + 1) sizes

theorem mem_numbering {windowIndex : Nat} {sizes : List Nat} {number : Nat × Nat}
    (listed : number ∈ numbering windowIndex sizes) :
    windowIndex ≤ number.1 ∧ number.1 < windowIndex + sizes.length ∧
      ∃ size ∈ sizes, number.2 < size := by
  induction sizes generalizing windowIndex with
  | nil => simp [numbering] at listed
  | cons size sizes inductionHypothesis =>
    rw [numbering, List.mem_append, List.mem_map] at listed
    rw [List.length_cons]
    rcases listed with ⟨paneIndex, inside, rfl⟩ | listed
    · exact ⟨Nat.le_refl _, by omega, size, List.mem_cons_self .., List.mem_range.mp inside⟩
    · obtain ⟨above, below, other, held, inside⟩ := inductionHypothesis listed
      exact ⟨by omega, by omega, other, List.mem_cons_of_mem _ held, inside⟩

theorem nodup_numbering (windowIndex : Nat) (sizes : List Nat) :
    (numbering windowIndex sizes).Nodup := by
  induction sizes generalizing windowIndex with
  | nil => exact List.nodup_nil
  | cons size sizes inductionHypothesis =>
    rw [numbering, List.nodup_append]
    refine ⟨?_, inductionHypothesis (windowIndex + 1), ?_⟩
    · exact List.nodup_range.map fun _ _ same => (Prod.mk.inj same).2
    · intro number here other later same
      obtain ⟨paneIndex, -, rfl⟩ := List.mem_map.mp here
      have above := (mem_numbering later).1
      rw [← same] at above
      exact absurd above (by simp)

theorem Seat.numbers_inWindows (windowsBefore windows : List Window) :
    ((Place.inWindows windowsBefore windows).flatMap (ofPlace session options)).map number =
      numbering windowsBefore.length (windows.map fun window =>
        PanePlan.totalWidth session options window window.panes) := by
  induction windows generalizing windowsBefore with
  | nil => rfl
  | cons window windows inductionHypothesis =>
    have rest := inductionHypothesis (windowsBefore ++ [window])
    rw [List.length_append, List.length_singleton] at rest
    rw [Place.inWindows, List.flatMap_append, List.map_append, rest, numbers_inWindow,
      List.map_cons, numbering, PanePlan.totalWidth_nil, List.range_eq_range']

/-- The tmux panes are numbered as tmux counts them: windows from 0, and in each of them as many
panes from 0 as the entries of its panes need. -/
theorem Session.numbers_seats :
    (session.seats options).map Seat.number =
      numbering 0 (session.windows.map fun window =>
        PanePlan.totalWidth session options window window.panes) :=
  Seat.numbers_inWindows session options [] session.windows

end

variable {session : Session} {options : CompileOptions}

theorem Session.Addressable.fits (addressable : session.Addressable options)
    {number : Nat × Nat} (listed : number ∈ (session.seats options).map Seat.number) :
    Fits number := by
  rw [session.numbers_seats] at listed
  obtain ⟨-, inWindows, size, held, inPanes⟩ := mem_numbering listed
  obtain ⟨window, inSession, rfl⟩ := List.mem_map.mp held
  rw [List.length_map] at inWindows
  have fewWindows := addressable.windows
  have fewPanes := addressable.panes window inSession
  exact ⟨by omega, by omega⟩

theorem Session.Addressable.targets_nodup (addressable : session.Addressable options) :
    ((session.seats options).map (Seat.target session)).Nodup := by
  have addressed : (session.seats options).map (Seat.target session) =
      ((session.seats options).map Seat.number).map session.address := by
    rw [List.map_map]
    rfl
  rw [addressed]
  apply List.Nodup.map_on
  · intro first listed second otherListed same
    exact address_inj (addressable.fits listed) (addressable.fits otherListed) same
  · rw [session.numbers_seats]
    exact nodup_numbering 0 _

/-! ### What is sent where -/

theorem flatMap_filter {α β : Type} (keep : α → Bool) (f : α → List β) (items : List α) :
    (items.filter keep).flatMap f = items.flatMap fun item => if keep item then f item else [] := by
  induction items with
  | nil => rfl
  | cons item items inductionHypothesis =>
    rw [List.filter_cons, List.flatMap_cons, ← inductionHypothesis]
    split <;> rfl

theorem filter_eq_singleton {α β : Type} [DecidableEq β] {f : α → β} {items : List α} {item : α}
    (distinct : (items.map f).Nodup) (listed : item ∈ items) :
    items.filter (fun other => f other = f item) = [item] := by
  obtain ⟨before, after, rfl⟩ := List.append_of_mem listed
  rw [List.map_append, List.map_cons, List.nodup_middle, List.nodup_cons] at distinct
  have others (part : List α) (inside : part ⊆ before ++ after) :
      part.filter (fun other => f other = f item) = [] := by
    rw [List.filter_eq_nil_iff]
    intro other held same
    apply distinct.1
    rw [← of_decide_eq_true same, ← List.map_append]
    exact List.mem_map_of_mem (inside held)
  rw [List.filter_append, List.filter_cons_of_pos (by simp),
    others before (List.subset_append_left _ _), others after (List.subset_append_right _ _),
    List.nil_append]

/-- What a command types into the given pane, and whether Enter follows. -/
def Command.sentTo? (target : PaneCoordinate) : Command → Option (String × Bool)
  | .sendKeys addressed text enter => if addressed = target then some (text, enter) else none
  | _ => none

def sentTo (target : PaneCoordinate) (commands : List Command) : List (String × Bool) :=
  commands.filterMap (Command.sentTo? target)

@[simp]
theorem sentTo_append (target : PaneCoordinate) (first second : List Command) :
    sentTo target (first ++ second) = sentTo target first ++ sentTo target second :=
  List.filterMap_append

theorem mem_sentTo {target : PaneCoordinate} {commands : List Command} {text : String}
    {enter : Bool} :
    (text, enter) ∈ sentTo target commands ↔ .sendKeys target text enter ∈ commands := by
  rw [sentTo, List.mem_filterMap]
  constructor
  · rintro ⟨command, listed, sent⟩
    cases command with
    | sendKeys addressed typed entered =>
      simp only [Command.sentTo?, Option.ite_none_right_eq_some, Option.some.injEq,
        Prod.mk.injEq] at sent
      obtain ⟨rfl, rfl, rfl⟩ := sent
      exact listed
    | _ => cases sent
  · intro listed
    exact ⟨_, listed, by simp [Command.sentTo?]⟩

namespace Emit

/-- How a part of a text is typed: with Enter, or commented out. -/
def keystroke (options : CompileOptions) (part : String) : String × Bool :=
  if options.debug then ("# " ++ part, false) else (part, true)

theorem keys_eq (options : CompileOptions) (target : PaneCoordinate) (text : String) :
    keys options target text = (Text.pieces ';' text).map fun part =>
      .sendKeys target (keystroke options part).1 (keystroke options part).2 := by
  unfold keys keystroke
  congr 1
  funext part
  split <;> rfl

section

variable (session options) (target : PaneCoordinate)

/-- What is typed into the given pane by a text for another one, or for the same. -/
def typedAt (addressed : PaneCoordinate) (texts : List String) : List (String × Bool) :=
  if addressed = target then texts.map (keystroke options) else []

theorem sentTo_keys (addressed : PaneCoordinate) (text : String) :
    sentTo target (keys options addressed text) =
      typedAt options target addressed (Text.pieces ';' text) := by
  rw [keys_eq, sentTo, List.filterMap_map, typedAt]
  by_cases same : addressed = target
  · rw [if_pos same]
    simp [Command.sentTo?, same]
  · rw [if_neg same]
    simp [Command.sentTo?, same]

section

variable (plan : PanePlan) (windowIndex paneIndex : Nat)

/-- What is typed into the given pane by entries that run in panes of a window from a number on. -/
def typedFrom (entries : List CommandEntry) : List (String × Bool) :=
  (entries.zipIdx paneIndex).flatMap fun numbered =>
    typedAt options target (session.address (windowIndex, numbered.2))
      (Text.pieces ';' (plan.text numbered.1))

theorem typedFrom_cons (entry : CommandEntry) (entries : List CommandEntry) :
    typedFrom session options target plan windowIndex paneIndex (entry :: entries) =
      sentTo target (commandsOf (entryActs session options plan windowIndex paneIndex entry)) ++
        typedFrom session options target plan windowIndex (paneIndex + 1) entries := by
  rw [commandsOf_entryActs, sentTo_keys]
  rfl

theorem sentTo_furtherActs (rest : List (CommandEntry × SplitDirection)) :
    sentTo target (commandsOf (furtherActs session options plan windowIndex paneIndex rest)) =
      typedFrom session options target plan windowIndex paneIndex (rest.map Prod.fst) := by
  induction rest generalizing paneIndex with
  | nil => rfl
  | cons split rest inductionHypothesis =>
    obtain ⟨entry, direction⟩ := split
    rw [List.map_cons, typedFrom_cons, ← inductionHypothesis, ← sentTo_append, ← commandsOf_append]
    rfl

theorem sentTo_entriesActs (entries : List (CommandEntry × SplitDirection)) :
    sentTo target (commandsOf (entriesActs session options plan windowIndex paneIndex entries)) =
      typedFrom session options target plan windowIndex paneIndex (entries.map Prod.fst) := by
  cases entries with
  | nil => rfl
  | cons split rest =>
    obtain ⟨entry, direction⟩ := split
    rw [List.map_cons, typedFrom_cons, ← sentTo_furtherActs, ← sentTo_append, ← commandsOf_append]
    rfl

end

/-- What the panes of a place get is what their seats say, as long as the pane can be planned. -/
theorem sentTo_placeActs {place : Place}
    (errorFree : ∀ cause, .fail cause ∉ place.acts session options) :
    sentTo target (commandsOf (place.acts session options)) =
      (Seat.ofPlace session options place).flatMap fun seat =>
        typedAt options target (seat.target session) (seat.texts session options) := by
  obtain ⟨plan, planned⟩ := planned_of_errorFree errorFree
  obtain ⟨-, directory, -⟩ := PanePlan.plan?_parts planned
  have texts (entry : CommandEntry) (paneIndex : Nat) :
      Text.pieces ';' (plan.text entry) = Seat.texts session options ⟨place, entry, paneIndex⟩ := by
    rw [PanePlan.pieces_text, PanePlan.plan?_destination planned,
      PanePlan.plan?_loginOnly planned, ← directory, PanePlan.dirOf_eq]
    rfl
  have row : sentTo target (commandsOf
      (if 0 < UInt32.ofNat (place.paneIndex session options) then
        [.emit plan.ssh (.splitRow session.name)] else [])) = [] := by
    split <;> rfl
  rw [Place.acts, paneActs_of_planned planned, commandsOf_append, sentTo_append, row,
    List.nil_append, sentTo_entriesActs, PanePlan.plan?_entries planned, Seat.ofPlace,
    List.flatMap_map]
  apply List.flatMap_congr
  rintro ⟨entry, paneIndex⟩ -
  rw [texts entry paneIndex]
  rfl

theorem sentTo_acts (errorFree : ∀ cause, .fail cause ∉ acts session options) :
    sentTo target (commandsOf (acts session options)) =
      ((session.seats options).filter fun seat => seat.target session = target).flatMap fun seat =>
        (seat.texts session options).map (keystroke options) := by
  have picked (acts : List Act) :
      sentTo target (commandsOf acts) =
        acts.filterMap fun act => act.command?.bind (Command.sentTo? target) :=
    List.filterMap_filterMap
  have framing (command : Command)
      (untyped : ∀ target text enter, command ≠ .sendKeys target text enter) :
      (Act.emit none command).command?.bind (Command.sentTo? target) = none := by
    cases command with
    | sendKeys addressed text enter => exact absurd rfl (untyped addressed text enter)
    | _ => rfl
  rw [flatMap_filter, picked, filterMap_acts session options framing, Session.seats,
    List.flatMap_assoc]
  apply List.flatMap_congr
  intro place listed
  rw [← picked, sentTo_placeActs session options target
    fun cause failing => errorFree cause (placeActs_subset options listed failing)]
  simp only [typedAt, decide_eq_true_eq]

theorem mem_sentTo_acts (errorFree : ∀ cause, .fail cause ∉ acts session options)
    {typed : String × Bool} :
    typed ∈ sentTo target (commandsOf (acts session options)) ↔
      ∃ seat ∈ session.seats options, seat.target session = target ∧
        ∃ part ∈ seat.texts session options, keystroke options part = typed := by
  simp only [sentTo_acts session options target errorFree, List.mem_flatMap, List.mem_filter,
    List.mem_map, decide_eq_true_eq, and_assoc]

end

theorem sentTo_seat (errorFree : ∀ cause, .fail cause ∉ acts session options)
    (addressable : session.Addressable options) {seat : Seat} (listed : seat ∈ session.seats options) :
    sentTo (seat.target session) (commandsOf (acts session options)) =
      (seat.texts session options).map (keystroke options) := by
  rw [sentTo_acts session options _ errorFree,
    filter_eq_singleton addressable.targets_nodup listed, List.flatMap_singleton]

/-- What is typed into each pane. Into the pane of an entry go the login, then, unless the login is
all that is wanted, the way to its directory, then the parts of its command, each followed by Enter;
nothing else goes there, and no text that is typed is empty, begins or ends with a blank, or holds a
semicolon. Where the numbers wrap around, an address gets what all of its panes get, one after the
other. -/
theorem create_types (live : options.debug = false) {walk after : Walk} {commands : List Command}
    (created : (create session options).run walk = .ok commands after) :
    (session.Addressable options → ∀ seat ∈ session.seats options,
      sentTo (seat.target session) commands = (seat.texts session options).map (·, true)) ∧
    (∀ target, sentTo target commands =
      ((session.seats options).filter fun seat => seat.target session = target).flatMap fun seat =>
        (seat.texts session options).map (·, true)) ∧
    ∀ target text enter, .sendKeys target text enter ∈ commands →
      enter = true ∧ text ≠ "" ∧ Text.IsTrimmed text.toList ∧ ';' ∉ text.toList := by
  obtain ⟨unfailed, rfl, -, -⟩ := unfailed_of_create created
  have errorFree := ((perform_unfailed_iff _ _).mp unfailed).1
  have entered : keystroke options = fun text => (text, true) := by
    funext text
    simp [keystroke, live]
  rw [commands_of_unfailed _ _ unfailed, ← entered]
  refine ⟨?_, ?_, ?_⟩
  · intro addressable seat listed
    exact sentTo_seat errorFree addressable listed
  · intro target
    exact sentTo_acts session options target errorFree
  · intro target text enter sent
    obtain ⟨seat, -, -, part, listed, typed⟩ :=
      (mem_sentTo_acts session options target errorFree).mp (mem_sentTo.mpr sent)
    rw [entered, Prod.mk.injEq] at typed
    obtain ⟨rfl, rfl⟩ := typed
    obtain ⟨whole, cut, -⟩ := mem_typing listed
    obtain ⟨nonempty, trimmed, uncut⟩ := Text.mem_pieces cut
    exact ⟨rfl, nonempty, trimmed, fun held => (uncut ';' held).2 rfl⟩

/-- A pane that runs a command in a directory of a server, and one that only logs in. -/
theorem create_types_deploy :
    ∃ session walk commands after, (create session {}).run walk = .ok commands after ∧
      sentTo ⟨session.name, 0, 0⟩ commands =
        [("ssh ci@web", true), ("cd /srv", true), ("make", true), ("make test", true)] ∧
      sentTo ⟨session.name, 0, 1⟩ commands = [("ssh ci@db", true)] := by
  let deploy : Pane := { shell := some [⟨" make; ; make test ", none⟩] }
  let login : Pane := { ssh := some { server := some "db", loginOnly := some true } }
  let window : Window := { name := "web", panes := [deploy, login] }
  let session : Session := {
    name := ⟨"dev", by decide⟩, windows := [window], shell := some [⟨"top", none⟩]
    dir := some "/srv", ssh := some { server := some "web", user := some "ci" } }
  let walk : Walk := { resolver := { probe := fun _ _ => true } }
  have unfailed : (perform (acts session {}) walk.resolver).failure = none := by decide +kernel
  obtain ⟨after, created, -, -⟩ := create_of_unfailed unfailed
  have seats := (create_types rfl created).1 ⟨by decide, by decide +kernel⟩
  have deployed := seats ⟨⟨[], window, [], deploy⟩, ⟨" make; ; make test ", none⟩, 0⟩
    (by decide +kernel)
  have loggedIn := seats ⟨⟨[], window, [deploy], login⟩, ⟨"top", none⟩, 1⟩ (by decide +kernel)
  refine ⟨session, walk, _, after, created, deployed.trans ?_, loggedIn.trans ?_⟩
  · decide +kernel
  · decide +kernel

end Emit

end TmuxPlan
