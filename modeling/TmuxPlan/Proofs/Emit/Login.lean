import TmuxPlan.Proofs.Emit.Guard
import TmuxPlan.Proofs.Emit.Offence
import TmuxPlan.Proofs.Emit.Typing
import TmuxPlan.Proofs.Shell.Verbatim
import Mathlib.Data.List.TakeWhile

/-!
Where a pane logs in. The destination that is probed is handed over as one argument, the one that is
typed is cut at semicolons, trimmed, and read by a shell. Both are the same host if a shell takes
every character of the destination for itself.
-/

set_option autoImplicit false

namespace TmuxPlan

namespace Ssh

/-- What a destination has to be to reach ssh as it is when it is typed. -/
structure Verbatim (destination : String) : Prop where
  literal : Shell.Literal destination.toList
  ends : ∃ last, destination.toList.getLast? = some last ∧ Text.isBlank last = false

/-- The part of a destination that is typed: all of it up to the first semicolon, without the blanks
at the end. -/
def typedOf (destination : String) : List Char :=
  Text.trimRight (destination.toList.takeWhile (· ≠ ';'))

theorem typedOf_isPrefix (destination : String) : typedOf destination <+: destination.toList :=
  (Text.isPrefix_trimRight _).trans (List.takeWhile_prefix _)

theorem verbatim_iff (destination : String) :
    Verbatim destination ↔
      destination.toList ≠ [] ∧ typedOf destination = destination.toList ∧
        Shell.Literal destination.toList := by
  constructor
  · rintro ⟨literal, last, ends, solid⟩
    refine ⟨?_, ?_, literal⟩
    · intro empty
      rw [empty] at ends
      cases ends
    · have uncut : destination.toList.takeWhile (· ≠ ';') = destination.toList := by
        apply List.takeWhile_eq_self_iff.mpr
        intro c held
        apply decide_eq_true
        rintro rfl
        exact absurd (literal.plain ';' held) (by decide)
      rw [typedOf, uncut]
      apply Text.trimRight_eq_self
      intro c found
      rw [ends] at found
      rwa [← Option.some.inj found]
  · rintro ⟨nonempty, whole, literal⟩
    refine ⟨literal, _, List.getLast?_eq_some_getLast nonempty, ?_⟩
    apply Text.isBlank_last_trimRight (destination.toList.takeWhile (· ≠ ';'))
    rw [← typedOf, whole]
    exact List.getLast?_eq_some_getLast nonempty

instance (destination : String) : Decidable (Verbatim destination) :=
  decidable_of_iff _ (verbatim_iff destination).symm

/-- The line that is typed to log in. -/
def loginText (destination : String) : String :=
  String.ofList (Text.trimRight ("ssh ".toList ++ destination.toList.takeWhile (· ≠ ';')))

theorem pieces_login (destination : String) :
    ∃ rest, Text.pieces ';' ("ssh " ++ destination) = loginText destination :: rest := by
  have line : ("ssh " ++ destination).toList = 's' :: ("sh ".toList ++ destination.toList) := by
    simp
  obtain ⟨rest, shape⟩ := Text.pieceChars_cons_of_solid ';' (c := 's') (by decide) (by decide)
    ("sh ".toList ++ destination.toList)
  refine ⟨rest.map String.ofList, ?_⟩
  rw [Text.pieces_eq, line, shape, List.map_cons]
  rfl

theorem tokens?_loginText (destination : String) :
    Shell.tokens? Shell.noParameters (loginText destination) =
        some [.word "ssh", .word destination] ↔
      Verbatim destination := by
  rw [verbatim_iff, Shell.tokens?, loginText, String.toList_ofList, Text.trimRight_append,
    ← typedOf]
  by_cases blank : typedOf destination = []
  -- ssh stands alone, and the destination is not verbatim
  · rw [if_pos blank]
    constructor
    · intro read
      cases read
    · rintro ⟨nonempty, whole, -⟩
      rw [← whole] at nonempty
      exact absurd blank nonempty
  · rw [if_neg blank]
    have nonempty : destination.toList ≠ [] := by
      intro empty
      apply blank
      exact List.prefix_nil.mp (empty ▸ typedOf_isPrefix destination)
    have program : "ssh ".toList.foldlM (Shell.TokenReader.step Shell.noParameters) {} =
        some ⟨.none, none, [.word "ssh"]⟩ := by
      decide
    have read := Shell.TokenReader.read_as_word_iff (typedOf_isPrefix destination) nonempty
      [.word "ssh"]
    rw [String.ofList_toList] at read
    rw [Shell.foldlM_append_of_eq_some program]
    simpa [nonempty] using read

end Ssh

namespace Emit

variable {session : Session} {options : CompileOptions}

/-- The acts for a pane that logs in ask for its destination. -/
theorem reach_mem_acts (errorFree : ∀ cause, .fail cause ∉ acts session options) {place : Place}
    (listed : place ∈ session.places) {destination : String}
    (logsIn : place.destination? session = some destination) :
    ∃ ssh, ssh.destination = destination ∧ .reach ssh ∈ acts session options := by
  have within := placeActs_subset options listed
  obtain ⟨plan, planned⟩ := planned_of_errorFree fun cause failing =>
    errorFree cause (within failing)
  have named := PanePlan.plan?_destination planned
  obtain ⟨ssh, routed, same⟩ := Option.map_eq_some_iff.mp (named.trans logsIn)
  obtain ⟨remaining, first, -⟩ := entriesActs_of_ssh routed place.windowIndex
    (place.paneIndex session options) (PanePlan.plan?_entries_ne_nil planned)
  refine ⟨ssh, same, within ?_⟩
  rw [Place.acts, paneActs_of_planned planned, first]
  exact List.mem_append_right _ (List.mem_cons_self ..)

/-- What is asked for and was not known has answered before a compilation succeeds. -/
theorem answered_of_unknown {walk : Walk} (live : walk.resolver.debug = false)
    (unfailed : (perform (acts session options) walk.resolver).failure = none) {ssh : Ssh.Options}
    (reached : .reach ssh ∈ acts session options)
    (unknown : ssh.destination ∉ walk.resolver.validated) :
    (ssh.destination, true) ∈ (perform (acts session options) walk.resolver).probes := by
  rcases answered_of_reached unfailed reached with trusted | probed
  · rw [Ssh.Resolver.trusts_iff, live] at trusted
    exact absurd trusted (by simpa using unknown)
  · exact List.mem_filterMap.mpr ⟨_, probed, rfl⟩

/-- The login of a pane names the destination that was probed. The probe was given the destination
in one piece and it answered; what is typed first is read by a shell as ssh with this destination if
every character of it stands for itself. A text in which the shell would expand something is not
read here, and of those that are read no other is read so. -/
theorem login_matches_probe (live : options.debug = false) {walk after : Walk}
    (checking : walk.resolver.debug = false) (fresh : walk.resolver.validated = [])
    (addressable : session.Addressable options) {commands : List Command}
    (created : (create session options).run walk = .ok commands after)
    {seat : Seat} (listed : seat ∈ session.seats options) {destination : String}
    (logsIn : seat.destination? session = some destination) :
    (∃ call, walk.resolver.probed.length ≤ call ∧
      after.resolver.probed[call]? = some destination ∧
      walk.resolver.probe call destination = true) ∧
    ∃ rest,
      sentTo (seat.target session) commands = (Ssh.loginText destination, true) :: rest ∧
      (Ssh.Verbatim destination →
        Shell.tokens? Shell.noParameters (Ssh.loginText destination) =
          some [.word "ssh", .word destination]) ∧
      ∀ tokens, Shell.tokens? Shell.noParameters (Ssh.loginText destination) = some tokens →
        ¬ Ssh.Verbatim destination → tokens ≠ [.word "ssh", .word destination] := by
  obtain ⟨unfailed, emitted, -, left⟩ := unfailed_of_create created
  have errorFree := ((perform_unfailed_iff _ _).mp unfailed).1
  constructor
  · obtain ⟨ssh, rfl, reached⟩ := reach_mem_acts errorFree (Seat.place_mem listed) logsIn
    have answered := answered_of_unknown checking unfailed reached (by simp [fresh])
    rw [left]
    exact exists_call_of_mem_probes _ _ checking answered
  · obtain ⟨rest, login⟩ := Ssh.pieces_login destination
    have entered : keystroke options (Ssh.loginText destination) =
        (Ssh.loginText destination, true) := by
      simp [keystroke, live]
    have typed := sentTo_seat errorFree addressable listed
    rw [← commands_of_unfailed _ _ unfailed, ← emitted, Seat.texts, logsIn, typing,
      Option.toList_some, List.flatMap_singleton, login, List.cons_append, List.map_cons,
      entered] at typed
    have words := Ssh.tokens?_loginText destination
    refine ⟨_, typed, words.mpr, ?_⟩
    rintro _ read unlike rfl
    exact unlike (words.mp read)

/-- A user and a server that a shell takes as they stand, as the hash begins no word. -/
theorem login_matches_probe_web :
    ∃ session walk commands after call rest,
      (create session {}).run walk = .ok commands after ∧
      after.resolver.probed[call]? = some "ci@web#1" ∧
      walk.resolver.probe call "ci@web#1" = true ∧
      sentTo ⟨session.name, 0, 0⟩ commands = (Ssh.loginText "ci@web#1", true) :: rest ∧
      Shell.tokens? Shell.noParameters (Ssh.loginText "ci@web#1") =
        some [.word "ssh", .word "ci@web#1"] := by
  let pane : Pane := { shell := some [⟨"uptime", none⟩] }
  let window : Window := { name := "web", panes := [pane] }
  let session : Session := {
    name := ⟨"dev", by decide⟩, windows := [window]
    ssh := some { server := some "web#1", user := some "ci" } }
  let walk : Walk := { resolver := { probe := fun _ _ => true } }
  have unfailed : (perform (acts session {}) walk.resolver).failure = none := by decide +kernel
  obtain ⟨after, created, -, -⟩ := create_of_unfailed unfailed
  let seat : Seat := ⟨⟨[], window, [], pane⟩, ⟨"uptime", none⟩, 0⟩
  have listed : seat ∈ session.seats {} := by decide +kernel
  have logsIn : seat.destination? session = some "ci@web#1" := by decide +kernel
  obtain ⟨⟨call, -, probed, answered⟩, rest, typed, read, -⟩ :=
    login_matches_probe rfl rfl rfl ⟨by decide, by decide +kernel⟩ created listed logsIn
  exact ⟨session, walk, _, after, call, rest, created, probed, answered, typed, read (by decide)⟩

/-- A server with blanks in it is one argument of the probe and three of the line that is typed. -/
theorem login_may_split :
    ∃ session walk commands after, walk.resolver.debug = false ∧ walk.resolver.validated = [] ∧
      (create session {}).run walk = .ok commands after ∧
      after.resolver.probed = ["web01 -p 2222"] ∧
      walk.resolver.probe 0 "web01 -p 2222" = true ∧
      sentTo ⟨session.name, 0, 0⟩ commands =
        [("ssh web01 -p 2222", true), ("uptime", true)] ∧
      Shell.tokens? Shell.noParameters "ssh web01 -p 2222" =
        some [.word "ssh", .word "web01", .word "-p", .word "2222"] := by
  let session : Session := {
    name := ⟨"s", by decide⟩, windows := [{ name := "ultimux", panes := [{}] }]
    shell := some [⟨"uptime", none⟩], ssh := some { server := some "web01 -p 2222" } }
  let walk : Walk := { resolver := { probe := fun _ _ => true } }
  have unfailed : (perform (acts session {}) walk.resolver).failure = none := by decide +kernel
  obtain ⟨after, created, -, left⟩ := create_of_unfailed unfailed
  refine ⟨session, walk, _, after, rfl, rfl, created, ?_, rfl, ?_, ?_⟩
  · rw [left]
    decide +kernel
  · decide +kernel
  · decide +kernel

end Emit

end TmuxPlan
