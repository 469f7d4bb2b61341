import TmuxPlan.Proofs.Emit.Typing

/-!
Commented-out texts. The mark is put in front of a whole text and a shell takes a comment to end with
the line, so what is shown is a comment on every line exactly if the lines after the first are
comments of their own. A text of one line is a comment as a whole.
-/

set_option autoImplicit false

namespace TmuxPlan

/-- Whether a shell takes every line of a text for a comment. -/
def Commented (text : String) : Prop :=
  ∀ line ∈ Text.cut '\n' text.toList, line.head? = some '#'

/-- The mark goes to the first line and nowhere else. -/
theorem cut_marked (part : String) :
    ∃ first rest, Text.cut '\n' part.toList = first :: rest ∧
      Text.cut '\n' ("# " ++ part).toList = ('#' :: ' ' :: first) :: rest := by
  obtain ⟨rest, shape⟩ := Text.cut_eq_cons '\n' part.toList
  have spaced := Text.cut_cons_of_ne '\n' (c := ' ') (by decide) shape
  refine ⟨_, rest, shape, ?_⟩
  rw [String.toList_append]
  exact Text.cut_cons_of_ne '\n' (by decide) spaced

theorem commented_marked_iff (part : String) :
    Commented ("# " ++ part) ↔
      ∀ line ∈ (Text.cut '\n' part.toList).tail, line.head? = some '#' := by
  obtain ⟨first, rest, shape, marked⟩ := cut_marked part
  rw [Commented, marked, shape]
  simp

theorem commented_marked_of_oneLine {part : String} (oneLine : '\n' ∉ part.toList) :
    Commented ("# " ++ part) := by
  rw [commented_marked_iff, Text.cut_eq_splitOn, List.splitOn_eq_singleton oneLine]
  simp

/-- Whether nothing that is typed into a pane goes over the end of a line. -/
structure Seat.OneLine (session : Session) (options : CompileOptions) (seat : Seat) : Prop where
  destination : ∀ destination ∈ seat.destination? session, '\n' ∉ destination.toList
  dir : ∀ dir ∈ PanePlan.chosenDir session options seat.place.window seat.place.pane,
    '\n' ∉ dir.toList
  command : '\n' ∉ seat.entry.command.toList

theorem Seat.OneLine.texts {session : Session} {options : CompileOptions} {seat : Seat}
    (oneLine : seat.OneLine session options) :
    ∀ part ∈ seat.texts session options, '\n' ∉ part.toList := by
  intro part listed broken
  obtain ⟨whole, cut, source⟩ := mem_typing listed
  have inWhole : '\n' ∈ whole.toList := ((Text.mem_pieces cut).2.2 '\n' broken).1
  rcases source with ⟨server, named, rfl⟩ | ⟨directory, chosen, rfl⟩ | rfl
  · exact oneLine.destination server named (by simpa using inWhole)
  · exact oneLine.dir directory chosen (by simpa using inWhole)
  · exact oneLine.command inWhole

namespace Emit

/-- What is shown instead of typed. No key-send is followed by Enter and each begins with the comment
mark, but it is a comment as a whole exactly if its later lines are comments as well; that is so if
no destination, directory or command goes over the end of a line. -/
theorem create_comments_iff {session : Session} {options : CompileOptions}
    (showing : options.debug = true) {walk after : Walk} {commands : List Command}
    (created : (create session options).run walk = .ok commands after) :
    (∀ target text enter, .sendKeys target text enter ∈ commands →
      enter = false ∧ ∃ seat ∈ session.seats options, seat.target session = target ∧
        ∃ part ∈ seat.texts session options, text = "# " ++ part) ∧
    ((∀ target text enter, .sendKeys target text enter ∈ commands → Commented text) ↔
      ∀ seat ∈ session.seats options, ∀ part ∈ seat.texts session options,
        ∀ line ∈ (Text.cut '\n' part.toList).tail, line.head? = some '#') ∧
    ((∀ seat ∈ session.seats options, seat.OneLine session options) →
      ∀ target text enter, .sendKeys target text enter ∈ commands → Commented text) := by
  obtain ⟨unfailed, rfl, -, -⟩ := unfailed_of_create created
  have errorFree := ((perform_unfailed_iff _ _).mp unfailed).1
  have marked (part : String) : keystroke options part = ("# " ++ part, false) := by
    simp [keystroke, showing]
  have sent (target : PaneCoordinate) (text : String) (enter : Bool) :
      .sendKeys target text enter ∈ (perform (acts session options) walk.resolver).commands ↔
        ∃ seat ∈ session.seats options, seat.target session = target ∧
          ∃ part ∈ seat.texts session options, "# " ++ part = text ∧ false = enter := by
    rw [commands_of_unfailed _ _ unfailed, ← mem_sentTo,
      mem_sentTo_acts session options target errorFree]
    simp only [marked, Prod.mk.injEq]
  refine ⟨?_, ?_, ?_⟩
  · intro target text enter listed
    obtain ⟨seat, seated, same, part, typed, rfl, rfl⟩ := (sent target text enter).mp listed
    exact ⟨rfl, seat, seated, same, part, typed, rfl⟩
  · constructor
    · intro commented seat seated part typed
      rw [← commented_marked_iff]
      exact commented _ _ _ ((sent _ _ _).mpr ⟨seat, seated, rfl, part, typed, rfl, rfl⟩)
    · intro later target text enter listed
      obtain ⟨seat, seated, -, part, typed, rfl, -⟩ := (sent target text enter).mp listed
      exact (commented_marked_iff part).mpr (later seat seated part typed)
  · intro oneLine target text enter listed
    obtain ⟨seat, seated, -, part, typed, rfl, -⟩ := (sent target text enter).mp listed
    exact commented_marked_of_oneLine ((oneLine seat seated).texts part typed)

/-- A command in a directory of a server, all on one line each. -/
theorem create_comments_iff_make :
    ∃ session walk commands after, (create session { debug := true }).run walk = .ok commands after ∧
      sentTo ⟨session.name, 0, 0⟩ commands =
        [("# ssh web", false), ("# cd /srv", false), ("# make", false)] ∧
      ∀ target text enter, .sendKeys target text enter ∈ commands → Commented text := by
  let pane : Pane := { shell := some [⟨"make", none⟩] }
  let session : Session := {
    name := ⟨"dev", by decide⟩, windows := [{ name := "web", panes := [pane] }]
    dir := some "/srv", ssh := some { server := some "web" } }
  let walk : Walk := { resolver := { probe := fun _ _ => true } }
  have unfailed : (perform (acts session { debug := true }) walk.resolver).failure = none := by
    decide +kernel
  obtain ⟨after, created, -, -⟩ := create_of_unfailed unfailed
  refine ⟨session, walk, _, after, created, by decide +kernel, ?_⟩
  apply (create_comments_iff rfl created).2.2
  intro seat listed
  have alone : session.seats { debug := true } =
      [⟨⟨[], { name := "web", panes := [pane] }, [], pane⟩, ⟨"make", none⟩, 0⟩] := by
    decide +kernel
  rw [alone, List.mem_singleton] at listed
  subst listed
  exact ⟨by decide +kernel, by decide +kernel, by decide +kernel⟩

/-- A command of two lines: the second one is not commented out. -/
theorem comment_may_end :
    ∃ session walk commands after, (create session { debug := true }).run walk = .ok commands after ∧
      .sendKeys ⟨session.name, 0, 0⟩ "# echo a\nrm x" false ∈ commands ∧
      ¬ Commented "# echo a\nrm x" := by
  let session : Session := {
    name := ⟨"s", by decide⟩, windows := [{ name := "ultimux", panes := [{}] }]
    shell := some [⟨"echo a\nrm x\n", none⟩] }
  let walk : Walk := { resolver := { probe := fun _ _ => true } }
  have unfailed : (perform (acts session { debug := true }) walk.resolver).failure = none := by
    decide +kernel
  obtain ⟨after, created, -, -⟩ := create_of_unfailed unfailed
  refine ⟨session, walk, _, after, created, by decide +kernel, ?_⟩
  unfold Commented
  decide +kernel

end Emit

end TmuxPlan
