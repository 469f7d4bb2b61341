import TmuxPlan.Proofs.Emit.Probes

/-!
What is typed over ssh is guarded: among the acts of a session every key-send of a pane with ssh
settings stands behind a demand that their destination answers. So whenever such a key-send
is emitted, the destination was trusted from the start or it has answered before.
-/

set_option autoImplicit false

namespace TmuxPlan.Emit

/-- What has been emitted at some point comes from an act that all the earlier ones led to. -/
theorem perform_events_split {acts : List Act} {resolver : Ssh.Resolver} {before after : List Event}
    {ssh : Option Ssh.Options} {command : Command}
    (shape : (perform acts resolver).events = before ++ .emitted ssh command :: after) :
    ∃ first rest, acts = first ++ .emit ssh command :: rest ∧
      (perform first resolver).failure = none ∧ (perform first resolver).events = before := by
  fun_induction perform acts resolver generalizing before with
  | case1 | case3 => simp at shape
  | case6 =>
    rw [List.cons_eq_append_iff] at shape
    simp at shape
  | case2 tag emitted acts resolver inductionHypothesis =>
    cases before with
    | nil =>
      simp only [Outcome.after_events, List.singleton_append, List.nil_append, List.cons.injEq,
        Event.emitted.injEq] at shape
      obtain ⟨⟨rfl, rfl⟩, -⟩ := shape
      exact ⟨[], acts, rfl, rfl, rfl⟩
    | cons event before =>
      simp only [Outcome.after_events, List.cons_append, List.cons.injEq] at shape
      obtain ⟨rfl, shape⟩ := shape
      obtain ⟨first, rest, rfl, unfailed, events⟩ := inductionHypothesis shape
      exact ⟨.emit tag emitted :: first, rest, rfl, unfailed, by simp [perform, events]⟩
  | case4 settings acts resolver trusted inductionHypothesis =>
    obtain ⟨first, rest, rfl, unfailed, events⟩ := inductionHypothesis shape
    exact ⟨.reach settings :: first, rest, rfl, by simp [perform, trusted, unfailed],
      by simp [perform, trusted, events]⟩
  | case5 settings acts resolver trusted answered inductionHypothesis =>
    cases before with
    | nil => simp at shape
    | cons event before =>
      simp only [Outcome.after_events, List.cons_append, List.cons.injEq] at shape
      obtain ⟨rfl, shape⟩ := shape
      obtain ⟨first, rest, rfl, unfailed, events⟩ := inductionHypothesis shape
      exact ⟨.reach settings :: first, rest, rfl, by simp [perform, trusted, answered, unfailed],
        by simp [perform, trusted, answered, events]⟩

/-- A destination that was let through was trusted from the start, or it has answered since. -/
theorem answered_of_reached {acts : List Act} {resolver : Ssh.Resolver} {ssh : Ssh.Options}
    (unfailed : (perform acts resolver).failure = none) (reached : .reach ssh ∈ acts) :
    resolver.trusts ssh.destination = true ∨
      .probed ssh.destination true ∈ (perform acts resolver).events := by
  fun_induction perform acts resolver with
  | case1 => simp at reached
  | case3 | case6 => simp at unfailed
  | case2 tag command acts resolver inductionHypothesis =>
    have later : .reach ssh ∈ acts := by simpa using reached
    simpa using inductionHypothesis unfailed later
  | case4 settings acts resolver trusted inductionHypothesis =>
    rcases List.mem_cons.mp reached with same | later
    · cases same
      exact .inl trusted
    · exact inductionHypothesis unfailed later
  | case5 settings acts resolver trusted answered inductionHypothesis =>
    rcases List.mem_cons.mp reached with same | later
    · cases same
      exact .inr (by simp)
    · rcases inductionHypothesis unfailed later with known | probed
      · rw [Ssh.Resolver.trusts_iff, Ssh.Resolver.afterProbe_debug,
          Ssh.Resolver.afterProbe_validated_of_answer _ _ answered, List.mem_cons,
          or_left_comm] at known
        rcases known with same | known
        · rw [same]
          exact .inr (by simp)
        · exact .inl ((Ssh.Resolver.trusts_iff _ _).mpr known)
      · exact .inr (by simp [probed])

/-- Every key-send over ssh stands behind the demand for its destination. -/
def Guarded (acts : List Act) : Prop :=
  ∀ before ssh target text enter after,
    acts = before ++ .emit (some ssh) (.sendKeys target text enter) :: after →
      .reach ssh ∈ before

theorem Guarded.append {first second : List Act} (guardedFirst : Guarded first)
    (guardedSecond : Guarded second) : Guarded (first ++ second) := by
  intro before ssh target text enter after shape
  rcases append_split shape with ⟨middle, rfl, inSecond⟩ | ⟨middle, inFirst⟩
  · exact List.mem_append_right _ (guardedSecond _ _ _ _ _ _ inSecond)
  · exact guardedFirst _ _ _ _ _ _ inFirst

theorem Guarded.of_untyped {acts : List Act}
    (untyped : ∀ ssh target text enter, .emit (some ssh) (.sendKeys target text enter) ∉ acts) :
    Guarded acts := by
  intro before ssh target text enter after shape
  exact absurd (by simp [shape]) (untyped ssh target text enter)

section

variable (session : Session) (options : CompileOptions)

theorem guarded_entryActs (plan : PanePlan) (windowIndex paneIndex : Nat) (entry : CommandEntry) :
    Guarded (entryActs session options plan windowIndex paneIndex entry) := by
  unfold entryActs
  cases routed : plan.ssh with
  | none => exact .of_untyped (by simp)
  | some ssh =>
    intro before other target text enter after shape
    cases before with
    | nil => simp at shape
    | cons act before =>
      simp only [Option.toList_some, List.map_cons, List.map_nil, List.cons_append,
        List.nil_append, List.cons.injEq] at shape
      obtain ⟨rfl, rest⟩ := shape
      have same : ssh = other := by
        have typed : .emit (some other) (.sendKeys target text enter) ∈
            (keys options ⟨session.name, .ofNat windowIndex, .ofNat paneIndex⟩
              (plan.text entry)).map (Act.emit (some ssh)) := by
          rw [rest]
          simp
        obtain ⟨command, -, equal⟩ := List.mem_map.mp typed
        cases equal
        rfl
      rw [same]
      exact List.mem_cons_self ..

theorem guarded_furtherActs (plan : PanePlan) (windowIndex paneIndex : Nat)
    (rest : List (CommandEntry × SplitDirection)) :
    Guarded (furtherActs session options plan windowIndex paneIndex rest) := by
  induction rest generalizing paneIndex with
  | nil => exact .of_untyped (by simp [furtherActs])
  | cons split rest inductionHypothesis =>
    obtain ⟨entry, direction⟩ := split
    rw [furtherActs, List.cons_append, ← List.singleton_append]
    exact .append (.of_untyped (by simp))
      (.append (guarded_entryActs session options plan windowIndex paneIndex entry)
        (inductionHypothesis (paneIndex + 1)))

theorem guarded_paneActs (window : Window) (windowIndex paneIndex : Nat) (pane : Pane) :
    Guarded (paneActs session options window windowIndex paneIndex pane) := by
  unfold paneActs
  split
  · exact .of_untyped (by simp)
  · rename_i plan planned
    refine .append ?_ ?_
    · split <;> exact .of_untyped (by simp)
    · cases plan.entries with
      | nil => exact .of_untyped (by simp [entriesActs])
      | cons split rest =>
        exact .append (guarded_entryActs session options plan windowIndex paneIndex split.1)
          (guarded_furtherActs session options plan windowIndex (paneIndex + 1) rest)

theorem guarded_panesActs (window : Window) (windowIndex paneIndex : Nat) (panes : List Pane) :
    Guarded (panesActs session options window windowIndex paneIndex panes) := by
  induction panes generalizing paneIndex with
  | nil => exact .of_untyped (by simp [panesActs])
  | cons pane panes inductionHypothesis =>
    exact .append (guarded_paneActs session options window windowIndex paneIndex pane)
      (inductionHypothesis _)

theorem guarded_windowActs (windowIndex : Nat) (window : Window) :
    Guarded (windowActs session options windowIndex window) := by
  rw [windowActs, List.cons_append, ← List.singleton_append]
  exact .append (.of_untyped (by simp))
    (.append (guarded_panesActs session options window windowIndex 0 window.panes)
      (.of_untyped (by simp)))

theorem guarded_windowsActs (windowIndex : Nat) (windows : List Window) :
    Guarded (windowsActs session options windowIndex windows) := by
  induction windows generalizing windowIndex with
  | nil => exact .of_untyped (by simp [windowsActs])
  | cons window windows inductionHypothesis =>
    exact .append (guarded_windowActs session options windowIndex window)
      (inductionHypothesis (windowIndex + 1))

theorem guarded_acts : Guarded (acts session options) :=
  .append (guarded_windowsActs session options 0 session.windows) (.of_untyped (by simp))

end

/-- Nothing is typed over ssh before the destination is trusted or has answered. -/
theorem Guarded.answered {acts : List Act} {resolver : Ssh.Resolver} (guarded : Guarded acts)
    {before after : List Event} {ssh : Ssh.Options} {target : PaneCoordinate} {text : String}
    {enter : Bool}
    (shape : (perform acts resolver).events =
      before ++ .emitted (some ssh) (.sendKeys target text enter) :: after) :
    resolver.trusts ssh.destination = true ∨ .probed ssh.destination true ∈ before := by
  obtain ⟨first, rest, split, unfailed, rfl⟩ := perform_events_split shape
  exact answered_of_reached unfailed (guarded _ _ _ _ _ _ split)

end TmuxPlan.Emit
