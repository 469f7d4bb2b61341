import TmuxPlan.Proofs.Emit.Performance
import TmuxPlan.Proofs.Emit.Places

/-!
Where a compilation stops. A pane offends if something is wrong with it or if its destination is not
trusted and does not answer. The first pane that offends stops the compilation with its error, and
what was emitted until then is all that stands before the pane. One more command can follow: a pane
that is not the first of its window has its row split before its destination is asked for.
-/

set_option autoImplicit false

namespace TmuxPlan

namespace Place

section

variable (session : Session) (options : CompileOptions) (resolver : Ssh.Resolver) (place : Place)

/-- What stops a compilation at a pane that it reaches with the given resolver. -/
def offence? : Option Error :=
  place.fault? session options <|>
    ((place.destination? session).filter resolver.refuses).map .unreachable

def meet : Ssh.Resolver :=
  ((place.destination? session).map resolver.meet).getD resolver

/-- All commands of the earlier windows, the one that opens the window, and those of the earlier
panes in it. -/
def commandsBefore : List Command :=
  Emit.commandsOf (Emit.windowsActs session options 0 place.windowsBefore) ++
    Emit.opening session place.windowIndex place.window ::
      Emit.commandsOf
        (Emit.panesActs session options place.window place.windowIndex 0 place.panesBefore)

/-- What is emitted for a pane before its destination is asked for. -/
def rowSplit : List Command :=
  if 0 < UInt32.ofNat (place.paneIndex session options) then [.splitRow session.name] else []

/-- Only the first pane of a window finds a pane there, as every earlier pane takes at least one. -/
theorem rowSplit_eq (few : place.paneIndex session options < UInt32.size) :
    place.rowSplit session options =
      if place.panesBefore = [] then [] else [.splitRow session.name] := by
  have position : 0 < UInt32.ofNat (place.paneIndex session options) ↔ place.panesBefore ≠ [] := by
    rw [UInt32.lt_iff_toNat_lt, UInt32.toNat_ofNat_of_lt' few, paneIndex]
    cases place.panesBefore with
    | nil => simp
    | cons pane panes =>
      have taken := PanePlan.width_pos session options place.window pane
      simp
      omega
  unfold rowSplit
  by_cases first : place.panesBefore = []
  · rw [if_pos first, if_neg fun later => position.mp later first]
  · rw [if_neg first, if_pos (position.mpr first)]

end

end Place

namespace Emit

def firstOffence? (session : Session) (options : CompileOptions) :
    Ssh.Resolver → List Place → Option (Place × Error)
  | _, [] => none
  | resolver, place :: places =>
    match place.offence? session options resolver with
    | some cause => some (place, cause)
    | none => firstOffence? session options (place.meet session resolver) places

/-- Whether acts go through, and with which resolver, is a matter of their demands. -/
theorem perform_demands (acts : List Act) (resolver : Ssh.Resolver) :
    (perform (demands acts) resolver).failure = (perform acts resolver).failure ∧
      (perform (demands acts) resolver).resolver = (perform acts resolver).resolver := by
  fun_induction perform acts resolver with
  | case1 => exact ⟨rfl, rfl⟩
  | case2 ssh command acts resolver inductionHypothesis => exact inductionHypothesis
  | case3 => exact ⟨rfl, rfl⟩
  | case4 ssh acts resolver trusted inductionHypothesis =>
    simpa [perform, trusted] using inductionHypothesis
  | case5 ssh acts resolver trusted answered inductionHypothesis =>
    simpa [perform, trusted, answered] using inductionHypothesis
  | case6 ssh acts resolver trusted silent =>
    simp [perform, trusted, silent]

/-- Acts that demand only what is trusted go through and change nothing. -/
theorem perform_of_trusted {acts : List Act} {resolver : Ssh.Resolver}
    (trusted : ∀ act ∈ demands acts,
      ∃ ssh, act = .reach ssh ∧ resolver.trusts ssh.destination = true) :
    (perform acts resolver).failure = none ∧ (perform acts resolver).resolver = resolver := by
  induction acts with
  | nil => exact ⟨rfl, rfl⟩
  | cons act acts inductionHypothesis =>
    cases act with
    | emit ssh command => exact inductionHypothesis trusted
    | fail cause =>
      obtain ⟨ssh, impossible, -⟩ := trusted (.fail cause) (List.mem_cons_self ..)
      cases impossible
    | reach ssh =>
      obtain ⟨same, samePlace, passed⟩ := trusted (.reach ssh) (List.mem_cons_self ..)
      cases samePlace
      have rest := inductionHypothesis fun act demanded =>
        trusted act (List.mem_cons_of_mem _ demanded)
      simpa [perform, passed] using rest

section

variable (session : Session) (options : CompileOptions)

theorem demands_entryActs (plan : PanePlan) (windowIndex paneIndex : Nat) (entry : CommandEntry) :
    demands (entryActs session options plan windowIndex paneIndex entry) =
      plan.ssh.toList.map .reach := by
  rw [entryActs, demands_append, demands_emits, List.append_nil]
  cases plan.ssh <;> rfl

theorem demands_furtherActs (plan : PanePlan) (windowIndex paneIndex : Nat)
    (rest : List (CommandEntry × SplitDirection)) :
    demands (furtherActs session options plan windowIndex paneIndex rest) =
      (List.replicate rest.length (plan.ssh.toList.map .reach)).flatten := by
  induction rest generalizing paneIndex with
  | nil => rfl
  | cons split rest inductionHypothesis =>
    obtain ⟨entry, direction⟩ := split
    rw [furtherActs, List.cons_append, demands_emit, demands_append, inductionHypothesis,
      demands_entryActs]
    rfl

theorem demands_entriesActs (plan : PanePlan) (windowIndex paneIndex : Nat)
    (entries : List (CommandEntry × SplitDirection)) :
    demands (entriesActs session options plan windowIndex paneIndex entries) =
      (List.replicate entries.length (plan.ssh.toList.map .reach)).flatten := by
  cases entries with
  | nil => rfl
  | cons split rest =>
    rw [entriesActs, demands_append, demands_entryActs, demands_furtherActs]
    rfl

variable {session options}

theorem acts_of_fault {place : Place} {cause : Error}
    (faulty : place.fault? session options = some cause) :
    place.acts session options = [.fail cause] := by
  rw [Place.acts, paneActs, PanePlan.ofPane_of_fault faulty]

/-- Any other pane has a plan, and its acts demand its destination once for every entry. -/
theorem acts_of_faultless {place : Place} (faultless : place.fault? session options = none) :
    ∃ plan, PanePlan.plan? session options place.window place.pane = some plan ∧
      place.acts session options =
        (place.rowSplit session options).map (.emit plan.ssh) ++
          entriesActs session options plan place.windowIndex (place.paneIndex session options)
            plan.entries := by
  obtain ⟨plan, planned⟩ := PanePlan.plan?_of_faultless faultless
  refine ⟨plan, planned, ?_⟩
  rw [Place.acts, paneActs_of_planned planned, Place.rowSplit]
  split <;> rfl

theorem entriesActs_of_ssh {plan : PanePlan} {ssh : Ssh.Options} (routed : plan.ssh = some ssh)
    (windowIndex paneIndex : Nat) {entries : List (CommandEntry × SplitDirection)}
    (nonempty : entries ≠ []) :
    ∃ remaining,
      entriesActs session options plan windowIndex paneIndex entries = .reach ssh :: remaining ∧
        ∀ act ∈ demands remaining, act = .reach ssh := by
  cases entries with
  | nil => exact absurd rfl nonempty
  | cons split rest =>
    obtain ⟨entry, direction⟩ := split
    refine ⟨(keys options ⟨session.name, .ofNat windowIndex, .ofNat paneIndex⟩
        (plan.text entry)).map (.emit plan.ssh) ++
      furtherActs session options plan windowIndex (paneIndex + 1) rest, ?_, ?_⟩
    · simp [entriesActs, entryActs, routed]
    · intro act demanded
      rw [demands_append, demands_emits, List.nil_append, demands_furtherActs, routed] at demanded
      rw [Option.toList_some, List.map_singleton, List.flatten_replicate_singleton] at demanded
      exact List.eq_of_mem_replicate demanded

theorem perform_refused {ssh : Ssh.Options} {acts : List Act} {resolver : Ssh.Resolver}
    (refused : resolver.refuses ssh.destination = true) :
    (perform (.reach ssh :: acts) resolver).failure = some (.unreachable ssh.destination) ∧
      (perform (.reach ssh :: acts) resolver).commands = [] := by
  simp only [Ssh.Resolver.refuses, Bool.and_eq_true, Bool.not_eq_true'] at refused
  simp [perform, refused, Outcome.commands, Event.command?]

/-- A destination that is let through leaves no trace in what is emitted or in how it ends. -/
theorem perform_met {ssh : Ssh.Options} {acts : List Act} {resolver : Ssh.Resolver}
    (passed : resolver.refuses ssh.destination = false) :
    let rest := perform acts (resolver.meet ssh.destination)
    (perform (.reach ssh :: acts) resolver).failure = rest.failure ∧
      (perform (.reach ssh :: acts) resolver).commands = rest.commands ∧
      (perform (.reach ssh :: acts) resolver).resolver = rest.resolver := by
  by_cases trusted : resolver.trusts ssh.destination = true
  · simp [perform, Ssh.Resolver.meet, trusted]
  · have answered : resolver.answer ssh.destination = true := by
      simpa [Ssh.Resolver.refuses, trusted] using passed
    simp [perform, Ssh.Resolver.meet, trusted, answered]

/-- Once a destination is let through, nothing else that demands it can fail. -/
theorem perform_reach {ssh : Ssh.Options} {remaining : List Act} (resolver : Ssh.Resolver)
    (same : ∀ act ∈ demands remaining, act = .reach ssh) :
    if resolver.refuses ssh.destination then
      (perform (.reach ssh :: remaining) resolver).failure =
          some (.unreachable ssh.destination) ∧
        (perform (.reach ssh :: remaining) resolver).commands = []
    else
      (perform (.reach ssh :: remaining) resolver).failure = none ∧
        (perform (.reach ssh :: remaining) resolver).resolver =
          resolver.meet ssh.destination := by
  split
  · rename_i refused
    exact perform_refused refused
  · rename_i passed
    rw [Bool.not_eq_true] at passed
    have met := Ssh.Resolver.trusts_meet _ _ passed
    obtain ⟨unfailed, unchanged⟩ :=
      perform_of_trusted fun act demanded => ⟨ssh, same act demanded, met⟩
    obtain ⟨failure, -, left⟩ := perform_met passed
    exact ⟨failure.trans unfailed, left.trans unchanged⟩

theorem perform_emits (ssh : Option Ssh.Options) (commands : List Command) (acts : List Act)
    (resolver : Ssh.Resolver) :
    perform (commands.map (.emit ssh) ++ acts) resolver =
      (perform acts resolver).after (commands.map (.emitted ssh)) := by
  induction commands with
  | nil => rfl
  | cons command commands inductionHypothesis =>
    simp only [List.map_cons, List.cons_append, perform, inductionHypothesis, Outcome.after_after]
    rfl

end

section

variable (session : Session) (options : CompileOptions)

theorem perform_place (place : Place) (resolver : Ssh.Resolver) :
    match place.offence? session options resolver with
    | none =>
      (perform (place.acts session options) resolver).failure = none ∧
        (perform (place.acts session options) resolver).resolver = place.meet session resolver
    | some cause =>
      (perform (place.acts session options) resolver).failure = some cause ∧
        (perform (place.acts session options) resolver).commands =
          if cause.isUnreachable then place.rowSplit session options else [] := by
  cases fault : place.fault? session options with
  | some cause =>
    have blameless : cause.isUnreachable = false := PanePlan.isUnreachable_fault? fault
    simp [Place.offence?, fault, acts_of_fault fault, perform, blameless, Outcome.commands]
  | none =>
    obtain ⟨plan, planned, shape⟩ := acts_of_faultless fault
    have destination : place.destination? session = plan.ssh.map Ssh.Options.destination :=
      (PanePlan.plan?_destination planned).symm
    rw [Place.offence?, Place.meet, fault, destination, shape, perform_emits]
    cases routed : plan.ssh with
    | none =>
      have undemanding : demands (entriesActs session options plan place.windowIndex
          (place.paneIndex session options) plan.entries) = [] := by
        rw [demands_entriesActs, routed, Option.toList_none, List.map_nil,
          List.flatten_replicate_nil]
      exact perform_of_trusted (by simp [undemanding])
    | some ssh =>
      obtain ⟨remaining, first, same⟩ := entriesActs_of_ssh routed place.windowIndex
        (place.paneIndex session options) (PanePlan.plan?_entries_ne_nil planned)
      have reached := perform_reach resolver same
      rw [first]
      simp only [Option.map_some, Option.filter_some]
      cases refused : resolver.refuses ssh.destination with
      | true =>
        rw [refused, if_pos rfl] at reached
        obtain ⟨failed, silent⟩ := reached
        refine ⟨failed, ?_⟩
        rw [Outcome.after_emits_commands, silent, List.append_nil]
        rfl
      | false =>
        rw [refused, if_neg Bool.false_ne_true] at reached
        exact reached

/-- The first pane that offends stops the acts of all of them. -/
theorem perform_places (places : List Place) (resolver : Ssh.Resolver) :
    match firstOffence? session options resolver places with
    | none =>
      (perform (places.flatMap fun place => demands (place.acts session options))
        resolver).failure = none
    | some (place, cause) =>
      ∃ earlier later, places = earlier ++ place :: later ∧
        (perform (earlier.flatMap fun place => demands (place.acts session options))
          resolver).failure = none ∧
        place.offence? session options
          (perform (earlier.flatMap fun place => demands (place.acts session options))
            resolver).resolver = some cause := by
  induction places generalizing resolver with
  | nil => exact rfl
  | cons place places inductionHypothesis =>
    have here := perform_place session options place resolver
    unfold firstOffence?
    cases offence : place.offence? session options resolver with
    | some cause => exact ⟨[], places, rfl, rfl, offence⟩
    | none =>
      simp only [offence] at here ⊢
      obtain ⟨unfailed, left⟩ := here
      obtain ⟨sameFailure, sameResolver⟩ := perform_demands (place.acts session options) resolver
      rw [← sameFailure] at unfailed
      rw [← sameResolver] at left
      -- the rest starts with the resolver that the place leaves, as the search does
      have onward (rest : List Act) :
          perform (demands (place.acts session options) ++ rest) resolver =
            (perform rest (place.meet session resolver)).after
              (perform (demands (place.acts session options)) resolver).events := by
        rw [perform_append, Outcome.andThen_of_none unfailed, left]
      have rest := inductionHypothesis (place.meet session resolver)
      cases found : firstOffence? session options (place.meet session resolver) places with
      | none =>
        simp only [found] at rest ⊢
        rw [List.flatMap_cons, onward, Outcome.after_failure]
        exact rest
      | some offender =>
        obtain ⟨offender, cause⟩ := offender
        simp only [found] at rest ⊢
        obtain ⟨earlier, later, rfl, passed, offends⟩ := rest
        refine ⟨place :: earlier, later, rfl, ?_⟩
        rw [List.flatMap_cons, onward, Outcome.after_failure, Outcome.after_resolver]
        exact ⟨passed, offends⟩

end

variable (session : Session) (options : CompileOptions) (walk : Walk)

/-- A compilation goes through if no pane offends, and else stops at the first one that does. What
was emitted until then is all that stands before the pane, and a row for it if it is not the first
of its window and its destination does not answer. -/
theorem create_stops_at_first_offence :
    match firstOffence? session options walk.resolver session.places with
    | none =>
      ∃ after, (create session options).run walk =
        .ok (commandsOf (acts session options)) after
    | some (place, cause) =>
      ∃ stopped, (create session options).run walk = .error cause stopped ∧
        stopped.commands = place.commandsBefore session options ++
          (if cause.isUnreachable then place.rowSplit session options else []) ∧
        (place.paneIndex session options < UInt32.size →
          place.rowSplit session options =
            if place.panesBefore = [] then [] else [.splitRow session.name]) := by
  have walked := perform_places session options session.places
    walk.resolver
  cases found : firstOffence? session options walk.resolver session.places with
  | none =>
    simp only [found] at walked ⊢
    rw [← demands_acts, (perform_demands _ _).1] at walked
    obtain ⟨after, created, -, -⟩ := create_of_unfailed walked
    rw [commands_of_unfailed _ _ walked] at created
    exact ⟨after, created⟩
  | some offender =>
    obtain ⟨place, cause⟩ := offender
    simp only [found] at walked ⊢
    obtain ⟨earlier, later, enumerated, passed, offends⟩ := walked
    obtain ⟨⟨rest, shape⟩, before⟩ := acts_split options enumerated
    rw [← before] at passed offends
    rw [(perform_demands _ _).1] at passed
    rw [(perform_demands _ _).2] at offends
    have here := perform_place session options place
      (perform (place.actsBefore session options) walk.resolver).resolver
    simp only [offends] at here
    obtain ⟨failed, emitted⟩ := here
    have whole : perform (acts session options) walk.resolver =
        (perform (place.acts session options)
          (perform (place.actsBefore session options) walk.resolver).resolver).after
            (perform (place.actsBefore session options) walk.resolver).events := by
      rw [shape, perform_append, Outcome.andThen_of_none passed, perform_append,
        Outcome.andThen_of_some failed]
    have stops : (perform (acts session options) walk.resolver).failure = some cause := by
      rw [whole, Outcome.after_failure, failed]
    obtain ⟨stopped, result, commands, -⟩ := create_of_failed stops
    refine ⟨stopped, result, ?_, place.rowSplit_eq session options⟩
    rw [commands, whole, Outcome.after_events_commands, emitted, commands_of_unfailed _ _ passed]
    congr 1
    simp [Place.actsBefore, Place.commandsBefore, commandsOf, Act.command?]

end Emit

end TmuxPlan
