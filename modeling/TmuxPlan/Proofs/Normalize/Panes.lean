import TmuxPlan.Normalize

/-!
A canonical session has something in it. A list of windows or panes that is left out or empty is
filled in, so every session has a window and every window a pane.
-/

set_option autoImplicit false

namespace TmuxPlan.Normalize

theorem bind_eq_ok {α β : Type} {result : Except Error α} {next : α → Except Error β} {value : β} :
    result >>= next = .ok value ↔ ∃ middle, result = .ok middle ∧ next middle = .ok value := by
  cases result with
  | error cause => simp [bind, Except.bind]
  | ok middle => simp [bind, Except.bind]

theorem pure_eq_ok {α : Type} {result value : α} :
    (pure result : Except Error α) = .ok value ↔ result = value := by
  simp [pure, Except.pure]

/-- Reading all items gives as many values, each read from one of them. -/
theorem mapM_eq_ok {α β : Type} {read : α → Except Error β} {items : List α} {values : List β}
    (found : items.mapM read = .ok values) :
    values.length = items.length ∧ ∀ value ∈ values, ∃ item ∈ items, read item = .ok value := by
  induction items generalizing values with
  | nil =>
    rw [List.mapM_nil, pure_eq_ok] at found
    subst found
    simp
  | cons item items inductionHypothesis =>
    rw [List.mapM_cons] at found
    obtain ⟨value, first, later⟩ := bind_eq_ok.mp found
    obtain ⟨rest, others, whole⟩ := bind_eq_ok.mp later
    rw [pure_eq_ok] at whole
    subst whole
    obtain ⟨sameLength, origins⟩ := inductionHypothesis others
    refine ⟨by simp [sameLength], ?_⟩
    intro other listed
    rcases List.mem_cons.mp listed with rfl | listed
    · exact ⟨item, List.mem_cons_self .., first⟩
    · obtain ⟨origin, among, read⟩ := origins other listed
      exact ⟨origin, List.mem_cons_of_mem _ among, read⟩

theorem mapM_ne_nil {α β : Type} {read : α → Except Error β} {items : List α} {values : List β}
    (nonempty : items ≠ []) (found : items.mapM read = .ok values) : values ≠ [] := by
  intro empty
  have length := (mapM_eq_ok found).1
  rw [empty, List.length_nil] at length
  exact nonempty (List.length_eq_zero_iff.mp length.symm)

theorem panes_ne_nil {owner : Owner} {spec : Option Description.PanesSpec} {own : List Pane}
    (read : panes owner spec = .ok (some own)) : own ≠ [] := by
  unfold panes at read
  split at read
  · cases read
  · cases read
  · rename_i specs nonempty
    obtain ⟨values, found, whole⟩ := bind_eq_ok.mp read
    rw [pure_eq_ok, Option.some.injEq] at whole
    subst whole
    refine mapM_ne_nil ?_ found
    intro empty
    obtain rfl : specs = [] := by simpa using empty
    exact nonempty rfl
  · cases read

theorem fallbackPanes_ne_nil {sessionPanes : Option (List Pane)}
    (filled : ∀ shared, sessionPanes = some shared → shared ≠ []) :
    fallbackPanes sessionPanes ≠ [] := by
  cases sessionPanes with
  | none => simp [fallbackPanes]
  | some shared => exact filled shared rfl

theorem window_panes_ne_nil {sessionPanes : Option (List Pane)} {index : Nat}
    {spec : Description.WindowSpec} {read : Window}
    (filled : ∀ shared, sessionPanes = some shared → shared ≠ [])
    (found : window sessionPanes index spec = .ok read) : read.panes ≠ [] := by
  cases spec with
  | named name =>
    cases found
    exact fallbackPanes_ne_nil filled
  | list length => cases found
  | other => cases found
  | structured fields =>
    obtain ⟨ssh, -, found⟩ := bind_eq_ok.mp found
    obtain ⟨own, ownRead, found⟩ := bind_eq_ok.mp found
    obtain ⟨shell, -, found⟩ := bind_eq_ok.mp found
    rw [pure_eq_ok] at found
    subst found
    cases own with
    | none => exact fallbackPanes_ne_nil filled
    | some listed => exact panes_ne_nil ownRead

theorem windows_panes_ne_nil {sessionPanes : Option (List Pane)}
    {specs : Option (List Description.WindowSpec)} {read : List Window}
    (filled : ∀ shared, sessionPanes = some shared → shared ≠ [])
    (found : windows sessionPanes specs = .ok read) :
    read ≠ [] ∧ ∀ window ∈ read, window.panes ≠ [] := by
  unfold windows at found
  split at found
  · cases found
    simpa using fallbackPanes_ne_nil filled
  · cases found
    simpa using fallbackPanes_ne_nil filled
  · rename_i specs nonempty
    refine ⟨mapM_ne_nil ?_ found, ?_⟩
    · intro empty
      obtain rfl : specs = [] := by simpa using empty
      exact nonempty rfl
    · intro window listed
      obtain ⟨⟨spec, index⟩, -, read⟩ := (mapM_eq_ok found).2 window listed
      exact window_panes_ne_nil filled read

theorem current_windows {name : SessionName} {spec : Description.SessionSpec} {session : Session}
    (normalized : current name spec = .ok session) :
    ∃ sessionPanes, panes .session spec.panes = .ok sessionPanes ∧
      windows sessionPanes spec.windows = .ok session.windows := by
  obtain ⟨focus, -, normalized⟩ := bind_eq_ok.mp normalized
  obtain ⟨sessionPanes, shared, normalized⟩ := bind_eq_ok.mp normalized
  obtain ⟨windows, found, normalized⟩ := bind_eq_ok.mp normalized
  obtain ⟨shell, -, normalized⟩ := bind_eq_ok.mp normalized
  obtain ⟨ssh, -, normalized⟩ := bind_eq_ok.mp normalized
  rw [pure_eq_ok] at normalized
  subst normalized
  exact ⟨sessionPanes, shared, found⟩

theorem current_panes_ne_nil {name : SessionName} {spec : Description.SessionSpec}
    {session : Session} (normalized : current name spec = .ok session) :
    session.windows ≠ [] ∧ ∀ window ∈ session.windows, window.panes ≠ [] := by
  obtain ⟨sessionPanes, shared, found⟩ := current_windows normalized
  refine windows_panes_ne_nil ?_ found
  rintro own rfl
  exact panes_ne_nil shared

/-- A session that normalizing gives has a window, and each of its windows has a pane. -/
theorem normalize_filled {name : String} {spec : Description.SessionSpec} {session : Session}
    (normalized : normalize name spec = .ok session) :
    session.windows ≠ [] ∧ ∀ window ∈ session.windows, window.panes ≠ [] := by
  obtain ⟨name, -, normalized⟩ := bind_eq_ok.mp normalized
  dsimp only at normalized
  split at normalized
  · obtain ⟨migrated, -, normalized⟩ := bind_eq_ok.mp normalized
    exact current_panes_ne_nil normalized
  · exact current_panes_ne_nil normalized

end TmuxPlan.Normalize
