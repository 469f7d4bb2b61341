import TmuxPlan.Proofs.Ssh.Levels

/-!
The algebra of ssh settings. Fragments laid over each other form an idempotent monoid, and the levels
of a pane are multiplied in it. What a pane gets is therefore the same for all levels with the same
product, whichever of them are there.
-/

set_option autoImplicit false

namespace TmuxPlan.Ssh

namespace Fragment

section

variable (outer middle inner : Fragment)

theorem overlay_assoc :
    (outer.overlay middle).overlay inner = outer.overlay (middle.overlay inner) := by
  simp [overlay, Option.or_assoc]

@[simp]
theorem overlay_empty : outer.overlay {} = outer := by
  simp [overlay]

@[simp]
theorem empty_overlay : overlay {} inner = inner := by
  simp [overlay]

@[simp]
theorem overlay_self : outer.overlay outer = outer := by
  simp [overlay]

end

instance : Std.Associative overlay := ⟨overlay_assoc⟩

/-! ### Any number of levels -/

@[simp]
theorem ofLevels_nil : ofLevels [] = none := rfl

/-- The levels further in lie over those further out. -/
theorem ofLevels_append (outer inner : List (Option Fragment)) :
    ofLevels (outer ++ inner) = Option.merge overlay (ofLevels outer) (ofLevels inner) := by
  have fromOuter : ofLevels (outer ++ inner) =
      inner.foldl (Option.merge overlay) (Option.merge overlay (ofLevels outer) none) := by
    rw [Option.merge_none_right, ofLevels, List.foldl_append, ofLevels]
  rw [fromOuter, List.foldl_assoc, ofLevels, ofLevels]

theorem ofLevels_cons (outer : Option Fragment) (inner : List (Option Fragment)) :
    ofLevels (outer :: inner) = Option.merge overlay outer (ofLevels inner) := by
  have alone : ofLevels [outer] = outer := Option.merge_none_left ..
  rw [← List.singleton_append, ofLevels_append, alone]

/-- The levels that mention ssh, outermost first. -/
def present (levels : List (Option Fragment)) : List Fragment :=
  levels.filterMap id

/-- The product of some fragments, outermost first; none where there are none. -/
def product (fragments : List Fragment) : Option Fragment :=
  ofLevels (fragments.map some)

theorem product_append (outer inner : List Fragment) :
    product (outer ++ inner) = Option.merge overlay (product outer) (product inner) := by
  rw [product, List.map_append, ofLevels_append, product, product]

theorem product_cons (outer : Fragment) (inner : List Fragment) :
    product (outer :: inner) = Option.merge overlay (some outer) (product inner) := by
  rw [product, List.map_cons, ofLevels_cons, product]

/-- Which levels the fragments stand at does not matter, as long as their order stays. -/
theorem ofLevels_present (levels : List (Option Fragment)) :
    ofLevels levels = product (present levels) := by
  induction levels with
  | nil => rfl
  | cons level levels inductionHypothesis =>
    rw [ofLevels_cons, inductionHypothesis]
    cases level with
    | none => exact Option.merge_none_left ..
    | some fragment => exact (product_cons fragment (present levels)).symm

/-- Two neighbours may be joined, and an empty fragment may stand anywhere beside another one. -/
inductive Rearranged : List Fragment → List Fragment → Prop where
  | joined (before : List Fragment) (outer inner : Fragment) (after : List Fragment) :
      Rearranged (before ++ outer :: inner :: after) (before ++ outer.overlay inner :: after)
  | filled (before after : List Fragment) :
      before ++ after ≠ [] → Rearranged (before ++ after) (before ++ {} :: after)

/-- The product of fragments is not empty unless there are none. -/
theorem product_ne_none {fragments : List Fragment} (mentioned : fragments ≠ []) :
    ∃ fragment, product fragments = some fragment := by
  obtain ⟨outer, inner, rfl⟩ := List.exists_cons_of_ne_nil mentioned
  rw [product_cons]
  cases product inner with
  | none => exact ⟨outer, rfl⟩
  | some rest => exact ⟨outer.overlay rest, rfl⟩

theorem Rearranged.product_eq {fragments others : List Fragment}
    (rearranged : Rearranged fragments others) : product others = product fragments := by
  cases rearranged with
  | joined before outer inner after =>
    rw [product_append, product_append, product_cons, product_cons, product_cons]
    cases product after with
    | none => rfl
    | some rest => simp [Option.merge, overlay_assoc]
  | filled before after mentioned =>
    rw [product_append, product_append, product_cons]
    by_cases last : after = []
    · subst last
      obtain ⟨fragment, found⟩ := product_ne_none (List.append_nil before ▸ mentioned)
      rw [found]
      exact congrArg some (overlay_empty fragment)
    · obtain ⟨fragment, found⟩ := product_ne_none last
      rw [found]
      simp [Option.merge]

end Fragment

/-! ### The three levels of a pane -/

section

variable (session window pane : Option Fragment)

/-- The setting of the innermost level that makes it. -/
def setting {α : Type} (get : Fragment → Option α) : Option α :=
  (pane.bind get).or ((window.bind get).or (session.bind get))

theorem findSome?_mentions {α : Type} (get : Fragment → Option α) :
    (mentions session window pane).findSome? get = setting session window pane get := by
  cases session <;> cases window <;> cases pane <;>
    simp [mentions, setting, findSome?_cons_or]

theorem mentions_eq_nil_iff :
    mentions session window pane = [] ↔ session = none ∧ window = none ∧ pane = none := by
  cases session <;> cases window <;> cases pane <;> simp [mentions]

/-- Ssh settings form a monoid in which every element is idempotent. A pane gets none exactly if no
level mentions ssh, and else each setting from the innermost level that makes it, where a blank
server is as good as none and a blank user counts as unset. Which levels the settings are spread over
makes no difference, neither to what a pane gets nor to its error. -/
theorem merge_takes_innermost (outer middle inner : Fragment) :
    (outer.overlay middle).overlay inner = outer.overlay (middle.overlay inner) ∧
    outer.overlay {} = outer ∧ Fragment.overlay {} outer = outer ∧ outer.overlay outer = outer ∧
    (Options.merge session window pane = .ok none ↔
      session = none ∧ window = none ∧ pane = none) ∧
    (¬ (session = none ∧ window = none ∧ pane = none) →
      Options.merge session window pane =
        match setting session window pane (·.server) with
        | none => .error (.serverMissing (setting session window pane (·.user)))
        | some server =>
          if Text.isBlankText server then
            .error (.serverMissing (setting session window pane (·.user)))
          else .ok (some {
            server
            user := (setting session window pane (·.user)).filter (!Text.isBlankText ·)
            loginOnly := (setting session window pane (·.loginOnly)).getD false })) ∧
    ∀ otherSession otherWindow otherPane : Option Fragment,
      Fragment.Rearranged (Fragment.present [session, window, pane])
        (Fragment.present [otherSession, otherWindow, otherPane]) →
      Options.merge otherSession otherWindow otherPane = Options.merge session window pane := by
  refine ⟨outer.overlay_assoc middle inner, outer.overlay_empty, outer.empty_overlay,
    outer.overlay_self, ?_, ?_, ?_⟩
  · rw [merge_eq, ← mentions_eq_nil_iff]
    by_cases silent : mentions session window pane = []
    · simp [silent]
    · simp only [silent, if_false, iff_false]
      split <;> simp
  · intro mentioned
    rw [← mentions_eq_nil_iff] at mentioned
    simp only [merge_eq, if_neg mentioned, findSome?_mentions]
    cases setting session window pane (·.server) with
    | none => rfl
    | some server =>
      by_cases blank : Text.isBlankText server = true
      · simp [Option.filter, blank]
      · simp [Option.filter, blank]
  · intro otherSession otherWindow otherPane rearranged
    rw [Options.merge, Options.merge, Fragment.ofLevels_present, Fragment.ofLevels_present,
      rearranged.product_eq]

/-- A blank server further in hides a good one, and the error names the user nearest to the pane. -/
example : Options.merge (some { server := some "web01", user := some "ops" })
    (some { user := some "ci" }) (some { server := some " " }) = .error (.serverMissing "ci") := by
  rfl

end

end TmuxPlan.Ssh
