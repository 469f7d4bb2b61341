import TmuxPlan.Ssh.Resolver

/-!
Which destinations of a list get probed. Known ones do not, the others once each in the order in
which they are first mentioned, and the first one that does not answer is the last one asked.
-/

set_option autoImplicit false

namespace TmuxPlan.Ssh

/-- The destinations that are not known, each once, in the order of their first mention. -/
def unknown (known : List String) : List String → List String
  | [] => []
  | destination :: rest =>
    if destination ∈ known then unknown known rest
    else destination :: unknown (destination :: known) rest

section

variable (known : List String) (destination : String) (rest : List String)

@[simp]
theorem unknown_nil : unknown known [] = [] := rfl

theorem unknown_cons_of_mem (met : destination ∈ known) :
    unknown known (destination :: rest) = unknown known rest := by
  simp [unknown, met]

theorem unknown_cons_of_not_mem (fresh : destination ∉ known) :
    unknown known (destination :: rest) =
      destination :: unknown (destination :: known) rest := by
  simp [unknown, fresh]

theorem mem_unknown :
    destination ∈ unknown known rest ↔ destination ∈ rest ∧ destination ∉ known := by
  induction rest generalizing known with
  | nil => simp
  | cons head tail inductionHypothesis =>
    by_cases met : head ∈ known
    · rw [unknown_cons_of_mem _ _ _ met, inductionHypothesis]
      constructor
      · exact fun ⟨inTail, fresh⟩ => ⟨List.mem_cons_of_mem _ inTail, fresh⟩
      · rintro ⟨inList, fresh⟩
        rcases List.mem_cons.mp inList with rfl | inTail
        · exact absurd met fresh
        · exact ⟨inTail, fresh⟩
    · rw [unknown_cons_of_not_mem _ _ _ met, List.mem_cons, inductionHypothesis]
      by_cases same : destination = head
      · simp [same, met]
      · simp [same]

theorem unknown_eq_nil_iff :
    unknown known rest = [] ↔ ∀ destination ∈ rest, destination ∈ known := by
  simp only [List.eq_nil_iff_forall_not_mem, mem_unknown, not_and, Decidable.not_not]

theorem unknown_nodup : (unknown known rest).Nodup := by
  induction rest generalizing known with
  | nil => exact List.nodup_nil
  | cons head tail inductionHypothesis =>
    by_cases met : head ∈ known
    · rw [unknown_cons_of_mem _ _ _ met]
      exact inductionHypothesis known
    · rw [unknown_cons_of_not_mem _ _ _ met, List.nodup_cons]
      refine ⟨?_, inductionHypothesis _⟩
      simp [mem_unknown]

/-- A destination mentioned several times in a row counts once. -/
theorem unknown_replicate (count : Nat) :
    unknown known (List.replicate (count + 1) destination ++ rest) =
      unknown known (destination :: rest) := by
  induction count generalizing known with
  | zero => rfl
  | succ count inductionHypothesis =>
    rw [List.replicate_succ, List.cons_append]
    by_cases met : destination ∈ known
    · rw [unknown_cons_of_mem _ _ _ met, inductionHypothesis]
    · rw [unknown_cons_of_not_mem _ _ _ met, inductionHypothesis,
        unknown_cons_of_mem _ _ _ (List.mem_cons_self ..), ← unknown_cons_of_not_mem _ _ _ met]

theorem unknown_append_congr {first second : List String}
    (same : ∀ known, unknown known first = unknown known second) (before known : List String) :
    unknown known (before ++ first) = unknown known (before ++ second) := by
  induction before generalizing known with
  | nil => exact same known
  | cons destination before inductionHypothesis =>
    simp only [List.cons_append, unknown, inductionHypothesis]

end

/-- Probes of destinations from a numbered call on, until one does not answer. -/
def survey (probe : Probe) : Nat → List String → List (String × Bool)
  | _, [] => []
  | count, destination :: rest =>
    if probe count destination then (destination, true) :: survey probe (count + 1) rest
    else [(destination, false)]

section

variable (probe : Probe) (count : Nat) (destination : String) (rest : List String)

theorem survey_eq_nil_iff : survey probe count rest = [] ↔ rest = [] := by
  cases rest with
  | nil => simp [survey]
  | cons head tail =>
    unfold survey
    split <;> simp

theorem survey_fst_prefix : (survey probe count rest).map Prod.fst <+: rest := by
  induction rest generalizing count with
  | nil => exact List.nil_prefix
  | cons head tail inductionHypothesis =>
    unfold survey
    split
    · exact List.cons_prefix_cons.mpr ⟨rfl, inductionHypothesis (count + 1)⟩
    · exact List.cons_prefix_cons.mpr ⟨rfl, List.nil_prefix⟩

/-- What a survey says of a destination is the answer of the call with its number. -/
theorem exists_call_of_mem_survey {answer : Bool}
    (listed : (destination, answer) ∈ survey probe count rest) :
    ∃ call, (survey probe count rest)[call]? = some (destination, answer) ∧
      probe (count + call) destination = answer := by
  induction rest generalizing count with
  | nil => cases listed
  | cons head tail inductionHypothesis =>
    unfold survey at listed ⊢
    split at listed
    · rename_i answered
      rw [if_pos answered]
      rcases List.mem_cons.mp listed with same | later
      · cases same
        exact ⟨0, rfl, answered⟩
      · obtain ⟨call, found, told⟩ := inductionHypothesis (count + 1) later
        rw [Nat.add_right_comm] at told
        exact ⟨call + 1, found, told⟩
    · rename_i silent
      rw [if_neg silent]
      cases List.mem_singleton.mp listed
      exact ⟨0, rfl, by simpa using silent⟩

end

end TmuxPlan.Ssh
