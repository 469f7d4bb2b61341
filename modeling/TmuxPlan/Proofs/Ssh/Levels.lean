import TmuxPlan.Ssh.Options

/-!
Merged ssh settings, field by field: every field is that of the innermost level that sets it, and
there are settings as soon as one level mentions ssh.
-/

set_option autoImplicit false

namespace TmuxPlan

theorem findSome?_cons_or {α β : Type} (f : α → Option β) (head : α) (tail : List α) :
    (head :: tail).findSome? f = (f head).or (tail.findSome? f) := by
  rw [List.findSome?_cons]
  cases f head <;> rfl

namespace Ssh

def mentions (session window pane : Option Fragment) : List Fragment :=
  [pane, window, session].filterMap id

variable (session window pane : Option Fragment)

theorem ofLevels_eq :
    Fragment.ofLevels [session, window, pane] =
      if mentions session window pane = [] then none
      else some {
        server := (mentions session window pane).findSome? (·.server)
        user := (mentions session window pane).findSome? (·.user)
        loginOnly := (mentions session window pane).findSome? (·.loginOnly) } := by
  cases session <;> cases window <;> cases pane <;>
    simp [Fragment.ofLevels, mentions, Fragment.overlay, Option.merge, findSome?_cons_or]

theorem merge_eq :
    Options.merge session window pane =
      if mentions session window pane = [] then .ok none
      else match ((mentions session window pane).findSome? (·.server)).filter
          (!Text.isBlankText ·) with
        | none => .error (.serverMissing ((mentions session window pane).findSome? (·.user)))
        | some server => .ok (some {
            server
            user := ((mentions session window pane).findSome? (·.user)).filter
              (!Text.isBlankText ·)
            loginOnly := ((mentions session window pane).findSome? (·.loginOnly)).getD false }) := by
  unfold Options.merge
  rw [ofLevels_eq]
  by_cases silent : mentions session window pane = []
  · simp [silent]
  · rw [if_neg silent, if_neg silent]
    simp only [Options.ofFragment]
    cases ((mentions session window pane).findSome? (·.server)).filter (!Text.isBlankText ·) <;>
      rfl

end Ssh

end TmuxPlan
