/-!
The pane layouts that tmux knows by name.
-/

set_option autoImplicit false

namespace TmuxPlan

inductive Layout where
  | tiled
  | evenHorizontal
  | evenVertical
  | mainHorizontal
  | mainVertical
  deriving DecidableEq, Repr

namespace Layout

/-- In the order in which a number selects one. -/
def all : List Layout :=
  [.tiled, .evenHorizontal, .evenVertical, .mainHorizontal, .mainVertical]

def name : Layout → String
  | .tiled => "tiled"
  | .evenHorizontal => "even-horizontal"
  | .evenVertical => "even-vertical"
  | .mainHorizontal => "main-horizontal"
  | .mainVertical => "main-vertical"

/-- Other spellings: panes side by side are `vertical`, stacked ones `horizontal`. -/
def aliases : Layout → List String
  | .evenHorizontal => ["vertical"]
  | .evenVertical => ["horizontal"]
  | _ => []

def spellings (layout : Layout) : List String :=
  layout.name :: layout.aliases

def ofText? (text : String) : Option Layout :=
  all.find? fun layout => layout.spellings.contains text

theorem ofText?_of_mem_spellings (layout : Layout) (text : String)
    (spelled : text ∈ layout.spellings) : ofText? text = some layout := by
  cases layout <;> simp [spellings, aliases, name] at spelled <;>
    rcases spelled with rfl | rfl <;> decide

end Layout

end TmuxPlan
