import TmuxPlan.Log.Event
import TmuxPlan.Text.Blank
import TmuxPlan.Text.Decimal

/-!
Which events are logged. A filter is a list of directives: a level, a source with a level, or a source
alone, which lets everything from it pass. Of the directives that apply to an event the one with the
longest source decides, and of several for one source the last.
-/

set_option autoImplicit false

namespace TmuxPlan.Log

/-- How much passes: events whose level ranks no higher. -/
abbrev Threshold := Nat

namespace Threshold

def names : List (String × Threshold) :=
  [("off", 0), ("error", 1), ("warn", 2), ("info", 3), ("debug", 4), ("trace", 5)]

def all : Threshold := 5

/-- A threshold by its name, in letters of either case, or by its number. -/
def ofText? (text : String) : Option Threshold :=
  if Text.isDigits text.toList then
    let n := Text.digitsValue text.toList
    if n ≤ all then some n else none
  else names.lookup (Text.asciiLower text)

end Threshold

structure Directive where
  /-- The start of the sources it applies to; empty for every source. -/
  source : String := ""
  threshold : Threshold
  /-- Whether it is bound to spans. No event of this program stands in one. -/
  bound : Bool := false
  deriving DecidableEq, Repr

namespace Directive

/-- Letters, digits and the signs that a source may begin with. -/
def canBegin (c : Char) : Bool :=
  c.isAlphanum || 0x80 ≤ c.toNat || ['-', ':', '_'].contains c

/-- What follows the source: nothing, or an equals sign and a threshold, which may be left out. -/
def thresholdAfter? : List Char → Option Threshold
  | [] | ['='] => some Threshold.all
  | '=' :: cs => Threshold.ofText? (String.ofList cs)
  | _ => none

/-- Reads a directive that is bound to spans: what stands in square brackets is passed over. -/
def ofBound? (source rest : List Char) : Option Directive :=
  match rest.dropWhile (· ≠ ']') with
  | ']' :: after =>
    (thresholdAfter? after).map fun threshold => ⟨String.ofList source, threshold, true⟩
  | _ => none

/-- A text without signs is a threshold if it reads as one, and else a source. -/
def ofText? (text : String) : Option Directive :=
  match text.toList with
  | '[' :: rest => ofBound? [] rest
  | [] => some ⟨"", Threshold.all, false⟩
  | c :: cs =>
    if !canBegin c then none
    else
      let source := (c :: cs).takeWhile fun c => c ≠ '=' && c ≠ '['
      match (c :: cs).dropWhile fun c => c ≠ '=' && c ≠ '[' with
      | '[' :: rest => ofBound? source rest
      | [] =>
        match Threshold.ofText? text with
        | some threshold => some ⟨"", threshold, false⟩
        | none => some ⟨text, Threshold.all, false⟩
      | rest =>
        (thresholdAfter? rest).map fun threshold => ⟨String.ofList source, threshold, false⟩

def appliesTo (directive : Directive) (event : Event) : Bool :=
  !directive.bound && directive.source.toList.isPrefixOf event.source.toList

end Directive

structure Filter where
  directives : List Directive
  deriving DecidableEq, Repr

namespace Filter

def ofLevel (level : Level) : Filter :=
  ⟨[⟨"", level.rank, false⟩]⟩

/-- Directives with commas between them; errors only if there are none. -/
def ofText? (text : String) : Option Filter := do
  let parts := (Text.cut ',' text.toList).filter (· ≠ [])
  match ← parts.mapM fun part => Directive.ofText? (String.ofList part) with
  | [] => return ofLevel .error
  | directives => return ⟨directives⟩

/-- The filter of a run: the one from the environment if it is set and reads, else by verbosity. -/
def ofEnvironment (setting : Option String) (verbose : Bool) : Filter :=
  (setting.bind ofText?).getD (ofLevel (if verbose then .debug else .info))

/-- The more specific of two directives; the later one if they are for the same source. -/
def moreSpecific (chosen : Option Directive) (directive : Directive) : Option Directive :=
  match chosen with
  | none => some directive
  | some other =>
    if other.source.length ≤ directive.source.length then some directive else some other

def allows (filter : Filter) (event : Event) : Bool :=
  match (filter.directives.filter (·.appliesTo event)).foldl moreSpecific none with
  | none => false
  | some directive => event.level.rank ≤ directive.threshold

/-- The lines that are logged for the events. -/
def lines (filter : Filter) (events : List Event) : List String :=
  (events.filter filter.allows).flatMap fun event => Text.lines event.line

end Filter

end TmuxPlan.Log
