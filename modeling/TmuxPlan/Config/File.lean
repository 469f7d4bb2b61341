import TmuxPlan.Config.Format
import TmuxPlan.Description.Reading
import TmuxPlan.Error
import TmuxPlan.Text.Blank
import TmuxPlan.Toml.Sessions
import TmuxPlan.Yaml.Sessions

/-!
A config file: sessions by their keys, sorted by code point.
-/

set_option autoImplicit false

namespace TmuxPlan

open Description (SessionSpec)

/-- Sessions by key. The keys are in ascending order and each stands once. -/
structure ConfigFile where
  sessions : List (String × SessionSpec) := []
  deriving DecidableEq

namespace ConfigFile

/-- Puts a session into its place; one that has the key already is replaced. -/
def insertInto (key : String) (spec : SessionSpec) :
    List (String × SessionSpec) → List (String × SessionSpec)
  | [] => [(key, spec)]
  | (other, old) :: rest =>
    if key = other then (key, spec) :: rest
    else if key < other then (key, spec) :: (other, old) :: rest
    else (other, old) :: insertInto key spec rest

/-- The config file of the given sessions, if each of them reads. Of several with one key the last
counts. -/
def ofValues? (values : List (String × Document.Value)) : Option ConfigFile := do
  let specs ← values.mapM fun (key, value) => do return (key, ← SessionSpec.read? value)
  return ⟨specs.foldl (fun sorted (key, spec) => insertInto key spec sorted) []⟩

def ofYaml (text : String) : Except Error ConfigFile :=
  if Text.isBlankText text then .ok {}
  else
    match (Yaml.sessions? text).bind ofValues? with
    | some config => .ok config
    | none => .error .badYaml

def ofToml (text : String) : Except Error ConfigFile :=
  match (Toml.sessions? text).bind ofValues? with
  | some config => .ok config
  | none => .error .badToml

def ofText : Config.Format → String → Except Error ConfigFile
  | .yaml => ofYaml
  | .toml => ofToml

def keys (config : ConfigFile) : List String :=
  config.sessions.map Prod.fst

def session (config : ConfigFile) (key : String) : Except Error SessionSpec :=
  match config.sessions.lookup key with
  | some spec => .ok spec
  | none => .error (.sessionNotFound key)

/-- The session asked for, or the only one there is if none is asked for. -/
def select (config : ConfigFile) : Option String → Except Error (String × SessionSpec)
  | some key => do return (key, ← config.session key)
  | none =>
    match config.sessions with
    | [only] => .ok only
    | _ => .error (.noSessionSelected config.keys)

end ConfigFile

end TmuxPlan
