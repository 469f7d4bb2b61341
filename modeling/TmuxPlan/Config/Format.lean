/-!
The two formats a config file may have.
-/

set_option autoImplicit false

namespace TmuxPlan.Config

inductive Format where
  | yaml
  | toml
  deriving DecidableEq, Repr

def Format.name : Format → String
  | .yaml => "Yaml"
  | .toml => "Toml"

def Format.ofExtension? (extension : String) : Option Format :=
  if ["yml", "yaml"].contains extension then some .yaml
  else if extension = "toml" then some .toml
  else none

end TmuxPlan.Config
