import TmuxPlan.Config.File
import TmuxPlan.Log.Event
import TmuxPlan.Path.FileTree

/-!
Finding the config file and reading it. Without an explicit path the first that is there counts, of
`config.yml`, `config.yaml` and `config.toml` in the config directories, and then the file in the
home directory. Where the home directory is not known the places below it are left out.
-/

set_option autoImplicit false

namespace TmuxPlan.Config

structure Places where
  /-- The home directory, if it is known. -/
  home : Option String := none
  xdg : Option String := none

namespace Places

def fileNames : List String :=
  ["config.yml", "config.yaml", "config.toml"]

def homeConfig? (places : Places) : Option String :=
  places.home.map fun home => Path.join (Path.join home ".config") "ultimux"

/-- In the order in which they are tried. -/
def candidates (places : Places) : List String :=
  let directories :=
    (places.xdg.map (Path.join · "ultimux")).toList ++ places.homeConfig?.toList
  directories.flatMap (fun directory => fileNames.map (Path.join directory)) ++
    (places.home.map fun home => Path.join (Path.join home ".ultimux") "ultimux.yml").toList

/-- The path of the config file: the explicit one, or the first candidate that is there. -/
def locate (places : Places) (files : Files) : Option String → Except Error String
  | some path => Path.expandHome places.home path
  | none =>
    match places.candidates.find? fun path => (files path).isSome, places.homeConfig? with
    | some path, _ => .ok path
    | none, some directory => .error (.configNotFound (Path.join directory "config.yml"))
    | none, none => .error .noConfigDir

end Places

def formatOf? (path : String) : Option Format :=
  (Path.extension? path).bind Format.ofExtension?

def read (files : Files) (path : String) : Except Error (Format × String) :=
  match files path with
  | none => .error (.configNotFound path)
  | some entry =>
    match formatOf? path, entry with
    | none, _ => .error (.unsupportedFormat path)
    | some _, .directory => .error (.io .isDirectory)
    | some _, .unreadable reason => .error (.io (.system reason))
    | some format, .file bytes =>
      match String.fromUTF8? bytes with
      | some text => .ok (format, text)
      | none => .error (.io .notUtf8)

def load (files : Files) (path : String) : Except Error ConfigFile := do
  let (format, text) ← read files path
  ConfigFile.ofText format text

def loadLog (files : Files) (path : String) : List Log.Event :=
  match read files path with
  | .ok (format, _) => [.loading path format]
  | .error _ => []

end TmuxPlan.Config
