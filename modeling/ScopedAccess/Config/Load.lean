import ScopedAccess.Config.Codec
import ScopedAccess.Config.Environment

/-!
# ScopedAccess.Config.Load

Settings from a file, with environment variables laid over it. A file that cannot be read as an
object takes the variables down with it: such sources hold no section at all, and a section that is
not there has its defaults.

Settings files are YAML. What a text of that language holds is not decided here: everything that
loads settings takes a `FileReader`, and what is proved about loading holds for each of them.
-/

namespace ScopedAccess

/-- The section of the settings in a file. -/
def settingsSection : String := "run_authz"

/-- Why settings could not be loaded. -/
inductive LoadError where
  /-- The section does not read as settings. -/
  | unreadable
  | inconsistent (reason : String)
deriving DecidableEq, Inhabited

/-- How the text of a settings file is read: the value it holds, or nothing if it is not valid. -/
abbrev FileReader := String → Option Json

/-- What settings are loaded from: the text of a file, if it exists, and the variables in the order
in which the environment lists them. -/
structure ConfigSources where
  file : Option String
  environment : List (String × String)

namespace ConfigSources

/-- The object a file holds. A missing file holds an empty one. -/
def fileObject? (reader : FileReader) (file : Option String) : Option Json :=
  match file with
  | none => some (.obj [])
  | some text =>
    match reader text with
    | some (.obj ms) => some (.obj ms)
    | _ => none

/-- All variables as an object: they belong to the settings' section. -/
def environmentObject (environment : List (String × String)) : Json :=
  match Environment.settings environment with
  | .obj [] => .obj []
  | settings => .obj [(settingsSection, settings)]

def section? (reader : FileReader) (s : ConfigSources) (name : String) : Option Json :=
  match fileObject? reader s.file with
  | none => none
  | some v => (Environment.overlay v (environmentObject s.environment)).member? name

end ConfigSources

namespace Config

/-- Reads a section and refuses inconsistent settings. -/
def ofSection (v : Option Json) : Except LoadError Config :=
  match v with
  | none => checked standard
  | some v =>
    match ofJson? .settings v with
    | none => .error .unreadable
    | some c => checked c
where
  /-- Consistent settings. -/
  checked (c : Config) : Except LoadError Config :=
    match c.objection? with
    | none => .ok c
    | some reason => .error (.inconsistent reason)

/-- Loads the settings of some sources. -/
def load (reader : FileReader) (s : ConfigSources) : Except LoadError Config :=
  ofSection (s.section? reader settingsSection)

end Config

end ScopedAccess
