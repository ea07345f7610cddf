import Wiretap.Config.Decoding
import Wiretap.Config.Validation
import Wiretap.Disk
import Wiretap.Text.Utf8
import Wiretap.Toml.Document

/-!
# Loading configurations

* `Config.parse` (`parse_config`) reads a configuration from the text of a file and checks it.
* `Config.load` (`load_config`) does so for a file on a disk.
-/

namespace Wiretap
namespace Config

/-- Why a configuration cannot be loaded. -/
inductive LoadError where
  /-- The file cannot be read. -/
  | disk (fault : Disk.Fault)
  /-- The file is ill-formed, or does not describe a configuration. -/
  | syntaxError
  /-- The configuration has problems. -/
  | invalid (problems : List Problem)
deriving DecidableEq

/-- What is said of a configuration that cannot be loaded. -/
def LoadError.message : LoadError → String
  | .disk fault => "IO error: " ++ fault.message
  | .syntaxError => "Parse error"
  | .invalid problems =>
    "Validation failed: " ++ ", ".intercalate (problems.map Problem.message)

/-- Passes a configuration without problems. -/
def check (config : Config) : Except LoadError Config :=
  if config.problems.isEmpty then .ok config else .error (.invalid config.problems)

/-- Reads a configuration from the text of a file and checks it. -/
def parse (text : String) : Except LoadError Config :=
  match (Toml.ofString? text).bind ofToml? with
  | some config => config.check
  | none => .error .syntaxError

/-- Loads a configuration from a file. -/
def load (disk : Disk) (path : String) : Except LoadError Config :=
  match disk.read path with
  | .error fault => .error (.disk fault)
  | .ok bytes =>
    match Utf8.text? bytes with
    | some text => parse text
    | none => .error (.disk .notText)

end Config
end Wiretap
