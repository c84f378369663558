-- From a settings text to settings that can be used: variables are put in, the text is read,
-- the environment has the last word, and everything is checked.
import WarehouseJobs.Settings.Checks
import WarehouseJobs.Settings.Overrides
import WarehouseJobs.Stored.Settings
import WarehouseJobs.Toml.Reader

namespace WarehouseJobs.Settings

/-- The settings of a text, before the environment changes them. -/
def ofToml? (text : String) : Option Settings :=
  (Toml.ofText? text).bind (ofJson? Stored.isEmpty)

def load (env : Environment) (text : String) : Except ConfigurationFault Settings :=
  match Substitution.apply env text with
  | .error fault => .error fault
  | .ok text =>
    match ofToml? text with
    | none => .error (.malformed "not a table of settings")
    | some given =>
      match Overrides.applyAll env Overrides.all given with
      | .error fault => .error fault
      | .ok s =>
        match s.check with
        | .error fault => .error (.invalid fault.message)
        | .ok () => .ok s

/-- What was found where the settings should be. -/
inductive Source where
  | text (contents : String)
  | missing
  | unreadable (why : String)
deriving DecidableEq, Repr

/-- The settings of the file at `path`. -/
def ofSource (env : Environment) (path : String) : Source → Except Fault Settings
  | .missing => .error (.configuration (.fileMissing path))
  | .unreadable why => .error (.configuration (.fileUnreadable path why))
  | .text contents =>
    match load env contents with
    | .error fault => .error (.configuration fault)
    | .ok s => .ok s

/-- The message for a file that holds no text. -/
def notUtf8 : String := "stream did not contain valid UTF-8"

end WarehouseJobs.Settings
