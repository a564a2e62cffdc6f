import ComplianceHistory.Files
import ComplianceHistory.Settings
import ComplianceHistory.Yaml.Value

/-!
# Files of settings

Settings are kept in a YAML file that holds a mapping.  A file that holds nothing, or a value that does
not count as given, leaves every setting at its default.
-/

namespace ComplianceHistory

/-- Why a file gives no settings. -/
inductive SettingsFileError where
  | file (e : FileError)
  | yaml (e : Yaml.YamlError)
  | notMapping (path : String)
  | settings (e : SettingsError)
deriving DecidableEq, Repr

/-- The wording of a failure, where it has one. -/
def SettingsFileError.message? : SettingsFileError → Option String
  | file e => some e.message
  | yaml e => e.message?
  | notMapping path => some ("Configuration in " ++ path ++ " must be a mapping")
  | settings e => e.message?

namespace SettingsFile

/-- The members of the mapping in a file. -/
def fields (fs : Files) (path : String) : Except SettingsFileError (Entries Value) :=
  match fs.read path path with
  | .error e => .error (.file e)
  | .ok text => match Yaml.read (String.ofList text) with
    | .error e => .error (.yaml e)
    | .ok (.object fields) => .ok fields
    | .ok v => if v.isTruthy then .error (.notMapping path) else .ok []

/-- The settings of a file. -/
def load (fs : Files) (path : String) : Except SettingsFileError Settings :=
  match fields fs path with
  | .error e => .error e
  | .ok fields => (Settings.ofFields fields).mapError .settings

/-- The first path that is given and not empty. -/
def firstPath? (paths : List (Option String)) : Option String := paths.findSome? (Option.filter (· ≠ ""))

/-- The settings of the file at the first path that is given, or else the defaults. -/
def loadFirst (fs : Files) (paths : List (Option String)) : Except SettingsFileError Settings :=
  match firstPath? paths with
  | none => .ok .defaults
  | some path => load fs path

end SettingsFile

end ComplianceHistory
