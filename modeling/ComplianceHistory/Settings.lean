import ComplianceHistory.Text.Case
import ComplianceHistory.Time.Seconds

/-!
# Settings

Settings are read from an object.  Members that are missing have defaults, numbers may be given as texts,
and the names of files and collections are taken as they are.  Settings of which nothing has been
converted are a `Draft`; both are checked in the same way: first the anchor, then the widths of the
buckets, then the timeout.
-/

namespace ComplianceHistory

open Decimal Time

/-- Settings as they were given. -/
structure Draft where
  resultsInterval : Value
  findingsInterval : Value
  bucketAnchor : Value
  strictFilters : Value
  databasePath : Value
  storeTimeout : Value
  filtersPath : Value
  resultsCollection : Value
  findingsCollection : Value
  logLevel : Value

/-- Why settings cannot be used. -/
inductive SettingsError where
  | misuse (m : Misuse)
  | numeral (e : NumeralError)
  | anchor (shown : String)
  | notPositive (name : String)
deriving DecidableEq, Repr

/-- The wording of a failure; a misused value has none. -/
def SettingsError.message? : SettingsError → Option String
  | misuse _ => none
  | numeral e => some e.message
  | anchor shown => some ("bucket_anchor must be one of ('now', 'epoch'), got " ++ shown)
  | notPositive name => some (name ++ " must be a positive number of seconds")

namespace Draft

/-- The settings where nothing is given. -/
def defaults : Draft where
  resultsInterval := .int 300
  findingsInterval := .int 120
  bucketAnchor := .string "now"
  strictFilters := .bool false
  databasePath := .string "compliance_engine/records.db"
  storeTimeout := .null
  filtersPath := .string "compliance_engine/filters.json"
  resultsCollection := .string "results"
  findingsCollection := .string "findings"
  logLevel := .string "INFO"

/-- The names of the settings. -/
def names : List String := ["results_interval", "findings_interval", "bucket_anchor", "strict_filters",
  "database_path", "store_timeout", "filters_path", "results_collection", "findings_collection",
  "log_level"]

/-- Takes settings by their names; other names are refused. -/
def ofFields (fields : Entries Value) : Except SettingsError Draft :=
  if !fields.all fun f => names.contains f.1 then .error (.misuse .wrongKind)
  else
    let given := fun name default => (fields.get? name).getD default
    .ok {
      resultsInterval := given "results_interval" defaults.resultsInterval
      findingsInterval := given "findings_interval" defaults.findingsInterval
      bucketAnchor := given "bucket_anchor" defaults.bucketAnchor
      strictFilters := given "strict_filters" defaults.strictFilters
      databasePath := given "database_path" defaults.databasePath
      storeTimeout := given "store_timeout" defaults.storeTimeout
      filtersPath := given "filters_path" defaults.filtersPath
      resultsCollection := given "results_collection" defaults.resultsCollection
      findingsCollection := given "findings_collection" defaults.findingsCollection
      logLevel := given "log_level" defaults.logLevel }

/-- Whether a number is zero or less; only numbers are compared. -/
def isNotPositive? : Value → Option Bool
  | .float x => some (x ≤ 0)
  | v => v.asInt?.map fun n => n ≤ 0

/-- Checks that a value is a number above zero. -/
def checkPositive (name : String) (v : Value) : Except SettingsError Unit :=
  match isNotPositive? v with
  | none => .error (.misuse .wrongKind)
  | some true => .error (.notPositive name)
  | some false => .ok ()

/-- Checks that a value names an anchor. -/
def checkAnchor (v : Value) : Except SettingsError Unit :=
  match v with
  | .string "now" | .string "epoch" => .ok ()
  | v => .error (.anchor v.inspect)

/-- Checks settings. -/
def check (d : Draft) : Except SettingsError Unit := do
  checkAnchor d.bucketAnchor
  checkPositive "results_interval" d.resultsInterval
  checkPositive "findings_interval" d.findingsInterval
  match d.storeTimeout with
  | .null => return ()
  | v => checkPositive "store_timeout" v

/-- The members of settings in an answer. -/
def fields (d : Draft) : Entries Value := [
  ("results_interval", d.resultsInterval),
  ("findings_interval", d.findingsInterval),
  ("bucket_anchor", d.bucketAnchor),
  ("strict_filters", d.strictFilters),
  ("database_path", d.databasePath),
  ("store_timeout", d.storeTimeout),
  ("filters_path", d.filtersPath),
  ("results_collection", d.resultsCollection),
  ("findings_collection", d.findingsCollection),
  ("log_level", d.logLevel)]

end Draft

/-- Where the buckets of reports start: at the present or at the start of 1970. -/
inductive Anchor where
  | now
  | epoch
deriving DecidableEq, Repr

/-- The name of an anchor. -/
def Anchor.name : Anchor → String
  | now => "now"
  | epoch => "epoch"

/-- Settings that have been converted. -/
structure Settings where
  /-- The width of the buckets of histories, in seconds. -/
  resultsInterval : Int
  /-- The width of the buckets of histograms, in seconds. -/
  findingsInterval : Int
  bucketAnchor : Anchor
  strictFilters : Bool
  databasePath : Value
  /-- How many seconds a store may take. -/
  storeTimeout : Option Float
  filtersPath : Value
  resultsCollection : Value
  findingsCollection : Value
  logLevel : String

namespace Settings

/-- The settings where nothing is given. -/
def defaults : Settings where
  resultsInterval := 300
  findingsInterval := 120
  bucketAnchor := .now
  strictFilters := false
  databasePath := Draft.defaults.databasePath
  storeTimeout := none
  filtersPath := Draft.defaults.filtersPath
  resultsCollection := Draft.defaults.resultsCollection
  findingsCollection := Draft.defaults.findingsCollection
  logLevel := "INFO"

/-- An optional number as a value. -/
def optionalFloat : Option Float → Value
  | none => .null
  | some x => .float x

/-- Settings as they would be given. -/
def draft (s : Settings) : Draft where
  resultsInterval := .int s.resultsInterval
  findingsInterval := .int s.findingsInterval
  bucketAnchor := .string s.bucketAnchor.name
  strictFilters := .bool s.strictFilters
  databasePath := s.databasePath
  storeTimeout := optionalFloat s.storeTimeout
  filtersPath := s.filtersPath
  resultsCollection := s.resultsCollection
  findingsCollection := s.findingsCollection
  logLevel := .string s.logLevel

/-- A value as a whole number: fractions are cut off, texts are read. -/
def wholeNumber : Value → Except SettingsError Int
  | .float x => (truncate x).mapError .numeral
  | .string s => (readInt s).mapError .numeral
  | v => match v.asInt? with
    | some n => .ok n
    | none => .error (.misuse .wrongKind)

/-- A value as a floating-point number; null is none. -/
def optionalNumber : Value → Except SettingsError (Option Float)
  | .null => .ok none
  | .float x => .ok (some x)
  | .string s => ((readFloat s).mapError .numeral).map some
  | v => match v.asInt? with
    | some n => ((floatOfInt n).mapError .numeral).map some
    | none => .error (.misuse .wrongKind)

/-- The members of a group of settings; what does not count as given has none. -/
def group (fields : Entries Value) (name : String) : Except SettingsError (Entries Value) :=
  let v := Value.member fields name
  if v.isTruthy then v.fields.mapError .misuse else .ok []

/-- Reads settings from the members of an object. -/
def ofFields (fields : Entries Value) : Except SettingsError Settings := do
  let given := fun name default => (fields.get? name).getD default
  let resultsInterval ← wholeNumber (given "results_interval" (.int 300))
  let findingsInterval ← wholeNumber (given "findings_interval" (.int 120))
  let anchor := Text.lower (given "bucket_anchor" (.string "now")).display
  let strictFilters := (given "strict_filters" (.bool false)).isTruthy
  let database ← group fields "database"
  let storeTimeout ← optionalNumber (Value.member database "timeout")
  let storage ← group fields "storage"
  let collections ← group fields "collections"
  let logging ← group fields "logging"
  let settings : Settings := {
    resultsInterval, findingsInterval, strictFilters, storeTimeout
    bucketAnchor := if anchor = Anchor.epoch.name then .epoch else .now
    databasePath := (database.get? "path").getD defaults.databasePath
    filtersPath := (storage.get? "filters_path").getD defaults.filtersPath
    resultsCollection := (collections.get? "results").getD defaults.resultsCollection
    findingsCollection := (collections.get? "findings").getD defaults.findingsCollection
    logLevel := Text.upper ((logging.get? "level").getD (.string defaults.logLevel)).display }
  Draft.check { settings.draft with bucketAnchor := .string anchor }
  return settings

/-- Reads settings from a value. -/
def ofValue (v : Value) : Except SettingsError Settings :=
  match v.fields with
  | .error m => .error (.misuse m)
  | .ok fields => ofFields fields

/-- The width of the buckets of histories. -/
def resultsDuration (s : Settings) : Except DurationError Duration := Duration.ofSeconds s.resultsInterval

/-- The width of the buckets of histograms. -/
def findingsDuration (s : Settings) : Except DurationError Duration :=
  Duration.ofSeconds s.findingsInterval

end Settings

end ComplianceHistory
