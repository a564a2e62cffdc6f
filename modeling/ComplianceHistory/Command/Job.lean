import ComplianceHistory.Command.Failure
import ComplianceHistory.Command.Notice
import ComplianceHistory.Filter.Expression
import ComplianceHistory.Json.Halves

/-!
# The job of the command

The command reads settings, of which arguments replace some, and a filter; it then shows the compiled
queries of the filter, or loads records and reports on them.  It works on what it is handed: the files,
the path of the configuration that is used if none is named, the present instant and the arguments.
-/

namespace ComplianceHistory.Command

open Report Value

/-- A computation that logs and may fail; what has been logged before a failure stays. -/
abbrev Job (α : Type) := ExceptT JobError (StateM (List LogLine)) α

/-- Adds lines to the log. -/
def log (lines : List LogLine) : Job Unit := modify (· ++ lines)

/-- Goes on with a result, or fails. -/
def check {ε α : Type} (wrap : ε → JobError) : Except ε α → Job α
  | .ok x => pure x
  | .error e => throw (wrap e)

/-- A text that is given and not empty. -/
def given (text : Option String) : Option String := text.filter (· ≠ "")

/-- What is logged about a configuration that gave no settings. -/
def unreadable (e : SettingsFileError) : List LogLine :=
  match e with
  | .file e => [.notConfigured e.message]
  | _ => []

/-- The settings of the named configuration, of the one that is used if none is named, or the defaults. -/
def baseSettings (fs : Files) (a : Arguments) (configured : Option String) : Job Settings :=
  match SettingsFile.firstPath? [a.config, configured] with
  | none => pure .defaults
  | some path => do
    match SettingsFile.fields fs path with
    | .error e =>
      log (unreadable e)
      throw (.settingsFile e)
    | .ok fields =>
      log [.configured path]
      check .settings (Settings.ofFields fields)

/-- The paths that a job may read or write, with the directory of its output. -/
def Arguments.paths (a : Arguments) (configured : Option String) : List String :=
  [SettingsFile.firstPath? [a.config, configured], given a.filterFile, given a.records, given a.output,
    (given a.output).map parentPath].filterMap id

/-- Settings with those that arguments replace; a zero replaces nothing. -/
def Arguments.override (a : Arguments) (s : Settings) : Settings where
  resultsInterval := (a.interval.filter (· ≠ 0)).getD s.resultsInterval
  findingsInterval := (a.interval.filter (· ≠ 0)).getD s.findingsInterval
  bucketAnchor := a.anchor.getD s.bucketAnchor
  strictFilters := a.strict || s.strictFilters
  databasePath := s.databasePath
  storeTimeout := (a.timeout.filter (· != 0)).or s.storeTimeout
  filtersPath := s.filtersPath
  resultsCollection := s.resultsCollection
  findingsCollection := s.findingsCollection
  logLevel := s.logLevel

/-- The settings of a job. -/
def settingsOf (fs : Files) (a : Arguments) (configured : Option String) : Job Settings := do
  let s ← baseSettings fs a configured
  let s := a.override s
  check .settings s.draft.check
  return s

/-- The filter of a job. -/
def filterOf (fs : Files) (a : Arguments) : Job Filter :=
  match given a.filterFile, given a.expression with
  | some _, some _ => throw .twoFilters
  | some path, none => do
    let text ← check .filterFile (fs.read path (plainPath path))
    check .filterText (Filter.ofText (String.ofList text))
  | none, some text => check .expression (Filter.ofExpression text)
  | none, none => return ⟨none⟩

/-- A filter in a form of queries. -/
def compile {β : Type} (form : QueryForm β) (s : Settings) (f : Filter) : Job β := do
  let t ← check .unsupported (f.compile form (.ofBool s.strictFilters))
  log (t.warnings.map .unsupported)
  return t.query

/-- The document of a filter and its queries in both forms. -/
def compiledForms (s : Settings) (f : Filter) : Job Value := do
  let sql ← compile Sql.form s f
  let query ← compile DocumentQuery.form s f
  return .object [("filter", f.toValue), ("query", query), ("sql", sql.toValue)]

/-- A store in memory with records in the collections of settings. -/
def storeOf (s : Settings) (records : List Record) : Except StoreError Store := do
  let results ← collectionKey s.resultsCollection
  let (store, _) ← (Store.mk (.ofBool s.strictFilters) (.memory .empty)).add results records
  let findings ← collectionKey s.findingsCollection
  if findings = results then return store
  return (← store.add findings records).1

/-- The instant that is named as the present one, or else the present instant. -/
def nowOf (a : Arguments) (present : Time.Instant) : Job Time.Instant :=
  match given a.now with
  | none => return present
  | some text => check .now (Time.timestamp (.string text))

/-- The records that a job is about: those of a stream, if one is named, or else those of the filter. -/
def selectionOf (a : Arguments) (f : Filter) : Selection :=
  match given a.stream with
  | some id => .stream id
  | none => .matching f

/-- Logs the warnings about a selection. -/
def warn (s : Service) (selection : Selection) : Job Unit := do
  let q ← check .service (s.ask selection)
  log (q.warnings.map .unsupported)

/-- A report on records. -/
def report (s : Service) (a : Arguments) (f : Filter) (now : Time.Instant) : Job (List Value) :=
  match a.mode with
  | .search => do
    warn s (.matching f)
    let records ← check .service (s.search f)
    return records.map Record.toValue
  | .status => do
    let selection := selectionOf a f
    warn s selection
    let groups ← check .service (s.statusOverTime now selection)
    log [.histogram groups.length]
    return groups.map StatusGroup.toValue
  | _ => do
    let selection := selectionOf a f
    warn s selection
    let reports ← check .service (s.compliance now selection)
    log [.histories reports.length (totalRecords reports)]
    return reports.map StreamReport.toValue

/-- The answer to arguments. -/
def answer (fs : Files) (configured : Option String) (present : Time.Instant) (a : Arguments) :
    Job Value := do
  let s ← settingsOf fs a configured
  let f ← filterOf fs a
  if a.mode = .compile then compiledForms s f
  else
    let path := a.records.getD ""
    let records ← check .records (RecordFile.load fs path)
    log [.loaded records.length path]
    let store ← check .store (storeOf s records)
    let now ← nowOf a present
    let items ← report (.make store s .null) a f now
    return .object [("data", .array items)]

/-- What the command leaves behind. -/
structure Outcome where
  exitCode : Nat
  output : String
  notices : List Notice
  /-- The files that were written, by their paths. -/
  written : Entries String

/-- The notices of the lines of a log; only a verbose command shows all of them. -/
def shown (a : Arguments) (lines : List LogLine) : List Notice :=
  (lines.filter fun l => a.verbose || l.level ≠ .info).map .log

/-- The JSON texts from which the answer to arguments takes its texts. -/
def Arguments.jsonTexts (a : Arguments) (fs : Files) : List (List Char) :=
  let paths := if a.mode = .compile then [given a.filterFile] else [given a.filterFile, a.records]
  (paths.filterMap id).filterMap fun path => (fs.read path (plainPath path)).toOption

/-- The text of an answer, with the halves of pairs that its sources hold. -/
def answerText (fs : Files) (a : Arguments) (v : Value) : String :=
  let text := Json.write (.blanks 2) v
  if (a.jsonTexts fs).all Json.isPaired then text else String.ofList (Json.withHalves text.toList)

/-- Writes an answer to the output, or to the file that the arguments name for it. -/
def deliver (fs : Files) (a : Arguments) (text : String) (lines : List LogLine) :
    Except JobError Outcome :=
  match given a.output with
  | none => .ok ⟨0, text ++ "\n", shown a lines, []⟩
  | some path => match fs.checkWrite path with
    | .error e => .error (.output e)
    | .ok () => .ok ⟨0, "", shown a (lines ++ [.saved path]), [(plainPath path, text)]⟩

/-- The list of the switches. -/
def help : String := String.join (Switch.all.map fun s => s.title ++ "\n")

/-- Runs the command; a failure that breaks it off leaves nothing behind. -/
def run (fs : Files) (configured : Option String) (present : Time.Instant) (args : List String) :
    Except JobError Outcome :=
  match Arguments.read args with
  | .error .helpWanted => .ok ⟨0, help, [], []⟩
  | .error e => .ok ⟨2, "", [.usage e], []⟩
  | .ok a => match (answer fs configured present a).run [] with
    | (.ok v, lines) => deliver fs a (answerText fs a v) lines
    | (.error e, lines) =>
      if e.breaksOff then .error e
      else .ok ⟨1, "", shown a lines ++ [.failure (e.message?.getD "")], []⟩

end ComplianceHistory.Command
