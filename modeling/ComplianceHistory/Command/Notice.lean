import ComplianceHistory.Command.Arguments
import ComplianceHistory.Filter.Compiled
import ComplianceHistory.Json.Writer

/-!
# Notices

What the command writes beside its output: lines of its log, and why it failed.
-/

namespace ComplianceHistory.Command

/-- How much a line of the log matters. -/
inductive Level where
  | info
  | warning
  | error
deriving DecidableEq, Repr

/-- The name of a level. -/
def Level.name : Level → String
  | info => "INFO"
  | warning => "WARNING"
  | error => "ERROR"

/-- A line of the log. -/
structure LogLine where
  source : String
  level : Level
  message : String
deriving DecidableEq, Repr

namespace LogLine

/-- The text of a line, without the time. -/
def text (l : LogLine) : String := l.source ++ " - " ++ l.level.name ++ " - " ++ l.message

/-- The configuration has been read. -/
def configured (path : String) : LogLine :=
  ⟨"compliance_engine.config", .info, "Loaded configuration from " ++ path⟩

/-- The configuration could not be read. -/
def notConfigured (message : String) : LogLine :=
  ⟨"compliance_engine.config", .error, "Failed to load config: " ++ message⟩

/-- A filter has an unknown operator. -/
def unsupported (u : Unsupported) : LogLine := ⟨"compliance_engine.compiler", .warning, u.warning⟩

/-- The records have been read. -/
def loaded (count : Nat) (path : String) : LogLine :=
  ⟨"run_report", .info, "Loaded " ++ toString count ++ " records from " ++ path⟩

/-- Histories have been made. -/
def histories (streams buckets : Nat) : LogLine :=
  ⟨"compliance_engine.service", .info, "Compliance report: " ++ toString streams ++ " streams, " ++
    toString buckets ++ " populated buckets"⟩

/-- A histogram has been made. -/
def histogram (buckets : Nat) : LogLine :=
  ⟨"compliance_engine.service", .info, "Status over time: " ++ toString buckets ++ " buckets"⟩

/-- The output has been written to a file. -/
def saved (path : String) : LogLine := ⟨"run_report", .info, "Results saved to " ++ path⟩

end LogLine

/-- An instant as the log shows it, to the thousandth of a second. -/
def stamp (t : Time.Instant) : String :=
  let cs := t.text.toList
  let millis := (t.micros.fmod 1000000).fdiv 1000
  String.ofList (cs.take 10) ++ " " ++ String.ofList ((cs.drop 11).take 8) ++ "," ++
    Time.Duration.padded 3 millis.toNat

/-- What the command writes beside its output. -/
inductive Notice where
  | log (line : LogLine)
  | failure (message : String)
  | usage (e : UsageError)

/-- The text of a notice; `program` is the name under which the command was called. -/
def Notice.text (program : String) : Notice → String
  | log line => line.text
  | failure m => Json.write (.blanks 2) (.object [("error", .string m)])
  | usage e => program ++ ": error: " ++ e.message

end ComplianceHistory.Command
