import ComplianceHistory.Command.Arguments
import ComplianceHistory.Filter.Document
import ComplianceHistory.Filter.Expression
import ComplianceHistory.RecordFile
import ComplianceHistory.Service
import ComplianceHistory.SettingsFile

/-!
# Failures of the command

The command tells why it failed, and ends in order.  A value of a wrong kind, a number or an instant out
of range, a configuration that is no YAML, and an output that cannot be written break it off.
-/

namespace ComplianceHistory.Command

/-- Why the command failed. -/
inductive JobError where
  | settingsFile (e : SettingsFileError)
  | settings (e : SettingsError)
  | twoFilters
  | filterFile (e : FileError)
  | filterText (e : Filter.TextError)
  | expression (e : ExpressionError)
  | unsupported (u : Unsupported)
  | records (e : RecordFileError)
  | store (e : StoreError)
  | now (e : Time.TimestampError)
  | service (e : ServiceError)
  | output (e : FileError)

namespace JobError

/-- The wording of a failure; a misused value has none. -/
def message? : JobError → Option String
  | settingsFile e => e.message?
  | settings e => e.message?
  | twoFilters => some "Use either --filter-file or --expression, not both"
  | filterFile e => some e.message
  | filterText e => some e.message
  | expression e => some e.message
  | unsupported u => some u.message
  | records e => e.message?
  | store e => e.message?
  | now e => some e.message
  | service e => e.message?
  | output e => some e.message

/-- Whether a number is outside what can be held. -/
def ofNumeral : Decimal.NumeralError → Bool
  | .wholeOfInfinity | .floatOverflow => true
  | _ => false

/-- Whether an instant is outside what can be held; one far beyond that is told like a file's failure. -/
def ofTimestamp : Time.TimestampError → Bool
  | .beyondYears => false
  | e => e.isOutOfRange

/-- Whether settings break the command off. -/
def ofSettings : SettingsError → Bool
  | .misuse _ => true
  | .numeral e => ofNumeral e
  | _ => false

/-- Whether a configuration breaks the command off. -/
def ofSettingsFile : SettingsFileError → Bool
  | .yaml .malformed | .yaml .unknownWord | .yaml .emptyNumber => true
  | .yaml (.numeral e) => ofNumeral e
  | .settings e => ofSettings e
  | _ => false

/-- Whether records break the command off. -/
def ofRecords : RecordFileError → Bool
  | .record _ (.misuse _) => true
  | .record _ (.timestamp e) => ofTimestamp e
  | _ => false

/-- Whether a report breaks the command off. -/
def ofService : ServiceError → Bool
  | .duration _ | .bucket .outOfRange => true
  | .store e => !e.isOfStore
  | _ => false

/-- Whether a failure breaks the command off. -/
def breaksOff : JobError → Bool
  | settingsFile e => ofSettingsFile e
  | settings e => ofSettings e
  | records e => ofRecords e
  | store e => !e.isOfStore
  | now e => ofTimestamp e
  | service e => ofService e
  | output _ => true
  | twoFilters | filterFile _ | filterText _ | expression _ | unsupported _ => false

end JobError

end ComplianceHistory.Command
