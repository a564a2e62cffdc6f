import ComplianceHistory.Report.History
import ComplianceHistory.Settings
import ComplianceHistory.Store.Basic

/-!
# Reports from a store

The service puts the parts together: it asks the store for the wanted records and reports on them, with
the collections, widths and anchor of its settings.  A request fails at the first of these steps that
fails: the form of the question, the width, the store, the report.
-/

namespace ComplianceHistory

open Time Report

/-- Answers requests from a store. -/
structure Service where
  store : Store
  settings : Settings
  /-- How many seconds the store may take. -/
  timeout : Value

/-- Why a request was not answered. -/
inductive ServiceError where
  | unsupported (u : Unsupported)
  | duration (e : DurationError)
  | store (e : StoreError)
  | bucket (e : BucketError)
deriving DecidableEq

/-- The wording of a failure; a misused value has none. -/
def ServiceError.message? : ServiceError → Option String
  | unsupported u => some u.message
  | duration e => some e.message
  | store e => e.message?
  | bucket e => some e.message

namespace Service

/-- A service with a timeout of its own, or the one of its settings. -/
def make (store : Store) (settings : Settings) (timeout : Value) : Service where
  store
  settings
  timeout := match timeout with
    | .null => Settings.optionalFloat settings.storeTimeout
    | v => v

variable (s : Service)

/-- Where the buckets start at a present instant. -/
def anchor (now : Instant) : Instant :=
  match s.settings.bucketAnchor with
  | .now => now
  | .epoch => Instant.epoch

/-- The question of a selection. -/
def ask (selection : Selection) : Except ServiceError Question :=
  (s.store.question selection).mapError .unsupported

/-- The answer of the store to a question. -/
def fetch (q : Question) (collection : Value) : Except ServiceError (List Record) :=
  (q.answer collection s.timeout).mapError .store

/-- The latest record of every stream that matches a filter. -/
def search (f : Filter) : Except ServiceError (List Record) := do
  let q ← s.ask (.matching f)
  let rs ← s.fetch q s.settings.resultsCollection
  return latestPerStream rs

/-- The histories of the wanted streams. -/
def compliance (now : Instant) (selection : Selection) : Except ServiceError (List StreamReport) := do
  let q ← s.ask selection
  let d ← s.settings.resultsDuration.mapError .duration
  let rs ← s.fetch q s.settings.resultsCollection
  (histories rs d (s.anchor now)).mapError .bucket

/-- The histogram of the wanted findings over time. -/
def statusOverTime (now : Instant) (selection : Selection) : Except ServiceError (List StatusGroup) := do
  let q ← s.ask selection
  let d ← s.settings.findingsDuration.mapError .duration
  let rs ← s.fetch q s.settings.findingsCollection
  (histogram rs d (s.anchor now)).mapError .bucket

end Service

end ComplianceHistory
