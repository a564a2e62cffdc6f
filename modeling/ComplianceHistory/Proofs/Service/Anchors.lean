import ComplianceHistory.Proofs.Report.Buckets
import ComplianceHistory.Proofs.Report.Streams
import ComplianceHistory.Proofs.Service

/-!
# Stability under the anchor

Only the anchor brings the clock into a report, and two anchors that are a whole number of widths apart have the same
grid of buckets (`bucketStart_congr`).  So every step of a report, from the buckets of the records on, is the same for
both, and so are its faults; other anchors give other histories (`histories_eq_iff`).  A service with a fixed anchor
answers the same at any time, and one whose buckets start at the present answers the same after a whole number of
widths (`answer_stable`).
-/

namespace ComplianceHistory

open Time Report

namespace Report

section Congr

variable {interval : Duration} {anchor anchor' : Instant} (h : SameGrid interval.micros anchor anchor')
include h

theorem reduce_congr (rs : List Record) : reduce rs interval anchor' = reduce rs interval anchor := by
  have hplaced : placed interval anchor' (byTime rs) = placed interval anchor (byTime rs) := by
    unfold placed
    simp only [bucketOf_congr h]
  rw [reduce, reduce, hplaced]

theorem histories_congr (rs : List Record) : histories rs interval anchor' = histories rs interval anchor := by
  rw [histories, histories, reduce_congr h]

theorem histogram_congr (rs : List Record) : histogram rs interval anchor' = histogram rs interval anchor := by
  rw [histogram, histogram, reduce_congr h]

end Congr

/-- **Histories tell the grid.**  Where the calendar reaches the buckets of records and the ones after them, the
histories of the records are the same for two anchors if and only if the anchors have the same grid. -/
theorem histories_eq_iff {interval : Duration} {anchor anchor' : Instant} {rs : List Record}
    (hinterval : 0 < interval.micros) (hrs : ∀ r ∈ rs, Reaches interval anchor r)
    (hrs' : ∀ r ∈ rs, Reaches interval anchor' r) (hne : rs ≠ []) :
    histories rs interval anchor' = histories rs interval anchor ↔ SameGrid interval.micros anchor anchor' := by
  refine ⟨fun hsame => ?_, fun hgrid => histories_congr hgrid rs⟩
  obtain ⟨reports, hreports, hall⟩ := exists_histories hinterval hrs
  have hall' := areHistoriesOf_of_eq_ok hinterval hrs' (hsame.trans hreports)
  -- the entry for the bucket of any record is on both grids
  obtain ⟨r, hr⟩ := List.exists_mem_of_ne_nil rs hne
  obtain ⟨report, hreport, hstream⟩ := List.mem_map.mp ((hall.streams r.streamId).mpr ⟨r, hr, rfl⟩)
  obtain ⟨e, he, -⟩ := (hall.tells report hreport).exists_entry hinterval hr hstream.symm
  obtain ⟨k, hk⟩ := (hall.tells report hreport).onGrid he
  obtain ⟨l, hl⟩ := (hall'.tells report hreport).onGrid he
  refine ⟨k - l, ?_⟩
  rw [Int.sub_mul]
  omega

end Report

namespace Service

/-! ### Answers at two times -/

/-- What a service can be asked. -/
inductive Request where
  | search (f : Filter)
  | compliance (selection : Selection)
  | statusOverTime (selection : Selection)

/-- What a service answers. -/
inductive Answer where
  | latest (rs : List Record)
  | histories (reports : List StreamReport)
  | histogram (groups : List StatusGroup)
deriving DecidableEq

variable (s : Service)

/-- The answer to a request at a present instant. -/
def answer (now : Instant) : Request → Except ServiceError Answer
  | .search f => (s.search f).map .latest
  | .compliance selection => (s.compliance now selection).map .histories
  | .statusOverTime selection => (s.statusOverTime now selection).map .histogram

variable {s} {now now' : Instant}

/-- Reports of histories at two times agree if their anchors have the same grid, with their faults. -/
theorem compliance_congr (h : ∀ interval, s.settings.resultsDuration = .ok interval →
    SameGrid interval.micros (s.anchor now) (s.anchor now')) (selection : Selection) :
    s.compliance now' selection = s.compliance now selection := by
  cases hinterval : s.settings.resultsDuration with
  | error e =>
    unfold compliance
    rw [hinterval]
    rfl
  | ok interval =>
    rw [compliance_eq hinterval, compliance_eq hinterval]
    simp only [histories_congr (h interval hinterval)]

/-- Histograms at two times agree if their anchors have the same grid, with their faults. -/
theorem statusOverTime_congr (h : ∀ interval, s.settings.findingsDuration = .ok interval →
    SameGrid interval.micros (s.anchor now) (s.anchor now')) (selection : Selection) :
    s.statusOverTime now' selection = s.statusOverTime now selection := by
  unfold statusOverTime
  cases hinterval : s.settings.findingsDuration with
  | error e => rfl
  | ok interval =>
    have hgroups : ∀ rs, histogram rs interval (s.anchor now') = histogram rs interval (s.anchor now) :=
      histogram_congr (h interval hinterval)
    -- the question and the records are the same at both times
    refine bind_congr fun q => ?_
    show (s.fetch q s.settings.findingsCollection >>= fun rs =>
        (histogram rs interval (s.anchor now')).mapError ServiceError.bucket) =
      s.fetch q s.settings.findingsCollection >>= fun rs =>
        (histogram rs interval (s.anchor now)).mapError ServiceError.bucket
    simp only [hgroups]

theorem anchor_of_epoch (h : s.settings.bucketAnchor = .epoch) (now : Instant) : s.anchor now = .epoch := by
  rw [anchor, h]

theorem anchor_of_now (h : s.settings.bucketAnchor = .now) (now : Instant) : s.anchor now = now := by
  rw [anchor, h]

/-- Present instants that are a whole number of widths apart anchor the same grid. -/
theorem sameGrid_of_now (h : s.settings.bucketAnchor = .now) {seconds : Int} {interval : Duration}
    (hinterval : Duration.ofSeconds seconds = .ok interval) {k : Int}
    (hk : now'.micros = now.micros + k * (seconds * 1000000)) :
    SameGrid interval.micros (s.anchor now) (s.anchor now') := by
  have hmicros : interval.micros = seconds * 1000000 := Duration.micros_of_ofMicros hinterval
  rw [anchor_of_now h, anchor_of_now h, hmicros]
  exact ⟨k, hk⟩

/-- **Reports are stable under the anchor.**  If buckets start at the start of 1970, a service answers every request
the same at any two times, and fails in the same way.  If they start at the present, a report of histories is the same
at two times that are a multiple of the width of its buckets apart, and so is a histogram. -/
theorem answer_stable (s : Service) (now now' : Instant) :
    (s.settings.bucketAnchor = .epoch → ∀ request, s.answer now' request = s.answer now request) ∧
    (s.settings.bucketAnchor = .now →
      (∀ k : Int, now'.micros = now.micros + k * (s.settings.resultsInterval * 1000000) → ∀ selection,
        s.answer now' (.compliance selection) = s.answer now (.compliance selection)) ∧
      ∀ k : Int, now'.micros = now.micros + k * (s.settings.findingsInterval * 1000000) → ∀ selection,
        s.answer now' (.statusOverTime selection) = s.answer now (.statusOverTime selection)) := by
  refine ⟨fun hepoch request => ?_, fun hnow => ⟨fun k hk selection => ?_, fun k hk selection => ?_⟩⟩
  · have hgrid : ∀ interval : Duration, SameGrid interval.micros (s.anchor now) (s.anchor now') := by
      intro interval
      rw [anchor_of_epoch hepoch, anchor_of_epoch hepoch]
      exact .refl _ _
    cases request with
    | search f => rfl
    | compliance selection =>
      exact congrArg (Except.map _) (compliance_congr (fun interval _ => hgrid interval) selection)
    | statusOverTime selection =>
      exact congrArg (Except.map _) (statusOverTime_congr (fun interval _ => hgrid interval) selection)
  · refine congrArg (Except.map _) (compliance_congr (fun interval hinterval => ?_) selection)
    exact sameGrid_of_now hnow hinterval hk
  · refine congrArg (Except.map _) (statusOverTime_congr (fun interval hinterval => ?_) selection)
    exact sameGrid_of_now hnow hinterval hk

/-- The service for the same records whose buckets start at the start of 1970. -/
def fixedService : Service := .make watchedService.store { Settings.defaults with bucketAnchor := .epoch } .null

theorem answer_stable_watched :
    fixedService.answer ⟨123456789, by decide⟩ (.compliance (.stream "web")) =
      fixedService.answer .epoch (.compliance (.stream "web")) ∧
    watchedService.answer ⟨-600000000, by decide⟩ (.compliance (.matching ⟨none⟩)) =
      watchedService.answer .epoch (.compliance (.matching ⟨none⟩)) ∧
    watchedService.answer ⟨360000000, by decide⟩ (.statusOverTime (.stream "db")) =
      watchedService.answer .epoch (.statusOverTime (.stream "db")) :=
  ⟨(answer_stable fixedService .epoch ⟨123456789, by decide⟩).1 rfl _,
    ((answer_stable watchedService .epoch ⟨-600000000, by decide⟩).2 rfl).1 (-2) (by decide) _,
    ((answer_stable watchedService .epoch ⟨360000000, by decide⟩).2 rfl).2 3 (by decide) _⟩

end Service

end ComplianceHistory
