import ComplianceHistory.Proofs.Report.Streams
import ComplianceHistory.Proofs.Service
import ComplianceHistory.Proofs.Store.Contents

/-!
# Reports on one stream

A store is asked for a stream in another form than for a filter, and its answer is reduced on its own.  Both make no
difference: the store answers with the records of the stream among all of them (`found_eq`), and the histories of
these records are those of the stream among the histories of all records (`Report.histories_filter`).  So the report
on a stream is the part for the stream of the report on everything (`compliance_streamwise`).
-/

namespace ComplianceHistory.Service

open Time Report

variable {s : Service} {records : String → List Record}

/-- A request for a selection that the store takes is answered from the wanted ones of all records. -/
theorem found_eq (hstore : s.store.Holds records) {selection : Selection} {q : Question}
    (hq : s.store.question selection = .ok q) :
    s.found selection = (s.found (.matching ⟨none⟩)).map (List.filter selection.chooses) := by
  obtain ⟨all, hall⟩ := s.store.question_matching (f := ⟨none⟩) (.inr rfl)
  have hfetch : s.fetch q s.settings.resultsCollection =
      (s.fetch all s.settings.resultsCollection).map (List.filter selection.chooses) := by
    unfold fetch
    rw [hstore.answer hq hall]
    cases all.answer s.settings.resultsCollection s.timeout <;> rfl
  unfold found ask
  rw [hq, hall]
  exact hfetch

/-- A store that holds the records of a collection is found to answer with them, apart from their identities. -/
theorem exists_found (hstore : s.store.Holds records) {collection : String} {late : Bool}
    (hcollection : s.settings.resultsCollection = .string collection)
    (htimeout : Relational.timeIsOver s.timeout = .ok late) :
    ∃ rs, s.found (.matching ⟨none⟩) = .ok rs ∧ rs.map Record.withoutId = (records collection).map Record.withoutId := by
  obtain ⟨all, hall⟩ := s.store.question_matching (f := ⟨none⟩) (.inr rfl)
  obtain ⟨rs, hrs, hids⟩ := hstore.answer_all hall collection htimeout
  refine ⟨rs, ?_, hids⟩
  unfold found ask fetch
  rw [hall, hcollection]
  show (all.answer (.string collection) s.timeout).mapError ServiceError.store = _
  rw [hrs]
  rfl

section Checked

variable (hstore : s.store.Holds records) (hsettings : s.settings.draft.check = .ok ()) (now : Instant)
include hstore hsettings

/-- The report on a stream is the part for the stream of the report on everything; if the one fails, so does the
other. -/
theorem compliance_stream_eq (stream : String)
    (hreach : ∀ interval rs, s.settings.resultsDuration = .ok interval → s.found (.matching ⟨none⟩) = .ok rs →
      ∀ r ∈ rs, Reaches interval (s.anchor now) r) :
    s.compliance now (.stream stream) = (s.compliance now (.matching ⟨none⟩)).map (reportsOf stream) := by
  obtain ⟨q, hq⟩ := s.store.question_stream stream
  obtain ⟨all, hall⟩ := s.store.question_matching (f := ⟨none⟩) (.inr rfl)
  -- both questions are taken, so without a width both requests fail for that
  cases hinterval : s.settings.resultsDuration with
  | error e =>
    unfold compliance ask
    rw [hq, hall, hinterval]
    rfl
  | ok interval =>
    have hwidth := Settings.resultsDuration_pos hsettings hinterval
    rw [compliance_eq hinterval, compliance_eq hinterval, found_eq hstore hq]
    cases hfound : s.found (.matching ⟨none⟩) with
    | error e => rfl
    | ok rs =>
      have hrs := hreach interval rs hinterval hfound
      obtain ⟨reports, hreports, -⟩ := exists_histories hwidth hrs
      have hstream : histories (rs.filter (Selection.stream stream).chooses) interval (s.anchor now) =
          .ok (reportsOf stream reports) := histories_filter hwidth hrs hreports fun id => id = stream
      show (histories _ _ _).mapError ServiceError.bucket =
        ((histories _ _ _).mapError ServiceError.bucket).map (reportsOf stream)
      rw [hreports, hstream]
      rfl

/-- The part for a stream of a report on a filter consists of the histories of the records of the stream that match
the filter. -/
theorem exists_compliance_matching (stream : String) {f : Filter}
    (hf : s.store.policy = .permissive ∨ f.unsupported = []) {interval : Duration} {rs : List Record}
    (hinterval : s.settings.resultsDuration = .ok interval) (hfound : s.found (.matching ⟨none⟩) = .ok rs)
    (hreach : ∀ r ∈ rs, f.holds r.labels = true → Reaches interval (s.anchor now) r) :
    ∃ reports, s.compliance now (.matching f) = .ok reports ∧
      histories (rs.filter fun r => r.streamId = stream && f.holds r.labels) interval (s.anchor now) =
        .ok (reportsOf stream reports) ∧ (reportsOf stream reports).length ≤ 1 := by
  have hwidth := Settings.resultsDuration_pos hsettings hinterval
  obtain ⟨q, hq⟩ := s.store.question_matching hf
  have hrs : ∀ r ∈ rs.filter (Selection.matching f).chooses, Reaches interval (s.anchor now) r :=
    fun r hr => hreach r (List.mem_filter.mp hr).1 (List.mem_filter.mp hr).2
  obtain ⟨reports, hreports, hall⟩ := exists_histories hwidth hrs
  refine ⟨reports, ?_, ?_, hall.length_reportsOf_le stream⟩
  · rw [compliance_eq hinterval, found_eq hstore hq, hfound]
    show (histories _ _ _).mapError ServiceError.bucket = _
    rw [hreports]
    rfl
  · have hpart := histories_filter hwidth hrs hreports fun id => id = stream
    rw [List.filter_filter] at hpart
    exact hpart

/-- A report on everything has at most one history of a stream. -/
theorem length_reportsOf_everything_le (stream : String)
    (hreach : ∀ interval rs, s.settings.resultsDuration = .ok interval → s.found (.matching ⟨none⟩) = .ok rs →
      ∀ r ∈ rs, Reaches interval (s.anchor now) r) {reports : List StreamReport}
    (hreports : s.compliance now (.matching ⟨none⟩) = .ok reports) : (reportsOf stream reports).length ≤ 1 := by
  cases hinterval : s.settings.resultsDuration with
  | error e =>
    obtain ⟨all, hall⟩ := s.store.question_matching (f := ⟨none⟩) (.inr rfl)
    unfold compliance ask at hreports
    rw [hall, hinterval] at hreports
    cases hreports
  | ok interval =>
    cases hfound : s.found (.matching ⟨none⟩) with
    | error e =>
      rw [compliance_eq hinterval, hfound] at hreports
      cases hreports
    | ok rs =>
      obtain ⟨reports', hreports', -, hlength⟩ := exists_compliance_matching hstore hsettings now stream
        (f := ⟨none⟩) (.inr rfl) hinterval hfound fun r hr _ => hreach interval rs hinterval hfound r hr
      obtain rfl := Except.ok.inj (hreports.symm.trans hreports')
      exact hlength

/-- **Reports on one stream and on a filter agree.**  Let a store that holds records be asked by a service with
settings that have been checked.

* The records that are found if nothing is asked of them are those of the collection of the settings.
* If the calendar reaches their buckets and the ones after them, the report on a stream consists of the histories of
  the stream in the report on everything, of which there is at most one; if the one request fails, so does the other.
* A report on a filter is refused for a node that is unsupported under the strict policy.  Otherwise, if the calendar
  reaches the buckets of the records that match it, its histories of a stream are those of only the records of the
  stream that match the filter. -/
theorem compliance_streamwise (stream : String) :
    (∀ collection late, s.settings.resultsCollection = .string collection →
      Relational.timeIsOver s.timeout = .ok late → ∃ rs, s.found (.matching ⟨none⟩) = .ok rs ∧
        rs.map Record.withoutId = (records collection).map Record.withoutId) ∧
    ((∀ interval rs, s.settings.resultsDuration = .ok interval → s.found (.matching ⟨none⟩) = .ok rs →
        ∀ r ∈ rs, Reaches interval (s.anchor now) r) →
      s.compliance now (.stream stream) = (s.compliance now (.matching ⟨none⟩)).map (reportsOf stream) ∧
      ∀ reports, s.compliance now (.matching ⟨none⟩) = .ok reports → (reportsOf stream reports).length ≤ 1) ∧
    ∀ f interval rs, s.settings.resultsDuration = .ok interval → s.found (.matching ⟨none⟩) = .ok rs →
      (∀ r ∈ rs, f.holds r.labels = true → Reaches interval (s.anchor now) r) →
      (s.store.policy = .strict ∧ ∃ u ∈ f.unsupported, s.compliance now (.matching f) = .error (.unsupported u)) ∨
      ∃ reports, s.compliance now (.matching f) = .ok reports ∧
        histories (rs.filter fun r => r.streamId = stream && f.holds r.labels) interval (s.anchor now) =
          .ok (reportsOf stream reports) ∧ (reportsOf stream reports).length ≤ 1 := by
  refine ⟨fun collection late => exists_found hstore, fun hreach => ?_, fun f interval rs hinterval hfound hreach => ?_⟩
  · refine ⟨compliance_stream_eq hstore hsettings now stream hreach, fun reports hreports => ?_⟩
    exact length_reportsOf_everything_le hstore hsettings now stream hreach hreports
  · cases hpolicy : s.store.policy with
    | permissive =>
      exact .inr (exists_compliance_matching hstore hsettings now stream (.inl hpolicy) hinterval hfound hreach)
    | strict =>
      cases hu : f.unsupported with
      | nil => exact .inr (exists_compliance_matching hstore hsettings now stream (.inr hu) hinterval hfound hreach)
      | cons u us =>
        refine .inl ⟨rfl, u, List.mem_cons_self, ?_⟩
        unfold compliance ask
        rw [s.store.question_refused hpolicy hu]
        rfl

end Checked

/-- Records of two streams for a collection, as they are read. -/
def keptBatches : List (String × List Record) := [
  ("results", [⟨"web", .epoch, "", "", [("env", "prod")], none⟩, ⟨"db", .epoch, "", "", [], none⟩])]

theorem compliance_streamwise_watched :
    watchedService.compliance .epoch (.stream "web") =
      (watchedService.compliance .epoch (.matching ⟨none⟩)).map (reportsOf "web") ∧
    ∃ store, (Store.mk .strict (.database .empty)).addAll keptBatches = .ok store ∧
      ∃ rs reports, (Service.make store .defaults .null).found (.matching ⟨none⟩) = .ok rs ∧
        (Service.make store .defaults .null).compliance .epoch
          (.matching ⟨some (.condition ⟨"env", "!=", "test"⟩)⟩) = .ok reports ∧
        histories (rs.filter fun r =>
          r.streamId = "db" && Filter.holds ⟨some (.condition ⟨"env", "!=", "test"⟩)⟩ r.labels)
          fiveMinutes .epoch = .ok (reportsOf "db" reports) := by
  constructor
  · have hreaches : ∀ r ∈ watched, Reaches fiveMinutes .epoch r := forall_of_all (by decide +kernel)
    have hfound := found_memory watchedService rfl rfl (.matching ⟨none⟩)
    refine ((compliance_streamwise (s := watchedService) (Store.Holds.memory _ _) rfl .epoch "web").2.1 ?_).1
    intro interval rs hinterval hrs r hr
    obtain rfl : fiveMinutes = interval := Except.ok.inj hinterval
    obtain rfl := Except.ok.inj (hfound.symm.trans hrs)
    exact hreaches r (List.mem_filter.mp hr).1
  · have hread : ∀ b ∈ keptBatches, ∀ r ∈ b.2, ∃ v : Value, v.distinct = true ∧ Record.ofValue v = .ok r := by
      intro b hb r hr
      obtain rfl := List.mem_singleton.mp hb
      rcases List.mem_pair.mp hr with rfl | rfl
      · exact ⟨Store.given "web" .epoch (.object [("env", .string "prod")]), by decide, Store.ofValue_given _ _ rfl⟩
      · exact ⟨Store.given "db" .epoch .null, by decide, Store.ofValue_given _ _ rfl⟩
    have hdistinct : ∀ b ∈ keptBatches, ∀ r ∈ b.2, r.DistinctLabels := fun b hb r hr =>
      let ⟨_, hv, hr⟩ := hread b hb r hr
      Record.distinctLabels_of_ofValue hv hr
    obtain ⟨-, db, -, hadd, -⟩ := Store.agrees_empty.addAll .strict hdistinct
    have hseparate := compliance_streamwise (s := Service.make ⟨.strict, .database db⟩ .defaults .null)
      (Store.Holds.database hread hadd) rfl .epoch "db"
    obtain ⟨rs, hfound, hids⟩ := hseparate.1 "results" false rfl rfl
    have hreaches : ∀ r ∈ rs, Reaches fiveMinutes .epoch r := by
      intro r hr
      have hmem : r.withoutId ∈ ((History.ofBatches keptBatches).records "results").map Record.withoutId :=
        hids ▸ List.mem_map_of_mem hr
      have hall : ∀ r ∈ ((History.ofBatches keptBatches).records "results").map Record.withoutId,
          Reaches fiveMinutes .epoch r := forall_of_all (by decide +kernel)
      exact hall r.withoutId hmem
    refine ⟨_, hadd, rs, ?_⟩
    rcases hseparate.2.2 ⟨some (.condition ⟨"env", "!=", "test"⟩)⟩ fiveMinutes rs rfl hfound
      fun r hr _ => hreaches r hr with ⟨-, u, hu, -⟩ | ⟨reports, hreports, hpart, -⟩
    · cases hu
    · exact ⟨reports, hfound, hreports, hpart⟩

end ComplianceHistory.Service
