import ComplianceHistory.Proofs.Command.Jobs
import ComplianceHistory.Proofs.Filter.Spelling
import ComplianceHistory.Proofs.RecordFile
import ComplianceHistory.Proofs.Report.Histograms
import ComplianceHistory.Proofs.Service.Anchors

/-!
# Reports of the command

The command puts the records of a file into the collections of its settings, once into each, also if both go by one
name (`exists_storeOf`).  So a service finds the records of the file that match the filter (`Service.fetch_memory`), and
the answer shows the report on these records that belongs to the mode (`answer_reports`).  With strict filters, a filter
with an unknown operator is refused instead.
-/

namespace ComplianceHistory.Command

open Json Time Report

/-- What the answer of a mode shows of records: the histories, the histogram, or the latest record of every stream. -/
inductive Shows (s : Settings) (anchor : Instant) (rs : List Record) : Mode → List Value → Prop
  | histories {interval : Duration} {reports : List StreamReport} (hinterval : s.resultsDuration = .ok interval)
      (hreports : Report.histories rs interval anchor = .ok reports) :
      Shows s anchor rs .compliance (reports.map StreamReport.toValue)
  | histogram {interval : Duration} {groups : List StatusGroup} (hinterval : s.findingsDuration = .ok interval)
      (hgroups : Report.histogram rs interval anchor = .ok groups) :
      Shows s anchor rs .status (groups.map StatusGroup.toValue)
  | latest : Shows s anchor rs .search ((latestPerStream rs).map Record.toValue)

/-- The calendar reaches the buckets of records in the report of a mode, and the ones after them. -/
inductive InCalendar (s : Settings) (anchor : Instant) (rs : List Record) : Mode → Prop
  | histories {interval : Duration} (hinterval : s.resultsDuration = .ok interval)
      (hrs : ∀ r ∈ rs, Reaches interval anchor r) : InCalendar s anchor rs .compliance
  | histogram {interval : Duration} (hinterval : s.findingsDuration = .ok interval)
      (hrs : ∀ r ∈ rs, Reaches interval anchor r) : InCalendar s anchor rs .status
  | latest : InCalendar s anchor rs .search

/-- Where buckets start if the present instant has no part in it: at the start of 1970, or at a present instant that is
named.  What is named as the present instant must be one in both cases. -/
inductive AnchoredAt (s : Settings) (a : Arguments) : Instant → Prop
  | epoch (hanchor : s.bucketAnchor = .epoch)
      (hnow : ∀ text, given a.now = some text → ∃ now, timestamp (.string text) = .ok now) : AnchoredAt s a .epoch
  | named {text : String} {now : Instant} (hanchor : s.bucketAnchor = .now) (hgiven : given a.now = some text)
      (hnow : timestamp (.string text) = .ok now) : AnchoredAt s a now

/-- Records whose buckets the calendar reaches have a report, if the settings have been checked. -/
theorem InCalendar.exists_shows {s : Settings} {anchor : Instant} {rs : List Record} {mode : Mode}
    (h : InCalendar s anchor rs mode) (hsettings : s.draft.check = .ok ()) : ∃ items, Shows s anchor rs mode items := by
  cases h with
  | histories hinterval hrs =>
    obtain ⟨reports, hreports, -⟩ := exists_histories (Settings.resultsDuration_pos hsettings hinterval) hrs
    exact ⟨_, .histories hinterval hreports⟩
  | histogram hinterval hrs =>
    obtain ⟨groups, hgroups, -⟩ := exists_histogram (Settings.findingsDuration_pos hsettings hinterval) hrs
    exact ⟨_, .histogram hinterval hgroups⟩
  | latest => exact ⟨_, .latest⟩

/-! ### The present instant and the store -/

theorem yields_nowOf {a : Arguments} {text : String} {now : Instant} (hgiven : given a.now = some text)
    (hnow : timestamp (.string text) = .ok now) (present : Instant) : Yields (nowOf a present) (.ok now) := by
  unfold nowOf
  rw [hgiven]
  exact yields_check hnow

/-- A job has a present instant, at which buckets start where it is fixed that they do. -/
theorem AnchoredAt.exists_now {s : Settings} {a : Arguments} {anchor : Instant} (h : AnchoredAt s a anchor)
    (store : Store) (present : Instant) :
    ∃ now, Yields (nowOf a present) (.ok now) ∧ (Service.make store s .null).anchor now = anchor := by
  cases h with
  | epoch hanchor hnow =>
    have hepoch := Service.anchor_of_epoch (s := .make store s .null) hanchor
    cases hgiven : given a.now with
    | none =>
      refine ⟨present, ?_, hepoch present⟩
      unfold nowOf
      rw [hgiven]
      exact yields_pure present
    | some text =>
      obtain ⟨now, hnow⟩ := hnow text hgiven
      exact ⟨now, yields_nowOf hgiven hnow present, hepoch now⟩
  | named hanchor hgiven hnow =>
    exact ⟨anchor, yields_nowOf hgiven hnow present, Service.anchor_of_now (s := .make store s .null) hanchor anchor⟩

/-- **Every record of a file is in the collections of the settings once**, also if both are one. -/
theorem exists_storeOf {s : Settings} {results findings : String} (hresults : s.resultsCollection = .string results)
    (hfindings : s.findingsCollection = .string findings) (rs : List Record) :
    ∃ m, storeOf s rs = .ok ⟨.ofBool s.strictFilters, .memory m⟩ ∧ m.records results = rs ∧ m.records findings = rs := by
  have hfirst : (Memory.empty.add results rs).records results = rs := by
    rw [Store.records_add, if_pos rfl]
    rfl
  unfold storeOf
  rw [hresults, hfindings]
  by_cases hsame : findings = results
  · refine ⟨Memory.empty.add results rs, ?_, hfirst, hsame ▸ hfirst⟩
    show (if findings = results then _ else _) = _
    rw [if_pos hsame]
    rfl
  · refine ⟨(Memory.empty.add results rs).add findings rs, ?_, ?_, ?_⟩
    · show (if findings = results then _ else _) = _
      rw [if_neg hsame]
      rfl
    · rw [Store.records_add, if_neg (Ne.symm hsame), hfirst]
    · have hnone : (Memory.empty.add results rs).records findings = [] := by
        rw [Store.records_add, if_neg hsame]
        rfl
      rw [Store.records_add, if_pos rfl, hnone, List.nil_append]

/-- The store of a job answers from either collection with the records of the file that match a filter. -/
theorem exists_store {s : Settings} {results findings : String} (hresults : s.resultsCollection = .string results)
    (hfindings : s.findingsCollection = .string findings) (rs : List Record) :
    ∃ store, storeOf s rs = .ok store ∧ store.policy = .ofBool s.strictFilters ∧
      ∀ f q, (Service.make store s .null).ask (.matching f) = .ok q →
        (Service.make store s .null).fetch q s.resultsCollection = .ok (rs.filter fun r => f.holds r.labels) ∧
        (Service.make store s .null).fetch q s.findingsCollection = .ok (rs.filter fun r => f.holds r.labels) := by
  obtain ⟨m, hstore, hm, hm'⟩ := exists_storeOf hresults hfindings rs
  refine ⟨⟨.ofBool s.strictFilters, .memory m⟩, hstore, rfl, fun f q hq => ?_⟩
  have hfetch := Service.fetch_memory _ rfl hq
  rw [hresults, hfindings, hfetch, hfetch, hm, hm']
  exact ⟨rfl, rfl⟩

/-! ### Reports of a service -/

section Reports

variable {s : Service} {a : Arguments} {f : Filter}

/-- A filter is taken if filters are not strict, and if nothing in it is unsupported. -/
theorem exists_ask {strict : Bool} (hpolicy : s.store.policy = .ofBool strict)
    (h : strict = true → f.unsupported = []) : ∃ q, s.ask (.matching f) = .ok q := by
  have htaken : s.store.policy = .permissive ∨ f.unsupported = [] := by
    cases strict with
    | false => exact .inl hpolicy
    | true => exact .inr (h rfl)
  obtain ⟨q, hq⟩ := s.store.question_matching htaken
  exact ⟨q, mapError_eq_ok.mpr hq⟩

theorem ask_refused {u : Unsupported} {us : List Unsupported} (hpolicy : s.store.policy = .ofBool true)
    (hu : f.unsupported = u :: us) : s.ask (.matching f) = .error (.unsupported u) :=
  congrArg (Except.mapError ServiceError.unsupported) (s.store.question_refused hpolicy hu)

theorem selectionOf_filter (hstream : given a.stream = none) : selectionOf a f = .matching f := by
  unfold selectionOf
  rw [hstream]

theorem yields_warn {selection : Selection} {q : Question} (hq : s.ask selection = .ok q) :
    Yields (warn s selection) (.ok ()) := (yields_check hq).bind (yields_log _)

/-- A filter that the service does not take makes no report in any mode. -/
theorem yields_report_refused {e : ServiceError} (hstream : given a.stream = none) (he : s.ask (.matching f) = .error e)
    (now : Instant) : Yields (report s a f now) (.error (.service e)) := by
  have hwarn : Yields (warn s (.matching f)) (.error (.service e)) := (yields_check_error he).bind_error
  unfold report
  rw [selectionOf_filter hstream]
  cases a.mode <;> exact hwarn.bind_error

/-- **The report of a mode shows the records that are found.** -/
theorem yields_report {now : Instant} {rs : List Record} {q : Question} {items : List Value}
    (hstream : given a.stream = none) (hq : s.ask (.matching f) = .ok q)
    (hresults : s.fetch q s.settings.resultsCollection = .ok rs)
    (hfindings : s.fetch q s.settings.findingsCollection = .ok rs)
    (hshows : Shows s.settings (s.anchor now) rs a.mode items) : Yields (report s a f now) (.ok items) := by
  unfold report
  rw [selectionOf_filter hstream]
  cases hmode : a.mode with
  | search =>
    rw [hmode] at hshows
    cases hshows
    have hsearch : s.search f = .ok (latestPerStream rs) :=
      bind_eq_ok.mpr ⟨q, hq, bind_eq_ok.mpr ⟨rs, hresults, rfl⟩⟩
    exact (yields_warn hq).bind ((yields_check hsearch).bind (yields_pure _))
  | status =>
    rw [hmode] at hshows
    cases hshows with
    | @histogram interval groups hinterval hgroups =>
      have hstatus : s.statusOverTime now (.matching f) = .ok groups :=
        bind_eq_ok.mpr ⟨q, hq, bind_eq_ok.mpr ⟨interval, mapError_eq_ok.mpr hinterval,
          bind_eq_ok.mpr ⟨rs, hfindings, mapError_eq_ok.mpr hgroups⟩⟩⟩
      exact (yields_warn hq).bind ((yields_check hstatus).bind ((yields_log _).bind (yields_pure _)))
  | compliance =>
    rw [hmode] at hshows
    cases hshows with
    | @histories interval reports hinterval hreports =>
      have hcompliance : s.compliance now (.matching f) = .ok reports :=
        bind_eq_ok.mpr ⟨q, hq, bind_eq_ok.mpr ⟨interval, mapError_eq_ok.mpr hinterval,
          bind_eq_ok.mpr ⟨rs, hresults, mapError_eq_ok.mpr hreports⟩⟩⟩
      exact (yields_warn hq).bind ((yields_check hcompliance).bind ((yields_log _).bind (yields_pure _)))
  | compile =>
    rw [hmode] at hshows
    cases hshows

end Reports

/-! ### Answers -/

/-- The answer that shows items as its data. -/
def dataOf (items : List Value) : Value := .object [("data", .array items)]

section Answers

variable {fs : Files} {configured : Option String} {a : Arguments} {s : Settings} {f : Filter} {rs : List Record}
  (hsettings : Yields (settingsOf fs a configured) (.ok s)) (hfilter : Yields (filterOf fs a) (.ok f))
  (hrecords : RecordFile.load fs (a.records.getD "") = .ok rs)
include hsettings hfilter hrecords

/-- What a report gives is the answer, and its failure that of the job. -/
theorem yields_answer {store : Store} {now present : Instant} {outcome : Except JobError (List Value)}
    (hmode : a.mode ≠ .compile) (hstore : storeOf s rs = .ok store) (hnow : Yields (nowOf a present) (.ok now))
    (hreport : Yields (report (.make store s .null) a f now) outcome) :
    Yields (answer fs configured present a) (outcome.map dataOf) := by
  refine hsettings.bind (hfilter.bind ?_)
  rw [if_neg hmode]
  refine (yields_check hrecords).bind ((yields_log _).bind ((yields_check hstore).bind (hnow.bind ?_)))
  cases outcome with
  | error e => exact hreport.bind_error
  | ok items => exact hreport.bind (yields_pure _)

section Strict

variable {results findings : String} {anchor : Instant} (hmode : a.mode ≠ .compile) (hstream : given a.stream = none)
  (hresults : s.resultsCollection = .string results) (hfindings : s.findingsCollection = .string findings)
  (hanchor : AnchoredAt s a anchor)
include hmode hstream hresults hfindings hanchor

/-- With strict filters, the command fails with the first unsupported node of a filter, whatever the records. -/
theorem answer_refused {u : Unsupported} {us : List Unsupported} (hstrict : s.strictFilters = true)
    (hu : f.unsupported = u :: us) (present : Instant) :
    Yields (answer fs configured present a) (.error (.service (.unsupported u))) := by
  obtain ⟨store, hstore, hpolicy, -⟩ := exists_store hresults hfindings rs
  obtain ⟨now, hnow, -⟩ := hanchor.exists_now store present
  rw [hstrict] at hpolicy
  have hask := ask_refused (s := .make store s .null) hpolicy hu
  exact yields_answer hsettings hfilter hrecords hmode hstore hnow (yields_report_refused hstream hask now)

/-- If filters are not strict, or nothing in the filter is unsupported, the answer shows the matching records. -/
theorem answer_shown {items : List Value} (hsupported : s.strictFilters = true → f.unsupported = [])
    (hshows : Shows s anchor (rs.filter fun r => f.holds r.labels) a.mode items) (present : Instant) :
    Yields (answer fs configured present a) (.ok (dataOf items)) := by
  obtain ⟨store, hstore, hpolicy, hfetch⟩ := exists_store hresults hfindings rs
  obtain ⟨now, hnow, hat⟩ := hanchor.exists_now store present
  obtain ⟨q, hq⟩ := exists_ask (s := .make store s .null) hpolicy hsupported
  rw [← hat] at hshows
  have hreport := yields_report hstream hq (hfetch f q hq).1 (hfetch f q hq).2 hshows
  exact yields_answer hsettings hfilter hrecords hmode hstore hnow hreport

end Strict

/-- **The command reports on the matching records of its file.**  Let the settings, the filter and the records be read,
with collections that are named by texts, no stream, and an anchor on which the present instant has no influence.  Let
the calendar reach the buckets of the records that match the filter, and the ones after them.  Then the answer shows
just these records, in the form of the mode, at any present instant; but if filters are strict and something in the
filter is unsupported, the command fails with the first such node. -/
theorem answer_reports {results findings : String} {anchor : Instant} (hstream : given a.stream = none)
    (hresults : s.resultsCollection = .string results) (hfindings : s.findingsCollection = .string findings)
    (hanchor : AnchoredAt s a anchor) (hreach : InCalendar s anchor (rs.filter fun r => f.holds r.labels) a.mode) :
    ((s.strictFilters = true → f.unsupported = []) →
      ∃ items, Shows s anchor (rs.filter fun r => f.holds r.labels) a.mode items ∧
        ∀ present, Yields (answer fs configured present a) (.ok (dataOf items))) ∧
    ∀ u us, s.strictFilters = true → f.unsupported = u :: us →
      ∀ present, Yields (answer fs configured present a) (.error (.service (.unsupported u))) := by
  have hmode : a.mode ≠ .compile := by
    intro hmode
    rw [hmode] at hreach
    cases hreach
  constructor
  · intro hsupported
    obtain ⟨items, hshows⟩ := hreach.exists_shows (check_of_settingsOf hsettings)
    exact ⟨items, hshows, answer_shown hsettings hfilter hrecords hmode hstream hresults hfindings hanchor hsupported
      hshows⟩
  · intro u us hstrict hu
    exact answer_refused hsettings hfilter hrecords hmode hstream hresults hfindings hanchor hstrict hu

end Answers

/-- Files with records, and with a configuration that puts the findings into the collection of the results. -/
def watchedFiles : Files where
  texts := [("config.yaml", "collections:\n  findings: results\n"),
    ("records.json", Json.write none (.array (Service.watched.map Record.toValue)))]

/-- Arguments for a histogram with the width of an hour. -/
def watchedArguments : Arguments where
  records := some "records.json"
  mode := .status
  expression := some "env != \"test\""
  interval := some 3600
  anchor := some .epoch
  config := some "config.yaml"

/-- The defaults with one collection for results and findings. -/
def sharedSettings : Settings := { Settings.defaults with findingsCollection := .string "results" }

theorem ofExpression_watched :
    Filter.ofExpression "env != \"test\"" = .ok ⟨some (.condition ⟨"env", "!=", "test"⟩)⟩ := by
  have hprintable : Scope.Printable (.condition ⟨"env", "!=", "test"⟩) := by
    refine .condition (by decide) ((Token.not_resemblesKeyword_iff (by decide)).mpr fun k => ?_) (by decide)
      (by decide)
    cases k <;> rfl
  have hnone : Token.Blanks [] := List.forall_mem_nil _
  have hblank : Token.Blanks [' '] := by decide
  have hspelled : Scope.Spelled (.condition ⟨"env", "!=", "test"⟩) _ :=
    .condition (c := ⟨"env", "!=", "test"⟩) .notEqual (.inl rfl) (by decide) hblank hblank
  exact Filter.ofExpression_of_spells hprintable ⟨[], _, [], hnone, hspelled, hnone, rfl⟩

/-- The configuration is read as the object that it spells. -/
theorem fields_watchedFiles : SettingsFile.fields watchedFiles "config.yaml" =
    .ok [("collections", .object [("findings", .string "results")])] := by
  have hpath : plainPath "config.yaml" = "config.yaml" := by decide +kernel
  have hread : watchedFiles.read "config.yaml" "config.yaml" = .ok "collections:\n  findings: results\n".toList := by
    rw [Files.read, Files.text?, hpath]
    rfl
  have htokens : Yaml.tokens? (Text.plainLines "collections:\n  findings: results\n".toList) =
      some [.blockMapping, .key, .scalar true "collections".toList, .value, .blockMapping, .key,
        .scalar true "findings".toList, .value, .scalar true "results".toList, .blockEnd, .blockEnd] := by
    decide +kernel
  have hvalue : Yaml.read (String.ofList "collections:\n  findings: results\n".toList) =
      .ok (.object [("collections", .object [("findings", .string "results")])]) := by
    rw [Yaml.read, String.toList_ofList, htokens]
    rfl
  rw [SettingsFile.fields, hread]
  simp only [hvalue]

/-- The histogram that is made from the one collection is that of the three records that match. -/
theorem answer_reports_watched : ∃ items,
    Shows (watchedArguments.override sharedSettings) .epoch (Service.watched.take 3) .status items ∧
    ∀ present, Yields (answer watchedFiles none present watchedArguments) (.ok (dataOf items)) := by
  have hconfig : SettingsFile.firstPath? [watchedArguments.config, none] = some "config.yaml" := rfl
  have hbase : Yields (baseSettings watchedFiles watchedArguments none) (.ok sharedSettings) :=
    yields_baseSettings_file hconfig fields_watchedFiles rfl
  have hsettings := yields_settingsOf hbase rfl
  have hfilter : Yields (filterOf watchedFiles watchedArguments) (.ok ⟨some (.condition ⟨"env", "!=", "test"⟩)⟩) :=
    yields_filterOf_expression rfl rfl ofExpression_watched
  have hpath : plainPath "records.json" = "records.json" := by decide +kernel
  have htext : watchedFiles.text? "records.json" =
      some (Json.write none (.array (Service.watched.map Record.toValue))) := by
    rw [Files.text?, hpath]
    rfl
  have hdistinct : ∀ r ∈ Service.watched, (Keyed.keys r.labels).Nodup := forall_of_all (by decide +kernel)
  have hrecords : RecordFile.load watchedFiles "records.json" = .ok Service.watched :=
    RecordFile.load_list Layout.spaced_none (fun _ => List.not_mem_nil) hdistinct htext
  have hinterval : (watchedArguments.override sharedSettings).findingsDuration = .ok hour := rfl
  have hreaches : ∀ r ∈ Service.watched, Reaches hour .epoch r := forall_of_all (by decide +kernel)
  have hchosen : (Service.watched.filter fun r => Filter.holds ⟨some (.condition ⟨"env", "!=", "test"⟩)⟩ r.labels) =
      Service.watched.take 3 := by
    decide +kernel
  have hanchor : AnchoredAt (watchedArguments.override sharedSettings) watchedArguments .epoch := by
    refine .epoch rfl fun text htext => ?_
    cases htext
  rw [← hchosen]
  exact (answer_reports hsettings hfilter hrecords rfl rfl rfl hanchor
    (.histogram hinterval fun r hr => hreaches r (List.mem_filter.mp hr).1)).1 fun hstrict => by cases hstrict

/-- A filter with an operator that nothing supports. -/
def unsupportedFilter : Filter := ⟨some (.condition ⟨"env", "~", "prod"⟩)⟩

/-- Files with no records and with this filter. -/
def strictFiles : Files where
  texts := [("records.json", "[]"), ("filter.json", unsupportedFilter.toText none)]

/-- Arguments for histories of what this filter matches, where filters are strict. -/
def strictArguments : Arguments where
  records := some "records.json"
  filterFile := some "filter.json"
  anchor := some .epoch
  strict := true

/-- Strict filters are refused whatever the records: on no records there is no report, where an empty one was due. -/
theorem not_answered_strict :
    Yields (settingsOf strictFiles strictArguments none) (.ok (strictArguments.override .defaults)) ∧
    (strictArguments.override .defaults).resultsCollection = .string "results" ∧
    (strictArguments.override .defaults).findingsCollection = .string "findings" ∧
    Yields (filterOf strictFiles strictArguments) (.ok unsupportedFilter) ∧
    RecordFile.load strictFiles "records.json" = .ok [] ∧ given strictArguments.stream = none ∧
    AnchoredAt (strictArguments.override .defaults) strictArguments .epoch ∧
    InCalendar (strictArguments.override .defaults) .epoch [] .compliance ∧
    Shows (strictArguments.override .defaults) .epoch [] .compliance [] ∧
    ∀ present items, ¬ Yields (answer strictFiles none present strictArguments) (.ok (dataOf items)) := by
  have hbase : Yields (baseSettings strictFiles strictArguments none) (.ok .defaults) :=
    yields_baseSettings_defaults rfl
  have hsettings := yields_settingsOf hbase rfl
  have hempty : "[]" = Json.write none (.array ([].map Record.toValue)) := rfl
  have hrecords : RecordFile.load strictFiles "records.json" = .ok [] := by
    have hpath : plainPath "records.json" = "records.json" := by decide +kernel
    refine RecordFile.load_list Layout.spaced_none (fun _ => List.not_mem_nil) (List.forall_mem_nil _) ?_
    rw [Files.text?, hpath]
    exact congrArg some hempty
  have htext : strictFiles.text? "filter.json" = some (unsupportedFilter.toText none) := by
    have hpath : plainPath "filter.json" = "filter.json" := by decide +kernel
    rw [Files.text?, hpath]
    rfl
  have hlabelled : unsupportedFilter.Labelled := by
    intro s hs
    cases hs
    exact .condition (by decide)
  have hfilter : Yields (filterOf strictFiles strictArguments) (.ok unsupportedFilter) :=
    yields_filterOf_text rfl rfl htext Layout.spaced_none (fun _ => List.not_mem_nil) hlabelled
  have hanchor : AnchoredAt (strictArguments.override .defaults) strictArguments .epoch := by
    refine .epoch rfl fun text htext => ?_
    cases htext
  have hinterval : (strictArguments.override .defaults).resultsDuration = .ok Service.fiveMinutes := rfl
  have hreports : histories [] Service.fiveMinutes .epoch = .ok [] := by decide +kernel
  have hunsupported : unsupportedFilter.unsupported = [⟨"~", .condition⟩] := by decide +kernel
  refine ⟨hsettings, rfl, rfl, hfilter, hrecords, rfl, hanchor, .histories hinterval (List.forall_mem_nil _),
    .histories hinterval hreports, fun present items hshown => ?_⟩
  have hrefused := answer_refused hsettings hfilter hrecords (by decide) rfl rfl rfl hanchor rfl hunsupported present
  cases hrefused.unique hshown

end ComplianceHistory.Command
