import ComplianceHistory.Proofs.Command.Reports

/-!
# Options of the command

An option for the widths, the timeout or the stream is to be heeded (`HeededBy`), or refused if it is below zero
(`RefusedFor`).  But a zero and an empty stream are passed over as if they were not given (`PassedOver`).  Just these
options are neither heeded nor refused: the command works with what the configuration says, and on all streams
(`answer_options`).
-/

namespace ComplianceHistory.Command

open Decimal Time Report

/-- The name of the setting that options are refused for: a width below zero, or else a timeout below zero. -/
inductive RefusedFor (a : Arguments) : String → Prop
  | width {n : Int} (hn : a.interval = some n) (hlow : n < 0) : RefusedFor a "results_interval"
  | timeout {t : Float} (hwidth : ∀ n, a.interval = some n → 0 ≤ n) (ht : a.timeout = some t) (hlow : t < 0) :
      RefusedFor a "store_timeout"

/-- Settings and a selection are as the options say. -/
structure HeededBy (a : Arguments) (s : Settings) (selection : Selection) : Prop where
  width : ∀ n, a.interval = some n → s.resultsInterval = n ∧ s.findingsInterval = n
  timeout : ∀ t, a.timeout = some t → s.storeTimeout = some t
  stream : ∀ id, a.stream = some id → selection = .stream id

/-- An option is taken as not given: a width or a timeout of zero, or an empty stream. -/
inductive PassedOver (a : Arguments) : Prop
  | width (h : a.interval = some 0) : PassedOver a
  | timeout {t : Float} (ht : a.timeout = some t) (hzero : (t == 0) = true) : PassedOver a
  | stream (h : a.stream = some "") : PassedOver a

/-! ### Settings -/

/-- The configuration of a job, or the defaults, have been checked. -/
theorem check_of_baseSettings {fs : Files} {a : Arguments} {configured : Option String} {base : Settings}
    (h : Yields (baseSettings fs a configured) (.ok base)) : base.draft.check = .ok () := by
  unfold baseSettings at h
  split at h
  · cases h.unique (yields_pure _)
    rfl
  · split at h
    · rename_i e he
      have hfails : Yields (do log (unreadable e); throw (.settingsFile e) : Job Settings) (.error (.settingsFile e)) :=
        (yields_log _).bind fun lines => ⟨[], by rw [List.append_nil]; rfl⟩
      cases h.unique hfails
    · rename_i fields hfields
      cases hsettings : Settings.ofFields fields with
      | ok s =>
        cases h.unique ((yields_log _).bind (yields_check hsettings))
        exact (Settings.checked_of_ofFields hsettings).1
      | error e => cases h.unique ((yields_log _).bind (yields_check_error hsettings))

section Override

variable {a : Arguments} {base : Settings}

/-! A width or a timeout counts if it is not zero. -/

theorem override_width {n : Int} (hn : a.interval = some n) (hcounts : n ≠ 0) :
    (a.override base).resultsInterval = n ∧ (a.override base).findingsInterval = n := by
  have hfilter : a.interval.filter (· ≠ 0) = some n := by
    rw [hn]
    exact Option.filter_some_pos (decide_eq_true hcounts)
  exact ⟨congrArg (·.getD base.resultsInterval) hfilter, congrArg (·.getD base.findingsInterval) hfilter⟩

theorem override_width_of_zero (h : ∀ n, a.interval = some n → n = 0) :
    (a.override base).resultsInterval = base.resultsInterval ∧
    (a.override base).findingsInterval = base.findingsInterval := by
  have hfilter : a.interval.filter (· ≠ 0) = none :=
    Option.filter_eq_none_iff.mpr fun n hn => by rw [h n hn]; decide
  exact ⟨congrArg (·.getD base.resultsInterval) hfilter, congrArg (·.getD base.findingsInterval) hfilter⟩

theorem override_timeout {t : Float} (ht : a.timeout = some t) (hcounts : (t == 0) = false) :
    (a.override base).storeTimeout = some t := by
  have hfilter : a.timeout.filter (· != 0) = some t := by
    rw [ht, Option.filter_some_pos (by rw [bne, hcounts]; rfl)]
  exact congrArg (·.or base.storeTimeout) hfilter

theorem override_timeout_of_zero (h : ∀ t, a.timeout = some t → (t == 0) = true) :
    (a.override base).storeTimeout = base.storeTimeout := by
  have hfilter : a.timeout.filter (· != 0) = none :=
    Option.filter_eq_none_iff.mpr fun t ht => by rw [bne, h t ht]; decide
  exact congrArg (·.or base.storeTimeout) hfilter

theorem width_cases (a : Arguments) : (∃ n, a.interval = some n ∧ n ≠ 0) ∨ ∀ n, a.interval = some n → n = 0 :=
  (em (∃ n, a.interval = some n ∧ n ≠ 0)).imp_right fun h n hn => not_not.mp fun hcounts => h ⟨n, hn, hcounts⟩

theorem timeout_cases (a : Arguments) :
    (∃ t, a.timeout = some t ∧ (t == 0) = false) ∨ ∀ t, a.timeout = some t → (t == 0) = true :=
  (em (∃ t, a.timeout = some t ∧ (t == 0) = false)).imp_right fun h t ht =>
    Bool.of_not_eq_false fun hcounts => h ⟨t, ht, hcounts⟩

variable (hbase : base.draft.check = .ok ())
include hbase

/-- **Settings with what options replace are refused just for what is below zero.** -/
theorem check_override : (∃ name, RefusedFor a name ∧ (a.override base).draft.check = .error (.notPositive name)) ∨
    (∀ name, ¬RefusedFor a name) ∧ (a.override base).draft.check = .ok () := by
  obtain ⟨hresults, hfindings, htimeout⟩ := base.check_iff.mp hbase
  by_cases hlow : ∃ n, a.interval = some n ∧ n < 0
  · obtain ⟨n, hn, hlow⟩ := hlow
    have hwidth : (a.override base).resultsInterval = n := (override_width hn (by omega)).1
    exact .inl ⟨_, .width hn hlow, Settings.check_of_width (by omega)⟩
  · have hnotLow : ∀ n, a.interval = some n → 0 ≤ n := fun n hn => Int.not_lt.mp fun h => hlow ⟨n, hn, h⟩
    have hwidths : 0 < (a.override base).resultsInterval ∧ 0 < (a.override base).findingsInterval := by
      rcases width_cases a with ⟨n, hn, hcounts⟩ | hzero
      · have hnonneg := hnotLow n hn
        rw [(override_width hn hcounts).1, (override_width hn hcounts).2]
        omega
      · rw [(override_width_of_zero hzero).1, (override_width_of_zero hzero).2]
        exact ⟨hresults, hfindings⟩
    by_cases hearly : ∃ t, a.timeout = some t ∧ t < 0
    · obtain ⟨t, ht, hearly⟩ := hearly
      obtain ⟨hle, hcounts⟩ := (Decimal.lt_zero_iff t).mp hearly
      exact .inl ⟨_, .timeout hnotLow ht hearly,
        Settings.check_of_timeout hwidths.1 hwidths.2 (override_timeout ht hcounts) hle⟩
    · refine .inr ⟨?_, (Settings.check_iff _).mpr ⟨hwidths.1, hwidths.2, fun x hx hle => ?_⟩⟩
      · rintro name (⟨hn, h⟩ | ⟨-, ht, h⟩)
        · exact hlow ⟨_, hn, h⟩
        · exact hearly ⟨_, ht, h⟩
      · rcases timeout_cases a with ⟨t, ht, hcounts⟩ | hzero
        · cases (override_timeout ht hcounts).symm.trans hx
          exact hearly ⟨x, ht, (Decimal.lt_zero_iff x).mpr ⟨hle, hcounts⟩⟩
        · rw [override_timeout_of_zero hzero] at hx
          exact htimeout x hx hle

/-- **Options are heeded exactly if none is passed over.** -/
theorem heeds_iff (f : Filter) : HeededBy a (a.override base) (selectionOf a f) ↔ ¬PassedOver a := by
  obtain ⟨hresults, -, htimeout⟩ := base.check_iff.mp hbase
  constructor
  -- what is passed over leaves a width or a timeout that was checked, and so is not zero
  · rintro h (hzero | ⟨ht, hzero⟩ | hempty)
    · have hwidth := (h.width 0 hzero).1
      rw [(override_width_of_zero fun n hn => (Option.some.inj (hzero.symm.trans hn)).symm).1] at hwidth
      omega
    · have hbaseTimeout := h.timeout _ ht
      rw [override_timeout_of_zero fun t' ht' => by cases ht.symm.trans ht'; exact hzero] at hbaseTimeout
      exact htimeout _ hbaseTimeout (le_zero_of_beq hzero)
    · have hselection := h.stream "" hempty
      rw [selectionOf, hempty] at hselection
      cases hselection
  · intro hnone
    refine ⟨fun n hn => ?_, fun t ht => ?_, fun id hid => ?_⟩
    · refine override_width hn ?_
      rintro rfl
      exact hnone (.width hn)
    · exact override_timeout ht (Bool.eq_false_of_not_eq_true fun hzero => hnone (.timeout ht hzero))
    · have hgiven : given a.stream = some id := by
        rw [given, hid]
        refine Option.filter_some_pos (decide_eq_true ?_)
        rintro rfl
        exact hnone (.stream hid)
      rw [selectionOf, hgiven]

end Override

/-! ### Answers -/

section Reports

variable {s : Service} {a : Arguments} {f : Filter} {now : Instant}

/-- A report on a selection ends as the service does, which fails first if it cannot ask for the selection. -/
theorem yields_asked {α : Type} {selection : Selection} {r : Except ServiceError α} {lines : α → List LogLine}
    {shown : α → List Value} (hr : ∀ e, s.ask selection = .error e → r = .error e) :
    Yields (do warn s selection; let x ← check .service r; log (lines x); return shown x)
      ((r.mapError .service).map shown) := by
  cases hq : s.ask selection with
  | error e =>
    rw [hr e hq]
    have hwarn : Yields (warn s selection) (.error (.service e)) := (yields_check_error hq).bind_error
    exact hwarn.bind_error
  | ok q =>
    refine (yields_warn hq).bind ?_
    cases r with
    | error e => exact (yields_check_error rfl).bind_error
    | ok x => exact (yields_check rfl).bind ((yields_log _).bind (yields_pure _))

theorem yields_report_compliance (hmode : a.mode = .compliance) :
    Yields (report s a f now) (((s.compliance now (selectionOf a f)).mapError .service).map
      fun reports => reports.map StreamReport.toValue) := by
  unfold report
  rw [hmode]
  refine yields_asked fun e he => ?_
  rw [Service.compliance, he]
  rfl

theorem yields_report_status (hmode : a.mode = .status) :
    Yields (report s a f now) (((s.statusOverTime now (selectionOf a f)).mapError .service).map
      fun groups => groups.map StatusGroup.toValue) := by
  unfold report
  rw [hmode]
  refine yields_asked fun e he => ?_
  rw [Service.statusOverTime, he]
  rfl

end Reports

/-- The answer to arguments that shows what a service tells, or fails as the service does. -/
def answerOf {α : Type} (shown : α → Value) (told : Except ServiceError (List α)) : Except JobError Value :=
  (told.mapError .service).map fun xs => dataOf (xs.map shown)

/-- A job works with settings: they are the ones it reads, and where it reports on a selection, its answer is that of a
service with these settings about the selection. -/
structure WorksWith (fs : Files) (configured : Option String) (a : Arguments) (s : Settings) : Prop where
  settings : Yields (settingsOf fs a configured) (.ok s)
  answers : ∀ {f rs store now present}, Yields (filterOf fs a) (.ok f) →
    RecordFile.load fs (a.records.getD "") = .ok rs → storeOf s rs = .ok store → Yields (nowOf a present) (.ok now) →
    (a.mode = .compliance → Yields (answer fs configured present a)
      (answerOf StreamReport.toValue ((Service.make store s .null).compliance now (selectionOf a f)))) ∧
    (a.mode = .status → Yields (answer fs configured present a)
      (answerOf StatusGroup.toValue ((Service.make store s .null).statusOverTime now (selectionOf a f))))

section Answers

variable {fs : Files} {configured : Option String} {a : Arguments}

theorem worksWith {s : Settings} (hsettings : Yields (settingsOf fs a configured) (.ok s)) :
    WorksWith fs configured a s := by
  refine ⟨hsettings, fun {f rs store now present} hfilter hrecords hstore hnow => ⟨fun hmode => ?_, fun hmode => ?_⟩⟩
  · have hreport : Yields (report (.make store s .null) a f now) _ := yields_report_compliance hmode
    have hanswer := yields_answer hsettings hfilter hrecords (by rw [hmode]; decide) hstore hnow hreport
    cases htold : (Service.make store s .null).compliance now (selectionOf a f) <;> rwa [htold] at hanswer
  · have hreport : Yields (report (.make store s .null) a f now) _ := yields_report_status hmode
    have hanswer := yields_answer hsettings hfilter hrecords (by rw [hmode]; decide) hstore hnow hreport
    cases htold : (Service.make store s .null).statusOverTime now (selectionOf a f) <;> rwa [htold] at hanswer

/-- **What becomes of options.**  Let the settings of the configuration be read.  A width or a timeout below zero is
refused with the name of the setting.  Otherwise the command works with the settings that the options replace, and the
options are heeded exactly if none of them is passed over.  What is passed over leaves the widths and the timeout of the
configuration, and the selection of the filter. -/
theorem answer_options {base : Settings} (hbase : Yields (baseSettings fs a configured) (.ok base)) :
    (∃ name, RefusedFor a name ∧
      ∀ present, Yields (answer fs configured present a) (.error (.settings (.notPositive name)))) ∨
    ((∀ name, ¬RefusedFor a name) ∧ WorksWith fs configured a (a.override base) ∧
      (∀ f, HeededBy a (a.override base) (selectionOf a f) ↔ ¬PassedOver a) ∧
      (a.interval = some 0 → (a.override base).resultsInterval = base.resultsInterval ∧
        (a.override base).findingsInterval = base.findingsInterval) ∧
      (∀ t, a.timeout = some t → (t == 0) = true → (a.override base).storeTimeout = base.storeTimeout) ∧
      (a.stream = some "" → ∀ f, selectionOf a f = .matching f)) := by
  have hchecked := check_of_baseSettings hbase
  rcases check_override hchecked with ⟨name, hrefuses, hcheck⟩ | ⟨hnone, hcheck⟩
  · have hsettings : Yields (settingsOf fs a configured) (.error (.settings (.notPositive name))) :=
      hbase.bind (yields_check_error hcheck).bind_error
    exact .inl ⟨name, hrefuses, fun present => hsettings.bind_error⟩
  · refine .inr ⟨hnone, worksWith (yields_settingsOf hbase hcheck), heeds_iff hchecked, fun hzero => ?_,
      fun t ht hzero => ?_, fun hempty f => ?_⟩
    · refine override_width_of_zero fun n hn => ?_
      cases hzero.symm.trans hn
      rfl
    · refine override_timeout_of_zero fun t' ht' => ?_
      cases ht.symm.trans ht'
      exact hzero
    · rw [selectionOf, hempty]
      rfl

end Answers

/-- Two streams with a record each. -/
def twoStreams : Files where
  texts := [("records.json",
    "[\x7b\"streamId\": \"web\", \"ts\": 60\x7d, \x7b\"streamId\": \"db\", \"ts\": 90\x7d]")]

/-- Options for the histories of one of them. -/
def streamArguments : Arguments where
  records := some "records.json"
  stream := some "web"
  interval := some 3600
  anchor := some .epoch
  timeout := some 1.5

/-- The options are heeded, and the histories are those of the stream. -/
theorem answer_options_stream : Yields (baseSettings twoStreams streamArguments none) (.ok .defaults) ∧
    HeededBy streamArguments (streamArguments.override .defaults) (.stream "web") ∧
    ∃ rs store, RecordFile.load twoStreams "records.json" = .ok rs ∧
      storeOf (streamArguments.override .defaults) rs = .ok store ∧
      ∀ present, Yields (answer twoStreams none present streamArguments) (answerOf StreamReport.toValue
        ((Service.make store (streamArguments.override .defaults) .null).compliance present (.stream "web"))) := by
  have hbase : Yields (baseSettings twoStreams streamArguments none) (.ok .defaults) := yields_baseSettings_defaults rfl
  have hlow : ∀ name, ¬RefusedFor streamArguments name := by
    rintro name (⟨hn, hlow⟩ | ⟨-, ht, hlow⟩)
    · cases hn
      exact absurd hlow (by decide)
    · cases ht
      exact absurd hlow (by decide +kernel)
  have hcounts : ¬PassedOver streamArguments := by
    rintro (hzero | ⟨ht, hzero⟩ | hempty)
    · cases hzero
    · cases ht
      exact absurd hzero (by decide +kernel)
    · exact absurd (Option.some.inj hempty) (by decide)
  obtain ⟨name, hrefuses, -⟩ | ⟨-, hworks, hheeds, -⟩ := answer_options hbase
  · exact absurd hrefuses (hlow name)
  · have hload : RecordFile.load twoStreams "records.json" = .ok
        [⟨"web", ⟨60000000, by decide⟩, "", "", [], none⟩, ⟨"db", ⟨90000000, by decide⟩, "", "", [], none⟩] := by
      decide +kernel
    obtain ⟨m, hstore, -⟩ := exists_storeOf (s := streamArguments.override .defaults) rfl rfl
      [⟨"web", ⟨60000000, by decide⟩, "", "", [], none⟩, ⟨"db", ⟨90000000, by decide⟩, "", "", [], none⟩]
    refine ⟨hbase, (hheeds ⟨none⟩).mpr hcounts, _, _, hload, hstore, fun present => ?_⟩
    exact (hworks.answers (f := ⟨none⟩) (yields_pure _) hload hstore (yields_pure present)).1 rfl

/-- No records. -/
def emptyFile : Files where
  texts := [("records.json", "[]")]

/-- A width and a timeout of zero, and an empty stream. -/
def zeroArguments : Arguments where
  records := some "records.json"
  stream := some ""
  interval := some 0
  anchor := some .epoch
  timeout := some 0

/-- These options are neither refused nor heeded: the answer is that of the defaults on all streams. -/
theorem answer_zeroArguments :
    (∀ present, Yields (answer emptyFile none present zeroArguments) (.ok (dataOf []))) ∧
    Yields (settingsOf emptyFile zeroArguments none) (.ok (zeroArguments.override .defaults)) ∧
    (zeroArguments.override .defaults).resultsInterval = 300 ∧
    (zeroArguments.override .defaults).findingsInterval = 120 ∧
    (zeroArguments.override .defaults).storeTimeout = none ∧
    ∀ f, selectionOf zeroArguments f = .matching f := by
  have hsettings : Yields (settingsOf emptyFile zeroArguments none) (.ok (zeroArguments.override .defaults)) :=
    yields_settingsOf (yields_baseSettings_defaults rfl) rfl
  have hrecords : RecordFile.load emptyFile "records.json" = .ok [] := by decide +kernel
  have hanchor : AnchoredAt (zeroArguments.override .defaults) zeroArguments .epoch :=
    .epoch rfl fun text htext => by cases htext
  have hinterval : (zeroArguments.override .defaults).resultsDuration = .ok Service.fiveMinutes := rfl
  have hreports : Report.histories [] Service.fiveMinutes .epoch = .ok [] := by decide +kernel
  refine ⟨fun present => ?_, hsettings, ?_, ?_, ?_, fun f => rfl⟩
  · exact answer_shown (f := ⟨none⟩) hsettings (yields_pure _) hrecords (by decide) rfl rfl rfl hanchor nofun
      (.histories hinterval hreports) present
  · rfl
  · rfl
  · rfl

end ComplianceHistory.Command
