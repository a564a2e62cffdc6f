import ComplianceHistory.Proofs.Report.Latest

/-!
# Histories stream by stream

A history is determined by what it tells of the records (`StreamReport.Tells.unique`), and it tells of the records of
its own stream only (`StreamReport.Tells.congr`).  So histories are known by three facts about them, and streams do
not interact: the histories of the records of some streams are the histories of these streams among those of all
records (`histories_filter`).
-/

namespace ComplianceHistory.Report

open Time

/-- The histories of one stream. -/
def reportsOf (stream : String) (reports : List StreamReport) : List StreamReport :=
  reports.filter fun report => report.streamId = stream

/-! ### What a history tells determines it -/

section Entries

variable {inside : List Record} {firstTitle : Option String} {e e' : StreamEntry}

theorem IsLatest.ne_nil {r : Record} {rs : List Record} (h : IsLatest r rs) : rs ≠ [] := List.ne_nil_of_mem h.mem

/-- Where there are records, an entry is made from the latest of them. -/
theorem StreamEntry.Tells.made (h : e.Tells inside firstTitle) (hinside : inside ≠ []) :
    ∃ r, IsLatest r inside ∧ e.hasRecords = true ∧ e.statusCounts = [(r.status, 1)] ∧ e.title = r.title := by
  cases h with
  | latest hr hasRecords statusCounts title => exact ⟨_, hr, hasRecords, statusCounts, title⟩
  | blank hnone => exact absurd hnone hinside

/-- Two entries for one bucket that tell of the same records are the same. -/
theorem StreamEntry.Tells.eq (h : e.Tells inside firstTitle) (h' : e'.Tells inside firstTitle)
    (hinterval : e.interval = e'.interval) : e = e' := by
  obtain ⟨t, title, counts, has⟩ := e
  obtain ⟨t', title', counts', has'⟩ := e'
  obtain rfl : t = t' := hinterval
  cases h with
  | latest hr h1 h2 h3 =>
    cases h' with
    | latest hr' h1' h2' h3' =>
      obtain rfl := hr.unique hr'
      rw [StreamEntry.mk.injEq]
      exact ⟨rfl, h3.trans h3'.symm, h2.trans h2'.symm, h1.trans h1'.symm⟩
    | blank hnone => exact absurd hnone hr.ne_nil
  | blank hnone h1 h2 h3 =>
    cases h' with
    | latest hr' => exact absurd hnone hr'.ne_nil
    | blank _ h1' h2' h3' =>
      rw [StreamEntry.mk.injEq]
      exact ⟨rfl, Option.some.inj (h3.symm.trans h3'), h2.trans h2'.symm, h1.trans h1'.symm⟩

end Entries

section Histories

variable {interval : Duration} {anchor : Instant} {rs rs' : List Record}

/-- A record lies in the width from the start of its bucket on. -/
theorem mem_inside_startOf (hinterval : 0 < interval.micros) {r : Record} (hr : r ∈ rs) :
    r ∈ inside rs r.streamId interval.micros (startOf interval anchor r) := by
  refine List.mem_filter.mpr ⟨hr, decide_eq_true ⟨rfl, ?_, ?_⟩⟩
  · exact bucketStart_le hinterval _ _
  · exact lt_bucketStart_add hinterval _ _

namespace StreamReport.Tells

variable {a b report : StreamReport}

/-- A history has an entry for the bucket of each record of its stream. -/
theorem exists_entry (hinterval : 0 < interval.micros) (h : report.Tells rs interval anchor) {r : Record}
    (hr : r ∈ rs) (hstream : r.streamId = report.streamId) :
    ∃ e ∈ report.entries, e.interval.micros = startOf interval anchor r := by
  obtain ⟨first, last, count, -, -, -, -, hbetween, hcount, hplaces⟩ := h.intervals
  obtain ⟨hge, hle⟩ := hbetween r hr hstream
  obtain ⟨n, hn⟩ := (bucketStart_onGrid _ _ _).exists_steps hinterval (bucketStart_onGrid _ _ _) hge
  have hsteps : startOf interval anchor r = startOf interval anchor first + n * interval.micros := hn
  have hlt : n < count + 1 := by
    have hmul : (n : Int) * interval.micros ≤ count * interval.micros := by omega
    have := Int.le_of_mul_le_mul_right hmul hinterval
    omega
  have hmem : startOf interval anchor r ∈ report.entries.map fun e => e.interval.micros := by
    rw [hplaces]
    exact mem_stepsOf.mpr ⟨n, hlt, hsteps⟩
  exact List.mem_map.mp hmem

/-- The entries of a history are on the grid of the anchor. -/
theorem onGrid (h : report.Tells rs interval anchor) {e : StreamEntry} (he : e ∈ report.entries) :
    OnGrid interval.micros anchor.micros e.interval.micros := by
  obtain ⟨first, -, count, -, -, -, -, -, -, hplaces⟩ := h.intervals
  have hmem : e.interval.micros ∈ report.entries.map fun e => e.interval.micros := List.mem_map_of_mem he
  rw [hplaces] at hmem
  obtain ⟨k, -, hk⟩ := mem_stepsOf.mp hmem
  rw [hk]
  exact (bucketStart_onGrid _ _ _).add k

/-- An entry with records stands for the bucket of a record of the stream. -/
theorem exists_record (hinterval : 0 < interval.micros) (h : report.Tells rs interval anchor) {e : StreamEntry}
    (he : e ∈ report.entries) (hrecords : e.hasRecords = true) :
    ∃ r ∈ rs, r.streamId = report.streamId ∧ startOf interval anchor r = e.interval.micros := by
  have hgrid := h.onGrid he
  cases h.entries e he with
  | latest hr =>
    obtain ⟨hr, hinside⟩ := List.mem_filter.mp hr.mem
    obtain ⟨hstream, hbetween⟩ := of_decide_eq_true hinside
    exact ⟨_, hr, hstream, (bucketStart_eq_iff hinterval hgrid).mpr hbetween⟩
  | blank _ hblank =>
    rw [hrecords] at hblank
    cases hblank

/-- Histories of one stream that tell of the same records have entries for the same buckets. -/
theorem places_eq (hinterval : 0 < interval.micros) (ha : a.Tells rs interval anchor)
    (hb : b.Tells rs interval anchor) (hstream : a.streamId = b.streamId) :
    a.entries.map (fun e => e.interval.micros) = b.entries.map (fun e => e.interval.micros) := by
  obtain ⟨first, last, count, hfirst, hf, hlast, hl, hbetween, hcount, hplaces⟩ := ha.intervals
  obtain ⟨first', last', count', hfirst', hf', hlast', hl', hbetween', hcount', hplaces'⟩ := hb.intervals
  have hstart : startOf interval anchor first = startOf interval anchor first' := by
    have h1 := (hbetween first' hfirst' (hf'.trans hstream.symm)).1
    have h2 := (hbetween' first hfirst (hf.trans hstream)).1
    omega
  have hend : startOf interval anchor last = startOf interval anchor last' := by
    have h1 := (hbetween last' hlast' (hl'.trans hstream.symm)).2
    have h2 := (hbetween' last hlast (hl.trans hstream)).2
    omega
  have hmul : (count : Int) * interval.micros = count' * interval.micros := by omega
  have hsame := Int.eq_of_mul_eq_mul_right (Int.ne_of_gt hinterval) hmul
  obtain rfl : count = count' := by omega
  rw [hplaces, hplaces', hstart]

/-- The first entry of a history is made from the latest record in its bucket. -/
theorem head_made (hinterval : 0 < interval.micros) (h : report.Tells rs interval anchor) :
    ∃ e, report.entries.head? = some e ∧
      ∃ r, IsLatest r (inside rs report.streamId interval.micros e.interval.micros) ∧ e.title = r.title := by
  obtain ⟨first, -, count, hfirst, hstream, -, -, -, -, hplaces⟩ := h.intervals
  rw [stepsOf_succ] at hplaces
  cases hentries : report.entries with
  | nil =>
    rw [hentries] at hplaces
    cases hplaces
  | cons e es =>
    rw [hentries] at hplaces
    have hmicros : e.interval.micros = startOf interval anchor first := (List.cons.inj hplaces).1
    have hmem : first ∈ inside rs report.streamId interval.micros e.interval.micros := by
      rw [hmicros, ← hstream]
      exact mem_inside_startOf hinterval hfirst
    have he : e ∈ report.entries := hentries ▸ List.mem_cons_self
    obtain ⟨r, hr, -, -, htitle⟩ := (h.entries e he).made (List.ne_nil_of_mem hmem)
    exact ⟨e, rfl, r, hr, htitle⟩

/-- **What a history tells of records determines it.** -/
theorem unique (hinterval : 0 < interval.micros) (ha : a.Tells rs interval anchor) (hb : b.Tells rs interval anchor)
    (hstream : a.streamId = b.streamId) : a = b := by
  have hplaces := places_eq hinterval ha hb hstream
  have hheads : a.entries.head?.map (·.title) = b.entries.head?.map (·.title) := by
    obtain ⟨e, he, r, hr, htitle⟩ := ha.head_made hinterval
    obtain ⟨e', he', r', hr', htitle'⟩ := hb.head_made hinterval
    have hmicros : e.interval.micros = e'.interval.micros := by
      have hhead := congrArg List.head? hplaces
      rw [List.head?_map, List.head?_map, he, he'] at hhead
      exact Option.some.inj hhead
    rw [hstream, hmicros] at hr
    obtain rfl := hr.unique hr'
    rw [he, he', Option.map_some, Option.map_some, htitle, htitle']
  have hpairs : List.Forall₂ (fun e e' : StreamEntry => e.interval.micros = e'.interval.micros)
      a.entries b.entries := by
    have heq := List.forall₂_eq_eq_eq ▸ hplaces
    rwa [List.forall₂_map_left_iff, List.forall₂_map_right_iff] at heq
  have hentries : a.entries = b.entries := by
    rw [← List.forall₂_eq_eq_eq]
    refine forall₂_imp_mem hpairs fun e he e' he' hmicros => ?_
    have htells := ha.entries e he
    have htells' := hb.entries e' he'
    rw [hstream, hmicros, hheads] at htells
    exact htells.eq htells' (Instant.eq_of_micros hmicros)
  obtain ⟨s, es⟩ := a
  obtain ⟨s', es'⟩ := b
  obtain rfl : s = s' := hstream
  obtain rfl : es = es' := hentries
  rfl

/-- **A history tells of the records of its own stream only.** -/
theorem congr (h : report.Tells rs interval anchor)
    (hsame : rs.filter (fun r => r.streamId = report.streamId) = rs'.filter fun r => r.streamId = report.streamId) :
    report.Tells rs' interval anchor := by
  have hmem : ∀ r : Record, r.streamId = report.streamId → (r ∈ rs ↔ r ∈ rs') := by
    intro r hr
    have hiff := congrArg (r ∈ ·) hsame
    simpa only [List.mem_filter, hr, decide_true, and_true, eq_iff_iff] using hiff
  have hinside : ∀ x, inside rs report.streamId interval.micros x = inside rs' report.streamId interval.micros x := by
    intro x
    rw [inside_eq_filter, inside_eq_filter, hsame]
  constructor
  · obtain ⟨first, last, count, hfirst, hf, hlast, hl, hbetween, hrest⟩ := h.intervals
    exact ⟨first, last, count, (hmem first hf).mp hfirst, hf, (hmem last hl).mp hlast, hl,
      fun r hr hs => hbetween r ((hmem r hs).mpr hr) hs, hrest⟩
  · intro e he
    rw [← hinside]
    exact h.entries e he

end StreamReport.Tells

/-! ### All streams -/

/-- Histories of the same records are the same. -/
theorem AreHistoriesOf.unique {reports reports' : List StreamReport} (hinterval : 0 < interval.micros)
    (h : AreHistoriesOf interval anchor rs reports) (h' : AreHistoriesOf interval anchor rs reports') :
    reports = reports' := by
  have hstreams : reports.map StreamReport.streamId = reports'.map StreamReport.streamId :=
    eq_of_ascending h.ascending h'.ascending fun stream => (h.streams stream).trans (h'.streams stream).symm
  have hpairs : List.Forall₂ (fun a b => StreamReport.streamId a = StreamReport.streamId b) reports reports' := by
    have heq := List.forall₂_eq_eq_eq ▸ hstreams
    rwa [List.forall₂_map_left_iff, List.forall₂_map_right_iff] at heq
  rw [← List.forall₂_eq_eq_eq]
  exact forall₂_imp_mem hpairs fun a ha b hb hab => (h.tells a ha).unique hinterval (h'.tells b hb) hab

theorem AreHistoriesOf.nodup {reports : List StreamReport} (h : AreHistoriesOf interval anchor rs reports) :
    (reports.map StreamReport.streamId).Nodup := by
  refine h.ascending.imp fun {a b} hlt heq => ?_
  subst heq
  exact String.lt_irrefl a hlt

/-- A stream has at most one history. -/
theorem AreHistoriesOf.length_reportsOf_le {reports : List StreamReport}
    (h : AreHistoriesOf interval anchor rs reports) (stream : String) : (reportsOf stream reports).length ≤ 1 := by
  have hnodup : ((reportsOf stream reports).map StreamReport.streamId).Nodup :=
    h.nodup.sublist (List.filter_sublist.map _)
  have hall : (reportsOf stream reports).map StreamReport.streamId =
      List.replicate (reportsOf stream reports).length stream := by
    refine List.eq_replicate_iff.mpr ⟨List.length_map _, fun s hs => ?_⟩
    obtain ⟨report, hreport, rfl⟩ := List.mem_map.mp hs
    exact of_decide_eq_true (List.mem_filter.mp hreport).2
  rw [hall] at hnodup
  exact List.nodup_replicate.mp hnodup

/-- The histories of the streams with a property are histories of the records of these streams. -/
theorem AreHistoriesOf.filter {reports : List StreamReport} (h : AreHistoriesOf interval anchor rs reports)
    (p : String → Bool) : AreHistoriesOf interval anchor (rs.filter fun r => p r.streamId)
      (reports.filter fun report => p report.streamId) where
  ascending := h.ascending.sublist (List.filter_sublist.map _)
  streams stream := by
    have hfilter : (reports.filter fun report => p report.streamId).map StreamReport.streamId =
        (reports.map StreamReport.streamId).filter p := (List.filter_map).symm
    rw [hfilter, List.mem_filter, h.streams]
    constructor
    · rintro ⟨⟨r, hr, rfl⟩, hp⟩
      exact ⟨r, List.mem_filter.mpr ⟨hr, hp⟩, rfl⟩
    · rintro ⟨r, hr, rfl⟩
      exact ⟨⟨r, (List.mem_filter.mp hr).1, rfl⟩, (List.mem_filter.mp hr).2⟩
  tells report hreport := by
    obtain ⟨hreport, hp⟩ := List.mem_filter.mp hreport
    refine (h.tells report hreport).congr ?_
    rw [List.filter_filter]
    refine List.filter_congr fun r _ => ?_
    by_cases hstream : r.streamId = report.streamId
    · rw [hstream, hp, Bool.and_true]
    · simp [hstream]

section Reached

variable (hinterval : 0 < interval.micros) (hrs : ∀ r ∈ rs, Reaches interval anchor r)
include hinterval hrs

/-- Records whose buckets the calendar reaches have histories. -/
theorem exists_histories : ∃ reports, histories rs interval anchor = .ok reports ∧
    AreHistoriesOf interval anchor rs reports := by
  obtain ⟨reports, hreports, hall, -⟩ := histories_filled hinterval hrs
  exact ⟨reports, hreports, areHistoriesOf_of_forall₂ hall⟩

/-- The histories that are given are those of the records. -/
theorem areHistoriesOf_of_eq_ok {reports : List StreamReport} (h : histories rs interval anchor = .ok reports) :
    AreHistoriesOf interval anchor rs reports := by
  obtain ⟨reports', hreports', hall⟩ := exists_histories hinterval hrs
  obtain rfl := Except.ok.inj (h.symm.trans hreports')
  exact hall

/-- **Streams do not interact.**  The histories of the records of some streams are the histories of these streams
among those of all records. -/
theorem histories_filter {reports : List StreamReport} (h : histories rs interval anchor = .ok reports)
    (p : String → Bool) : histories (rs.filter fun r => p r.streamId) interval anchor =
      .ok (reports.filter fun report => p report.streamId) := by
  have hall := (areHistoriesOf_of_eq_ok hinterval hrs h).filter p
  have hkept : ∀ r ∈ rs.filter fun r => p r.streamId, Reaches interval anchor r :=
    fun r hr => hrs r (List.mem_filter.mp hr).1
  obtain ⟨reports', hreports', hall'⟩ := exists_histories hinterval hkept
  rw [hreports', hall'.unique hinterval hall]

end Reached

end Histories

end ComplianceHistory.Report
