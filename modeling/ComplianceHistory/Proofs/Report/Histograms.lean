import Mathlib.Algebra.BigOperators.Group.List.Basic
import ComplianceHistory.Proofs.Report.Histories

/-!
# Histograms and histories

A histogram counts the representatives of each bucket by their states, a history lists those of one stream.  No
stream has two representatives in one bucket, and the entries that fill gaps have no state.  So the number of a
state in a group is the number of histories that show the state at that bucket (`showing_eq`), the groups fill the
buckets from the first to the last one of all records, and the numbers add up to the entries with records
(`histogram_counts`).
-/

namespace ComplianceHistory.Report

open Time

/-- Whether a history shows a state at a bucket. -/
def StreamReport.shows (t : Instant) (status : String) (report : StreamReport) : Bool :=
  report.entries.any fun e => decide (e.interval = t ∧ status ∈ Keyed.keys e.statusCounts)

/-- How many histories show a state at a bucket. -/
def showing (reports : List StreamReport) (t : Instant) (status : String) : Nat :=
  reports.countP (StreamReport.shows t status)

/-- What a group counts: the histories that show its states at its bucket. -/
structure StatusGroup.Counts (reports : List StreamReport) (g : StatusGroup) : Prop where
  ascending : (g.statuses.map Prod.fst).Pairwise (· < ·)
  listed : ∀ status, status ∈ g.statuses.map Prod.fst ↔ 0 < showing reports g.interval status
  counts : ∀ status n, (status, n) ∈ g.statuses → n = showing reports g.interval status

/-- The groups fill the buckets from the first to the last one of the records. -/
def SpanRecords (rs : List Record) (interval : Duration) (anchor : Instant) (groups : List StatusGroup) : Prop :=
  ∃ (first last : Record) (count : Nat), first ∈ rs ∧ last ∈ rs ∧
    (∀ r ∈ rs, startOf interval anchor first ≤ startOf interval anchor r ∧
      startOf interval anchor r ≤ startOf interval anchor last) ∧
    startOf interval anchor last = startOf interval anchor first + count * interval.micros ∧
    groups.map (fun g => g.interval.micros) =
      stepsOf interval.micros (startOf interval anchor first) (count + 1)

section Histograms

variable {interval : Duration} {anchor : Instant} {rs : List Record}

/-! ### The states of a bucket -/

/-- The states of the representatives of each bucket. -/
def perBucket (interval : Duration) (anchor : Instant) (rs : List Record) : Keyed Instant (List String) :=
  Keyed.gather ((sortedReps interval anchor rs).map fun r => (r.interval, r.status))

/-- The buckets are those of the records. -/
theorem mem_keys_perBucket {t : Instant} :
    t ∈ Keyed.keys (perBucket interval anchor rs) ↔ ∃ r ∈ rs, bucketAt interval anchor r = t := by
  unfold perBucket Keyed.gather
  rw [Keyed.mem_keys_collect, List.map_map, List.mem_map]
  constructor
  · rintro ⟨rep, hrep, rfl⟩
    obtain ⟨g, hg, rfl⟩ := mem_sortedReps.mp hrep
    obtain ⟨r, hr, hkey⟩ := mem_keys_groups.mp (List.mem_map_of_mem hg)
    exact ⟨r, hr, (congrArg Prod.snd hkey :)⟩
  · rintro ⟨r, hr, rfl⟩
    obtain ⟨g, hg, hkey⟩ := List.mem_map.mp (mem_keys_groups.mpr ⟨r, hr, rfl⟩)
    exact ⟨.ofGroup g, mem_sortedReps.mpr ⟨g, hg, rfl⟩, (congrArg Prod.snd hkey :)⟩

/-- A state is in a bucket as often as there are representatives with it. -/
theorem count_of_mem_perBucket {b : Instant × List String} (hb : b ∈ perBucket interval anchor rs)
    (status : String) : b.2.count status =
      (sortedReps interval anchor rs).countP fun r => r.interval = b.1 ∧ r.status = status := by
  have hvalues : b.2 = ((sortedReps interval anchor rs).filter fun r => r.interval = b.1).map (·.status) := by
    rw [Keyed.mem_gather hb, Keyed.valuesOf, List.filter_map, List.map_map]
    rfl
  rw [hvalues, List.count, List.countP_map, List.countP_filter]
  refine List.countP_congr fun r _ => ?_
  simp [and_comm]

theorem groupOf_perm (t : Instant) (states : List String) :
    (groupOf t states).statuses.Perm (Keyed.tally states) := List.mergeSort_perm _ _

theorem groupOf_ascending (t : Instant) (states : List String) :
    ((groupOf t states).statuses.map Prod.fst).Pairwise (· < ·) :=
  ascending_mergeSort (Keyed.nodup_keys_collect _ _ _)

/-- The numbers of a group add up to its representatives. -/
theorem sum_groupOf (t : Instant) (states : List String) :
    ((groupOf t states).statuses.map Prod.snd).sum = states.length := by
  rw [((groupOf_perm t states).map Prod.snd).sum_eq, Keyed.sum_tally]

/-- The groups of the buckets of the records, before they are filled. -/
def groupsOf (interval : Duration) (anchor : Instant) (rs : List Record) : List StatusGroup :=
  (perBucket interval anchor rs).map fun b => groupOf b.1 b.2

theorem interval_groupOf (t : Instant) (states : List String) : (groupOf t states).interval = t := rfl

theorem nodup_groupsOf : ((groupsOf interval anchor rs).map StatusGroup.interval).Nodup := by
  have hmap : (groupsOf interval anchor rs).map StatusGroup.interval = Keyed.keys (perBucket interval anchor rs) := by
    unfold groupsOf Keyed.keys
    rw [List.map_map]
    rfl
  rw [hmap]
  exact Keyed.nodup_keys_collect _ _ _

/-! ### Histories that show a state -/

/-- The entry of a representative shows its state, and an entry that fills a gap shows none. -/
theorem shows_iff {stream : String} {report : StreamReport} (h : IsHistoryOf interval anchor rs stream report)
    (t : Instant) (status : String) : report.shows t status = true ↔
      ∃ rep ∈ sortedReps interval anchor rs, rep.streamId = stream ∧ rep.interval = t ∧ rep.status = status := by
  obtain ⟨first, missing, hperm⟩ := h.entries
  unfold StreamReport.shows
  rw [List.any_eq_true]
  constructor
  · rintro ⟨e, he, hshown⟩
    obtain ⟨htime, hstatus⟩ := of_decide_eq_true hshown
    rcases List.mem_append.mp (hperm.mem_iff.mp he) with hentry | hblank
    · obtain ⟨rep, hrep, rfl⟩ := List.mem_map.mp hentry
      obtain ⟨hrep, hstream⟩ := List.mem_filter.mp hrep
      exact ⟨rep, hrep, of_decide_eq_true hstream, htime, (List.mem_singleton.mp hstatus).symm⟩
    · obtain ⟨u, -, rfl⟩ := List.mem_map.mp hblank
      cases hstatus
  · rintro ⟨rep, hrep, hstream, rfl, rfl⟩
    have hentry : rep.entry ∈ entriesOf interval anchor rs stream :=
      List.mem_map_of_mem (List.mem_filter.mpr ⟨hrep, decide_eq_true hstream⟩)
    refine ⟨rep.entry, hperm.mem_iff.mpr (List.mem_append_left _ hentry), decide_eq_true ⟨rfl, ?_⟩⟩
    exact List.mem_singleton.mpr rfl

/-- The histories that show a state at a bucket are counted by the representatives with that state there. -/
theorem showing_eq {reports : List StreamReport}
    (hall : List.Forall₂ (fun s report => IsHistoryOf interval anchor rs s.1 report)
      (perStream interval anchor rs) reports) (t : Instant) (status : String) :
    showing reports t status =
      (sortedReps interval anchor rs).countP fun r => r.interval = t ∧ r.status = status := by
  have hstreams : reports.map StreamReport.streamId = Keyed.keys (perStream interval anchor rs) :=
    streams_of_forall₂ (hall.imp fun _ _ h => h.streamId)
  have hleft : ((reports.filter (StreamReport.shows t status)).map StreamReport.streamId).Nodup := by
    have hnodup : (reports.map StreamReport.streamId).Nodup := by
      rw [hstreams]
      exact Keyed.nodup_keys_collect _ _ _
    exact hnodup.sublist (List.filter_sublist.map _)
  have hright : (((sortedReps interval anchor rs).filter fun r => r.interval = t ∧ r.status = status).map
      Representative.streamId).Nodup := by
    have hnodup : (sortedReps interval anchor rs).Nodup := nodup_sortedReps.of_map _
    refine (hnodup.sublist List.filter_sublist).map_on fun r hr q hq hstream => ?_
    obtain ⟨hr, hrt⟩ := List.mem_filter.mp hr
    obtain ⟨hq, hqt⟩ := List.mem_filter.mp hq
    have htime : r.interval = q.interval := (of_decide_eq_true hrt).1.trans (of_decide_eq_true hqt).1.symm
    exact List.inj_on_of_nodup_map nodup_sortedReps hr hq (Prod.ext hstream htime)
  have hperm : ((reports.filter (StreamReport.shows t status)).map StreamReport.streamId).Perm
      (((sortedReps interval anchor rs).filter fun r => r.interval = t ∧ r.status = status).map
        Representative.streamId) := by
    refine (List.perm_ext_iff_of_nodup hleft hright).mpr fun stream => ?_
    rw [List.mem_map, List.mem_map]
    constructor
    · rintro ⟨report, hreport, rfl⟩
      obtain ⟨hreport, hshows⟩ := List.mem_filter.mp hreport
      obtain ⟨s, -, hs⟩ := exists_of_mem_left hall.flip hreport
      obtain ⟨rep, hrep, hstream, htime, hstatus⟩ := (shows_iff hs t status).mp hshows
      exact ⟨rep, List.mem_filter.mpr ⟨hrep, decide_eq_true ⟨htime, hstatus⟩⟩, hstream.trans hs.streamId.symm⟩
    · rintro ⟨rep, hrep, rfl⟩
      obtain ⟨hrep, hshown⟩ := List.mem_filter.mp hrep
      obtain ⟨htime, hstatus⟩ := of_decide_eq_true hshown
      have hkey : rep.streamId ∈ Keyed.keys (perStream interval anchor rs) := by
        unfold perStream Keyed.gather
        rw [Keyed.mem_keys_collect, List.map_map]
        exact List.mem_map_of_mem hrep
      obtain ⟨s, hs, hid⟩ := List.mem_map.mp hkey
      obtain ⟨report, hreport, hhistory⟩ := exists_of_mem_left hall hs
      have hshows := (shows_iff hhistory t status).mpr ⟨rep, hrep, hid.symm, htime, hstatus⟩
      exact ⟨report, List.mem_filter.mpr ⟨hreport, hshows⟩, hhistory.streamId.trans hid⟩
  have hlength := hperm.length_eq
  rw [List.length_map, List.length_map, ← List.countP_eq_length_filter, ← List.countP_eq_length_filter] at hlength
  exact hlength

/-! ### Filled groups -/

section Filled

variable {x : StatusGroup} {xs filled : List StatusGroup} (hitems : groupsOf interval anchor rs = x :: xs)
  (hfilled : Filled StatusGroup.interval StatusGroup.blank interval.micros (x :: xs)
    (earliest StatusGroup.interval x xs) (latestPlace StatusGroup.interval x xs) filled)
include hitems hfilled

/-- Each of the filled groups counts the histories that show its states. -/
theorem counts_of_filled {reports : List StreamReport}
    (hall : List.Forall₂ (fun s report => IsHistoryOf interval anchor rs s.1 report)
      (perStream interval anchor rs) reports) {g : StatusGroup} (hg : g ∈ filled) : g.Counts reports := by
  obtain ⟨missing, hmissing, hperm⟩ := hfilled.perm
  rcases List.mem_append.mp (hperm.mem_iff.mp hg) with hitem | hblank
  · rw [← hitems] at hitem
    obtain ⟨b, hb, rfl⟩ := List.mem_map.mp hitem
    have hcount : ∀ status, b.2.count status = showing reports b.1 status := by
      intro status
      rw [showing_eq hall, count_of_mem_perBucket hb]
    refine ⟨groupOf_ascending b.1 b.2, fun status => ?_, fun status n hn => ?_⟩
    · rw [((groupOf_perm b.1 b.2).map Prod.fst).mem_iff, interval_groupOf, ← hcount, List.count_pos_iff]
      exact Keyed.mem_keys_tally
    · rw [(groupOf_perm b.1 b.2).mem_iff, Keyed.mem_tally] at hn
      rw [hn.2, interval_groupOf, hcount]
  · obtain ⟨t, ht, rfl⟩ := List.mem_map.mp hblank
    -- no representative stands in a bucket that was missing
    have hnone : ∀ status, showing reports t status = 0 := by
      intro status
      rw [showing_eq hall, List.countP_eq_zero]
      intro rep hrep hshown
      have hkey : t ∈ Keyed.keys (perBucket interval anchor rs) := by
        unfold perBucket Keyed.gather
        rw [Keyed.mem_keys_collect, List.map_map, ← (of_decide_eq_true hshown).1]
        exact List.mem_map_of_mem hrep
      obtain ⟨b, hb, rfl⟩ := List.mem_map.mp hkey
      refine hmissing _ ht (List.mem_map.mpr ⟨groupOf b.1 b.2, ?_, rfl⟩)
      rw [← hitems]
      exact List.mem_map_of_mem hb
    refine ⟨.nil, fun status => ?_, fun status n hn => ?_⟩
    · show status ∈ [] ↔ 0 < showing reports t status
      rw [hnone]
      simp
    · cases hn

/-- The numbers of the filled groups add up to the representatives. -/
theorem sum_of_filled : ((filled.flatMap StatusGroup.statuses).map Prod.snd).sum =
    (sortedReps interval anchor rs).length := by
  obtain ⟨missing, -, hperm⟩ := hfilled.perm
  have hblanks : ∀ ts : List Instant, (ts.map (StatusGroup.blank (earliest StatusGroup.interval x xs))).flatMap
      StatusGroup.statuses = [] := by
    intro ts
    rw [List.flatMap_eq_nil_iff]
    intro g hg
    obtain ⟨t, -, rfl⟩ := List.mem_map.mp hg
    rfl
  have hgroups : ∀ bs : List (Instant × List String),
      (((bs.map fun b => groupOf b.1 b.2).flatMap StatusGroup.statuses).map Prod.snd).sum =
        ((bs.flatMap Prod.snd).length : Int) := by
    intro bs
    induction bs with
    | nil => rfl
    | cons b bs ih =>
      rw [List.map_cons, List.flatMap_cons, List.map_append, List.sum_append, sum_groupOf, ih, List.flatMap_cons,
        List.length_append, Int.natCast_add]
  rw [((hperm.flatMap_right StatusGroup.statuses).map Prod.snd).sum_eq, List.flatMap_append, hblanks,
    List.append_nil, ← hitems, groupsOf, hgroups, perBucket, Keyed.length_values_gather, List.length_map]

end Filled

section Reached

variable (hinterval : 0 < interval.micros) (hrs : ∀ r ∈ rs, Reaches interval anchor r)
include hinterval hrs

/-- The bucket of a group is the one of a record. -/
theorem exists_record_of_mem_perBucket {b : Instant × List String} (hb : b ∈ perBucket interval anchor rs) :
    ∃ r ∈ rs, b.1.micros = startOf interval anchor r := by
  obtain ⟨r, hr, hbucket⟩ := mem_keys_perBucket.mp (List.mem_map_of_mem hb)
  refine ⟨r, hr, ?_⟩
  rw [← hbucket, micros_bucketAt hinterval (hrs r hr)]

/-- The bucket of a record has a group. -/
theorem exists_group {r : Record} (hr : r ∈ rs) :
    ∃ b ∈ perBucket interval anchor rs, b.1.micros = startOf interval anchor r := by
  obtain ⟨b, hb, hbucket⟩ := List.mem_map.mp (mem_keys_perBucket.mpr ⟨r, hr, rfl⟩)
  refine ⟨b, hb, ?_⟩
  rw [hbucket, micros_bucketAt hinterval (hrs r hr)]

/-- The groups stand on the grid, and the calendar reaches the end of their buckets. -/
theorem onGrid_of_mem_groupsOf {g : StatusGroup} (hg : g ∈ groupsOf interval anchor rs) :
    OnGrid interval.micros anchor.micros g.interval.micros ∧ g.interval.micros + interval.micros ≤ lastMicro := by
  obtain ⟨b, hb, rfl⟩ := List.mem_map.mp hg
  obtain ⟨r, hr, hmicros⟩ := exists_record_of_mem_perBucket hinterval hrs hb
  rw [interval_groupOf, hmicros]
  exact ⟨bucketStart_onGrid _ _ _, (hrs r hr).2⟩

/-- Only no records have no groups. -/
theorem eq_nil_of_groupsOf (hnone : groupsOf interval anchor rs = []) : rs = [] := by
  refine List.eq_nil_iff_forall_not_mem.mpr fun r hr => ?_
  obtain ⟨b, hb, -⟩ := exists_group hinterval hrs hr
  have hgroup : groupOf b.1 b.2 ∈ groupsOf interval anchor rs := List.mem_map_of_mem hb
  rw [hnone] at hgroup
  cases hgroup

/-- A histogram fills the groups of the buckets. -/
theorem histogram_eq : histogram rs interval anchor = fillStatusGaps interval (groupsOf interval anchor rs) := by
  unfold histogram
  rw [reduce_eq hinterval hrs]
  rfl

/-- The filled groups reach from the first to the last bucket of the records. -/
theorem span_of_filled {x : StatusGroup} {xs filled : List StatusGroup}
    (hitems : groupsOf interval anchor rs = x :: xs)
    (hfilled : Filled StatusGroup.interval StatusGroup.blank interval.micros (x :: xs)
      (earliest StatusGroup.interval x xs) (latestPlace StatusGroup.interval x xs) filled) :
    SpanRecords rs interval anchor filled := by
  refine hfilled.spans (fun g hg => ?_) fun r hr => ?_
  · rw [← hitems] at hg
    obtain ⟨b, hb, rfl⟩ := List.mem_map.mp hg
    exact exists_record_of_mem_perBucket hinterval hrs hb
  · obtain ⟨b, hb, hmicros⟩ := exists_group hinterval hrs hr
    rw [← hitems]
    exact ⟨_, List.mem_map_of_mem hb, hmicros⟩

/-- Records whose buckets the calendar reaches have a histogram: their groups, with the gaps between them filled. -/
theorem exists_histogram : ∃ groups, histogram rs interval anchor = .ok groups ∧
    (groupsOf interval anchor rs = [] → groups = []) ∧
    ∀ x xs, groupsOf interval anchor rs = x :: xs →
      Filled StatusGroup.interval StatusGroup.blank interval.micros (x :: xs)
        (earliest StatusGroup.interval x xs) (latestPlace StatusGroup.interval x xs) groups := by
  rw [histogram_eq hinterval hrs]
  cases hitems : groupsOf interval anchor rs with
  | nil =>
    refine ⟨[], rfl, fun _ => rfl, ?_⟩
    intro x xs h
    cases h
  | cons x xs =>
    have hgrid : ∀ g ∈ x :: xs, OnGrid interval.micros anchor.micros g.interval.micros ∧
        g.interval.micros + interval.micros ≤ lastMicro := by
      rw [← hitems]
      exact fun g hg => onGrid_of_mem_groupsOf hinterval hrs hg
    have hplaces : ((x :: xs).map StatusGroup.interval).Nodup := by
      rw [← hitems]
      exact nodup_groupsOf
    have hblank : ∀ (g : StatusGroup) (t : Instant), (g.blank t).interval = t := fun _ _ => rfl
    obtain ⟨groups, hfill, hfilled⟩ := fill_spec hblank hinterval (fun g hg => (hgrid g hg).1) hplaces
      fun g hg => (hgrid g hg).2
    refine ⟨groups, hfill, nofun, fun y ys hsame => ?_⟩
    cases hsame
    exact hfilled

end Reached

/-- **A histogram counts what the histories show.**  Let the width be positive, and let the calendar reach the
buckets of all records and the ones after them.  Then there are a histogram and histories of different streams; the
groups of the histogram fill the buckets from the first to the last one of all records; each group lists, in
strictly ascending order, the states that some history shows at its bucket, with the number of these histories; and
all numbers add up to the entries of the histories that have records. -/
theorem histogram_counts (rs : List Record) (interval : Duration) (anchor : Instant)
    (hinterval : 0 < interval.micros) (hrs : ∀ r ∈ rs, Reaches interval anchor r) :
    ∃ groups reports, histogram rs interval anchor = .ok groups ∧ histories rs interval anchor = .ok reports ∧
      (reports.map StreamReport.streamId).Nodup ∧
      (rs = [] ∧ groups = [] ∨ SpanRecords rs interval anchor groups) ∧
      (∀ g ∈ groups, g.Counts reports) ∧
      ((groups.flatMap StatusGroup.statuses).map Prod.snd).sum = totalRecords reports := by
  obtain ⟨reports, hreports, hall, htotal⟩ := histories_filled hinterval hrs
  have hnodup : (reports.map StreamReport.streamId).Nodup := by
    rw [streams_of_forall₂ (hall.imp fun _ _ h => h.streamId)]
    exact Keyed.nodup_keys_collect _ _ _
  obtain ⟨groups, hgroups, hnone, hfilled⟩ := exists_histogram hinterval hrs
  cases hitems : groupsOf interval anchor rs with
  | nil =>
    obtain rfl := eq_nil_of_groupsOf hinterval hrs hitems
    obtain rfl := hnone hitems
    have hreps : sortedReps interval anchor [] = [] := by
      unfold sortedReps groups byTime inOrder
      rw [List.mergeSort_nil]
      exact List.mergeSort_nil
    refine ⟨[], reports, hgroups, hreports, hnodup, .inl ⟨rfl, rfl⟩, (fun _ hg => nomatch hg), ?_⟩
    rw [htotal, hreps]
    rfl
  | cons x xs =>
    have hfilled := hfilled x xs hitems
    refine ⟨groups, reports, hgroups, hreports, hnodup, .inr (span_of_filled hinterval hrs hitems hfilled),
      fun g hg => counts_of_filled hitems hfilled hall hg, ?_⟩
    rw [htotal, sum_of_filled hitems hfilled]

end Histograms

/-- Records of two streams that share a bucket and a state there, one of them after an earlier state in that bucket,
the other one three hours after its first bucket. -/
def assessments : List Record := [
  ⟨"web", ⟨60000000, by decide⟩, "satisfied", "", [], none⟩,
  ⟨"web", ⟨30000000, by decide⟩, "not-satisfied", "", [], none⟩,
  ⟨"db", .epoch, "satisfied", "", [], none⟩,
  ⟨"db", ⟨-10800000000, by decide⟩, "not-satisfied", "", [], none⟩]

theorem histogram_counts_assessments : (∀ r ∈ assessments, Reaches hour halfPast r) ∧
    ∃ groups reports, histogram assessments hour halfPast = .ok groups ∧
      histories assessments hour halfPast = .ok reports ∧ SpanRecords assessments hour halfPast groups ∧
      (∀ g ∈ groups, g.Counts reports) ∧
      ((groups.flatMap StatusGroup.statuses).map Prod.snd).sum = totalRecords reports := by
  have hreaches : ∀ r ∈ assessments, Reaches hour halfPast r := forall_of_all (by decide +kernel)
  obtain ⟨groups, reports, hgroups, hreports, -, hspan, hcounts, hsum⟩ :=
    histogram_counts assessments hour halfPast (by decide) hreaches
  refine ⟨hreaches, groups, reports, hgroups, hreports, ?_, hcounts, hsum⟩
  rcases hspan with ⟨hnil, -⟩ | hspan
  · cases hnil
  · exact hspan

end ComplianceHistory.Report
