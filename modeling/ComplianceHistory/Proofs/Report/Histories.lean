import Mathlib.Data.List.Dedup
import ComplianceHistory.Proofs.Counting
import ComplianceHistory.Proofs.Report.Representatives

/-!
# Histories of streams

The representatives of a stream stand in buckets of their own, and all of them on the grid, so that filling the
gaps of a stream meets them exactly (`fillGaps_tells`).  Hence the histories of records list, for each stream, every
bucket from its first to its last one, and tell of each whether there were records in it and which of them is the
latest (`histories_tell`).
-/

namespace ComplianceHistory.Report

open Time

/-- What an entry tells of the records in its bucket: it is made from the latest of them, or it is blank and has
the title of the first entry. -/
inductive StreamEntry.Tells (inside : List Record) (firstTitle : Option String) (e : StreamEntry) : Prop
  | latest {r : Record} (h : IsLatest r inside) (hasRecords : e.hasRecords = true)
      (statusCounts : e.statusCounts = [(r.status, 1)]) (title : e.title = r.title) : Tells inside firstTitle e
  | blank (h : inside = []) (hasRecords : e.hasRecords = false) (statusCounts : e.statusCounts = [])
      (title : firstTitle = some e.title) : Tells inside firstTitle e

/-- The records of a stream in the width from a place on. -/
def inside (rs : List Record) (stream : String) (width x : Int) : List Record :=
  rs.filter fun r => r.streamId = stream ∧ x ≤ r.timestamp.micros ∧ r.timestamp.micros < x + width

theorem inside_eq_filter (rs : List Record) (stream : String) (width x : Int) : inside rs stream width x =
    (rs.filter fun r => r.streamId = stream).filter fun r =>
      x ≤ r.timestamp.micros ∧ r.timestamp.micros < x + width := by
  unfold inside
  rw [List.filter_filter]
  refine List.filter_congr fun r _ => ?_
  simp only [Bool.decide_and, Bool.and_comm]

/-- What the history of a stream tells of the records: it has one entry for each bucket from the first to the last
one of the stream, and each entry tells of the records in its bucket. -/
structure StreamReport.Tells (rs : List Record) (interval : Duration) (anchor : Instant) (report : StreamReport) :
    Prop where
  intervals : ∃ (first last : Record) (count : Nat),
    first ∈ rs ∧ first.streamId = report.streamId ∧ last ∈ rs ∧ last.streamId = report.streamId ∧
    (∀ r ∈ rs, r.streamId = report.streamId →
      startOf interval anchor first ≤ startOf interval anchor r ∧
      startOf interval anchor r ≤ startOf interval anchor last) ∧
    startOf interval anchor last = startOf interval anchor first + count * interval.micros ∧
    report.entries.map (fun e => e.interval.micros) =
      stepsOf interval.micros (startOf interval anchor first) (count + 1)
  entries : ∀ e ∈ report.entries,
    e.Tells (inside rs report.streamId interval.micros e.interval.micros) (report.entries.head?.map (·.title))

section Histories

variable {interval : Duration} {anchor : Instant} {rs : List Record}

/-- The representatives of records in their order. -/
def sortedReps (interval : Duration) (anchor : Instant) (rs : List Record) : List Representative :=
  ((groups interval anchor rs).map .ofGroup).mergeSort Representative.notAfter

/-- The entries of the representatives of a stream. -/
def entriesOf (interval : Duration) (anchor : Instant) (rs : List Record) (stream : String) : List StreamEntry :=
  ((sortedReps interval anchor rs).filter fun r => r.streamId = stream).map Representative.entry

/-! ### The entries of a stream -/

theorem mem_sortedReps {rep : Representative} : rep ∈ sortedReps interval anchor rs ↔
    ∃ g ∈ groups interval anchor rs, Representative.ofGroup g = rep := by
  unfold sortedReps
  rw [(List.mergeSort_perm _ _).mem_iff, List.mem_map]

theorem mem_entriesOf {stream : String} {e : StreamEntry} : e ∈ entriesOf interval anchor rs stream ↔
    ∃ b r, ((stream, b), r) ∈ groups interval anchor rs ∧ e = ⟨b, r.title, [(r.status, 1)], true⟩ := by
  unfold entriesOf
  rw [List.mem_map]
  constructor
  · rintro ⟨rep, hrep, rfl⟩
    obtain ⟨hrep, hstream⟩ := List.mem_filter.mp hrep
    obtain ⟨⟨⟨s, b⟩, r⟩, hg, rfl⟩ := mem_sortedReps.mp hrep
    obtain rfl : s = stream := of_decide_eq_true hstream
    exact ⟨b, r, hg, rfl⟩
  · rintro ⟨b, r, hg, rfl⟩
    refine ⟨.ofGroup ((stream, b), r), List.mem_filter.mpr ⟨mem_sortedReps.mpr ⟨_, hg, rfl⟩, ?_⟩, rfl⟩
    exact decide_eq_true rfl

/-- Each bucket of the records of a stream has an entry, and each entry stands in such a bucket. -/
theorem mem_intervals {stream : String} {b : Instant} :
    b ∈ (entriesOf interval anchor rs stream).map StreamEntry.interval ↔
      ∃ r ∈ rs, r.streamId = stream ∧ bucketAt interval anchor r = b := by
  have hkeys : (stream, b) ∈ Keyed.keys (groups interval anchor rs) ↔ _ := mem_keys_groups
  constructor
  · intro h
    obtain ⟨e, he, rfl⟩ := List.mem_map.mp h
    obtain ⟨b, r, hg, rfl⟩ := mem_entriesOf.mp he
    obtain ⟨q, hq, hkey⟩ := mem_keys_groups.mp (List.mem_map_of_mem hg)
    obtain ⟨hs, hb⟩ := Prod.mk.inj hkey
    exact ⟨q, hq, hs, hb⟩
  · rintro ⟨r, hr, hs, hb⟩
    obtain ⟨g, hg, hkey⟩ := List.mem_map.mp (hkeys.mpr ⟨r, hr, by rw [keyOf, hs, hb]⟩)
    obtain ⟨k, q⟩ := g
    obtain rfl : k = (stream, b) := hkey
    exact List.mem_map.mpr ⟨_, mem_entriesOf.mpr ⟨b, q, hg, rfl⟩, rfl⟩

/-- No stream has two representatives in one bucket. -/
theorem nodup_sortedReps : ((sortedReps interval anchor rs).map fun r => (r.streamId, r.interval)).Nodup := by
  have hperm : ((sortedReps interval anchor rs).map fun r => (r.streamId, r.interval)).Perm
      (((groups interval anchor rs).map Representative.ofGroup).map fun r => (r.streamId, r.interval)) :=
    (List.mergeSort_perm _ _).map _
  refine hperm.nodup_iff.mpr ?_
  rw [List.map_map]
  exact nodup_keys_groups rs

theorem nodup_intervals (stream : String) :
    ((entriesOf interval anchor rs stream).map StreamEntry.interval).Nodup := by
  have hfilter : (((sortedReps interval anchor rs).filter fun r => r.streamId = stream).map fun r =>
      (r.streamId, r.interval)).Nodup := nodup_sortedReps.sublist (List.filter_sublist.map _)
  have hstream : ((sortedReps interval anchor rs).filter fun r => r.streamId = stream).map
      (fun r => (r.streamId, r.interval)) =
      ((entriesOf interval anchor rs stream).map StreamEntry.interval).map fun b => (stream, b) := by
    unfold entriesOf
    rw [List.map_map, List.map_map]
    refine List.map_congr_left fun r hr => ?_
    have hs : r.streamId = stream := of_decide_eq_true (List.mem_filter.mp hr).2
    rw [hs]
    rfl
  rw [hstream] at hfilter
  exact hfilter.of_map _

theorem hasRecords_of_mem_entriesOf {stream : String} {e : StreamEntry}
    (he : e ∈ entriesOf interval anchor rs stream) : e.hasRecords = true := by
  obtain ⟨b, r, -, rfl⟩ := mem_entriesOf.mp he
  rfl

/-! ### Entries and the grid -/

/-- A record is counted under a bucket of the grid if it lies in the width from it on. -/
theorem keyOf_eq_iff (hinterval : 0 < interval.micros) {r : Record} (hr : Reaches interval anchor r)
    {stream : String} {b : Instant} (hb : OnGrid interval.micros anchor.micros b.micros) :
    keyOf interval anchor r = (stream, b) ↔
      r.streamId = stream ∧ b.micros ≤ r.timestamp.micros ∧ r.timestamp.micros < b.micros + interval.micros := by
  have hstart : bucketAt interval anchor r = b ↔ startOf interval anchor r = b.micros := by
    rw [← micros_bucketAt hinterval hr]
    exact ⟨congrArg Instant.micros, Instant.eq_of_micros⟩
  unfold keyOf
  rw [Prod.mk.injEq, hstart, startOf, bucketStart_eq_iff hinterval hb]

/-- Items in the buckets of some records are filled from the first to the last bucket of these records. -/
theorem Filled.spans {α : Type} {place : α → Instant} {blank : α → Instant → α} {x : α} {xs filled : List α}
    (hfilled : Filled place blank interval.micros (x :: xs) (earliest place x xs) (latestPlace place x xs) filled)
    {among : Record → Prop}
    (hrecord : ∀ y ∈ x :: xs, ∃ r, among r ∧ (place y).micros = startOf interval anchor r)
    (hitem : ∀ r, among r → ∃ y ∈ x :: xs, (place y).micros = startOf interval anchor r) :
    ∃ (first last : Record) (count : Nat), among first ∧ among last ∧
      (∀ r, among r → startOf interval anchor first ≤ startOf interval anchor r ∧
        startOf interval anchor r ≤ startOf interval anchor last) ∧
      startOf interval anchor last = startOf interval anchor first + count * interval.micros ∧
      filled.map (fun y => (place y).micros) =
        stepsOf interval.micros (startOf interval anchor first) (count + 1) := by
  obtain ⟨hfirst, hearliest⟩ := earliest_spec place x xs
  obtain ⟨⟨y, hy, hylast⟩, hlatest⟩ := latestPlace_spec place x xs
  obtain ⟨count, hcount, hplaces⟩ := hfilled.places
  obtain ⟨first, hfirstAmong, hfirstMicros⟩ := hrecord _ hfirst
  obtain ⟨last, hlastAmong, hlastMicros⟩ := hrecord y hy
  rw [hylast, hlastMicros, hfirstMicros] at hcount
  rw [hfirstMicros] at hplaces
  refine ⟨first, last, count, hfirstAmong, hlastAmong, fun r hr => ?_, hcount, hplaces⟩
  obtain ⟨z, hz, hmicros⟩ := hitem r hr
  have hle := hearliest z hz
  have hge := hlatest z hz
  rw [hylast] at hge
  omega

section Reached

variable (hinterval : 0 < interval.micros) (hrs : ∀ r ∈ rs, Reaches interval anchor r)
include hinterval hrs

theorem inside_eq (stream : String) {b : Instant} (hb : OnGrid interval.micros anchor.micros b.micros) :
    inside rs stream interval.micros b.micros = rs.filter fun r => keyOf interval anchor r = (stream, b) := by
  refine List.filter_congr fun r hr => ?_
  rw [decide_eq_decide]
  exact (keyOf_eq_iff hinterval (hrs r hr) hb).symm

/-- The bucket of an entry is the one of a record of the stream. -/
theorem exists_record {stream : String} {e : StreamEntry} (he : e ∈ entriesOf interval anchor rs stream) :
    ∃ r ∈ rs, r.streamId = stream ∧ e.interval.micros = startOf interval anchor r := by
  obtain ⟨r, hr, hs, hb⟩ := mem_intervals.mp (List.mem_map_of_mem he)
  refine ⟨r, hr, hs, ?_⟩
  rw [← hb, micros_bucketAt hinterval (hrs r hr)]

/-- The bucket of a record has an entry of its stream. -/
theorem exists_entry {r : Record} (hr : r ∈ rs) :
    ∃ e ∈ entriesOf interval anchor rs r.streamId, e.interval.micros = startOf interval anchor r := by
  obtain ⟨e, he, hb⟩ := List.mem_map.mp (mem_intervals.mpr ⟨r, hr, rfl, rfl⟩)
  refine ⟨e, he, ?_⟩
  rw [hb, micros_bucketAt hinterval (hrs r hr)]

theorem onGrid_of_mem_entriesOf {stream : String} {e : StreamEntry}
    (he : e ∈ entriesOf interval anchor rs stream) :
    OnGrid interval.micros anchor.micros e.interval.micros := by
  obtain ⟨r, -, -, hmicros⟩ := exists_record hinterval hrs he
  rw [hmicros]
  exact bucketStart_onGrid _ _ _

theorem reaches_of_mem_entriesOf {stream : String} {e : StreamEntry}
    (he : e ∈ entriesOf interval anchor rs stream) : e.interval.micros + interval.micros ≤ lastMicro := by
  obtain ⟨r, hr, -, hmicros⟩ := exists_record hinterval hrs he
  rw [hmicros]
  exact (hrs r hr).2

/-- An entry of a representative is made from the latest record in its bucket. -/
theorem tells_of_mem_entriesOf {stream : String} {e : StreamEntry}
    (he : e ∈ entriesOf interval anchor rs stream) (firstTitle : Option String) :
    e.Tells (inside rs stream interval.micros e.interval.micros) firstTitle := by
  have hgrid := onGrid_of_mem_entriesOf hinterval hrs he
  obtain ⟨b, r, hg, rfl⟩ := mem_entriesOf.mp he
  have hlatest := isLatest_of_mem_groups hg
  rw [← inside_eq hinterval hrs stream hgrid] at hlatest
  exact .latest hlatest rfl rfl rfl

/-- A bucket of the grid without an entry has no records of the stream. -/
theorem inside_eq_nil {stream : String} {b : Instant} (hb : OnGrid interval.micros anchor.micros b.micros)
    (hmissing : b ∉ (entriesOf interval anchor rs stream).map StreamEntry.interval) :
    inside rs stream interval.micros b.micros = [] := by
  rw [inside_eq hinterval hrs stream hb, List.filter_eq_nil_iff]
  intro r hr hkey
  obtain ⟨hs, hbucket⟩ := Prod.mk.inj (of_decide_eq_true hkey)
  exact hmissing (mem_intervals.mpr ⟨r, hr, hs, hbucket⟩)

/-! ### Filling the gaps of a stream -/

section Filled

variable {stream : String} {x : StreamEntry} {xs filled : List StreamEntry}
  (hitems : entriesOf interval anchor rs stream = x :: xs)
  (hfilled : Filled StreamEntry.interval StreamEntry.blank interval.micros (x :: xs)
    (earliest StreamEntry.interval x xs) (latestPlace StreamEntry.interval x xs) filled)
include hitems hfilled

/-- The filled entries reach from the first to the last bucket of the records of the stream. -/
theorem intervals_of_filled : ∃ (first last : Record) (count : Nat),
    first ∈ rs ∧ first.streamId = stream ∧ last ∈ rs ∧ last.streamId = stream ∧
    (∀ r ∈ rs, r.streamId = stream → startOf interval anchor first ≤ startOf interval anchor r ∧
      startOf interval anchor r ≤ startOf interval anchor last) ∧
    startOf interval anchor last = startOf interval anchor first + count * interval.micros ∧
    filled.map (fun e => e.interval.micros) =
      stepsOf interval.micros (startOf interval anchor first) (count + 1) := by
  have hrecord : ∀ e ∈ x :: xs, ∃ r, (r ∈ rs ∧ r.streamId = stream) ∧
      e.interval.micros = startOf interval anchor r := by
    intro e he
    obtain ⟨r, hr, hs, hmicros⟩ := exists_record hinterval hrs (hitems ▸ he)
    exact ⟨r, ⟨hr, hs⟩, hmicros⟩
  have hitem : ∀ r, r ∈ rs ∧ r.streamId = stream →
      ∃ e ∈ x :: xs, e.interval.micros = startOf interval anchor r := by
    rintro r ⟨hr, rfl⟩
    rw [← hitems]
    exact exists_entry hinterval hrs hr
  obtain ⟨first, last, count, ⟨hfirst, hfirstStream⟩, ⟨hlast, hlastStream⟩, hbetween, hcount, hplaces⟩ :=
    hfilled.spans hrecord hitem
  exact ⟨first, last, count, hfirst, hfirstStream, hlast, hlastStream, fun r hr hs => hbetween r ⟨hr, hs⟩,
    hcount, hplaces⟩

/-- Each of the filled entries tells of the records in its bucket. -/
theorem tells_of_filled {e : StreamEntry} (he : e ∈ filled) :
    e.Tells (inside rs stream interval.micros e.interval.micros) (filled.head?.map (·.title)) := by
  obtain ⟨hfirst, -⟩ := earliest_spec StreamEntry.interval x xs
  obtain ⟨count, -, hplaces⟩ := hfilled.places
  obtain ⟨missing, hmissing, hperm⟩ := hfilled.perm
  rcases List.mem_append.mp (hperm.mem_iff.mp he) with hitem | hblank
  · exact tells_of_mem_entriesOf hinterval hrs (hitems ▸ hitem) _
  · obtain ⟨t, ht, rfl⟩ := List.mem_map.mp hblank
    -- the places of filled entries are on the grid
    have hstep : t.micros ∈ filled.map fun e => e.interval.micros := List.mem_map_of_mem he
    rw [hplaces] at hstep
    obtain ⟨k, -, hk⟩ := mem_stepsOf.mp hstep
    have hgrid : OnGrid interval.micros anchor.micros t.micros := by
      rw [hk]
      exact (onGrid_of_mem_entriesOf hinterval hrs (hitems ▸ hfirst)).add k
    have hnone := hmissing t ht
    rw [← hitems] at hnone
    refine .blank (inside_eq_nil hinterval hrs hgrid hnone) rfl rfl ?_
    rw [hfilled.head]
    rfl

omit hinterval hrs hitems in
/-- Filling adds no entry that had records. -/
theorem countP_of_filled (hall : ∀ e ∈ x :: xs, e.hasRecords = true) :
    filled.countP StreamEntry.hasRecords = (x :: xs).length := by
  obtain ⟨missing, -, hperm⟩ := hfilled.perm
  have hblank : (missing.map (StreamEntry.blank (earliest StreamEntry.interval x xs))).countP
      StreamEntry.hasRecords = 0 := by
    refine List.countP_eq_zero.mpr fun e he => ?_
    obtain ⟨t, -, rfl⟩ := List.mem_map.mp he
    exact Bool.false_ne_true
  rw [hperm.countP_eq, List.countP_append, hblank, List.countP_eq_length.mpr hall, Nat.add_zero]

end Filled

/-- The entries of a stream of the records can be filled. -/
theorem fillGaps_filled {stream : String} (hstream : ∃ r ∈ rs, r.streamId = stream) :
    ∃ x xs filled, entriesOf interval anchor rs stream = x :: xs ∧
      StreamReport.fillGaps interval ⟨stream, entriesOf interval anchor rs stream⟩ = .ok ⟨stream, filled⟩ ∧
      Filled StreamEntry.interval StreamEntry.blank interval.micros (x :: xs)
        (earliest StreamEntry.interval x xs) (latestPlace StreamEntry.interval x xs) filled := by
  have hgrid : ∀ e ∈ entriesOf interval anchor rs stream, OnGrid interval.micros anchor.micros e.interval.micros :=
    fun _ he => onGrid_of_mem_entriesOf hinterval hrs he
  have hlast : ∀ e ∈ entriesOf interval anchor rs stream, e.interval.micros + interval.micros ≤ lastMicro :=
    fun _ he => reaches_of_mem_entriesOf hinterval hrs he
  have hnodup : ((entriesOf interval anchor rs stream).map StreamEntry.interval).Nodup := nodup_intervals stream
  cases hitems : entriesOf interval anchor rs stream with
  | nil =>
    obtain ⟨r, hr, rfl⟩ := hstream
    obtain ⟨e, he, -⟩ := exists_entry hinterval hrs hr
    rw [hitems] at he
    cases he
  | cons x xs =>
    rw [hitems] at hgrid hlast hnodup
    have hblank : ∀ (e : StreamEntry) (t : Instant), (e.blank t).interval = t := fun _ _ => rfl
    obtain ⟨filled, hfill, hfilled⟩ := fill_spec hblank hinterval hgrid hnodup hlast
    refine ⟨x, xs, filled, rfl, ?_, hfilled⟩
    unfold StreamReport.fillGaps
    rw [hfill]
    rfl

/-- **The gaps of a stream are filled, and its history tells of its records.** -/
theorem fillGaps_tells {stream : String} (hstream : ∃ r ∈ rs, r.streamId = stream) :
    ∃ report, StreamReport.fillGaps interval ⟨stream, entriesOf interval anchor rs stream⟩ = .ok report ∧
      report.streamId = stream ∧ report.Tells rs interval anchor ∧
      report.entries.countP StreamEntry.hasRecords = (entriesOf interval anchor rs stream).length := by
  obtain ⟨x, xs, filled, hitems, hfill, hfilled⟩ := fillGaps_filled hinterval hrs hstream
  have hall : ∀ e ∈ x :: xs, e.hasRecords = true := fun _ he => hasRecords_of_mem_entriesOf (hitems ▸ he)
  refine ⟨⟨stream, filled⟩, hfill, rfl, ⟨intervals_of_filled hinterval hrs hitems hfilled, fun e he => ?_⟩, ?_⟩
  · exact tells_of_filled hinterval hrs hitems hfilled he
  · rw [hitems]
    exact countP_of_filled hfilled hall

end Reached

/-! ### All streams -/

/-- The entries of all streams, each stream with its own. -/
def perStream (interval : Duration) (anchor : Instant) (rs : List Record) : Keyed String (List StreamEntry) :=
  Keyed.gather ((sortedReps interval anchor rs).map fun r => (r.streamId, r.entry))

theorem entriesOf_of_mem {s : String × List StreamEntry} (hs : s ∈ perStream interval anchor rs) :
    s.2 = entriesOf interval anchor rs s.1 := by
  rw [Keyed.mem_gather hs]
  unfold Keyed.valuesOf entriesOf
  rw [List.filter_map, List.map_map]
  rfl

/-- The streams are those of the records. -/
theorem mem_keys_perStream {stream : String} :
    stream ∈ Keyed.keys (perStream interval anchor rs) ↔ ∃ r ∈ rs, r.streamId = stream := by
  unfold perStream Keyed.gather
  rw [Keyed.mem_keys_collect, List.map_map, List.mem_map]
  constructor
  · rintro ⟨rep, hrep, rfl⟩
    obtain ⟨g, hg, rfl⟩ := mem_sortedReps.mp hrep
    obtain ⟨r, hr, hkey⟩ := mem_keys_groups.mp (List.mem_map_of_mem hg)
    exact ⟨r, hr, (congrArg Prod.fst hkey :)⟩
  · rintro ⟨r, hr, rfl⟩
    obtain ⟨g, hg, hkey⟩ := List.mem_map.mp (mem_keys_groups.mpr ⟨r, hr, rfl⟩)
    exact ⟨.ofGroup g, mem_sortedReps.mpr ⟨g, hg, rfl⟩, (congrArg Prod.fst hkey :)⟩

/-- The streams stand in ascending order: their representatives do, and no stream is there twice. -/
theorem keys_perStream_ascending : (Keyed.keys (perStream interval anchor rs)).Pairwise (· < ·) := by
  have hsub := Keyed.keys_collect_sublist (fun e : StreamEntry => [e]) (fun es e => es ++ [e])
    ((sortedReps interval anchor rs).map fun r => (r.streamId, r.entry))
  rw [List.map_map] at hsub
  have hle : (Keyed.keys (perStream interval anchor rs)).Pairwise (· ≤ ·) :=
    (List.pairwise_map.mpr (streams_sorted _)).sublist hsub
  have hnodup : (Keyed.keys (perStream interval anchor rs)).Nodup := Keyed.nodup_keys_collect _ _ _
  exact ascending_of_nodup hle hnodup

/-- There are as many groups as streams and buckets of the records. -/
theorem length_groups (hinterval : 0 < interval.micros) (hrs : ∀ r ∈ rs, Reaches interval anchor r) :
    (groups interval anchor rs).length =
      (rs.map fun r => (r.streamId, startOf interval anchor r)).dedup.length := by
  have hinjective : Function.Injective fun k : String × Instant => (k.1, k.2.micros) := by
    intro k l hkl
    obtain ⟨h1, h2⟩ := Prod.mk.inj hkl
    exact Prod.ext h1 (Instant.eq_of_micros h2)
  have hnodup : ((Keyed.keys (groups interval anchor rs)).map fun k => (k.1, k.2.micros)).Nodup :=
    (nodup_keys_groups rs).map hinjective
  have hperm : ((Keyed.keys (groups interval anchor rs)).map fun k => (k.1, k.2.micros)).Perm
      (rs.map fun r => (r.streamId, startOf interval anchor r)).dedup := by
    refine (List.perm_ext_iff_of_nodup hnodup (List.nodup_dedup _)).mpr fun p => ?_
    rw [List.mem_dedup, List.mem_map, List.mem_map]
    constructor
    · rintro ⟨k, hk, rfl⟩
      obtain ⟨r, hr, rfl⟩ := mem_keys_groups.mp hk
      exact ⟨r, hr, by rw [keyOf, micros_bucketAt hinterval (hrs r hr)]⟩
    · rintro ⟨r, hr, rfl⟩
      exact ⟨keyOf interval anchor r, mem_keys_groups.mpr ⟨r, hr, rfl⟩,
        by rw [keyOf, micros_bucketAt hinterval (hrs r hr)]⟩
  have hlength := hperm.length_eq
  unfold Keyed.keys at hlength
  rwa [List.length_map, List.length_map] at hlength

theorem totalRecords_of_forall₂ {entries : Keyed String (List StreamEntry)} {reports : List StreamReport}
    (h : List.Forall₂ (fun s report => report.entries.countP StreamEntry.hasRecords = s.2.length)
      entries reports) : totalRecords reports = (entries.flatMap Prod.snd).length := by
  induction h with
  | nil => rfl
  | cons hs _ ih =>
    unfold totalRecords at ih ⊢
    rw [List.flatMap_cons, List.countP_append, hs, ih, List.flatMap_cons, List.length_append]

theorem streams_of_forall₂ {entries : Keyed String (List StreamEntry)} {reports : List StreamReport}
    (h : List.Forall₂ (fun s report => report.streamId = s.1) entries reports) :
    reports.map StreamReport.streamId = Keyed.keys entries := by
  induction h with
  | nil => rfl
  | cons hs _ ih => rw [List.map_cons, hs, ih, Keyed.keys_cons]

/-- A history is the one of a stream: it has the entries of the stream and some that fill gaps, and tells of the
records. -/
structure IsHistoryOf (interval : Duration) (anchor : Instant) (rs : List Record) (stream : String)
    (report : StreamReport) : Prop where
  streamId : report.streamId = stream
  entries : ∃ first missing,
    report.entries.Perm (entriesOf interval anchor rs stream ++ List.map (StreamEntry.blank first) missing)
  tells : report.Tells rs interval anchor

/-- There is a history of each stream, and in all they have one entry with records for each representative. -/
theorem histories_filled (hinterval : 0 < interval.micros) (hrs : ∀ r ∈ rs, Reaches interval anchor r) :
    ∃ reports, histories rs interval anchor = .ok reports ∧
      List.Forall₂ (fun s report => IsHistoryOf interval anchor rs s.1 report) (perStream interval anchor rs)
        reports ∧
      totalRecords reports = (sortedReps interval anchor rs).length := by
  have hfill : ∀ s ∈ perStream interval anchor rs, ∃ report,
      StreamReport.fillGaps interval ⟨s.1, s.2⟩ = .ok report ∧
        IsHistoryOf interval anchor rs s.1 report ∧
        report.entries.countP StreamEntry.hasRecords = s.2.length := by
    intro s hs
    have hstream : ∃ r ∈ rs, r.streamId = s.1 := mem_keys_perStream.mp (List.mem_map_of_mem hs)
    obtain ⟨report, hreport, hid, htells, hcount⟩ := fillGaps_tells hinterval hrs hstream
    obtain ⟨x, xs, filled, hitems, hfill, hfilled⟩ := fillGaps_filled hinterval hrs hstream
    obtain rfl := Except.ok.inj (hreport.symm.trans hfill)
    obtain ⟨missing, -, hperm⟩ := hfilled.perm
    rw [← hitems] at hperm
    rw [entriesOf_of_mem hs]
    exact ⟨_, hreport, ⟨hid, ⟨_, missing, hperm⟩, htells⟩, hcount⟩
  obtain ⟨reports, hreports, hall⟩ := mapM_forall₂ hfill
  refine ⟨reports, ?_, hall.imp fun _ _ h => h.1, ?_⟩
  · unfold histories
    rw [reduce_eq hinterval hrs]
    exact hreports
  · rw [totalRecords_of_forall₂ (hall.imp fun _ _ h => h.2), perStream, Keyed.length_values_gather, List.length_map]

/-- Histories of records: one for each stream, in ascending order of the streams, and each tells of the records. -/
structure AreHistoriesOf (interval : Duration) (anchor : Instant) (rs : List Record) (reports : List StreamReport) :
    Prop where
  ascending : (reports.map StreamReport.streamId).Pairwise (· < ·)
  streams : ∀ stream, stream ∈ reports.map StreamReport.streamId ↔ ∃ r ∈ rs, r.streamId = stream
  tells : ∀ report ∈ reports, report.Tells rs interval anchor

/-- The histories of the single streams are those of the records. -/
theorem areHistoriesOf_of_forall₂ {reports : List StreamReport}
    (hall : List.Forall₂ (fun s report => IsHistoryOf interval anchor rs s.1 report) (perStream interval anchor rs)
      reports) : AreHistoriesOf interval anchor rs reports := by
  have hstreams := streams_of_forall₂ (hall.imp fun _ _ h => h.streamId)
  refine ⟨?_, fun stream => ?_, fun report hreport => ?_⟩
  · rw [hstreams]
    exact keys_perStream_ascending
  · rw [hstreams]
    exact mem_keys_perStream
  · obtain ⟨s, -, hs⟩ := exists_of_mem_left hall.flip hreport
    exact hs.tells

/-- **Histories tell of the records.**  Let the width be positive, and let the calendar reach the buckets of all
records and the ones after them.  Then there is one history for each stream of the records, in strictly ascending
order of the streams; each history has one entry for each bucket from the first to the last one of its stream,
which tells of the records in that bucket; and there are as many entries with records as there are pairs of a
stream and a bucket. -/
theorem histories_tell (rs : List Record) (interval : Duration) (anchor : Instant) (hinterval : 0 < interval.micros)
    (hrs : ∀ r ∈ rs, Reaches interval anchor r) :
    ∃ reports, histories rs interval anchor = .ok reports ∧
      (reports.map StreamReport.streamId).Pairwise (· < ·) ∧
      (∀ stream, stream ∈ reports.map StreamReport.streamId ↔ ∃ r ∈ rs, r.streamId = stream) ∧
      (∀ report ∈ reports, report.Tells rs interval anchor) ∧
      totalRecords reports = (rs.map fun r => (r.streamId, startOf interval anchor r)).dedup.length := by
  obtain ⟨reports, hreports, hall, htotal⟩ := histories_filled hinterval hrs
  have hthese := areHistoriesOf_of_forall₂ hall
  refine ⟨reports, hreports, hthese.ascending, hthese.streams, hthese.tells, ?_⟩
  rw [htotal, sortedReps, List.length_mergeSort, List.length_map, length_groups hinterval hrs]

end Histories

/-- A width of one hour. -/
def hour : Duration := ⟨3600000000, by decide⟩

/-- Half an hour after the start of 1970. -/
def halfPast : Instant := ⟨1800000000, by decide⟩

/-- Records before and after that: two equally late ones of a stream in one bucket, one in a bucket two hours
later, and one of another stream. -/
def sightings : List Record := [
  ⟨"web", ⟨7260000000, by decide⟩, "satisfied", "late", [], none⟩,
  ⟨"web", ⟨-60000000, by decide⟩, "satisfied", "early", [], none⟩,
  ⟨"db", .epoch, "not-satisfied", "other", [], none⟩,
  ⟨"web", ⟨-60000000, by decide⟩, "not-satisfied", "early again", [], none⟩]

theorem histories_tell_sightings : ∃ reports, histories sightings hour halfPast = .ok reports ∧
    (reports.map StreamReport.streamId).Pairwise (· < ·) ∧ "db" ∈ reports.map StreamReport.streamId ∧
    (∀ report ∈ reports, report.Tells sightings hour halfPast) ∧ totalRecords reports = 3 := by
  have hreaches : ∀ r ∈ sightings, Reaches hour halfPast r := by
    intro r hr
    simp only [sightings, List.mem_cons, List.not_mem_nil, or_false] at hr
    rcases hr with rfl | rfl | rfl | rfl
    all_goals exact ⟨by decide, by decide⟩
  obtain ⟨reports, hreports, hascending, hstreams, htells, htotal⟩ :=
    histories_tell sightings hour halfPast (by decide) hreaches
  refine ⟨reports, hreports, hascending, (hstreams "db").mpr ⟨_, List.mem_of_getElem? (i := 2) rfl, rfl⟩,
    htells, ?_⟩
  rw [htotal]
  decide +kernel

end ComplianceHistory.Report
