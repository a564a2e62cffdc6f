import ComplianceHistory.Proofs.Report.Streams

/-!
# Histories of more records

Records that are added behind others may lie anywhere in time, so the order of time of all records changes, and so do
the ends of a history and the titles of its blank entries.  What was told of a bucket with records stays, unless a
record was added to that bucket that is not earlier than the one the entry was made from; and a stream without added
records keeps its history (`histories_append`).
-/

namespace ComplianceHistory.Report

open Time

/-! ### The latest of appended records -/

section Latest

variable {r q : Record} {rs qs : List Record}

/-- A list of records has a latest one. -/
theorem exists_isLatest (h : rs ≠ []) : ∃ r, IsLatest r rs := by
  induction rs with
  | nil => exact absurd rfl h
  | cons q rs ih =>
    by_cases hrs : rs = []
    · subst hrs
      exact ⟨q, .head fun p hp => absurd hp List.not_mem_nil⟩
    · obtain ⟨r, hr⟩ := ih hrs
      by_cases hq : q.timestamp.micros ≤ r.timestamp.micros
      · exact ⟨r, hr.cons hq⟩
      · refine ⟨q, .head fun p hp => ?_⟩
        have := hr.le hp
        omega

/-- The latest record stays it, if all records behind are earlier. -/
theorem IsLatest.append_of_lt (h : IsLatest r rs) (hqs : ∀ q ∈ qs, q.timestamp.micros < r.timestamp.micros) :
    IsLatest r (rs ++ qs) := by
  obtain ⟨before, after, rfl, hbefore, hafter⟩ := h
  refine ⟨before, after ++ qs, by rw [List.append_assoc, List.cons_append], hbefore, fun p hp => ?_⟩
  rcases List.mem_append.mp hp with hp | hp
  · exact hafter p hp
  · exact hqs p hp

/-- The latest of the records behind is the latest of all, if no record in front is later. -/
theorem IsLatest.append_of_le (h : IsLatest q qs) (hrs : ∀ r ∈ rs, r.timestamp.micros ≤ q.timestamp.micros) :
    IsLatest q (rs ++ qs) := by
  obtain ⟨before, after, rfl, hbefore, hafter⟩ := h
  refine ⟨rs ++ before, after, by rw [List.append_assoc], fun p hp => ?_, hafter⟩
  rcases List.mem_append.mp hp with hp | hp
  · exact hrs p hp
  · exact hbefore p hp

theorem inside_append (stream : String) (width x : Int) :
    inside (rs ++ qs) stream width x = inside rs stream width x ++ inside qs stream width x :=
  List.filter_append _ _

end Latest

/-! ### Entries with more records -/

/-- What becomes of an entry that was made from the latest of some records in its bucket, when records are added to
the bucket: it stays as it was if all of them are earlier, and else it is made from the latest of the added ones. -/
structure StreamEntry.Follows (told added : List Record) (e e' : StreamEntry) : Prop where
  interval : e'.interval = e.interval
  hasRecords : e'.hasRecords = true
  content : ∃ r, IsLatest r told ∧ e.title = r.title ∧ e.statusCounts = [(r.status, 1)] ∧
    ((∀ q ∈ added, q.timestamp.micros < r.timestamp.micros) →
      e'.title = e.title ∧ e'.statusCounts = e.statusCounts) ∧
    ((∃ q ∈ added, r.timestamp.micros ≤ q.timestamp.micros) →
      ∃ q, IsLatest q added ∧ e'.title = q.title ∧ e'.statusCounts = [(q.status, 1)])

/-- An entry that tells of the records of a bucket is followed by one that tells also of the added ones. -/
theorem StreamEntry.Tells.follows {told added : List Record} {title title' : Option String} {e e' : StreamEntry}
    (h : e.Tells told title) (hrecords : e.hasRecords = true) (h' : e'.Tells (told ++ added) title')
    (hinterval : e'.interval = e.interval) : e.Follows told added e' := by
  cases h with
  | blank _ hblank =>
    rw [hrecords] at hblank
    cases hblank
  | @latest r hr _ hcounts htitle =>
    obtain ⟨p, hp, hhas, hcounts', htitle'⟩ := h'.made (List.append_ne_nil_of_left_ne_nil hr.ne_nil _)
    refine ⟨hinterval, hhas, r, hr, htitle, hcounts, fun hearlier => ?_, fun ⟨q, hq, hle⟩ => ?_⟩
    · obtain rfl := hp.unique (hr.append_of_lt hearlier)
      exact ⟨htitle'.trans htitle.symm, hcounts'.trans hcounts.symm⟩
    · obtain ⟨l, hl⟩ := exists_isLatest (List.ne_nil_of_mem hq)
      -- no record that was told of before is later than the latest added one
      have hlast : IsLatest l (told ++ added) := by
        refine hl.append_of_le fun s hs => ?_
        have h1 := hr.le hs
        have h2 := hl.le hq
        omega
      obtain rfl := hp.unique hlast
      exact ⟨p, hl, htitle', hcounts'⟩

section Histories

variable {interval : Duration} {anchor : Instant}

/-- **Histories of more records.**  Let the width be positive, and let the calendar reach the buckets of all records
and the ones after them.  When records are added behind others, each entry with records of a history is followed, in
the history of the same stream, by an entry with records at the same place, which stays as it was unless an added
record of the stream in that bucket is not earlier than the record it was made from, and then is made from the latest
of these; and every stream without an added record has the same history as before, or none as before. -/
theorem histories_append (old new : List Record) (hinterval : 0 < interval.micros)
    (hrs : ∀ r ∈ old ++ new, Reaches interval anchor r) :
    ∃ before after, histories old interval anchor = .ok before ∧ histories (old ++ new) interval anchor = .ok after ∧
      (∀ report ∈ before, ∀ e ∈ report.entries, e.hasRecords = true →
        ∃ report' ∈ after, report'.streamId = report.streamId ∧ ∃ e' ∈ report'.entries,
          e.Follows (inside old report.streamId interval.micros e.interval.micros)
            (inside new report.streamId interval.micros e.interval.micros) e') ∧
      ∀ stream, (∀ r ∈ new, r.streamId ≠ stream) → reportsOf stream after = reportsOf stream before := by
  have hold : ∀ r ∈ old, Reaches interval anchor r := fun r hr => hrs r (List.mem_append_left _ hr)
  obtain ⟨before, hbefore, hall⟩ := exists_histories hinterval hold
  obtain ⟨after, hafter, hall'⟩ := exists_histories hinterval hrs
  refine ⟨before, after, hbefore, hafter, fun report hreport e he hrecords => ?_, fun stream hnone => ?_⟩
  · -- the record from which the entry was made is one of all records, too
    have htells := (hall.tells report hreport).entries e he
    obtain ⟨r, hr, hstream, hmicros⟩ := (hall.tells report hreport).exists_record hinterval he hrecords
    have hmem : r ∈ old ++ new := List.mem_append_left _ hr
    obtain ⟨report', hreport', hid⟩ := List.mem_map.mp ((hall'.streams report.streamId).mpr ⟨r, hmem, hstream⟩)
    have htells' := hall'.tells report' hreport'
    obtain ⟨e', he', hmicros'⟩ := htells'.exists_entry hinterval hmem (hstream.trans hid.symm)
    have hplace : e'.interval.micros = e.interval.micros := hmicros'.trans hmicros
    have hentry := htells'.entries e' he'
    rw [hid, hplace, inside_append] at hentry
    exact ⟨report', hreport', hid, e', he', htells.follows hrecords hentry (Instant.eq_of_micros hplace)⟩
  · have hsame : (old ++ new).filter (fun r => r.streamId = stream) = old.filter fun r => r.streamId = stream := by
      have hnew : new.filter (fun r => r.streamId = stream) = [] :=
        List.filter_eq_nil_iff.mpr fun r hr => by simpa using hnone r hr
      rw [List.filter_append, hnew, List.append_nil]
    have h := histories_filter hinterval hold hbefore fun id => id = stream
    have h' := histories_filter hinterval hrs hafter fun id => id = stream
    rw [hsame, h] at h'
    exact (Except.ok.inj h').symm

end Histories

/-- Records that were added later: one that is as late as two of its stream in their bucket, one in the gap of the
stream, and one of a new stream. -/
def laterSightings : List Record := [
  ⟨"web", ⟨-60 * 1000000, by decide⟩, "satisfied", "once more", [], none⟩,
  ⟨"web", ⟨3660 * 1000000, by decide⟩, "satisfied", "between", [], none⟩,
  ⟨"app", .epoch, "satisfied", "new", [], none⟩]

theorem histories_append_sightings : ∃ before after, histories sightings hour halfPast = .ok before ∧
    histories (sightings ++ laterSightings) hour halfPast = .ok after ∧
    (∀ report ∈ before, ∀ e ∈ report.entries, e.hasRecords = true →
      ∃ report' ∈ after, report'.streamId = report.streamId ∧ ∃ e' ∈ report'.entries,
        e.Follows (inside sightings report.streamId hour.micros e.interval.micros)
          (inside laterSightings report.streamId hour.micros e.interval.micros) e') ∧
    reportsOf "db" after = reportsOf "db" before := by
  have hreaches : ∀ r ∈ sightings ++ laterSightings, Reaches hour halfPast r := forall_of_all (by decide +kernel)
  obtain ⟨before, after, hbefore, hafter, hfollows, hsame⟩ :=
    histories_append sightings laterSightings (by decide) hreaches
  exact ⟨before, after, hbefore, hafter, hfollows, hsame "db" (forall_of_all (by decide +kernel))⟩

end ComplianceHistory.Report
