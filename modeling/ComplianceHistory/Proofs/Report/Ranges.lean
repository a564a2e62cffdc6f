import Mathlib.Data.Nat.Find
import ComplianceHistory.Proofs.Report.Gaps
import ComplianceHistory.Report.History

/-!
# Ranges of buckets

A range from one instant to another one holds the steps of one width that do not pass the other (`StepsUpTo`).  The
step that passes it is taken as well, so there is a range if and only if the calendar has such a step (`Passes`); close
to the end of the calendar it has none for some widths (`bucketRange_ends`), not even for a range of one bucket
(`bucketRange_lastDay`).
-/

namespace ComplianceHistory.Report

open Time

/-- An instant that is a whole number of widths behind another one. -/
def IsStep (width : Int) (start t : Instant) : Prop := ∃ k : Nat, t.micros = start.micros + k * width

/-- The steps from one instant on that do not pass another one, in order of time. -/
structure StepsUpTo (width : Int) (earliest latest : Instant) (points : List Instant) : Prop where
  ascending : points.Pairwise fun t u => t.micros < u.micros
  mem_iff : ∀ t, t ∈ points ↔ IsStep width earliest t ∧ t.micros ≤ latest.micros

/-- The calendar has a step from one instant on that passes another one. -/
def Passes (width : Int) (earliest latest : Instant) : Prop :=
  ∃ t, IsStep width earliest t ∧ latest.micros < t.micros

section Steps

variable {width : Int} {earliest latest : Instant}

/-- Some step passes any place; the ones before it do not. -/
theorem exists_count (hwidth : 0 < width) (x y : Int) :
    ∃ count : Nat, (∀ k < count, x + (k : Int) * width ≤ y) ∧ y < x + count * width := by
  have hpast : ∃ count : Nat, y < x + count * width := by
    refine ⟨(y - x).toNat + 1, ?_⟩
    have hle : (((y - x).toNat + 1 : Nat) : Int) * 1 ≤ (((y - x).toNat + 1 : Nat) : Int) * width :=
      Int.mul_le_mul_of_nonneg_left (by omega) (by omega)
    omega
  exact ⟨Nat.find hpast, fun k hk => Int.not_lt.mp (Nat.find_min hpast hk), Nat.find_spec hpast⟩

/-- A step that passes a place comes no earlier than the first one that does. -/
theorem add_mul_le_of_lt (hwidth : 0 < width) {x y : Int} {count k : Nat}
    (hmet : ∀ k < count, x + (k : Int) * width ≤ y) (hk : y < x + k * width) : x + count * width ≤ x + k * width := by
  have hcount : count ≤ k := Nat.le_of_not_lt fun hlt => absurd (hmet k hlt) (by omega)
  have hle : (count : Int) * width ≤ k * width := Int.mul_le_mul_of_nonneg_right (by omega) (by omega)
  omega

theorem stepsUpTo_of_map (hwidth : 0 < width) {count : Nat} {points : List Instant}
    (hmet : ∀ k < count, earliest.micros + (k : Int) * width ≤ latest.micros)
    (hpast : latest.micros < earliest.micros + count * width)
    (hpoints : points.map Instant.micros = stepsOf width earliest.micros count) :
    StepsUpTo width earliest latest points where
  ascending := by
    have hascending := stepsOf_ascending hwidth earliest.micros count
    rw [← hpoints] at hascending
    exact List.pairwise_map.mp hascending
  mem_iff t := by
    have hmem : t ∈ points ↔ t.micros ∈ points.map Instant.micros := by
      refine ⟨List.mem_map_of_mem, fun ht => ?_⟩
      obtain ⟨u, hu, he⟩ := List.mem_map.mp ht
      exact Instant.eq_of_micros he ▸ hu
    rw [hmem, hpoints, mem_stepsOf]
    constructor
    · rintro ⟨k, hk, ht⟩
      exact ⟨⟨k, ht⟩, ht ▸ hmet k hk⟩
    · rintro ⟨⟨k, ht⟩, hle⟩
      refine ⟨k, Nat.lt_of_not_le fun hcount => ?_, ht⟩
      have hmul : (count : Int) * width ≤ k * width := Int.mul_le_mul_of_nonneg_right (by omega) (by omega)
      omega

end Steps

section Ranges

variable {interval : Duration}

theorem bucketRange_eq (hinterval : 0 < interval.micros) (earliest latest : Instant) :
    bucketRange earliest latest interval = stepsFrom ⟨interval.micros, hinterval⟩ latest earliest := by
  unfold bucketRange Width.ofDuration
  rw [dif_pos hinterval]

/-- A range holds the steps up to its end, if the calendar has one that passes it. -/
theorem exists_bucketRange (hinterval : 0 < interval.micros) {earliest latest : Instant}
    (h : Passes interval.micros earliest latest) :
    ∃ points, bucketRange earliest latest interval = .ok points ∧
      StepsUpTo interval.micros earliest latest points := by
  obtain ⟨count, hmet, hpast⟩ := exists_count hinterval earliest.micros latest.micros
  obtain ⟨t, ⟨k, ht⟩, hlt⟩ := h
  have hlast : earliest.micros + count * interval.micros ≤ lastMicro := by
    have hle := add_mul_le_of_lt hinterval hmet (ht ▸ hlt)
    have := t.inRange
    omega
  obtain ⟨points, hpoints, hmicros⟩ := stepsFrom_eq ⟨_, hinterval⟩ hmet hpast hlast
  exact ⟨points, (bucketRange_eq hinterval _ _).trans hpoints, stepsUpTo_of_map hinterval hmet hpast hmicros⟩

/-- There is no range if all steps of the calendar are up to its end. -/
theorem bucketRange_error (hinterval : 0 < interval.micros) {earliest latest : Instant}
    (h : ¬ Passes interval.micros earliest latest) : bucketRange earliest latest interval = .error .outOfRange := by
  obtain ⟨count, hmet, hpast⟩ := exists_count hinterval earliest.micros latest.micros
  rw [bucketRange_eq hinterval]
  refine stepsFrom_error _ hmet (Int.not_le.mp fun hlast => h ?_)
  have hfirst : firstMicro ≤ earliest.micros + count * interval.micros := by
    have := latest.inRange
    omega
  exact ⟨⟨_, hfirst, hlast⟩, ⟨count, rfl⟩, hpast⟩

/-- A step that passes an instant is no more than one width behind it. -/
theorem passes_of_le (hinterval : 0 < interval.micros) (earliest : Instant) {latest : Instant}
    (hlast : latest.micros + interval.micros ≤ lastMicro) : Passes interval.micros earliest latest := by
  obtain ⟨count, hmet, hpast⟩ := exists_count hinterval earliest.micros latest.micros
  have hfirst := latest.inRange
  have hend : earliest.micros + count * interval.micros ≤ lastMicro := by
    cases count with
    | zero =>
      have := earliest.inRange
      omega
    | succ n =>
      have hmet' := hmet n (by omega)
      rw [Int.natCast_succ, Int.add_mul]
      omega
  exact ⟨⟨_, by omega, hend⟩, ⟨count, rfl⟩, hpast⟩

/-- The step behind an instant is the first one that passes it. -/
theorem passes_self_iff (hinterval : 0 < interval.micros) (t : Instant) :
    Passes interval.micros t t ↔ t.micros + interval.micros ≤ lastMicro := by
  constructor
  · rintro ⟨u, ⟨k, hu⟩, hlt⟩
    have hmet : ∀ j : Nat, j < 1 → t.micros + (j : Int) * interval.micros ≤ t.micros := by
      intro j hj
      obtain rfl : j = 0 := by omega
      simp
    have hle := add_mul_le_of_lt hinterval hmet (hu ▸ hlt)
    have := u.inRange
    omega
  · exact passes_of_le hinterval t

end Ranges

/-! ### Filling with a range -/

section Fill

variable {α : Type} {place : α → Instant} {blank : α → Instant → α} {interval : Duration} {x : α} {xs : List α}

theorem fill_error {e : BucketError}
    (h : bucketRange (place (earliest place x xs)) (latestPlace place x xs) interval = .error e) :
    fill place blank interval (x :: xs) = .error e := by
  rw [fill]
  simp only [h]

/-- Items in order of time stay as they are if none is missing. -/
theorem fill_of_complete {points : List Instant}
    (hrange : bucketRange (place (earliest place x xs)) (latestPlace place x xs) interval = .ok points)
    (htaken : ∀ t ∈ points, t ∈ (x :: xs).map place)
    (hsorted : (x :: xs).Pairwise fun a b => (place a).micros ≤ (place b).micros) :
    fill place blank interval (x :: xs) = .ok (x :: xs) := by
  have hnone : (points.filter fun t => !((x :: xs).map place).contains t) = [] := by
    refine List.filter_eq_nil_iff.mpr fun t ht => ?_
    rw [List.contains_iff_mem.mpr (htaken t ht)]
    exact Bool.false_ne_true
  have horder : inOrder place (x :: xs) = x :: xs :=
    List.mergeSort_of_pairwise (hsorted.imp fun h => decide_eq_true h)
  rw [fill]
  simp only [hrange, hnone, List.map_nil, List.append_nil, horder]

end Fill

/-- A history of one entry stays as it is where the step behind the entry is in the calendar, and else there is none. -/
theorem fillGaps_single {interval : Duration} (hinterval : 0 < interval.micros) (stream : String) (e : StreamEntry) :
    StreamReport.fillGaps interval ⟨stream, [e]⟩ =
      if e.interval.micros + interval.micros ≤ lastMicro then .ok ⟨stream, [e]⟩ else .error .outOfRange := by
  unfold StreamReport.fillGaps
  split
  · rename_i hlast
    obtain ⟨points, hrange, hpoints⟩ := exists_bucketRange hinterval ((passes_self_iff hinterval e.interval).mpr hlast)
    have htaken : ∀ t ∈ points, t ∈ [e].map StreamEntry.interval := by
      intro t ht
      obtain ⟨⟨k, hk⟩, hle⟩ := (hpoints.mem_iff t).mp ht
      have hnonneg : 0 ≤ (k : Int) * interval.micros := Int.mul_nonneg (by omega) (by omega)
      have htime : t = e.interval := Instant.eq_of_micros (by omega)
      simp [htime]
    have hfill : fill StreamEntry.interval StreamEntry.blank interval [e] = .ok [e] :=
      fill_of_complete hrange htaken (by simp)
    simp only [hfill]
    rfl
  · rename_i hlast
    have hrange := bucketRange_error hinterval fun h => hlast ((passes_self_iff hinterval e.interval).mp h)
    have hfill : fill StreamEntry.interval StreamEntry.blank interval [e] = .error .outOfRange := fill_error hrange
    simp only [hfill]
    rfl

/-- **Where ranges end.**  Let the width be positive.  If the calendar has a step that passes the end of a range, the
range holds exactly the steps up to its end, in order of time; if it has none, there is no range, because the step
behind the last bucket leaves the calendar.  So a history of one entry is filled, with nothing new, exactly where the
step behind the entry is in the calendar. -/
theorem bucketRange_ends {interval : Duration} (hinterval : 0 < interval.micros) :
    (∀ earliest latest, Passes interval.micros earliest latest →
      ∃ points, bucketRange earliest latest interval = .ok points ∧
        StepsUpTo interval.micros earliest latest points) ∧
    (∀ earliest latest, ¬ Passes interval.micros earliest latest →
      bucketRange earliest latest interval = .error .outOfRange) ∧
    ∀ stream e, StreamReport.fillGaps interval ⟨stream, [e]⟩ =
      if e.interval.micros + interval.micros ≤ lastMicro then .ok ⟨stream, [e]⟩ else .error .outOfRange :=
  ⟨fun _ _ h => exists_bucketRange hinterval h, fun _ _ h => bucketRange_error hinterval h,
    fillGaps_single hinterval⟩

/-- The width of a day. -/
def day : Duration := ⟨86400000000, by decide⟩

/-- The start of the last day of the calendar. -/
def lastDay : Instant := ⟨253402214400000000, by decide⟩

example : lastDay.text = "9999-12-31T00:00:00+00:00" := by decide +kernel

/-- The start of the day before the last one. -/
def dayBefore : Instant := ⟨253402128000000000, by decide⟩

/-- The day before the last one has a range, but not up to the last day. -/
theorem bucketRange_ends_dayBefore :
    (∃ points, bucketRange dayBefore dayBefore day = .ok points ∧ StepsUpTo day.micros dayBefore dayBefore points) ∧
    bucketRange dayBefore lastDay day = .error .outOfRange := by
  have hinterval : 0 < day.micros := by decide
  obtain ⟨hrange, hnone, -⟩ := bucketRange_ends hinterval
  refine ⟨hrange _ _ ⟨lastDay, ⟨1, by decide⟩, by decide⟩, hnone _ _ ?_⟩
  rintro ⟨t, ⟨k, hk⟩, hlt⟩
  have := t.inRange
  simp only [dayBefore, lastDay, day, lastMicro] at *
  omega

/-- **A range of one bucket that is not given.**  The last day of the calendar is the only step of a day up to itself,
but the step behind it leaves the calendar; so there is neither the range, nor a history of one entry on that day. -/
theorem bucketRange_lastDay :
    0 < day.micros ∧ StepsUpTo day.micros lastDay lastDay [lastDay] ∧
    bucketRange lastDay lastDay day = .error .outOfRange ∧
    StreamReport.fillGaps day ⟨"s1", [⟨lastDay, "t", [], true⟩]⟩ = .error .outOfRange := by
  have hinterval : 0 < day.micros := by decide
  have hlast : ¬ lastDay.micros + day.micros ≤ lastMicro := by decide
  refine ⟨hinterval, ⟨List.pairwise_singleton _ _, fun t => ?_⟩, ?_, ?_⟩
  · rw [List.mem_singleton]
    constructor
    · rintro rfl
      exact ⟨⟨0, by decide⟩, Int.le_refl _⟩
    · rintro ⟨⟨k, hk⟩, hle⟩
      have hnonneg : 0 ≤ (k : Int) * day.micros := Int.mul_nonneg (by omega) (by omega)
      exact Instant.eq_of_micros (by omega)
  · exact bucketRange_error hinterval fun h => hlast ((passes_self_iff hinterval lastDay).mp h)
  · rw [fillGaps_single hinterval, if_neg hlast]

end ComplianceHistory.Report
