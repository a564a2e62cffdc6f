import Mathlib.Logic.ExistsUnique
import ComplianceHistory.Proofs.Report.Grid

/-!
# The bucket of an instant

Every instant, before or behind the anchor, lies in the width behind exactly one place of the grid, its floor
(`isFloor_iff`).  The bucket of the instant is its floor where the calendar has it (`bucketOf_eq_ok_iff`); where the
floor lies before the first instant there is no bucket, and nothing else goes wrong (`bucketOf_eq_error_iff`).  What
is usual for rounding down follows from the floor: later instants have no earlier bucket, a bucket is its own bucket,
and only the grid of the anchor counts (`bucketOf_floors`).
-/

namespace ComplianceHistory.Report

open Time

/-- Anchors that are a whole number of widths apart. -/
def SameGrid (width : Int) (anchor anchor' : Instant) : Prop := OnGrid width anchor.micros anchor'.micros

theorem SameGrid.refl (width : Int) (anchor : Instant) : SameGrid width anchor anchor := ⟨0, by omega⟩

/-- The start of a bucket depends on the grid only, whatever the width: a remainder is left by steps of the width. -/
theorem bucketStart_congr {width anchor anchor' : Int} (h : OnGrid width anchor anchor') (t : Int) :
    bucketStart width anchor' t = bucketStart width anchor t := by
  obtain ⟨k, rfl⟩ := h
  have hsteps : t - (anchor + k * width) = t - anchor + width * -k := by
    rw [Int.mul_neg, Int.mul_comm width k]
    omega
  unfold bucketStart
  rw [hsteps, Int.add_mul_fmod_self_left]

/-- The bucket of an instant depends on the grid only, with its faults. -/
theorem bucketOf_congr {interval : Duration} {anchor anchor' : Instant}
    (h : SameGrid interval.micros anchor anchor') (t : Instant) :
    bucketOf t interval anchor' = bucketOf t interval anchor := by
  by_cases hpos : 0 < interval.micros
  · rw [bucketOf_of_pos hpos, bucketOf_of_pos hpos]
    exact congrArg instantOf (bucketStart_congr h t.micros)
  · unfold bucketOf Width.ofDuration
    rw [dif_neg hpos]

/-! ### Floors -/

/-- A place on the grid from which on one width holds the instant; the calendar need not have it. -/
structure IsFloor (width anchor t x : Int) : Prop where
  onGrid : OnGrid width anchor x
  le : x ≤ t
  lt_add : t < x + width

section Floor

variable {width anchor t x : Int}

theorem isFloor_bucketStart (hwidth : 0 < width) (anchor t : Int) :
    IsFloor width anchor t (bucketStart width anchor t) :=
  ⟨bucketStart_onGrid width anchor t, bucketStart_le hwidth anchor t, lt_bucketStart_add hwidth anchor t⟩

/-- There is one floor, the start of the bucket. -/
theorem isFloor_iff (hwidth : 0 < width) : IsFloor width anchor t x ↔ x = bucketStart width anchor t := by
  constructor
  · intro h
    exact ((bucketStart_eq_iff hwidth h.onGrid).mpr ⟨h.le, h.lt_add⟩).symm
  · rintro rfl
    exact isFloor_bucketStart hwidth anchor t

/-- A floor is its own floor. -/
theorem IsFloor.self (hwidth : 0 < width) (h : IsFloor width anchor t x) : IsFloor width anchor x x :=
  ⟨h.onGrid, Int.le_refl x, by omega⟩

end Floor

/-! ### Buckets -/

section Buckets

variable {interval : Duration} {anchor t u b : Instant}

/-- A bucket that is found is the floor of the instant. -/
theorem bucketOf_eq_ok_iff (hinterval : 0 < interval.micros) :
    bucketOf t interval anchor = .ok b ↔ IsFloor interval.micros anchor.micros t.micros b.micros := by
  rw [bucketOf_of_pos hinterval, isFloor_iff hinterval]
  constructor
  · exact micros_of_instantOf
  · intro h
    rw [← h]
    exact instantOf_of_range b.inRange

/-- No bucket is found if the floor of the instant lies before the first instant. -/
theorem bucketOf_eq_error_iff (hinterval : 0 < interval.micros) {e : BucketError} :
    bucketOf t interval anchor = .error e ↔
      e = .outOfRange ∧ ∃ x, IsFloor interval.micros anchor.micros t.micros x ∧ x < firstMicro := by
  have hfloor := isFloor_bucketStart hinterval anchor.micros t.micros
  rw [bucketOf_of_pos hinterval]
  constructor
  · intro h
    refine ⟨outOfRange_of_instantOf h, _, hfloor, Int.not_le.mp fun hfirst => ?_⟩
    -- the floor is no later than the instant, so it could only be before the calendar
    have hlast := Int.le_trans hfloor.le t.inRange.2
    rw [instantOf_of_range ⟨hfirst, hlast⟩] at h
    cases h
  · rintro ⟨rfl, x, hx, hlt⟩
    rw [(isFloor_iff hinterval).mp hx] at hlt
    have hnone : ¬(firstMicro ≤ bucketStart interval.micros anchor.micros t.micros ∧
        bucketStart interval.micros anchor.micros t.micros ≤ lastMicro) := by omega
    unfold instantOf Instant.ofMicros?
    rw [dif_neg hnone]

/-- A later instant has a bucket if an earlier one has, and not an earlier one. -/
theorem exists_bucketOf_of_le (hinterval : 0 < interval.micros) (htu : t ≤ u)
    (h : bucketOf t interval anchor = .ok b) : ∃ c, bucketOf u interval anchor = .ok c ∧ b ≤ c := by
  have hb := (isFloor_iff hinterval).mp ((bucketOf_eq_ok_iff hinterval).mp h)
  have hle : b.micros ≤ bucketStart interval.micros anchor.micros u.micros := by
    rw [hb]
    exact bucketStart_mono hinterval anchor.micros htu
  have hrange : firstMicro ≤ bucketStart interval.micros anchor.micros u.micros ∧
      bucketStart interval.micros anchor.micros u.micros ≤ lastMicro :=
    ⟨Int.le_trans b.inRange.1 hle, Int.le_trans (bucketStart_le hinterval _ _) u.inRange.2⟩
  exact ⟨⟨_, hrange⟩, bucketOf_of_range hinterval hrange, hle⟩

/-- **Buckets are floors.**  For a positive width, every instant has exactly one floor on the grid of the anchor.  If
the calendar has it, it is the bucket of the instant, and if it lies before the first instant, finding the bucket
fails as leaving the calendar.  A bucket that is found is its own bucket, and every later instant has a bucket that is
not earlier.  And any two anchors that are a whole number of widths apart give the same bucket or the same fault. -/
theorem bucketOf_floors (hinterval : 0 < interval.micros) (t anchor : Instant) :
    (∃! x, IsFloor interval.micros anchor.micros t.micros x) ∧
    (∀ x, IsFloor interval.micros anchor.micros t.micros x →
      (firstMicro ≤ x → ∃ b, b.micros = x ∧ bucketOf t interval anchor = .ok b) ∧
      (x < firstMicro → bucketOf t interval anchor = .error .outOfRange)) ∧
    (∀ b, bucketOf t interval anchor = .ok b → bucketOf b interval anchor = .ok b ∧
      ∀ u, t ≤ u → ∃ c, bucketOf u interval anchor = .ok c ∧ b ≤ c) ∧
    ∀ anchor', SameGrid interval.micros anchor anchor' →
      bucketOf t interval anchor' = bucketOf t interval anchor := by
  refine ⟨?_, fun x hx => ⟨fun hfirst => ?_, fun hlt => ?_⟩, fun b hb => ⟨?_, fun u htu => ?_⟩,
    fun anchor' hgrid => bucketOf_congr hgrid t⟩
  · exact ⟨_, isFloor_bucketStart hinterval _ _, fun x hx => (isFloor_iff hinterval).mp hx⟩
  · exact ⟨⟨x, hfirst, Int.le_trans hx.le t.inRange.2⟩, rfl, (bucketOf_eq_ok_iff hinterval).mpr hx⟩
  · exact (bucketOf_eq_error_iff hinterval).mpr ⟨rfl, x, hx, hlt⟩
  · exact (bucketOf_eq_ok_iff hinterval).mpr (((bucketOf_eq_ok_iff hinterval).mp hb).self hinterval)
  · exact exists_bucketOf_of_le hinterval htu hb

end Buckets

/-- The first instant of the calendar. -/
def firstInstant : Instant := ⟨firstMicro, by decide⟩

/-- The longest duration. -/
def longest : Duration := ⟨86399999999999999999, by decide⟩

/-- A bucket before the anchor starts before its instant, too.  The longest one starts outside the calendar for an
instant just before the anchor, and at the first instant if this is the anchor. -/
theorem bucketOf_floors_beforeAnchor :
    (∃ b, b.micros = -9 ∧ bucketOf ⟨-7, by decide⟩ ⟨5, by decide⟩ ⟨1, by decide⟩ = .ok b) ∧
    bucketOf .epoch longest ⟨1, by decide⟩ = .error .outOfRange ∧
    ∃ b, b.micros = firstMicro ∧ bucketOf .epoch longest firstInstant = .ok b := by
  have hlongest : 0 < longest.micros := by decide
  have hfive : IsFloor 5 1 (-7) (-9) := ⟨⟨-2, by decide⟩, by decide, by decide⟩
  have hbefore : IsFloor longest.micros 1 0 (1 - longest.micros) := ⟨⟨-1, by decide⟩, by decide, by decide⟩
  have hfirst : IsFloor longest.micros firstMicro 0 firstMicro := ⟨⟨0, by decide⟩, by decide, by decide⟩
  exact ⟨((bucketOf_floors (by decide) ⟨-7, by decide⟩ ⟨1, by decide⟩).2.1 _ hfive).1 (by decide),
    ((bucketOf_floors hlongest .epoch ⟨1, by decide⟩).2.1 _ hbefore).2 (by decide),
    ((bucketOf_floors hlongest .epoch firstInstant).2.1 _ hfirst).1 (Int.le_refl _)⟩

end ComplianceHistory.Report
