import ComplianceHistory.Report.Bucket

/-!
# The grid of buckets

The starts of buckets are whole numbers of widths away from the anchor, on either side of it (`OnGrid`).  A place
on the grid is the start of the bucket of exactly the instants in the one width from it on (`bucketStart_eq_iff`),
and the steps from one instant to another are those that do not lead past it (`stepsFrom_eq`).
-/

namespace ComplianceHistory.Report

open Time

/-- A whole number of widths away from the anchor. -/
def OnGrid (width anchor x : Int) : Prop := ∃ k : Int, x = anchor + k * width

section Grid

variable {width anchor x y t : Int}

/-- Two places on the grid that are less than a width apart are one. -/
theorem OnGrid.eq_of_lt (hx : OnGrid width anchor x) (hy : OnGrid width anchor y) (h1 : x < y + width)
    (h2 : y < x + width) : x = y := by
  obtain ⟨k, rfl⟩ := hx
  obtain ⟨l, rfl⟩ := hy
  have hwidth : 0 < width := by omega
  have hkl : k * width < (l + 1) * width := by
    rw [Int.add_mul]
    omega
  have hlk : l * width < (k + 1) * width := by
    rw [Int.add_mul]
    omega
  have h1' := Int.lt_of_mul_lt_mul_right hkl (Int.le_of_lt hwidth)
  have h2' := Int.lt_of_mul_lt_mul_right hlk (Int.le_of_lt hwidth)
  obtain rfl : k = l := by omega
  rfl

/-- Two places on the grid are a whole number of widths apart. -/
theorem OnGrid.exists_steps (hwidth : 0 < width) (hx : OnGrid width anchor x) (hy : OnGrid width anchor y)
    (h : x ≤ y) : ∃ n : Nat, y = x + n * width := by
  obtain ⟨k, rfl⟩ := hx
  obtain ⟨l, rfl⟩ := hy
  have hkl : k ≤ l := Int.le_of_mul_le_mul_right (by omega) hwidth
  refine ⟨(l - k).toNat, ?_⟩
  rw [Int.toNat_of_nonneg (by omega), Int.sub_mul]
  omega

theorem OnGrid.add (hx : OnGrid width anchor x) (n : Nat) : OnGrid width anchor (x + n * width) := by
  obtain ⟨k, rfl⟩ := hx
  refine ⟨k + n, ?_⟩
  rw [Int.add_mul]
  omega

theorem bucketStart_onGrid (width anchor t : Int) : OnGrid width anchor (bucketStart width anchor t) := by
  refine ⟨(t - anchor).fdiv width, ?_⟩
  have := Int.mul_fdiv_add_fmod (t - anchor) width
  rw [bucketStart, Int.mul_comm]
  omega

theorem bucketStart_le (hwidth : 0 < width) (anchor t : Int) : bucketStart width anchor t ≤ t := by
  have := Int.fmod_nonneg_of_pos (t - anchor) hwidth
  unfold bucketStart
  omega

theorem lt_bucketStart_add (hwidth : 0 < width) (anchor t : Int) : t < bucketStart width anchor t + width := by
  have := Int.fmod_lt_of_pos (t - anchor) hwidth
  unfold bucketStart
  omega

/-- **A place on the grid is the bucket of the instants in the one width from it on.** -/
theorem bucketStart_eq_iff (hwidth : 0 < width) (hx : OnGrid width anchor x) :
    bucketStart width anchor t = x ↔ x ≤ t ∧ t < x + width := by
  have h1 := bucketStart_le hwidth anchor t
  have h2 := lt_bucketStart_add hwidth anchor t
  constructor
  · rintro rfl
    exact ⟨h1, h2⟩
  · rintro ⟨h3, h4⟩
    exact (bucketStart_onGrid width anchor t).eq_of_lt hx (by omega) (by omega)

/-- A later instant is not in an earlier bucket. -/
theorem bucketStart_mono (hwidth : 0 < width) (anchor : Int) {u : Int} (h : t ≤ u) :
    bucketStart width anchor t ≤ bucketStart width anchor u := by
  refine Int.not_lt.mp fun hlt => ?_
  obtain ⟨n, hn⟩ := (bucketStart_onGrid width anchor u).exists_steps hwidth (bucketStart_onGrid width anchor t)
    (by omega)
  have h1 := bucketStart_le hwidth anchor t
  have h2 := lt_bucketStart_add hwidth anchor u
  cases n with
  | zero => omega
  | succ n =>
    have hsteps : 0 ≤ (n : Int) * width := Int.mul_nonneg (by omega) (by omega)
    rw [Int.natCast_succ, Int.add_mul] at hn
    omega

end Grid

/-! ### Instants on the grid -/

theorem instantOf_of_range {n : Int} (h : firstMicro ≤ n ∧ n ≤ lastMicro) : instantOf n = .ok ⟨n, h⟩ := by
  unfold instantOf Instant.ofMicros?
  rw [dif_pos h]

theorem outOfRange_of_instantOf {n : Int} {e : BucketError} (h : instantOf n = .error e) : e = .outOfRange := by
  unfold instantOf at h
  split at h <;> cases h
  rfl

/-- With a positive width, the bucket is the start, unless this is outside the calendar. -/
theorem bucketOf_of_pos {interval : Duration} (hinterval : 0 < interval.micros) (t anchor : Instant) :
    bucketOf t interval anchor = instantOf (bucketStart interval.micros anchor.micros t.micros) := by
  unfold bucketOf Width.ofDuration
  rw [dif_pos hinterval]

/-- A bucket that the calendar reaches is found. -/
theorem bucketOf_of_range {interval : Duration} {t anchor : Instant} (hinterval : 0 < interval.micros)
    (h : firstMicro ≤ bucketStart interval.micros anchor.micros t.micros ∧
      bucketStart interval.micros anchor.micros t.micros ≤ lastMicro) :
    bucketOf t interval anchor = .ok ⟨_, h⟩ := by
  rw [bucketOf_of_pos hinterval]
  exact instantOf_of_range h

/-! ### Steps -/

/-- Places one width apart, from a place on. -/
def stepsOf (width x : Int) (count : Nat) : List Int := (List.range count).map fun k : Nat => x + k * width

theorem stepsOf_succ (width x : Int) (count : Nat) :
    stepsOf width x (count + 1) = x :: stepsOf width (x + width) count := by
  unfold stepsOf
  rw [List.range_succ_eq_map, List.map_cons, List.map_map]
  congr 1
  · simp
  · refine List.map_congr_left fun k _ => ?_
    show x + ((k + 1 : Nat) : Int) * width = x + width + k * width
    rw [Int.natCast_succ, Int.add_mul]
    omega

theorem mem_stepsOf {width x y : Int} {count : Nat} : y ∈ stepsOf width x count ↔ ∃ k < count, y = x + k * width := by
  simp only [stepsOf, List.mem_map, List.mem_range, eq_comm]

theorem stepsOf_ascending {width : Int} (hwidth : 0 < width) (x : Int) (count : Nat) :
    (stepsOf width x count).Pairwise (· < ·) := by
  induction count generalizing x with
  | zero => exact .nil
  | succ count ih =>
    rw [stepsOf_succ]
    refine .cons (fun y hy => ?_) (ih _)
    obtain ⟨k, -, rfl⟩ := mem_stepsOf.mp hy
    have : 0 ≤ (k : Int) * width := Int.mul_nonneg (by omega) (by omega)
    omega

/-- The steps from one instant to another are those that do not lead past it, if the first one that does stays in the
calendar. -/
theorem stepsFrom_eq (w : Width) {latest current : Instant} {count : Nat}
    (hmet : ∀ k < count, current.micros + (k : Int) * w.micros ≤ latest.micros)
    (hpast : latest.micros < current.micros + count * w.micros)
    (hlast : current.micros + count * w.micros ≤ lastMicro) :
    ∃ points, stepsFrom w latest current = .ok points ∧
      points.map Instant.micros = stepsOf w.micros current.micros count := by
  have hw := w.positive
  induction count generalizing current with
  | zero =>
    rw [stepsFrom, if_neg (by omega)]
    exact ⟨[], rfl, rfl⟩
  | succ count ih =>
    have hcurrent := hmet 0 (by omega)
    have hsteps : 0 ≤ (count : Int) * w.micros := Int.mul_nonneg (by omega) (by omega)
    rw [Int.natCast_succ, Int.add_mul] at hpast hlast
    have hrange : firstMicro ≤ current.micros + w.micros ∧ current.micros + w.micros ≤ lastMicro := by
      have := current.inRange
      omega
    have hnext : ∀ k < count, (⟨_, hrange⟩ : Instant).micros + (k : Int) * w.micros ≤ latest.micros := by
      intro k hk
      have hle := hmet (k + 1) (by omega)
      rw [Int.natCast_succ, Int.add_mul] at hle
      show current.micros + w.micros + _ ≤ _
      omega
    obtain ⟨points, hpoints, hmicros⟩ := ih hnext (by show _ < current.micros + w.micros + _; omega)
      (by show current.micros + w.micros + _ ≤ _; omega)
    refine ⟨current :: points, ?_, ?_⟩
    · rw [stepsFrom, if_pos (by omega)]
      split
      · rename_i he
        rw [instantOf_of_range hrange] at he
        cases he
      · rename_i next he
        rw [instantOf_of_range hrange] at he
        cases he
        rw [hpoints]
        rfl
    · rw [List.map_cons, hmicros, stepsOf_succ]

/-- If one step leaves the calendar and none before it leads past the other instant, there is no end of the steps. -/
theorem stepsFrom_error (w : Width) {latest current : Instant} {count : Nat}
    (hmet : ∀ k < count, current.micros + (k : Int) * w.micros ≤ latest.micros)
    (hlast : lastMicro < current.micros + count * w.micros) : stepsFrom w latest current = .error .outOfRange := by
  induction count generalizing current with
  | zero =>
    have := current.inRange
    omega
  | succ count ih =>
    have hcurrent := hmet 0 (by omega)
    rw [stepsFrom, if_pos (by omega)]
    split
    · rename_i e he
      rw [outOfRange_of_instantOf he]
    · rename_i next he
      have hnext := micros_of_instantOf he
      rw [Int.natCast_succ, Int.add_mul] at hlast
      have hrest : stepsFrom w latest next = .error .outOfRange := by
        refine ih (fun k hk => ?_) (by omega)
        have hle := hmet (k + 1) (by omega)
        rw [Int.natCast_succ, Int.add_mul] at hle
        omega
      rw [hrest]
      rfl

end ComplianceHistory.Report
