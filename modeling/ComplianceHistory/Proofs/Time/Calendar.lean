import ComplianceHistory.Time.Calendar

/-!
# Days and their numbers

A day is found from its number in two steps: the year and the place in it by division through the cycles of
400, 100 and 4 years, then the month by counting months off.  Both steps keep the number of days passed
(`yearAndDay_spec`, `monthAndDay_spec`), so the day found has the number, and it is a day of the
calendar (`Date.ofOrdinal_spec`).
-/

namespace ComplianceHistory.Time

/-- A month and a day that the year has. -/
structure Date.Valid (d : Date) : Prop where
  month : 1 ≤ d.month ∧ d.month ≤ 12
  day : 1 ≤ d.day ∧ d.day ≤ daysInMonth d.year d.month

/-- The number of the last day of the year 9999. -/
def lastDay : Nat := 3652059

/-! ### Years -/

theorem isLeap_iff (year : Nat) :
    isLeap year = true ↔ year % 4 = 0 ∧ (year % 100 ≠ 0 ∨ year % 400 = 0) := by
  simp [isLeap]

theorem daysInMonth_le (year month : Nat) : daysInMonth year month ≤ 31 := by
  unfold daysInMonth
  split
  · split <;> omega
  all_goals omega

/-- The length of the months of a year. -/
theorem daysBeforeMonth_end (year : Nat) :
    daysBeforeMonth year 13 = if isLeap year then 366 else 365 := by
  have h : daysBeforeMonth year 13 = 337 + daysInMonth year 2 := by
    simp [daysBeforeMonth, List.range_succ, daysInMonth]
    omega
  rw [h, daysInMonth]
  split <;> rfl

/-- A number of days as whole cycles of 400, 100, 4 and 1 years and the days left over. -/
theorem yearAndDay_cycles (n : Nat) :
    ∃ c h q y r, yearAndDay n = (c * 400 + h * 100 + q * 4 + y + 1, r) ∧
      n = c * 146097 + h * 36524 + q * 1461 + y * 365 + r ∧ h ≤ 3 ∧ q ≤ 24 ∧ y ≤ 3 ∧
      (r < 365 ∨ r = 365 ∧ y = 3 ∧ (q = 24 → h = 3)) := by
  refine ⟨_, _, _, _, _, rfl, ?_⟩
  omega

theorem daysBeforeYear_cycles {c h q y : Nat} (hh : h ≤ 3) (hq : q ≤ 24) (hy : y ≤ 3) :
    daysBeforeYear (c * 400 + h * 100 + q * 4 + y + 1) = c * 146097 + h * 36524 + q * 1461 + y * 365 := by
  have h4 : (c * 400 + h * 100 + q * 4 + y) / 4 = c * 100 + h * 25 + q := by omega
  have h100 : (c * 400 + h * 100 + q * 4 + y) / 100 = c * 4 + h := by omega
  have h400 : (c * 400 + h * 100 + q * 4 + y) / 400 = c := by omega
  rw [daysBeforeYear, Nat.add_sub_cancel, h4, h100, h400]
  omega

/-- The year found has the place found as one of its days, and the number of days before it. -/
theorem yearAndDay_spec (n : Nat) :
    ∃ year r, yearAndDay n = (year, r) ∧ 1 ≤ year ∧ (n < lastDay → year ≤ 9999) ∧
      daysBeforeYear year + r = n ∧ r < daysBeforeMonth year 13 := by
  obtain ⟨c, h, q, y, r, he, hn, hh, hq, hy, hr⟩ := yearAndDay_cycles n
  have hbefore := daysBeforeYear_cycles (c := c) hh hq hy
  refine ⟨_, r, he, by omega, fun hlast => ?_, by omega, ?_⟩
  · unfold lastDay at hlast
    omega
  · rw [daysBeforeMonth_end]
    split
    · omega
    · rename_i hleap
      rw [isLeap_iff] at hleap
      omega

/-! ### Months -/

theorem daysBeforeMonth_succ (year month : Nat) (h : 1 ≤ month) :
    daysBeforeMonth year (month + 1) = daysBeforeMonth year month + daysInMonth year month := by
  obtain ⟨m, rfl⟩ : ∃ m, month = m + 1 := ⟨month - 1, by omega⟩
  simp [daysBeforeMonth, List.range_succ]

/-- Counting months off keeps the number of days passed.  The induction is on the months left before
December. -/
theorem monthAndDay_spec (year left month rest : Nat) (hmonth : 1 ≤ month) (hleft : month + left = 12)
    (hrest : daysBeforeMonth year month + rest < daysBeforeMonth year 13) :
    ∃ m d, monthAndDay year rest (List.range' month left) = (m, d) ∧ 1 ≤ m ∧ m ≤ 12 ∧
      1 ≤ d ∧ d ≤ daysInMonth year m ∧ daysBeforeMonth year m + d = daysBeforeMonth year month + rest + 1 := by
  induction left generalizing month rest with
  | zero =>
    obtain rfl : month = 12 := by omega
    rw [daysBeforeMonth_succ year 12 (by omega)] at hrest
    exact ⟨12, rest + 1, rfl, by omega, by omega, by omega, by omega, by omega⟩
  | succ left ih =>
    rw [List.range'_succ, monthAndDay]
    have hsucc := daysBeforeMonth_succ year month hmonth
    split
    · exact ⟨month, rest + 1, rfl, by omega, by omega, by omega, by omega, by omega⟩
    · obtain ⟨m, d, he, hm⟩ := ih (month + 1) (rest - daysInMonth year month) (by omega)
        (by omega) (by omega)
      exact ⟨m, d, he, by omega⟩

/-! ### Days -/

/-- **A number from 1 on is the one of the day that is found from it**, which is a day of the calendar. -/
theorem Date.ofOrdinal_spec {n : Nat} (h : 1 ≤ n) :
    (Date.ofOrdinal n).ordinal = n ∧ (Date.ofOrdinal n).Valid ∧ 1 ≤ (Date.ofOrdinal n).year ∧
      (n ≤ lastDay → (Date.ofOrdinal n).year ≤ 9999) := by
  obtain ⟨year, r, hyear, hone, hlast, hbefore, hr⟩ := yearAndDay_spec (n - 1)
  have hzero : daysBeforeMonth year 1 = 0 := rfl
  obtain ⟨m, d, he, hm1, hm2, hd1, hd2, hsum⟩ :=
    monthAndDay_spec year 11 1 r (by omega) rfl (by omega)
  have hdate : Date.ofOrdinal n = ⟨year, m, d⟩ := by
    unfold Date.ofOrdinal
    rw [hyear]
    show Date.mk year (monthAndDay year r (List.range' 1 11)).1 (monthAndDay year r (List.range' 1 11)).2 = _
    rw [he]
  rw [hdate]
  refine ⟨?_, ⟨⟨hm1, hm2⟩, hd1, hd2⟩, hone, fun hn => hlast (by omega)⟩
  show daysBeforeYear year + daysBeforeMonth year m + d = n
  omega

end ComplianceHistory.Time
