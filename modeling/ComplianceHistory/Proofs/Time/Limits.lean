import Mathlib
import ComplianceHistory.Proofs.Time.Calendar
import ComplianceHistory.Time.Timestamp

/-!
# Instants outside what can be held

A timestamp fails in two ways: it is no instant at all, or it names one that cannot be held.  Of texts the latter are
the local times of the calendar that an offset moves out of it, of numbers those whose year does not fit into 32 bits;
for whole seconds these are the ones before `firstHeld` and behind `lastHeld` (`timestamp_isOutOfRange_iff`).
-/

namespace ComplianceHistory.Time

open Decimal

/-! ### Years of seconds -/

theorem daysBeforeYear_succ {year : Nat} (h : 1 ≤ year) :
    daysBeforeYear (year + 1) = daysBeforeYear year + daysBeforeMonth year 13 := by
  obtain ⟨y, rfl⟩ : ∃ y, year = y + 1 := ⟨year - 1, by omega⟩
  rw [daysBeforeMonth_end]
  simp only [daysBeforeYear, Nat.add_sub_cancel, Nat.succ_div, isLeap_iff]
  split_ifs <;> omega

theorem daysBeforeYear_mono : Monotone daysBeforeYear := by
  refine monotone_nat_of_le_succ fun year => ?_
  rcases Nat.eq_zero_or_pos year with rfl | hpos
  · rfl
  · rw [daysBeforeYear_succ hpos]
    exact Nat.le_add_right _ _

/-- The year of a day is before another year exactly if the day is before the first one of that year. -/
theorem yearAndDay_lt_iff {n k : Nat} : (yearAndDay n).1 < k ↔ n < daysBeforeYear k := by
  obtain ⟨year, r, hyear, hone, -, hn, hr⟩ := yearAndDay_spec n
  have hnext := daysBeforeYear_succ hone
  rw [hyear]
  rcases Nat.lt_or_ge year k with hlt | hle
  · have hmono : daysBeforeYear (year + 1) ≤ daysBeforeYear k := daysBeforeYear_mono hlt
    exact iff_of_true hlt (by omega)
  · have hmono : daysBeforeYear k ≤ daysBeforeYear year := daysBeforeYear_mono hle
    exact iff_of_false (Nat.not_lt.mpr hle) (by omega)

/-- The first second whose year is held. -/
def firstHeld : Int := -67768040609740800

/-- The last second whose year is held. -/
def lastHeld : Int := 67768036191676799

/-- The year of a second is one of the 400 years of its cycle. -/
theorem yearOfSecond_cycle (second : Int) : ∃ (cycle : Int) (n : Nat),
    second / 86400 + 719162 = cycle * 146097 + n ∧ 1 ≤ (yearAndDay n).1 ∧ (yearAndDay n).1 ≤ 400 ∧
    yearOfSecond second = cycle * 400 + (yearAndDay n).1 := by
  have hday : second.fdiv 86400 + epochDay - 1 = second / 86400 + 719162 := by
    rw [Int.fdiv_eq_ediv_of_nonneg second (by decide), epochDay]
    omega
  obtain ⟨n, hn⟩ : ∃ n : Nat, ((second / 86400 + 719162) % 146097).toNat = n := ⟨_, rfl⟩
  have hlast : (yearAndDay n).1 < 401 := yearAndDay_lt_iff.mpr (by show n < 146097; omega)
  have hfirst : ¬(yearAndDay n).1 < 1 := fun h => absurd (yearAndDay_lt_iff.mp h) (Nat.not_lt_zero n)
  have hrest : second / 86400 + 719162 - (second / 86400 + 719162) / 146097 * 146097 =
      (second / 86400 + 719162) % 146097 := by omega
  refine ⟨(second / 86400 + 719162) / 146097, n, by omega, by omega, by omega, ?_⟩
  simp only [yearOfSecond, hday, Int.fdiv_eq_ediv_of_nonneg _ (show (0 : Int) ≤ 146097 by decide), hrest, hn]

/-- The year fits into 32 bits exactly between the two seconds. -/
theorem yearOfSecond_held {second : Int} :
    yearOfSecond second - 1900 < -0x80000000 ∨ 0x80000000 ≤ yearOfSecond second - 1900 ↔
      second < firstHeld ∨ lastHeld < second := by
  obtain ⟨cycle, n, hday, hone, hlast, hyear⟩ := yearOfSecond_cycle second
  -- the first year that fits is the 252nd of its cycle, and the last one the 347th
  have hlow : (yearAndDay n).1 < 252 ↔ n < 91675 := yearAndDay_lt_iff
  have hhigh : (yearAndDay n).1 < 348 ↔ n < 126738 := yearAndDay_lt_iff
  have hcycle : (yearAndDay n).1 < 401 ↔ n < 146097 := yearAndDay_lt_iff
  rw [hyear, firstHeld, lastHeld]
  omega

/-! ### Texts -/

namespace Iso.Fields

/-- A local time of the calendar, and an offset that is shorter than a day. -/
structure IsLocal (f : Fields) : Prop where
  offset : -microsPerDay < f.offset.getD 0 ∧ f.offset.getD 0 < microsPerDay
  year : 1 ≤ f.year ∧ f.year ≤ 9999
  month : 1 ≤ f.month ∧ f.month ≤ 12
  day : 1 ≤ f.day ∧ f.day ≤ daysInMonth f.year.toNat f.month
  hour : f.hour < 24
  minute : f.minute < 60
  second : f.second < 60

/-- The microseconds since the start of 1970 in universal time. -/
def micros (f : Fields) : Int :=
  (((Date.mk f.year.toNat f.month f.day).ordinal - epochDay : Int) * 86400 + f.hour * 3600 + f.minute * 60 +
    f.second) * 1000000 + f.micro - f.offset.getD 0

/-- The checks of the numbers, one after the other. -/
theorem instant_checks (f : Fields) : f.instant =
    if f.offset.getD 0 ≤ -microsPerDay ∨ microsPerDay ≤ f.offset.getD 0 then .error (.offset (f.offset.getD 0))
    else if f.year < 1 ∨ 9999 < f.year then .error (.year f.year)
    else if f.month < 1 ∨ 12 < f.month then .error .month
    else if f.day < 1 ∨ daysInMonth f.year.toNat f.month < f.day then .error .day
    else if 24 ≤ f.hour then .error .hour
    else if 60 ≤ f.minute then .error .minute
    else if 60 ≤ f.second then .error .second
    else match Instant.ofMicros? f.micros with
      | some t => .ok t
      | none => .error .range := rfl

/-- The instant is out of range exactly if the offset moves a local time out of the calendar. -/
theorem instant_eq_range {f : Fields} :
    f.instant = .error .range ↔ f.IsLocal ∧ (f.micros < firstMicro ∨ lastMicro < f.micros) := by
  rw [instant_checks]
  constructor
  · intro h
    iterate 7
      split at h
      · cases h
    refine ⟨⟨by omega, by omega, by omega, by omega, by omega, by omega, by omega⟩, ?_⟩
    rcases Decidable.em (firstMicro ≤ f.micros ∧ f.micros ≤ lastMicro) with hin | hout
    · have hsome : Instant.ofMicros? f.micros = some ⟨f.micros, hin⟩ := dif_pos hin
      rw [hsome] at h
      cases h
    · omega
  · rintro ⟨⟨hoffset, hyear, hmonth, hday, hhour, hminute, hsecond⟩, hout⟩
    have hnone : Instant.ofMicros? f.micros = none := dif_neg (by omega)
    rw [if_neg (by omega), if_neg (by omega), if_neg (by omega), if_neg (by omega), if_neg (by omega),
      if_neg (by omega), if_neg (by omega), hnone]

end Iso.Fields

/-! ### Numbers -/

theorem ofSecondsAndMicros_isOutOfRange {second micro : Int} :
    (∃ e, ofSecondsAndMicros second micro = .error e ∧ e.isOutOfRange = true) ↔
      second < firstHeld ∨ lastHeld < second := by
  unfold ofSecondsAndMicros
  split
  · rename_i hbeyond
    have hout : second < firstHeld ∨ lastHeld < second := by
      rw [firstHeld, lastHeld]
      omega
    exact iff_of_true ⟨.beyondSeconds, rfl, rfl⟩ hout
  · rw [← yearOfSecond_held]
    dsimp only
    split
    · rename_i hyears
      exact iff_of_true ⟨.beyondYears, rfl, rfl⟩ hyears
    · rename_i hyears
      refine iff_of_false ?_ hyears
      rintro ⟨e, he, hrange⟩
      split at he
      · cases he
      · cases he
        cases hrange

/-- The microseconds behind the whole seconds of a number, which may make up one second more. -/
def microsOf (x : Float) : Int :=
  ((Binary.ofFloat? ((x - (if x < 0 then x.ceil else x.floor)) * 1e6)).map Binary.roundEven).getD 0

/-- The whole seconds of a number that is rounded to microseconds. -/
def secondsOf (x : Float) (b : Binary) : Int :=
  if 1000000 ≤ microsOf x then b.truncate + 1 else if microsOf x < 0 then b.truncate - 1 else b.truncate

theorem ofFloat_eq {x : Float} {b : Binary} (hb : Binary.ofFloat? x = some b) :
    ∃ micro, ofFloat x = ofSecondsAndMicros (secondsOf x b) micro := by
  unfold ofFloat secondsOf
  rw [hb]
  show ∃ micro, (if 1000000 ≤ microsOf x then ofSecondsAndMicros (b.truncate + 1) (microsOf x - 1000000)
    else if microsOf x < 0 then ofSecondsAndMicros (b.truncate - 1) (microsOf x + 1000000)
    else ofSecondsAndMicros b.truncate (microsOf x)) = _
  split
  · exact ⟨_, rfl⟩
  · split
    · exact ⟨_, rfl⟩
    · exact ⟨_, rfl⟩

/-! ### Timestamps -/

/-- The values that name an instant which cannot be held. -/
inductive IsBeyond : Value → Prop where
  | text {s : String} {f : Iso.Fields} (hf : Iso.fields? (expandZulu s.toList) = some f) (hlocal : f.IsLocal)
      (hmicros : f.micros < firstMicro ∨ lastMicro < f.micros) : IsBeyond (.string s)
  | int {n : Int} (hn : n < firstHeld ∨ lastHeld < n) : IsBeyond (.int n)
  | infinite {x : Float} (hx : Binary.ofFloat? x = none) (hnumber : x.isNaN = false) : IsBeyond (.float x)
  | float {x : Float} {b : Binary} (hb : Binary.ofFloat? x = some b)
      (hseconds : secondsOf x b < firstHeld ∨ lastHeld < secondsOf x b) : IsBeyond (.float x)

theorem ofText_isOutOfRange {s : String} :
    (∃ e, ofText s = .error e ∧ e.isOutOfRange = true) ↔ IsBeyond (.string s) := by
  unfold ofText
  dsimp only
  constructor
  · rintro ⟨e, he, hrange⟩
    split at he
    · cases he
      cases hrange
    · rename_i f hf
      cases hinstant : f.instant with
      | ok t =>
        rw [hinstant] at he
        cases he
      | error fault =>
        rw [hinstant] at he
        cases he
        cases fault with
        | range =>
          obtain ⟨hlocal, hmicros⟩ := Iso.Fields.instant_eq_range.mp hinstant
          exact .text hf hlocal hmicros
        | _ => cases hrange
  · intro h
    cases h with
    | text hf hlocal hmicros =>
      refine ⟨.field .range, ?_, rfl⟩
      rw [hf]
      dsimp only
      rw [Iso.Fields.instant_eq_range.mpr ⟨hlocal, hmicros⟩]
      rfl

theorem ofFloat_isOutOfRange {x : Float} :
    (∃ e, ofFloat x = .error e ∧ e.isOutOfRange = true) ↔ IsBeyond (.float x) := by
  cases hb : Binary.ofFloat? x with
  | none =>
    have hnone : ofFloat x = .error (if x.isNaN then .notANumber else .beyondSeconds) := by rw [ofFloat, hb]
    rw [hnone]
    constructor
    · rintro ⟨e, he, hrange⟩
      cases hnumber : x.isNaN with
      | true =>
        rw [hnumber] at he
        cases he
        cases hrange
      | false => exact .infinite hb hnumber
    · intro h
      cases h with
      | infinite _ hnumber =>
        rw [hnumber]
        exact ⟨.beyondSeconds, rfl, rfl⟩
      | float hb' _ => cases hb.symm.trans hb'
  | some b =>
    obtain ⟨micro, hmicro⟩ := ofFloat_eq hb
    rw [hmicro, ofSecondsAndMicros_isOutOfRange]
    constructor
    · exact .float hb
    · intro h
      cases h with
      | infinite hx _ => cases hb.symm.trans hx
      | float hb' hseconds =>
        cases hb.symm.trans hb'
        exact hseconds

/-- **A timestamp is out of range exactly if it names an instant which cannot be held.** -/
theorem timestamp_isOutOfRange_iff {v : Value} :
    (∃ e, timestamp v = .error e ∧ e.isOutOfRange = true) ↔ IsBeyond v := by
  cases v with
  | string s => exact ofText_isOutOfRange
  | float x => exact ofFloat_isOutOfRange
  | int n =>
    refine ofSecondsAndMicros_isOutOfRange.trans ⟨.int, fun h => ?_⟩
    cases h with
    | int hn => exact hn
  | moment t =>
    refine iff_of_false ?_ fun h => ?_
    · rintro ⟨e, he, -⟩
      cases he
    · cases h
  | _ =>
    refine iff_of_false ?_ fun h => ?_
    · rintro ⟨e, he, hrange⟩
      cases he
      cases hrange
    · cases h

end ComplianceHistory.Time
