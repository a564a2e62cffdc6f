import Mathlib
import ComplianceHistory.Decimal.Numeral
import ComplianceHistory.Proofs.Lists
import ComplianceHistory.Proofs.Time.Calendar
import ComplianceHistory.Time.Timestamp

/-!
# The text of an instant

Every number in the text of a local time has a fixed width, so it is read back digit by digit
(`digits?_padded`), and the day is read back through its number.  Behind it may stand an offset (`Iso.Zone`), which is
taken off the local time (`ofText_zone`).  So the text of an instant is read as the instant (`ofText_text`).
-/

namespace ComplianceHistory.Time

open Duration

/-! ### Digits -/

section Digits

variable {width n : Nat}

theorem toList_padded (width n : Nat) : (padded width n).toList =
    List.replicate (width - (Nat.toDigits 10 n).length) '0' ++ Nat.toDigits 10 n := by
  rw [padded, String.toList_ofList]

theorem length_padded (hw : 0 < width) (h : n < 10 ^ width) : (padded width n).toList.length = width := by
  have := (Nat.length_toDigits_le_iff (b := 10) (by decide) hw).mpr h
  rw [toList_padded, List.length_append, List.length_replicate]
  omega

theorem isDigit_of_mem_padded {c : Char} (h : c ∈ (padded width n).toList) : c.isDigit = true := by
  rw [toList_padded] at h
  rcases List.mem_append.mp h with h | h
  · rw [List.eq_of_mem_replicate h]
    decide
  · exact Nat.isDigit_of_mem_toDigits (by decide) (by decide) h

/-- Padded digits are read back, whatever follows them. -/
theorem digits?_padded (hw : 0 < width) (h : n < 10 ^ width) (rest : List Char) :
    Iso.digits? width ((padded width n).toList ++ rest) = some (n, rest) := by
  have hlen := length_padded hw h
  have htake : ((padded width n).toList ++ rest).take width = (padded width n).toList :=
    List.take_left' hlen
  have hdrop : ((padded width n).toList ++ rest).drop width = rest := List.drop_left' hlen
  have hall : (padded width n).toList.all Char.isDigit = true :=
    List.all_eq_true.mpr fun _ => isDigit_of_mem_padded
  have hvalue : Nat.ofDigitChars 10 (padded width n).toList 0 = n := by
    rw [toList_padded, Nat.ofDigitChars_append, Nat.ofDigitChars_replicate_zero, Nat.mul_zero,
      Nat.ofDigitChars_ten_toDigits]
  simp only [Iso.digits?, htake, hdrop, hlen, hall, Decimal.foldl_digits, hvalue, and_self, if_true]

theorem exists_cons_padded (hw : 0 < width) (h : n < 10 ^ width) :
    ∃ c cs, (padded width n).toList = c :: cs ∧ c.isDigit = true := by
  have hlen := length_padded hw h
  cases hp : (padded width n).toList with
  | nil =>
    rw [hp] at hlen
    exact absurd hlen (by simp only [List.length_nil]; omega)
  | cons c cs =>
    have hc : c ∈ (padded width n).toList := by
      rw [hp]
      exact List.mem_cons_self
    exact ⟨c, cs, rfl, isDigit_of_mem_padded hc⟩

theorem ne_of_isDigit {c d : Char} (h : c.isDigit = true) (hd : d.isDigit = false) : c ≠ d := by
  rintro rfl
  rw [h] at hd
  cases hd

end Digits

namespace Iso

/-! ### The date -/

theorem charAt_append {cs : List Char} {n : Nat} (h : cs.length = n) (rest : List Char) (i : Nat) :
    charAt (cs ++ rest) (n + i) = charAt rest i := by
  unfold charAt
  rw [List.getD_eq_getElem?_getD, List.getElem?_append_right (by omega), h, Nat.add_sub_cancel_left,
    ← List.getD_eq_getElem?_getD]

/-- The characters of a date with hyphens. -/
def dateChars (year month day : Nat) : List Char :=
  (padded 4 year).toList ++ '-' :: ((padded 2 month).toList ++ '-' :: (padded 2 day).toList)

section Date

variable {year month day : Nat} (hy : year < 10 ^ 4) (hm : month < 10 ^ 2) (hd : day < 10 ^ 2)
include hy hm

/-- A hyphen follows the year, and no week follows the hyphen. -/
theorem charAt_dateChars (day : Nat) (rest : List Char) :
    charAt (dateChars year month day ++ rest) 4 = '-' ∧ charAt (dateChars year month day ++ rest) 5 ≠ 'W' := by
  obtain ⟨a, as, has, ha⟩ := exists_cons_padded (by decide) hm
  rw [dateChars, List.append_assoc, charAt_append (length_padded (by decide) hy) _ 0,
    charAt_append (length_padded (by decide) hy) _ 1, has]
  exact ⟨rfl, ne_of_isDigit ha rfl⟩

include hd

theorem length_dateChars : (dateChars year month day).length = 10 := by
  rw [dateChars, List.length_append, List.length_cons, List.length_append, List.length_cons,
    length_padded (by decide) hy, length_padded (by decide) hm, length_padded (by decide) hd]

theorem dateLength_eq (rest : List Char) : dateLength (dateChars year month day ++ rest) = 10 := by
  obtain ⟨h4, h5⟩ := charAt_dateChars hy hm day rest
  have hlen : (dateChars year month day ++ rest).length ≠ 7 := by
    rw [List.length_append, length_dateChars hy hm hd]
    omega
  unfold dateLength
  rw [h4, if_neg hlen, if_pos rfl, if_neg h5]

theorem date?_eq (rest : List Char) :
    date? (dateChars year month day ++ rest) 10 = some ((year : Int), month, day) := by
  obtain ⟨h4, -⟩ := charAt_dateChars hy hm day rest
  have hyear := digits?_padded (by decide) hy
    ('-' :: ((padded 2 month).toList ++ '-' :: ((padded 2 day).toList ++ rest)))
  have hmonth := digits?_padded (by decide) hm ('-' :: ((padded 2 day).toList ++ rest))
  have hday := digits?_padded (by decide) hd rest
  obtain ⟨a, as, has, ha⟩ := exists_cons_padded (by decide) hm
  have hW : a ≠ 'W' := ne_of_isDigit ha rfl
  unfold date?
  rw [h4, dateChars]
  simp only [List.append_assoc, List.cons_append, hyear, decide_true, hyphen?, if_true]
  simp only [bind, Option.bind]
  rw [has] at hmonth ⊢
  simp only [List.cons_append] at hmonth ⊢
  split
  · rename_i he
    exact absurd (List.cons.inj he).1 hW
  · simp only [hmonth, hday]
    rfl

end Date

/-! ### The time of day -/

/-- The characters of a time of day. -/
def clockChars (hour minute second micro : Nat) : List Char :=
  (padded 2 hour).toList ++ ':' :: ((padded 2 minute).toList ++ ':' ::
    ((padded 2 second).toList ++ (fractionText micro).toList))

theorem clockRest_colon {values : List Nat} {cs rest : List Char} {value fuel : Nat}
    (h : digits? 2 cs = some (value, rest)) :
    clockRest true values (':' :: cs) (fuel + 1) = clockRest true (value :: values) rest fuel := by
  cases cs with
  | nil => cases h
  | cons c cs =>
    rw [clockRest]
    · simp only [and_self, if_true, h]
    · exact List.cons_ne_nil _ _

theorem clockRest_fraction {hour minute second micro : Nat} (h : micro < 10 ^ 6) (fuel : Nat) :
    clockRest true [second, minute, hour] (fractionText micro).toList fuel =
      some ⟨hour, minute, second, micro, false⟩ := by
  unfold fractionText
  split
  · rename_i h0
    rw [h0, String.toList_empty, clockRest]
    rfl
  · have hlen := length_padded (by decide) h
    have hdigits := digits?_padded (by decide) h []
    rw [List.append_nil] at hdigits
    obtain ⟨c, cs, hcs, -⟩ := exists_cons_padded (by decide) h
    rw [String.toList_append]
    show clockRest true _ ('.' :: (padded 6 micro).toList) fuel = _
    have hmicros : micros? (padded 6 micro).toList = some (micro, false) := by
      unfold micros?
      rw [hlen]
      simp only [Nat.min_self, hdigits]
      show some (micro * 1, false) = _
      rw [Nat.mul_one]
    rw [clockRest]
    · simp only [hmicros]
      rfl
    · rw [hcs]
      exact List.cons_ne_nil _ _

/-- The characters of a time of day are digits, colons and points. -/
theorem of_mem_clockChars {hour minute second micro : Nat} {c : Char}
    (h : c ∈ clockChars hour minute second micro) : c.isDigit = true ∨ c = ':' ∨ c = '.' := by
  have hfraction : c ∈ (fractionText micro).toList → c.isDigit = true ∨ c = '.' := by
    unfold fractionText
    split
    · rintro h
      cases h
    · rw [String.toList_append]
      rintro h
      rcases List.mem_cons.mp h with rfl | h
      · exact .inr rfl
      · exact .inl (isDigit_of_mem_padded h)
  simp only [clockChars, List.mem_append, List.mem_cons] at h
  rcases h with h | h | h | h | h | h
  · exact .inl (isDigit_of_mem_padded h)
  · exact .inr (.inl h)
  · exact .inl (isDigit_of_mem_padded h)
  · exact .inr (.inl h)
  · exact .inl (isDigit_of_mem_padded h)
  · rcases hfraction h with h | h
    · exact .inl h
    · exact .inr (.inr h)

/-- The characters of hours and minutes. -/
def hourMinuteChars (hour minute : Nat) : List Char :=
  (padded 2 hour).toList ++ ':' :: (padded 2 minute).toList

/-- The characters that tell an offset, and the offset: none at all, or a sign in front of hours and minutes. -/
inductive Zone : List Char → Offset → Prop
  | absent : Zone [] none
  | signed {sign : Char} {hour minute : Nat} (hsign : sign = '+' ∨ sign = '-') (hh : hour < 24) (hm : minute < 60) :
      Zone (sign :: hourMinuteChars hour minute)
        (some (if sign = '-' then -((hour * 3600 + minute * 60 : Nat) * 1000000 : Int)
          else (hour * 3600 + minute * 60 : Nat) * 1000000))

/-- An offset is shorter than a day. -/
theorem Zone.lt_day {zone : List Char} {offset : Offset} (h : Zone zone offset) :
    -microsPerDay < offset.getD 0 ∧ offset.getD 0 < microsPerDay := by
  have hday : microsPerDay = 86400000000 := rfl
  cases h with
  | absent => decide
  | signed hsign hh hm =>
    rw [Option.getD_some, hday]
    split <;> omega

/-- No character of an offset is a `Z`. -/
theorem Zone.not_zulu {zone : List Char} {offset : Offset} (h : Zone zone offset) {c : Char} (hc : c ∈ zone) :
    c ≠ 'Z' := by
  cases h with
  | absent => cases hc
  | signed hsign =>
    simp only [hourMinuteChars, List.mem_cons, List.mem_append] at hc
    rcases hc with rfl | hc | rfl | hc
    · rcases hsign with rfl | rfl <;> decide
    · exact ne_of_isDigit (isDigit_of_mem_padded hc) rfl
    · decide
    · exact ne_of_isDigit (isDigit_of_mem_padded hc) rfl

/-- Hours and minutes are read alone. -/
theorem clock?_hourMinute {hour minute : Nat} (hh : hour < 10 ^ 2) (hm : minute < 10 ^ 2) :
    clock? (hourMinuteChars hour minute) = some ⟨hour, minute, 0, 0, false⟩ := by
  have hminute := digits?_padded (by decide) hm []
  rw [List.append_nil] at hminute
  unfold clock? hourMinuteChars
  simp only [digits?_padded (by decide) hh, bind, Option.bind, List.head?_cons, decide_true]
  rw [clockRest_colon hminute, clockRest]
  rfl

section Clock

variable {hour minute second micro : Nat} (hh : hour < 10 ^ 2) (hm : minute < 10 ^ 2) (hs : second < 10 ^ 2)
  (hu : micro < 10 ^ 6)
include hh hm hs hu

theorem clock?_eq :
    clock? (clockChars hour minute second micro) = some ⟨hour, minute, second, micro, false⟩ := by
  unfold clock? clockChars
  simp only [digits?_padded (by decide) hh, bind, Option.bind, List.head?_cons, decide_true]
  rw [clockRest_colon (digits?_padded (by decide) hm _), clockRest_colon (digits?_padded (by decide) hs _),
    clockRest_fraction hu]

/-- A time of day is read up to the sign of its offset. -/
theorem time?_eq {zone : List Char} {offset : Offset} (hzone : Zone zone offset) :
    time? (clockChars hour minute second micro ++ zone) = some (⟨hour, minute, second, micro, false⟩, offset) := by
  have hall : ∀ c ∈ clockChars hour minute second micro, (!(c = '+' || c = '-' || c = 'Z')) = true := by
    intro c hc
    rcases of_mem_clockChars hc with h | rfl | rfl
    · have h1 : c ≠ '+' := ne_of_isDigit h rfl
      have h2 : c ≠ '-' := ne_of_isDigit h rfl
      have h3 : c ≠ 'Z' := ne_of_isDigit h rfl
      simp [h1, h2, h3]
    · rfl
    · rfl
  unfold time?
  cases hzone with
  | absent =>
    rw [span_exact hall rfl]
    simp only [clock?_eq hh hm hs hu, bind, Option.bind]
    rfl
  | @signed sign h m hsign hh' hm' =>
    have hclock := clock?_hourMinute (show h < 10 ^ 2 by omega) (show m < 10 ^ 2 by omega)
    have hoffset : (if h * 3600 + m * 60 + 0 = 0 then (0 : Int)
        else (h * 3600 + m * 60 + 0 : Nat) * 1000000 + (0 : Nat)) = (h * 3600 + m * 60 : Nat) * 1000000 := by
      split <;> omega
    generalize hourMinuteChars h m = zone at hclock
    rcases hsign with rfl | rfl
    all_goals
      rw [span_exact hall rfl]
      simp only [clock?_eq hh hm hs hu, bind, Option.bind]
      split
      · rename_i he
        cases he
      · rename_i he
        exact absurd (List.cons.inj he).1 (by decide)
      · rename_i he
        obtain ⟨rfl, rfl⟩ := List.cons.inj he
        simp only [hclock, Bool.false_eq_true, if_false, hoffset]
        rfl

end Clock

/-! ### Dates and times -/

/-- The characters of a date and a time of day. -/
def localChars (d : Date) (hour minute second micro : Nat) : List Char :=
  dateChars d.year d.month d.day ++ 'T' :: clockChars hour minute second micro

section Instant

variable {d : Date} {hour minute second micro : Nat} (hy : d.year < 10 ^ 4) (hm : d.month < 10 ^ 2)
  (hd : d.day < 10 ^ 2) (hh : hour < 10 ^ 2) (hi : minute < 10 ^ 2) (hs : second < 10 ^ 2) (hu : micro < 10 ^ 6)
include hy hm hd hh hi hs hu

theorem fields?_eq {zone : List Char} {offset : Offset} (hzone : Zone zone offset) :
    fields? (localChars d hour minute second micro ++ zone) =
      some ⟨d.year, d.month, d.day, hour, minute, second, micro, offset⟩ := by
  have hlen := length_dateChars hy hm hd
  rw [localChars, List.append_assoc, List.cons_append]
  have hdrop : (dateChars d.year d.month d.day ++ 'T' :: (clockChars hour minute second micro ++ zone)).drop 10 =
      'T' :: (clockChars hour minute second micro ++ zone) := List.drop_left' hlen
  have hlong : ¬ (dateChars d.year d.month d.day ++ 'T' :: (clockChars hour minute second micro ++ zone)).length < 7 := by
    rw [List.length_append, hlen]
    omega
  unfold fields?
  simp only [if_neg hlong, dateLength_eq hy hm hd, date?_eq hy hm hd, hdrop, bind, Option.bind,
    time?_eq hh hi hs hu hzone]
  rfl

end Instant

theorem not_zulu_of_mem {d : Date} {hour minute second micro : Nat} {c : Char}
    (h : c ∈ localChars d hour minute second micro) : c ≠ 'Z' := by
  simp only [localChars, dateChars, List.mem_append, List.mem_cons] at h
  rcases h with (h | rfl | h | rfl | h) | rfl | h
  · exact ne_of_isDigit (isDigit_of_mem_padded h) rfl
  · decide
  · exact ne_of_isDigit (isDigit_of_mem_padded h) rfl
  · decide
  · exact ne_of_isDigit (isDigit_of_mem_padded h) rfl
  · decide
  · rcases of_mem_clockChars h with h | rfl | rfl
    · exact ne_of_isDigit h rfl
    · decide
    · decide

end Iso

theorem expandZulu_of_ne {cs : List Char} (h : ∀ c ∈ cs, c ≠ 'Z') : expandZulu cs = cs := by
  induction cs with
  | nil => rfl
  | cons c cs ih =>
    unfold expandZulu at ih ⊢
    rw [List.flatMap_cons, if_neg (h c List.mem_cons_self), ih fun d hd => h d (List.mem_cons_of_mem _ hd)]
    rfl

/-! ### Instants -/

/-- The date and time of an instant in universal time, with nothing behind them. -/
def Instant.localText (t : Instant) : String :=
  let days := dayOf t.micros
  let rest := (t.micros - days * microsPerDay).toNat
  let d := Date.ofOrdinal (days + epochDay).toNat
  let s := rest / 1000000
  padded 4 d.year ++ "-" ++ padded 2 d.month ++ "-" ++ padded 2 d.day ++ "T" ++ padded 2 (s / 3600) ++ ":" ++
    padded 2 (s / 60 % 60) ++ ":" ++ padded 2 (s % 60) ++ fractionText (rest % 1000000)

theorem Instant.text_eq (t : Instant) : t.text = t.localText ++ "+00:00" := rfl

theorem toList_localText_eq (y mo da h mi s f : String) :
    (y ++ "-" ++ mo ++ "-" ++ da ++ "T" ++ h ++ ":" ++ mi ++ ":" ++ s ++ f).toList =
      (y.toList ++ '-' :: (mo.toList ++ '-' :: da.toList)) ++ 'T' ::
        (h.toList ++ ':' :: (mi.toList ++ ':' :: (s.toList ++ f.toList))) := by
  simp only [String.toList_append, List.append_assoc, List.cons_append]
  rfl

/-- The numbers in the text of an instant: its day, and the hours, minutes, seconds and microseconds passed. -/
theorem Instant.toList_localText (t : Instant) : ∃ (n : Nat) (hour minute second micro : Nat),
    1 ≤ n ∧ n ≤ lastDay ∧ hour < 24 ∧ minute < 60 ∧ second < 60 ∧ micro < 1000000 ∧
    t.localText.toList = Iso.localChars (Date.ofOrdinal n) hour minute second micro ∧
    t.micros = (((n : Int) - epochDay) * 86400 + hour * 3600 + minute * 60 + second) * 1000000 + micro := by
  obtain ⟨hlow, hhigh⟩ := t.inRange
  unfold firstMicro at hlow
  unfold lastMicro at hhigh
  have hday : dayOf t.micros = t.micros / 86400000000 := Int.fdiv_eq_ediv_of_nonneg _ (by decide)
  have hper : microsPerDay = 86400000000 := rfl
  refine ⟨_, _, _, _, _, ?_, ?_, ?_, ?_, ?_, ?_, toList_localText_eq _ _ _ _ _ _ _, ?_⟩
  all_goals
    simp only [hday, hper, epochDay, lastDay]
    omega

/-- The numbers of a day of the calendar and of a time of day name the instant that lies an offset before them. -/
theorem Iso.Fields.instant_eq {d : Date} (hd : d.Valid) (hyear : 1 ≤ d.year ∧ d.year ≤ 9999)
    {hour minute second micro : Nat} (hh : hour < 24) (hi : minute < 60) (hs : second < 60) {offset : Iso.Offset}
    (hoffset : -microsPerDay < offset.getD 0 ∧ offset.getD 0 < microsPerDay) {t : Instant}
    (ht : t.micros = (((d.ordinal : Int) - epochDay) * 86400 + hour * 3600 + minute * 60 + second) * 1000000 + micro -
      offset.getD 0) :
    Iso.Fields.instant ⟨d.year, d.month, d.day, hour, minute, second, micro, offset⟩ = .ok t := by
  obtain ⟨⟨hm1, hm2⟩, hd1, hd2⟩ := hd
  have hday : ¬ (offset.getD 0 ≤ -microsPerDay ∨ microsPerDay ≤ offset.getD 0) := by omega
  have hyears : ¬ ((d.year : Int) < 1 ∨ 9999 < (d.year : Int)) := by omega
  have hmonths : ¬ (d.month < 1 ∨ 12 < d.month) := by omega
  have hdays : ¬ (d.day < 1 ∨ daysInMonth d.year d.month < d.day) := by omega
  unfold Iso.Fields.instant
  simp only [if_neg hday, if_neg hyears, if_neg hmonths, if_neg hdays, if_neg (Nat.not_le.mpr hh),
    if_neg (Nat.not_le.mpr hi), if_neg (Nat.not_le.mpr hs), Int.toNat_natCast, ← ht, Instant.ofMicros?_micros]
  rfl

/-- **A local time is read as the instant that lies its offset before it.** -/
theorem ofText_zone (l t : Instant) {zone : List Char} {offset : Iso.Offset} (hzone : Iso.Zone zone offset)
    (ht : t.micros = l.micros - offset.getD 0) : ofText (l.localText ++ String.ofList zone) = .ok t := by
  obtain ⟨n, hour, minute, second, micro, hn1, hn2, hh, hi, hs, hu, htext, hmicros⟩ := l.toList_localText
  obtain ⟨hordinal, hvalid, hyear1, hyear2⟩ := Date.ofOrdinal_spec hn1
  obtain ⟨⟨hmonth1, hmonth2⟩, hday1, hday2⟩ := hvalid
  have hyear := hyear2 hn2
  have hlong : daysInMonth (Date.ofOrdinal n).year (Date.ofOrdinal n).month ≤ 31 := daysInMonth_le _ _
  have hfields : Iso.fields? (Iso.localChars (Date.ofOrdinal n) hour minute second micro ++ zone) = _ :=
    Iso.fields?_eq (by omega) (by omega) (by omega) (by omega) (by omega) (by omega) (by omega) hzone
  have hinstant : Iso.Fields.instant ⟨(Date.ofOrdinal n).year, (Date.ofOrdinal n).month, (Date.ofOrdinal n).day,
      hour, minute, second, micro, offset⟩ = .ok t :=
    Iso.Fields.instant_eq ⟨⟨hmonth1, hmonth2⟩, hday1, hday2⟩ ⟨hyear1, hyear⟩ hh hi hs hzone.lt_day
      (by rw [hordinal, ht, hmicros])
  have hzulu : ∀ c ∈ Iso.localChars (Date.ofOrdinal n) hour minute second micro ++ zone, c ≠ 'Z' := by
    intro c hc
    rcases List.mem_append.mp hc with hc | hc
    · exact Iso.not_zulu_of_mem hc
    · exact hzone.not_zulu hc
  unfold ofText
  rw [String.toList_append, String.toList_ofList, htext, expandZulu_of_ne hzulu]
  simp only [hfields, hinstant]
  rfl

/-- **The text of an instant is read as the instant.** -/
theorem ofText_text (t : Instant) : ofText t.text = .ok t := by
  have hzone : Iso.Zone ('+' :: Iso.hourMinuteChars 0 0) (some 0) :=
    .signed (.inl rfl) (by decide : 0 < 24) (by decide : 0 < 60)
  exact ofText_zone t t hzone (Int.sub_zero _).symm

end ComplianceHistory.Time
