/-!
# Durations

A duration is a whole number of microseconds, positive or not, of less than a thousand million days.  It
is shown as days and a time of day, of which only the days carry a sign.
-/

namespace ComplianceHistory.Time

/-- Microseconds in a second. -/
def microsPerSecond : Int := 1000000

/-- Microseconds in a day. -/
def microsPerDay : Int := 86400 * microsPerSecond

/-- The days of a number of microseconds, rounded down. -/
def dayOf (micros : Int) : Int := micros.fdiv microsPerDay

/-- The most days that a duration has, forward or backward. -/
def maxDays : Int := 999999999

/-- A span of time. -/
structure Duration where
  micros : Int
  inRange : -maxDays ≤ dayOf micros ∧ dayOf micros ≤ maxDays
deriving DecidableEq

/-- Why there is no duration. -/
inductive DurationError where
  /-- The number of days has more than 32 bits. -/
  | beyondWord
  /-- The number of days is past the bound. -/
  | beyondBound (days : Int)
deriving DecidableEq, Repr

/-- The wording of a failure. -/
def DurationError.message : DurationError → String
  | beyondWord => "Python int too large to convert to C int"
  | beyondBound d => "days=" ++ toString d ++ "; must have magnitude <= " ++ toString maxDays

namespace Duration

/-- The duration of a number of microseconds. -/
def ofMicros (n : Int) : Except DurationError Duration :=
  if dayOf n < -0x80000000 ∨ 0x80000000 ≤ dayOf n then .error .beyondWord
  else if h : -maxDays ≤ dayOf n ∧ dayOf n ≤ maxDays then .ok ⟨n, h⟩
  else .error (.beyondBound (dayOf n))

theorem micros_of_ofMicros {n : Int} {d : Duration} (h : ofMicros n = .ok d) : d.micros = n := by
  unfold ofMicros at h
  split at h
  · cases h
  · split at h
    · cases h
      rfl
    · cases h

/-- The duration of a number of seconds. -/
def ofSeconds (n : Int) : Except DurationError Duration := ofMicros (n * microsPerSecond)

/-- Decimal digits with zeros in front up to a width. -/
def padded (width n : Nat) : String :=
  let ds := Nat.toDigits 10 n
  String.ofList (List.replicate (width - ds.length) '0' ++ ds)

/-- A point and six digits, or nothing if they would all be zero. -/
def fractionText (micros : Nat) : String := if micros = 0 then "" else "." ++ padded 6 micros

/-- The text of a number of microseconds as days, hours, minutes and seconds. -/
def textOfMicros (n : Int) : String :=
  let days := dayOf n
  let rest := (n - days * microsPerDay).toNat
  let seconds := rest / 1000000
  let dayText := if days = 0 then "" else
    toString days ++ (if days.natAbs = 1 then " day, " else " days, ")
  dayText ++ toString (seconds / 3600) ++ ":" ++ padded 2 (seconds / 60 % 60) ++ ":" ++
    padded 2 (seconds % 60) ++ fractionText (rest % 1000000)

/-- The text of a duration. -/
def text (d : Duration) : String := textOfMicros d.micros

/-- The text of a number of microseconds that names its parts. -/
def inspectMicros (n : Int) : String :=
  let days := dayOf n
  let rest := n - days * microsPerDay
  let parts := [("days", days), ("seconds", rest / microsPerSecond), ("microseconds", rest % microsPerSecond)]
  let shown := (parts.filter fun p => p.2 != 0).map fun p => p.1 ++ "=" ++ toString p.2
  "datetime.timedelta(" ++ (if shown.isEmpty then "0" else String.intercalate ", " shown) ++ ")"

end Duration

example : Duration.textOfMicros (-1) = "-1 day, 23:59:59.999999" := by decide +kernel

end ComplianceHistory.Time
