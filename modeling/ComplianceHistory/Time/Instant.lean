import ComplianceHistory.Time.Calendar
import ComplianceHistory.Time.Duration

/-!
# Instants

An instant is a whole number of microseconds since the start of 1970 in universal time, from the first
microsecond of the year 1 to the last one of the year 9999.  Steps that would leave these years fail.
-/

namespace ComplianceHistory.Time

/-- The number of the first day of 1970. -/
def epochDay : Nat := 719163

/-- The first microsecond of the year 1. -/
def firstMicro : Int := -62135596800000000

/-- The last microsecond of the year 9999. -/
def lastMicro : Int := 253402300799999999

/-- A point in time. -/
structure Instant where
  micros : Int
  inRange : firstMicro ≤ micros ∧ micros ≤ lastMicro
deriving DecidableEq

namespace Instant

/-- The instant of a number of microseconds since the start of 1970. -/
def ofMicros? (n : Int) : Option Instant :=
  if h : firstMicro ≤ n ∧ n ≤ lastMicro then some ⟨n, h⟩ else none

/-- The start of 1970. -/
def epoch : Instant := ⟨0, by decide⟩

instance : Inhabited Instant := ⟨epoch⟩

/-- Order in time. -/
instance : LE Instant := ⟨fun a b => a.micros ≤ b.micros⟩

instance (a b : Instant) : Decidable (a ≤ b) := inferInstanceAs (Decidable (a.micros ≤ b.micros))

/-- The instant a number of microseconds later. -/
def add? (t : Instant) (n : Int) : Option Instant := ofMicros? (t.micros + n)

/-- The date and time in universal time, with six digits of a fraction unless it is zero. -/
def text (t : Instant) : String :=
  let days := dayOf t.micros
  let rest := (t.micros - days * microsPerDay).toNat
  let d := Date.ofOrdinal (days + epochDay).toNat
  let s := rest / 1000000
  Duration.padded 4 d.year ++ "-" ++ Duration.padded 2 d.month ++ "-" ++ Duration.padded 2 d.day ++
    "T" ++ Duration.padded 2 (s / 3600) ++ ":" ++ Duration.padded 2 (s / 60 % 60) ++ ":" ++
    Duration.padded 2 (s % 60) ++ Duration.fractionText (rest % 1000000) ++ "+00:00"

theorem eq_of_micros {t u : Instant} (h : t.micros = u.micros) : t = u := by
  cases t
  cases u
  cases h
  rfl

theorem ofMicros?_micros (t : Instant) : ofMicros? t.micros = some t := by
  simp [ofMicros?, t.inRange]

theorem micros_of_ofMicros? {n : Int} {t : Instant} (h : ofMicros? n = some t) : t.micros = n := by
  unfold ofMicros? at h
  split at h
  · cases h; rfl
  · cases h

end Instant

example : Instant.epoch.text = "1970-01-01T00:00:00+00:00" := by decide +kernel

end ComplianceHistory.Time
