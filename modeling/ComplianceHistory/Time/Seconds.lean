import ComplianceHistory.Decimal.Numeral
import ComplianceHistory.Time.Duration
import ComplianceHistory.Value

/-!
# Durations in seconds

A duration is given as a whole or floating-point number of seconds.  The whole and the fractional part of
a floating-point number are turned into microseconds apart; what is left of a microsecond is rounded, a
half so that the number of microseconds becomes even.
-/

namespace ComplianceHistory.Time

open Decimal

/-- Why a value is no number of seconds of a duration. -/
inductive SecondsError where
  | duration (e : DurationError)
  | numeral (e : NumeralError)
  | misuse (m : Misuse)
deriving DecidableEq, Repr

/-- The wording of a failure; a misused value has none. -/
def SecondsError.message? : SecondsError → Option String
  | duration e => some e.message
  | numeral e => some e.message
  | misuse _ => none

/-- A float without its fraction. -/
def wholeFloat (x : Float) : Float := if x < 0 then x.ceil else x.floor

/-- The number of microseconds that the rest of a microsecond adds to others. -/
def roundRest (micros : Int) (rest : Float) : Int :=
  let away : Int := if rest < 0 then -1 else 1
  if rest.abs < 0.5 then 0
  else if rest.abs > 0.5 then away
  else if micros % 2 = 0 then 0
  else away

/-- The microseconds of a floating-point number of seconds. -/
def microsOfFloat (x : Float) : Except NumeralError Int := do
  let seconds ← truncate x
  let fraction := x - wholeFloat x
  if fraction == 0 then return seconds * microsPerSecond
  let inMicros := 1e6 * fraction
  let micros := seconds * microsPerSecond + (← truncate inMicros)
  return micros + roundRest micros (inMicros - wholeFloat inMicros)

/-- The duration of a value in seconds. -/
def durationOfSeconds (v : Value) : Except SecondsError Duration :=
  match v with
  | .float x => match microsOfFloat x with
    | .error e => .error (.numeral e)
    | .ok n => (Duration.ofMicros n).mapError .duration
  | v => match v.asInt? with
    | some n => (Duration.ofSeconds n).mapError .duration
    | none => .error (.misuse .wrongKind)

end ComplianceHistory.Time
