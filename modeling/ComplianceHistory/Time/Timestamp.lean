import ComplianceHistory.Value
import ComplianceHistory.Time.Iso

/-!
# Timestamps

A timestamp is given as an instant, as a text in ISO 8601, in which a `Z` stands for universal time, or
as a number of seconds since the start of 1970; fractions of a microsecond are rounded to the nearest,
half ones to even.  Numbers are limited in steps: first to those a 64-bit count of seconds holds, then to
years that a 32-bit number holds, then to the years of the calendar.
-/

namespace ComplianceHistory.Time

open Decimal

/-- Why a value is no timestamp. -/
inductive TimestampError where
  | notIso (text : String)
  | field (e : Iso.FieldError)
  | beyondSeconds
  | beyondYears
  | notANumber
  | wrongKind (shown : String)
deriving DecidableEq, Repr

/-- The wording of a failure. -/
def TimestampError.message : TimestampError → String
  | notIso s => "Invalid isoformat string: " ++ Text.quoted s
  | field e => e.message
  | beyondSeconds => "timestamp out of range for platform time_t"
  | beyondYears => "[Errno 75] Value too large for defined data type"
  | notANumber => "Invalid value NaN (not a number)"
  | wrongKind s => "Cannot interpret " ++ s ++ " as a timestamp"

/-- Whether a failure says that an instant is outside what can be held, and not that it is no instant. -/
def TimestampError.isOutOfRange : TimestampError → Bool
  | field .range | beyondSeconds | beyondYears => true
  | _ => false

/-- A text with every `Z` replaced by the offset of universal time. -/
def expandZulu (cs : List Char) : List Char :=
  cs.flatMap fun c => if c = 'Z' then "+00:00".toList else [c]

/-- The instant of a text. -/
def ofText (s : String) : Except TimestampError Instant :=
  let cs := expandZulu s.toList
  match Iso.fields? cs with
  | none => .error (.notIso (String.ofList cs))
  | some f => f.instant.mapError .field

/-- The year of a number of seconds since the start of 1970, over all years. -/
def yearOfSecond (second : Int) : Int :=
  let day := second.fdiv 86400 + epochDay - 1
  let cycle := day.fdiv 146097
  cycle * 400 + (yearAndDay (day - cycle * 146097).toNat).1

/-- The instant of whole seconds and microseconds since the start of 1970. -/
def ofSecondsAndMicros (second micro : Int) : Except TimestampError Instant :=
  if second < -0x8000000000000000 ∨ 0x8000000000000000 ≤ second then .error .beyondSeconds
  else
    let year := yearOfSecond second
    if year - 1900 < -0x80000000 ∨ 0x80000000 ≤ year - 1900 then .error .beyondYears
    else match Instant.ofMicros? (second * microsPerSecond + micro) with
      | some t => .ok t
      | none => .error (.field (.year (year.bmod 0x100000000)))

/-- The instant of a floating-point number of seconds since the start of 1970. -/
def ofFloat (x : Float) : Except TimestampError Instant :=
  match Binary.ofFloat? x with
  | none => .error (if x.isNaN then .notANumber else .beyondSeconds)
  | some b =>
    let fraction := (x - (if x < 0 then x.ceil else x.floor)) * 1e6
    let micro := ((Binary.ofFloat? fraction).map Binary.roundEven).getD 0
    if 1000000 ≤ micro then ofSecondsAndMicros (b.truncate + 1) (micro - 1000000)
    else if micro < 0 then ofSecondsAndMicros (b.truncate - 1) (micro + 1000000)
    else ofSecondsAndMicros b.truncate micro

/-- The instant that a value names. -/
def timestamp : Value → Except TimestampError Instant
  | .moment t => .ok t
  | .int n => ofSecondsAndMicros n 0
  | .float x => ofFloat x
  | .string s => ofText s
  | v => .error (.wrongKind v.inspect)

end ComplianceHistory.Time
