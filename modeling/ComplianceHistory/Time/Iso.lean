import ComplianceHistory.Time.Instant

/-!
# Dates and times in ISO 8601

Reads a date, by month and day or by week, with or without hyphens, and after any one character a time
of day and an offset, with or without colons, the seconds with any number of digits after a point or
comma of which six count.  The reader finds the numbers (`Fields`); whether they are a date and a time
is checked afterwards, offset first.
-/

namespace ComplianceHistory.Time.Iso

/-- The offset of a local time in microseconds; none if the text gives no offset. -/
abbrev Offset := Option Int

/-- The numbers of a text. -/
structure Fields where
  year : Int
  month : Nat
  day : Nat
  hour : Nat
  minute : Nat
  second : Nat
  micro : Nat
  offset : Offset
deriving DecidableEq

/-- Why the numbers of a text are no instant. -/
inductive FieldError where
  | year (n : Int)
  | month
  | day
  | hour
  | minute
  | second
  | offset (micros : Int)
  | range
deriving DecidableEq, Repr

/-- The wording of a number out of its range. -/
def FieldError.message : FieldError → String
  | year n => "year " ++ toString n ++ " is out of range"
  | month => "month must be in 1..12"
  | day => "day is out of range for month"
  | hour => "hour must be in 0..23"
  | minute => "minute must be in 0..59"
  | second => "second must be in 0..59"
  | offset n => "offset must be a timedelta strictly between -timedelta(hours=24) and " ++
      "timedelta(hours=24), not " ++ Duration.inspectMicros n ++ "."
  | range => "date value out of range"

/-- Reads exactly `n` digits. -/
def digits? (n : Nat) (cs : List Char) : Option (Nat × List Char) :=
  let ds := cs.take n
  if ds.length = n ∧ ds.all Char.isDigit then
    some (ds.foldl (fun a c => a * 10 + (c.toNat - '0'.toNat)) 0, cs.drop n)
  else none

/-- What a text has at a place. -/
def charAt (cs : List Char) (i : Nat) : Char := cs.getD i '\x00'

/--
How many characters the date takes.  A hyphen after a week is the separator if two digits follow, and a
run of digits after a week without hyphens has a day of the week if its length is odd.
-/
def dateLength (cs : List Char) : Nat :=
  let n := cs.length
  if n = 7 then 7
  else if charAt cs 4 = '-' then
    if charAt cs 5 = 'W' then
      if n > 8 ∧ charAt cs 8 = '-' ∧ !(n > 10 ∧ (charAt cs 10).isDigit) then 10 else 8
    else 10
  else if charAt cs 4 = 'W' then
    let run := 7 + ((cs.drop 7).takeWhile Char.isDigit).length
    if run < 9 then run else if run % 2 = 0 then 7 else 8
  else 8

/-- Skips a hyphen if hyphens are used. -/
def hyphen? (used : Bool) (cs : List Char) : Option (List Char) :=
  if used then
    match cs with
    | '-' :: rest => some rest
    | _ => none
  else some cs

/-- Year, month and day of a day of a week; before the calendar starts there is no month. -/
def ofWeek? (year week day : Nat) : Option (Int × Nat × Nat) :=
  (weekOrdinal? year week day).map fun n =>
    let d := Date.ofOrdinal n.toNat
    if year = 0 then (1, 0, 1) else ((d.year : Int), d.month, d.day)

/-- Reads year, month and day of a date that takes `len` characters. -/
def date? (cs : List Char) (len : Nat) : Option (Int × Nat × Nat) := do
  let (year, rest) ← digits? 4 cs
  let hyphens := charAt cs 4 = '-'
  let rest ← hyphen? hyphens rest
  match rest with
  | 'W' :: rest =>
    let (week, rest) ← digits? 2 rest
    let day ← if cs.length - rest.length < len then do
        let rest ← hyphen? hyphens rest
        let (day, _) ← digits? 1 rest
        pure day
      else pure 1
    ofWeek? year week day
  | rest =>
    let (month, rest) ← digits? 2 rest
    let rest ← hyphen? hyphens rest
    let (day, _) ← digits? 2 rest
    return ((year : Int), month, day)

/-- A time of day: hours, minutes, seconds and microseconds, and whether more text follows it. -/
structure Clock where
  hour : Nat
  minute : Nat
  second : Nat
  micro : Nat
  trailing : Bool

/-- Whether more text follows, which a null character ends. -/
def isTrailing (cs : List Char) : Bool := cs.head?.any (· ≠ '\x00')

/-- Reads the digits of a fraction of a second, of which six count. -/
def micros? (cs : List Char) : Option (Nat × Bool) := do
  let n := min 6 cs.length
  let (value, rest) ← digits? n cs
  return (value * Nat.pow 10 (6 - n), isTrailing (rest.dropWhile Char.isDigit))

/--
Reads what follows the hours: `values` are the numbers read so far, latest first.  Colons are used
throughout or not at all, and a fraction may follow any of the numbers.  One ASCII character that stands
alone at the end is left over.
-/
def clockRest (colons : Bool) (values : List Nat) (cs : List Char) (fuel : Nat) : Option Clock :=
  let build (micro : Nat) (trailing : Bool) : Option Clock :=
    let v := values.reverse
    some ⟨v.getD 0 0, v.getD 1 0, v.getD 2 0, micro, trailing⟩
  let fraction (cs : List Char) : Option Clock := do
    let (micro, trailing) ← micros? cs
    build micro trailing
  match cs, fuel with
  | [], _ => build 0 false
  | [c], _ => if c.toNat < 128 then build 0 (isTrailing [c]) else none
  | c :: rest, fuel =>
    let next (cs : List Char) : Option Clock :=
      match fuel with
      | 0 => fraction cs
      | fuel + 1 => match digits? 2 cs with
        | none => none
        | some (value, rest) => clockRest colons (value :: values) rest fuel
    if colons ∧ c = ':' then next rest
    else if c = '.' ∨ c = ',' then fraction rest
    else if colons then none
    else next cs

/-- Reads a time of day. -/
def clock? (cs : List Char) : Option Clock := do
  let (hour, rest) ← digits? 2 cs
  clockRest (rest.head? = some ':') [hour] rest 2

/-- Reads a time of day and an offset. -/
def time? (cs : List Char) : Option (Clock × Offset) := do
  let (ofDay, zone) := cs.span fun c => !(c = '+' || c = '-' || c = 'Z')
  let clock ← clock? ofDay
  match zone with
  | [] => if clock.trailing then none else return (clock, none)
  | 'Z' :: rest => if rest.isEmpty then return (clock, some 0) else none
  | sign :: rest =>
    let z ← clock? rest
    if z.trailing then none
    let seconds := z.hour * 3600 + z.minute * 60 + z.second
    let offset : Int := if seconds = 0 then 0 else seconds * 1000000 + z.micro
    return (clock, some (if sign = '-' then -offset else offset))

/-- Reads the numbers of a text. -/
def fields? (cs : List Char) : Option Fields := do
  if cs.length < 7 then none
  let len := dateLength cs
  let (year, month, day) ← date? cs len
  match cs.drop len with
  | [] => return ⟨year, month, day, 0, 0, 0, 0, none⟩
  | _ :: rest =>
    let (t, offset) ← time? rest
    return ⟨year, month, day, t.hour, t.minute, t.second, t.micro, offset⟩

/-- The instant that the numbers of a text name; without an offset they are in universal time. -/
def Fields.instant (f : Fields) : Except FieldError Instant := do
  let offset := f.offset.getD 0
  if offset ≤ -microsPerDay ∨ microsPerDay ≤ offset then throw (.offset offset)
  if f.year < 1 ∨ 9999 < f.year then throw (.year f.year)
  if f.month < 1 ∨ 12 < f.month then throw .month
  if f.day < 1 ∨ daysInMonth f.year.toNat f.month < f.day then throw .day
  if 24 ≤ f.hour then throw .hour
  if 60 ≤ f.minute then throw .minute
  if 60 ≤ f.second then throw .second
  let day : Int := (Date.mk f.year.toNat f.month f.day).ordinal - epochDay
  let second : Int := day * 86400 + f.hour * 3600 + f.minute * 60 + f.second
  match Instant.ofMicros? (second * 1000000 + f.micro - offset) with
  | some t => return t
  | none => throw .range

end ComplianceHistory.Time.Iso
