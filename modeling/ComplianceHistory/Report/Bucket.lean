import ComplianceHistory.Time.Iso

/-!
# Buckets

Time is cut into buckets of one width, one of which starts at an anchor.  A bucket is named by its start,
and an instant belongs to the last bucket that does not start after it, whether it lies before or after
the anchor.
-/

namespace ComplianceHistory.Report

open Time

/-- Why there is no bucket. -/
inductive BucketError where
  | notPositive (interval : Duration)
  | outOfRange
deriving DecidableEq

/-- The wording of a failure. -/
def BucketError.message : BucketError → String
  | notPositive d => "Bucket interval must be positive, got " ++ d.text
  | outOfRange => Iso.FieldError.message .range

/-- The width of buckets. -/
structure Width where
  micros : Int
  positive : 0 < micros
deriving DecidableEq

/-- A duration as a width, which must be positive. -/
def Width.ofDuration (d : Duration) : Except BucketError Width :=
  if h : 0 < d.micros then .ok ⟨d.micros, h⟩ else .error (.notPositive d)

/-- An instant, unless it is outside the calendar. -/
def instantOf (micros : Int) : Except BucketError Instant :=
  match Instant.ofMicros? micros with
  | some t => .ok t
  | none => .error .outOfRange

/-- The start of the bucket of an instant, which the calendar need not reach. -/
def bucketStart (interval anchor t : Int) : Int := t - (t - anchor).fmod interval

/-- The bucket of an instant. -/
def bucketOf (t : Instant) (interval : Duration) (anchor : Instant) : Except BucketError Instant :=
  match Width.ofDuration interval with
  | .error e => .error e
  | .ok w => instantOf (bucketStart w.micros anchor.micros t.micros)

theorem micros_of_instantOf {n : Int} {t : Instant} (h : instantOf n = .ok t) : t.micros = n := by
  unfold instantOf at h
  split at h
  · rename_i u hu
    cases h
    exact Instant.micros_of_ofMicros? hu
  · cases h

/--
The instants from one on in steps of a width that do not pass another one.  The step that passes it is
taken too, and must stay in the calendar.
-/
def stepsFrom (w : Width) (latest current : Instant) : Except BucketError (List Instant) :=
  if current.micros ≤ latest.micros then
    match _h : instantOf (current.micros + w.micros) with
    | .error e => .error e
    | .ok next => (stepsFrom w latest next).map (current :: ·)
  else .ok []
termination_by (latest.micros + 1 - current.micros).toNat
decreasing_by
  have := micros_of_instantOf _h
  have := w.positive
  omega

/-- The buckets from the earliest up to the latest one. -/
def bucketRange (earliest latest : Instant) (interval : Duration) :
    Except BucketError (List Instant) :=
  match Width.ofDuration interval with
  | .error e => .error e
  | .ok w => stepsFrom w latest earliest

end ComplianceHistory.Report
