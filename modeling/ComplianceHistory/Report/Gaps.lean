import ComplianceHistory.Report.Bucket

/-!
# Filling gaps

Items that each stand in a bucket get new ones in the buckets between them that have none, from the
earliest in steps of one width up to the latest, and are put in order of time.  Items in one bucket
keep their order.
-/

namespace ComplianceHistory.Report

open Time

variable {α : Type} (place : α → Instant)

/-- The earliest item of a list with a first item; of equally early ones the first. -/
def earliest (x : α) (xs : List α) : α :=
  xs.foldl (fun best y => if (place y).micros < (place best).micros then y else best) x

/-- The latest bucket of a list with a first item. -/
def latestPlace (x : α) (xs : List α) : Instant :=
  xs.foldl (fun best y => if best.micros < (place y).micros then place y else best) (place x)

/-- Items in order of time; those of one time keep their order. -/
def inOrder (xs : List α) : List α := xs.mergeSort fun a b => decide ((place a).micros ≤ (place b).micros)

/-- Fills the gaps between items; `blank` makes a new item from the earliest one. -/
def fill (blank : α → Instant → α) (interval : Duration) : List α → Except BucketError (List α)
  | [] => .ok []
  | x :: xs =>
    let first := earliest place x xs
    match bucketRange (place first) (latestPlace place x xs) interval with
    | .error e => .error e
    | .ok points =>
      let taken := (x :: xs).map place
      let missing := points.filter fun t => !taken.contains t
      .ok (inOrder place (x :: xs ++ missing.map (blank first)))

end ComplianceHistory.Report
