import ComplianceHistory.Record
import ComplianceHistory.Report.Gaps

/-!
# Histories and histograms

Records are put in order of time, and the last one of each stream and bucket stands for it; so of equally
late records the last given one counts.  A history lists the buckets of a stream, a histogram counts the
states over all streams in each bucket; both have their gaps filled.
-/

namespace ComplianceHistory.Report

open Time

/-- Records in order of time; those of one time keep their order. -/
def byTime (rs : List Record) : List Record := inOrder Record.timestamp rs

/-- The latest record of every stream, in ascending order of the streams. -/
def latestPerStream (rs : List Record) : List Record :=
  let latest := Keyed.lastOf ((byTime rs).map fun r => (r.streamId, r))
  (latest.mergeSort fun a b => a.1 ≤ b.1).map Prod.snd

/-- A record with its bucket. -/
structure Placed where
  bucket : Instant
  record : Record

/-- Records with their buckets. -/
def placed (interval : Duration) (anchor : Instant) (rs : List Record) :
    Except BucketError (List Placed) :=
  rs.mapM fun r => (bucketOf r.timestamp interval anchor).map fun b => ⟨b, r⟩

/-- What a record is counted under: its stream and its bucket. -/
def Placed.key (p : Placed) : String × Instant := (p.record.streamId, p.bucket)

/-- The record that stands for a stream in a bucket. -/
structure Representative where
  streamId : String
  interval : Instant
  status : String
  title : String
deriving DecidableEq

/-- The order by stream, and in a stream by time. -/
def Representative.notAfter (a b : Representative) : Bool :=
  a.streamId < b.streamId ∨ a.streamId = b.streamId ∧ a.interval.micros ≤ b.interval.micros

/-- The representative of a stream in a bucket. -/
def Representative.ofGroup (g : (String × Instant) × Record) : Representative :=
  ⟨g.1.1, g.1.2, g.2.status, g.2.title⟩

/-- The representatives of placed records, the last one of each stream and bucket, by stream and time. -/
def representatives (ps : List Placed) : List Representative :=
  ((Keyed.lastOf (ps.map fun p => (p.key, p.record))).map .ofGroup).mergeSort Representative.notAfter

/-- Reduces records to one for each stream and bucket. -/
def reduce (rs : List Record) (interval : Duration) (anchor : Instant) :
    Except BucketError (List Representative) :=
  (placed interval anchor (byTime rs)).map representatives

/-- A bucket of a stream: its title, how often each state is in it, and whether it had records. -/
structure StreamEntry where
  interval : Instant
  title : String
  statusCounts : Entries Int
  hasRecords : Bool
deriving DecidableEq

/-- The history of a stream. -/
structure StreamReport where
  streamId : String
  entries : List StreamEntry
deriving DecidableEq

/-- An entry for a bucket without records. -/
def StreamEntry.blank (first : StreamEntry) (t : Instant) : StreamEntry := ⟨t, first.title, [], false⟩

/-- The history with its gaps filled. -/
def StreamReport.fillGaps (interval : Duration) (r : StreamReport) : Except BucketError StreamReport :=
  (fill StreamEntry.interval .blank interval r.entries).map fun es => ⟨r.streamId, es⟩

/-- The entry of a representative. -/
def Representative.entry (r : Representative) : StreamEntry := ⟨r.interval, r.title, [(r.status, 1)], true⟩

/-- The histories of all streams, in ascending order of the streams. -/
def histories (rs : List Record) (interval : Duration) (anchor : Instant) :
    Except BucketError (List StreamReport) := do
  let reps ← reduce rs interval anchor
  let perStream := Keyed.gather (reps.map fun r => (r.streamId, r.entry))
  perStream.mapM fun s => StreamReport.fillGaps interval ⟨s.1, s.2⟩

/-- The number of buckets that had records. -/
def totalRecords (reports : List StreamReport) : Nat :=
  (reports.flatMap StreamReport.entries).countP StreamEntry.hasRecords

/-- How often each state is in a bucket, over all streams. -/
structure StatusGroup where
  interval : Instant
  statuses : List (String × Int)
deriving DecidableEq

/-- A group for a bucket without records. -/
def StatusGroup.blank (_ : StatusGroup) (t : Instant) : StatusGroup := ⟨t, []⟩

/-- The groups with their gaps filled. -/
def fillStatusGaps (interval : Duration) (groups : List StatusGroup) :
    Except BucketError (List StatusGroup) :=
  fill StatusGroup.interval .blank interval groups

/-- The group of a bucket with the states of its representatives. -/
def groupOf (bucket : Instant) (states : List String) : StatusGroup :=
  ⟨bucket, (Keyed.tally states).mergeSort fun a b => a.1 ≤ b.1⟩

/-- The histogram of states over time. -/
def histogram (rs : List Record) (interval : Duration) (anchor : Instant) :
    Except BucketError (List StatusGroup) := do
  let reps ← reduce rs interval anchor
  let perBucket := Keyed.gather (reps.map fun r => (r.interval, r.status))
  fillStatusGaps interval (perBucket.map fun b => groupOf b.1 b.2)

/-- An entry as an object of an answer. -/
def StreamEntry.toValue (e : StreamEntry) : Value := .object [
  ("interval", .string e.interval.text),
  ("title", .string e.title),
  ("statusCounts", .object (e.statusCounts.mapValues .int)),
  ("hasRecords", .bool e.hasRecords)]

/-- A history as an object of an answer. -/
def StreamReport.toValue (r : StreamReport) : Value := .object [
  ("_id", .string r.streamId),
  ("records", .array (r.entries.map StreamEntry.toValue))]

/-- A group as an object of an answer. -/
def StatusGroup.toValue (g : StatusGroup) : Value := .object [
  ("interval", .string g.interval.text),
  ("statuses", .array (g.statuses.map fun s =>
    .object [("status", .string s.1), ("count", .int s.2)]))]

end ComplianceHistory.Report
