import ComplianceHistory.Time.Timestamp

/-!
# Records

A record says in which state a stream was found at an instant.  Records are read leniently from objects
of several shapes: the stream and the instant may go by several names, the state may be wrapped in an
object, and the labels may be an object or a list of names and values.  All other values become texts.
A `LooseRecord` has the same fields, of which only the instant has been checked; what names its labels
need not be texts either.
-/

namespace ComplianceHistory

open Value

/-- An observation of a stream. -/
structure Record where
  streamId : String
  timestamp : Time.Instant
  status : String
  title : String
  labels : Entries String
  id : Option String
deriving DecidableEq

/-- Why an object is no record. -/
inductive RecordError where
  | misuse (m : Misuse)
  | noStream
  | noTimestamp (stream : String)
  | badLabel (stream shown : String)
  | badLabels (stream shown : String)
  | timestamp (e : Time.TimestampError)
deriving DecidableEq, Repr

/-- The wording of a failure; a misused value has none. -/
def RecordError.message? : RecordError → Option String
  | misuse _ => none
  | noStream => some "Record has no stream identity"
  | noTimestamp s => some ("Record for stream " ++ s ++ " has no timestamp")
  | badLabel s shown => some ("Record for stream " ++ s ++ " has a label without name and value: " ++ shown)
  | badLabels s shown => some ("Record for stream " ++ s ++ " has invalid labels: " ++ shown)
  | timestamp e => some e.message

namespace Record

/-- The names of the stream, the first one given counts. -/
def streamNames : List String := ["streamId", "stream_id", "uuid"]

/-- The names of the instant, the first one given counts. -/
def timestampNames : List String := ["collected", "end", "timestamp", "@timestamp", "ts", "time"]

/-- The first member of the given names that is there and not null. -/
def firstGiven? (fields : Entries Value) (names : List String) : Option Value :=
  names.findSome? fun name => match member fields name with
    | .null => none
    | v => some v

/-- The text of a member, empty if there is none. -/
def textOf (fields : Entries Value) (name : String) : String :=
  ((fields.get? name).map display).getD ""

/-- The state of a record, which may be wrapped in an object. -/
def statusText (fields : Entries Value) : String :=
  match member fields "status" with
  | .object inner => textOf inner "state"
  | _ => textOf fields "status"

/-- Gives a key a value; equal keys are one key, and its first form stays. -/
def putKey : List (Value × Value) → Value → Value → List (Value × Value)
  | [], k, v => [(k, v)]
  | (k', v') :: es, k, v => if same k' k then (k', v) :: es else (k', v') :: putKey es k v

/-- The name and value of an item of a list of labels. -/
def labelItem (stream : String) (item : Value) : Except RecordError (Value × Value) :=
  match item with
  | .object fields => match Entries.get? fields "name", Entries.get? fields "value" with
    | some name, some value =>
      if name.isKey then .ok (name, value) else .error (.misuse .wrongKind)
    | _, _ => .error (.badLabel stream item.inspect)
  | _ => .error (.badLabel stream item.inspect)

/-- The labels of a list of items, read after those that came before. -/
def labelItems (stream : String) (before : List (Value × Value)) :
    List Value → Except RecordError (List (Value × Value))
  | [] => .ok before
  | item :: items => match labelItem stream item with
    | .error e => .error e
    | .ok (k, v) => labelItems stream (putKey before k v) items

/-- The labels of a record; what does not count as given stands for none. -/
def labelsOf (stream : String) (v : Value) : Except RecordError (Entries String) :=
  if !v.isTruthy then .ok []
  else match v with
    | .array items => (labelItems stream [] items).map fun es =>
        Entries.ofList (es.map fun e => (e.1.display, e.2.display))
    | .object fields => .ok (Entries.mapValues display fields)
    | v => .error (.badLabels stream v.inspect)

/-- The identity of a record under either of its names. -/
def idOf (fields : Entries Value) : Option String :=
  match (fields.get? "id").getD (member fields "_id") with
  | .null => none
  | v => some v.display

/-- Reads a record from an object. -/
def ofFields (fields : Entries Value) : Except RecordError Record :=
  match firstGiven? fields streamNames with
  | none => .error .noStream
  | some stream => match firstGiven? fields timestampNames with
    | none => .error (.noTimestamp stream.display)
    | some time => match labelsOf stream.display (member fields "labels") with
      | .error e => .error e
      | .ok labels => match Time.timestamp time with
        | .error e => .error (.timestamp e)
        | .ok timestamp => .ok {
            streamId := stream.display
            timestamp
            status := statusText fields
            title := textOf fields "title"
            labels
            id := idOf fields }

/-- Reads a record from a value. -/
def ofValue : Value → Except RecordError Record
  | .object fields => ofFields fields
  | _ => .error (.misuse .noMembers)

/-- Reads records from values, up to the first that is none. -/
def ofValues : List Value → Except RecordError (List Record) := List.mapM ofValue

/-- A text that may be missing. -/
def optionalText : Option String → Value
  | none => .null
  | some s => .string s

/-- Labels as an object. -/
def labelsValue (labels : Entries String) : Value := .object (labels.mapValues .string)

/-- A record as an object of an answer. -/
def toValue (r : Record) : Value := .object [
  ("id", optionalText r.id),
  ("streamId", .string r.streamId),
  ("timestamp", .string r.timestamp.text),
  ("status", .string r.status),
  ("title", .string r.title),
  ("labels", labelsValue r.labels)]

/-- A record as a document of a store. -/
def document (r : Record) : Entries Value := [
  ("_id", optionalText r.id),
  ("streamId", .string r.streamId),
  ("collected", .moment r.timestamp),
  ("status", .object [("state", .string r.status)]),
  ("title", .string r.title),
  ("labels", labelsValue r.labels)]

end Record

/-- Labels that have not been checked: a mapping from any names to any values, or a value that is none. -/
inductive LooseLabels where
  | mapping (entries : List (Value × Value))
  | other (v : Value)

/-- The labels of a value: the members of an object are a mapping. -/
def LooseLabels.ofValue : Value → LooseLabels
  | .object fields => mapping (fields.map fun f => (.string f.1, f.2))
  | v => other v

/-- A record of which only the instant has been checked. -/
structure LooseRecord where
  streamId : Value
  timestamp : Time.Instant
  status : Value
  title : Value
  labels : LooseLabels
  id : Value

namespace LooseRecord

/-- The names of the fields. -/
def fieldNames : List String := ["stream_id", "timestamp", "status", "title", "labels", "id"]

/-- Takes the fields as they are; stream, instant and status must be there and no other names. -/
def ofValue : Value → Except RecordError LooseRecord
  | .object fields =>
    match Entries.get? fields "stream_id", Entries.get? fields "timestamp", Entries.get? fields "status" with
    | some streamId, some time, some status =>
      if !fields.all fun f => fieldNames.contains f.1 then .error (.misuse .wrongKind)
      else match Time.timestamp time with
        | .error e => .error (.timestamp e)
        | .ok timestamp => .ok {
            streamId
            timestamp
            status
            title := (Entries.get? fields "title").getD (.string "")
            labels := .ofValue ((Entries.get? fields "labels").getD (.object []))
            id := member fields "id" }
    | _, _, _ => .error (.misuse .wrongKind)
  | _ => .error (.misuse .wrongKind)

/-- Forgets that the fields of a record are texts. -/
def ofRecord (r : Record) : LooseRecord where
  streamId := .string r.streamId
  timestamp := r.timestamp
  status := .string r.status
  title := .string r.title
  labels := .ofValue (Record.labelsValue r.labels)
  id := Record.optionalText r.id

/-- A label as a member of an object, if a text names it. -/
def labelMember? : Value × Value → Option (String × Value)
  | (.string name, v) => some (name, v)
  | _ => none

/-- The labels that texts name as an object; an empty list or text stands for none. -/
def labelsObject (r : LooseRecord) : Except Misuse Value :=
  match r.labels with
  | .mapping entries => .ok (.object (entries.filterMap labelMember?))
  | .other (.array []) | .other (.string "") => .ok (.object [])
  | .other _ => .error .wrongKind

/-- A loose record as an object of an answer. -/
def toValue (r : LooseRecord) : Except Misuse Value :=
  r.labelsObject.map fun labels => .object [
    ("id", r.id),
    ("streamId", r.streamId),
    ("timestamp", .string r.timestamp.text),
    ("status", r.status),
    ("title", r.title),
    ("labels", labels)]

/-- A loose record as a document of a store. -/
def document (r : LooseRecord) : Except Misuse (Entries Value) :=
  r.labelsObject.map fun labels => [
    ("_id", r.id),
    ("streamId", r.streamId),
    ("collected", .moment r.timestamp),
    ("status", .object [("state", r.status)]),
    ("title", r.title),
    ("labels", labels)]

end LooseRecord

end ComplianceHistory
