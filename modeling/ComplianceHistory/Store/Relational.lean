import ComplianceHistory.Record
import ComplianceHistory.Sql.Truth

/-!
# The relational store

Records are rows of a table, numbered in the order of their insertion over all collections; their labels
are rows of a second table.  A batch of records is inserted as a whole or not at all.  A statement is
checked before it is evaluated: its columns, then the number of its values, then the values themselves.
Its rows come from a join, in which a record stands once for each of its labels; the records are put
together again from them, and their instants are read from their texts.
-/

namespace ComplianceHistory

open Sql

/-- A row of the table of records. -/
structure Row where
  id : Nat
  collection : String
  streamId : String
  title : String
  status : String
  collected : String

/-- A row of the table of labels. -/
structure LabelRow where
  recordId : Nat
  name : String
  value : String

/-- A database of records. -/
structure Relational where
  rows : List Row
  labels : List LabelRow
  /-- The last number that was given to a record. -/
  lastId : Nat
  /-- How the engine turns numbers that are not whole into texts. -/
  floats : Float → String

/-- Why a statement failed. -/
inductive StatementFault where
  | unknownColumn (name : List Char)
  | bindingCount (wanted got : Nat)
  | binding (place : Nat) (kind : String)
  | notNull (column : String)
  | notUnique (columns : String)
deriving DecidableEq, Repr

/-- The wording of a failed statement. -/
def StatementFault.message : StatementFault → String
  | unknownColumn name => "no such column: " ++ String.ofList name
  | bindingCount wanted got => "Incorrect number of bindings supplied. The current statement uses " ++
      toString wanted ++ ", and there are " ++ toString got ++ " supplied."
  | binding place kind => "Error binding parameter " ++ toString place ++ ": type '" ++ kind ++
      "' is not supported"
  | notNull column => "NOT NULL constraint failed: " ++ column
  | notUnique columns => "UNIQUE constraint failed: " ++ columns

/-- Why a statement was given up. -/
inductive RelationalError where
  | statement (f : StatementFault)
  | integerTooLarge
  /-- The text of an instant could not be read. -/
  | timestamp (e : Time.TimestampError)
  | misuse (m : Misuse)
deriving DecidableEq, Repr

namespace Relational

/-- A database without records. -/
def empty : Relational := ⟨[], [], 0, Decimal.floatText .column⟩

/-- Binds values to the placeholders from a place on. -/
def bindFrom (floats : Float → String) (place : Nat) : List Value → Except RelationalError (List Cell)
  | [] => .ok []
  | v :: vs => match cellOf floats v with
    | .error (.unsupported kind) => .error (.statement (.binding place kind))
    | .error .integerTooLarge => .error .integerTooLarge
    | .ok cell => (bindFrom floats (place + 1) vs).map (cell :: ·)

/-- A cell of a column that has no nulls. -/
def required (column : String) : Cell → Except RelationalError String
  | some s => .ok s
  | none => .error (.statement (.notNull column))

/-! ### Inserting -/

/-- Adds a label of the record with a number; a record has one value for a name. -/
def addLabel (id : Nat) (db : Relational) (label : Value × Value) :
    Except RelationalError Relational := do
  let cells ← bindFrom db.floats 2 [label.1, label.2]
  let name ← required "record_labels.name" (cells.getD 0 none)
  let value ← required "record_labels.value" (cells.getD 1 none)
  if db.labels.any fun l => l.recordId = id && l.name = name then
    throw (.statement (.notUnique "record_labels.record_id, record_labels.name"))
  return { db with labels := db.labels ++ [⟨id, name, value⟩] }

/-- Adds a record under the next number, and then its labels. -/
def addRecord (collection : String) (db : Relational) (r : LooseRecord) :
    Except RelationalError Relational := do
  let cells ← bindFrom db.floats 2 [r.streamId, r.title, r.status]
  let streamId ← required "records.stream_id" (cells.getD 0 none)
  let title ← required "records.title" (cells.getD 1 none)
  let status ← required "records.status" (cells.getD 2 none)
  let id := db.lastId + 1
  let row : Row := { id, collection, streamId, title, status, collected := r.timestamp.text }
  match r.labels with
  | .mapping labels => labels.foldlM (addLabel id) { db with rows := db.rows ++ [row], lastId := id }
  | .other _ => throw (.misuse .noMembers)

/-- Inserts records as a whole, and tells how many there were. -/
def insert (db : Relational) (collection : String) (records : List LooseRecord) :
    Except RelationalError (Relational × Nat) :=
  (records.foldlM (addRecord collection) db).map fun db => (db, records.length)

/-! ### Finding -/

/-- Checks a query and binds its values. -/
def prepare (floats : Float → String) (query : Query) : Except RelationalError (List Cell) := do
  match query.clause.columns.find? fun name => !isColumn name with
  | some name => throw (.statement (.unknownColumn name))
  | none => pure ()
  let wanted := query.clause.placeholders
  if query.params.length ≠ wanted then
    throw (.statement (.bindingCount wanted query.params.length))
  bindFrom floats 1 query.params

/-- The labels of the record with a number. -/
def labelsOf (db : Relational) (id : Nat) : List LabelRow := db.labels.filter fun l => l.recordId = id

/-- A row as a clause sees it. -/
def subject (db : Relational) (r : Row) : Subject where
  column? name :=
    Entries.get? [("r.collection", r.collection), ("r.stream_id", r.streamId), ("r.title", r.title),
      ("r.status", r.status), ("r.collected", r.collected)] name
  hasLabel name value := (db.labelsOf r.id).any fun l => l.name = name && l.value = value

/-- The rows of the join for a record: one for each of its labels, or one without a label. -/
def joined (db : Relational) (r : Row) : List (Row × Option LabelRow) :=
  match db.labelsOf r.id with
  | [] => [(r, none)]
  | ls => ls.map fun l => (r, some l)

/-- The rows of the join that a clause is true of, in the order of the numbers of their records. -/
def select (db : Relational) (clause : Clause) (cells : List Cell) : List (Row × Option LabelRow) :=
  ((db.rows.flatMap db.joined).filter fun j => clause.truth (db.subject j.1) cells = some true).mergeSort
    fun a b => a.1.id ≤ b.1.id

/-- Labels with the one of a row of the join. -/
def withLabel (labels : Entries String) : Option LabelRow → Entries String
  | none => labels
  | some l => labels.put l.name l.value

/-- The records of rows of the join by their numbers, each with its labels. -/
def assemble (js : List (Row × Option LabelRow)) : Keyed Nat (Row × Entries String) :=
  Keyed.collect (fun j => (j.1, withLabel [] j.2)) (fun r j => (r.1, withLabel r.2 j.2))
    (js.map fun j => (j.1.id, j))

/-- The record of a row with its labels. -/
def recordOf (r : Row) (labels : Entries String) : Except RelationalError Record :=
  match Time.ofText r.collected with
  | .error e => .error (.timestamp e)
  | .ok timestamp => .ok {
      streamId := r.streamId
      timestamp
      status := r.status
      title := r.title
      labels
      id := some (toString r.id) }

/-- The records of a collection that a query is true of. -/
def find (db : Relational) (query : Query) (collection : Value) :
    Except RelationalError (List Record) := do
  let statement := query.within collection
  let cells ← prepare db.floats statement
  (assemble (db.select statement.clause cells)).mapM fun r => recordOf r.2.1 r.2.2

end Relational

end ComplianceHistory
