import ComplianceHistory.Store.Memory
import ComplianceHistory.Store.Relational

/-!
# Stores of records

A store keeps its records in memory or in a database, or cannot be reached.  It is asked for the records
that match a filter or belong to a stream; the question is first put into the store's own form, which may
fail before the store is asked.
-/

namespace ComplianceHistory

/-- Which records are wanted. -/
inductive Selection where
  | matching (f : Filter)
  | stream (id : String)

/-- Where records are kept. -/
inductive Backend where
  | memory (m : Memory Record)
  | database (db : Relational)
  /-- Records are taken, but no question is answered. -/
  | unreachable (m : Memory Record)

/-- A store with its policy about unknown operators. -/
structure Store where
  policy : Policy
  backend : Backend

/-- Why a store gave no records. -/
inductive StoreError where
  | refused
  | cannotOpen (path : String)
  | notADatabase (path : String)
  | query (e : DocumentQuery.QueryFault)
  | failed (collection : String) (f : StatementFault)
  | timedOut (collection seconds : String)
  | notInserted (collection : String) (f : StatementFault)
  | integerTooLarge
  | timestamp (e : Time.TimestampError)
  | misuse (m : Misuse)
deriving DecidableEq, Repr

/-- The wording of a failure; a misused value has none. -/
def StoreError.message? : StoreError → Option String
  | refused => some "connection refused"
  | cannotOpen path => some ("Cannot open database " ++ path ++ ": unable to open database file")
  | notADatabase path => some ("Cannot initialize database " ++ path ++ ": file is not a database")
  | query e => e.message?
  | failed c f => some ("Query against '" ++ c ++ "' failed: " ++ f.message)
  | timedOut c t => some ("Query against '" ++ c ++ "' timed out after " ++ t ++ "s")
  | notInserted c f => some ("Failed to insert records into '" ++ c ++ "': " ++ f.message)
  | integerTooLarge => some "Python int too large to convert to SQLite INTEGER"
  | timestamp e => some e.message
  | misuse _ => none

/-- Whether a failure is one of the store, and not of the values it was given. -/
def StoreError.isOfStore : StoreError → Bool
  | query (.misuse _) | integerTooLarge | timestamp _ | misuse _ => false
  | _ => true

namespace Relational

/-- What stands where a database is opened. -/
inductive Place where
  | free
  | directory
  | otherFile

/-- Opens a new database. -/
def openAt (path : String) : Place → Except StoreError Relational
  | .free => .ok empty
  | .directory => .error (.cannotOpen path)
  | .otherFile => .error (.notADatabase path)

/-- Whether the time for an answer, in seconds, was over before the question; null is no bound. -/
def timeIsOver : Value → Except StoreError Bool
  | .null => .ok false
  | .float x => .ok (x ≤ 0)
  | v => match v.asInt? with
    | some n => .ok (n ≤ 0)
    | none => .error (.misuse .wrongKind)

/-- The records that a query is true of; a failure after the time for an answer is reported as that. -/
def answer (db : Relational) (query : Sql.Query) (collection timeout : Value) :
    Except StoreError (List Record) :=
  match timeIsOver timeout with
  | .error e => .error e
  | .ok late => (db.find query collection).mapError fun e => match e with
    | .statement f =>
      if late then .timedOut collection.display timeout.display else .failed collection.display f
    | .integerTooLarge => .integerTooLarge
    | .timestamp e => .timestamp e
    | .misuse m => .misuse m

/-- Inserts records, and tells how many there were. -/
def insertInto (db : Relational) (collection : String) (records : List LooseRecord) :
    Except StoreError (Relational × Nat) :=
  (db.insert collection records).mapError fun e => match e with
    | .statement f => .notInserted collection f
    | .integerTooLarge => .integerTooLarge
    | .timestamp e => .timestamp e
    | .misuse m => .misuse m

end Relational

/-- A value in the form that it shares with the values equal to it: numbers as integers, if they are whole. -/
def plainKey (v : Value) : Value :=
  match v with
  | .float x => match Decimal.Binary.ofFloat? x with
    | some b => if b.isInt b.truncate then .int b.truncate else v
    | none => v
  | v => (v.asInt?.map .int).getD v

/--
The name under which a collection is kept in memory.  The name of a collection that is named by another
value than a text starts with a null character, which keeps it apart from the names that are written.
-/
def collectionKey : Value → Except StoreError String
  | .string s => .ok s
  | v => if v.isKey then .ok ("\x00" ++ (plainKey v).inspect) else .error (.misuse .wrongKind)

/-- The records of a collection in memory that match a query. -/
def Memory.answer (m : Memory Record) (query collection : Value) : Except StoreError (List Record) :=
  match collectionKey collection with
  | .error e => .error e
  | .ok name => (m.find (fun r => .ok r.document) query name).mapError .query

/-- A question in the form of a store: the warnings about it, and how it is answered. -/
structure Question where
  warnings : List Unsupported
  /-- The answer from a collection within a number of seconds. -/
  answer : (collection timeout : Value) → Except StoreError (List Record)

namespace Store

/-- The query for a selection in a form, with the query for a stream. -/
def queryFor {β : Type} (form : QueryForm β) (stream : String → β) (policy : Policy) :
    Selection → Except Unsupported (Compiled β)
  | .matching f => f.compile form policy
  | .stream id => .ok (.silent (stream id))

/-- Puts a selection into the form of the store. -/
def question (s : Store) (selection : Selection) : Except Unsupported Question :=
  let documents := queryFor DocumentQuery.form DocumentQuery.ofStream s.policy selection
  match s.backend with
  | .memory m => documents.map fun t => ⟨t.warnings, fun collection _ => m.answer t.query collection⟩
  | .unreachable _ => documents.map fun t => ⟨t.warnings, fun _ _ => .error .refused⟩
  | .database db => (queryFor Sql.form Sql.ofStream s.policy selection).map fun t =>
      ⟨t.warnings, db.answer t.query⟩

/-- Adds records to a collection; a database tells how many there were. -/
def add (s : Store) (collection : String) (records : List Record) :
    Except StoreError (Store × Option Nat) :=
  match s.backend with
  | .memory m => .ok (⟨s.policy, .memory (m.add collection records)⟩, none)
  | .unreachable m => .ok (⟨s.policy, .unreachable (m.add collection records)⟩, none)
  | .database db => (db.insertInto collection (records.map LooseRecord.ofRecord)).map fun (db, n) =>
      (⟨s.policy, .database db⟩, some n)

end Store

end ComplianceHistory
