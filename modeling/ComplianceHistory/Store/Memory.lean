import ComplianceHistory.DocumentQuery
import ComplianceHistory.Record

/-!
# The store of documents

Collections of records are kept in memory, each in the order in which its records were added.  A query
is asked of every record of a collection, seen as a document, from the first one to the last.
-/

namespace ComplianceHistory

open DocumentQuery

/-- Collections of records by their names. -/
structure Memory (ρ : Type) where
  collections : Entries (List ρ)

namespace Memory

variable {ρ : Type}

/-- A store that holds nothing. -/
def empty : Memory ρ := ⟨[]⟩

/-- The records of a collection; a collection that does not exist has none. -/
def records (m : Memory ρ) (collection : String) : List ρ := (m.collections.get? collection).getD []

/-- Adds records behind those of a collection. -/
def add (m : Memory ρ) (collection : String) (records : List ρ) : Memory ρ :=
  ⟨m.collections.put collection (m.records collection ++ records)⟩

/-- The records that match a query, up to the first fault. -/
def select (document : ρ → Except Misuse (Entries Value)) (query : Value) :
    List ρ → Except QueryFault (List ρ)
  | [] => .ok []
  | r :: rs => match document r with
    | .error e => .error (.misuse e)
    | .ok d => match matches? d query with
      | .error e => .error e
      | .ok chosen => (select document query rs).map fun rest => if chosen then r :: rest else rest

/-- The records of a collection that match a query. -/
def find (document : ρ → Except Misuse (Entries Value)) (m : Memory ρ) (query : Value)
    (collection : String) : Except QueryFault (List ρ) :=
  select document query (m.records collection)

end Memory

end ComplianceHistory
