import ComplianceHistory.Filter.Compiled
import ComplianceHistory.Value

/-!
# Relational clauses

A clause is a condition on a record `r` and its labels, written with a placeholder for every value; the
values stand beside it, in the order of the placeholders.  So no text of a filter is part of a clause.
-/

namespace ComplianceHistory.Sql

/-- A condition on a record and its labels. -/
inductive Clause where
  /-- A comparison of numbers that always or never holds. -/
  | constant (holds : Bool)
  /-- The comparison of a column with a placeholder. -/
  | column (name : List Char)
  /-- The record has a label with a name and a value, both placeholders. -/
  | hasLabel
  | not (c : Clause)
  | join (connective : Connective) (cs : List Clause)
deriving Repr, Inhabited

/-- A clause with the values of its placeholders. -/
structure Query where
  clause : Clause
  params : List Value

/-- The sub-select that looks for a label. -/
def labelExists : List Char :=
  ("EXISTS (SELECT 1 FROM record_labels lbl " ++
    "WHERE lbl.record_id = r.id AND lbl.name = ? AND lbl.value = ?)").toList

/-- A connective between two clauses. -/
def separator : Connective → List Char
  | .and => " AND ".toList
  | .or => " OR ".toList

namespace Clause

/-- Induction over a clause: what holds of a join may be derived from all its clauses. -/
@[elab_as_elim]
theorem induct {P : Clause → Prop} (constant : ∀ b, P (.constant b)) (column : ∀ name, P (.column name))
    (hasLabel : P .hasLabel) (not : ∀ c, P c → P (.not c))
    (join : ∀ connective cs, (∀ c ∈ cs, P c) → P (.join connective cs)) (c : Clause) : P c :=
  Clause.rec (motive_1 := P) (motive_2 := fun cs => ∀ c ∈ cs, P c) constant column hasLabel not join
    (fun _ h => nomatch h)
    (fun _ _ hc hcs _ h => (List.mem_cons.mp h).elim (fun e => e ▸ hc) (hcs _)) c

mutual

/-- The text of a clause; joined clauses stand in parentheses. -/
def render : Clause → List Char
  | constant true => "1 = 1".toList
  | constant false => "1 = 0".toList
  | column name => name ++ " = ?".toList
  | hasLabel => labelExists
  | not c => "NOT ".toList ++ render c
  | join connective cs => '(' :: (renderAll (separator connective) cs ++ [')'])

/-- The texts of clauses with a separator between them. -/
def renderAll (between : List Char) : List Clause → List Char
  | [] => []
  | [c] => render c
  | c :: cs => render c ++ between ++ renderAll between cs

end

/-- The text of a clause. -/
def text (c : Clause) : String := String.ofList (render c)

end Clause

/-- A query as a value: the text of its clause, and the values. -/
def Query.toValue (q : Query) : Value :=
  .object [("clause", .string q.clause.text), ("params", .array q.params)]

/-- The query for a label that compares as a condition says. -/
def compareLabel (c : Comparison) (label value : String) : Query :=
  { clause := match c with
      | .equal => .hasLabel
      | .different => .not .hasLabel
    params := [.string label, .string value] }

/-- Filters as relational queries. -/
def form : QueryForm Query where
  everything := ⟨.constant true, []⟩
  compare := compareLabel
  join connective qs := ⟨.join connective (qs.map Query.clause), qs.flatMap Query.params⟩

/-- The query for the records of a stream. -/
def ofStream (stream : String) : Query := ⟨.column "r.stream_id".toList, [.string stream]⟩

/-- The column that holds the collection of a record. -/
def collectionColumn : Clause := .column "r.collection".toList

/-- A query about the records of one collection; the name of the collection is bound first. -/
def Query.within (q : Query) (collection : Value) : Query :=
  ⟨.join .and [collectionColumn, q.clause], collection :: q.params⟩

/-- The text of the condition of a statement about one collection: a clause is put in parentheses. -/
def conditionText (clause : Clause) : String :=
  String.ofList (collectionColumn.render ++ separator .and ++ '(' :: (clause.render ++ [')']))

end ComplianceHistory.Sql
