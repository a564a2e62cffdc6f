import ComplianceHistory.Filter.Compiled
import ComplianceHistory.Value

/-!
# Document queries

A document query is an object.  A name with a value asks that the field of that name equals the value; a
value that is an object holds comparisons `$eq` and `$ne`.  The names `$and` and `$or` join queries.
Names are looked at in their order and the first that does not match ends the search, so that a fault
behind it goes unnoticed.
-/

namespace ComplianceHistory.DocumentQuery

/-- What the name of a label has in front of it in a query. -/
def labelMark : List Char := "labels.".toList

/-- Filters as document queries. -/
def form : QueryForm Value where
  everything := .object []
  compare c label value :=
    let name := String.ofList (labelMark ++ label.toList)
    match c with
    | .equal => .object [(name, .string value)]
    | .different => .object [(name, .object [("$ne", .string value)])]
  join
    | .and, qs => .object [("$and", .array qs)]
    | .or, qs => .object [("$or", .array qs)]

/-- The query for the records of a stream. -/
def ofStream (stream : String) : Value := .object [("streamId", .string stream)]

/-- Why a query cannot be evaluated. -/
inductive QueryFault where
  | misuse (m : Misuse)
  | unknownQueryOperator (name : String)
  | unknownFieldOperator (name : String)
deriving DecidableEq, Repr

/-- The wording of a fault; a misused value has none. -/
def QueryFault.message? : QueryFault → Option String
  | misuse _ => none
  | unknownQueryOperator n => some ("Unsupported query operator: " ++ n)
  | unknownFieldOperator n => some ("Unsupported field operator: " ++ n)

open Value

/-- What a value holds under the parts of a path; null where there is nothing. -/
def valueAt (v : Value) : List (List Char) → Value
  | [] => v
  | part :: parts => match v with
    | .object fields => match member fields (String.ofList part) with
      | .null => .null
      | inner => valueAt inner parts
    | _ => .null

/-- The parts of a path between its points. -/
def pathParts : List Char → List (List Char)
  | [] => [[]]
  | c :: cs => if c = '.' then [] :: pathParts cs
    else match pathParts cs with
      | [] => [[c]]
      | part :: parts => (c :: part) :: parts

/-- The field that a name leads to; what follows the mark of labels is one name, points included. -/
def fieldAt (document : Entries Value) (name : String) : Value :=
  let cs := name.toList
  if labelMark.isPrefixOf cs then
    match member document "labels" with
    | .object labels => member labels (String.ofList (cs.drop labelMark.length))
    | _ => .null
  else valueAt (.object document) (pathParts cs)

/-- Whether a field meets comparisons. -/
def fieldMeets (field : Value) : List (String × Value) → Except QueryFault Bool
  | [] => .ok true
  | (operator, operand) :: more =>
    if operator = "$eq" then (if same field operand then fieldMeets field more else .ok false)
    else if operator = "$ne" then (if same field operand then .ok false else fieldMeets field more)
    else .error (.unknownFieldOperator operator)

/-- Whether a field is as a query expects it. -/
def fieldMatches (field : Value) : Value → Except QueryFault Bool
  | .object comparisons => fieldMeets field comparisons
  | expected => .ok (same field expected)

/-- The outcome of joining queries that are not given as a list: there may be none of them. -/
def noQueries (outcome : Bool) : Value → Except QueryFault Bool
  | .string s => if s = "" then .ok outcome else .error (.misuse .noMembers)
  | .object fields => if fields.isEmpty then .ok outcome else .error (.misuse .noMembers)
  | _ => .error (.misuse .wrongKind)

variable (document : Entries Value)

mutual

/-- Whether a document matches a query. -/
def matches? : Value → Except QueryFault Bool
  | .object members => membersMatch? members
  | _ => .error (.misuse .noMembers)

/-- Whether a document matches every member of a query. -/
def membersMatch? : List (String × Value) → Except QueryFault Bool
  | [] => .ok true
  | m :: ms => match memberMatches? m with
    | .ok true => membersMatch? ms
    | outcome => outcome

/-- Whether a document matches a member of a query. -/
def memberMatches? : String × Value → Except QueryFault Bool
  | (name, expected) =>
    if name = "$and" then allMatch? expected
    else if name = "$or" then anyMatches? expected
    else if name.toList.head? = some '$' then .error (.unknownQueryOperator name)
    else fieldMatches (fieldAt document name) expected

/-- Whether a document matches all queries of a list. -/
def allMatch? : Value → Except QueryFault Bool
  | .array qs => allOf? qs
  | v => noQueries true v

/-- Whether a document matches one of the queries of a list. -/
def anyMatches? : Value → Except QueryFault Bool
  | .array qs => anyOf? qs
  | v => noQueries false v

/-- Whether a document matches queries, up to the first that it does not match. -/
def allOf? : List Value → Except QueryFault Bool
  | [] => .ok true
  | q :: qs => match matches? q with
    | .ok true => allOf? qs
    | outcome => outcome

/-- Whether a document matches one of the queries, up to the first that it matches. -/
def anyOf? : List Value → Except QueryFault Bool
  | [] => .ok false
  | q :: qs => match matches? q with
    | .ok false => anyOf? qs
    | outcome => outcome

end

end ComplianceHistory.DocumentQuery
