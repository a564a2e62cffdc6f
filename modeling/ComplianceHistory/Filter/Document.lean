import ComplianceHistory.Filter.Basic
import ComplianceHistory.Json.Reader
import ComplianceHistory.Json.Writer

/-!
# Filters as documents

A filter is written as an object with a `scope`, a scope as an object with a `condition` or a `query` or
nothing.  Reading is lenient in what is missing (texts become empty, scopes an empty list) and strict in
the kinds of values; it stops at the first fault, an operator before the scopes it joins.
-/

namespace ComplianceHistory

/-- The part of a filter document that a text belongs to. -/
inductive FilterPart where
  | condition
  | query
deriving DecidableEq, Repr

/-- The name of a part in messages. -/
def FilterPart.name : FilterPart → String
  | condition => "condition"
  | query => "query"

/-- Why a value is no filter document. -/
inductive DocumentError where
  | notString (part : FilterPart) (key kind : String)
  | conditionKind
  | emptyLabel
  | queryKind
  | scopesKind
  | scopeKind (kind : String)
  | bothBranches
  | filterKind (kind : String)
deriving DecidableEq, Repr

/-- The wording of a fault of a filter document. -/
def DocumentError.message : DocumentError → String
  | notString p key kind => p.name ++ "." ++ key ++ " must be a string, got " ++ kind
  | conditionKind => "condition must be an object"
  | emptyLabel => "condition.label must not be empty"
  | queryKind => "query must be an object"
  | scopesKind => "query.scopes must be a list"
  | scopeKind kind => "scope must be an object, got " ++ kind
  | bothBranches => "scope must hold either a condition or a query, not both"
  | filterKind kind => "filter must be an object, got " ++ kind

open Value

/-- The text of a member, empty if there is none. -/
def textMember (part : FilterPart) (fields : Entries Value) (key : String) :
    Except DocumentError String :=
  match (fields.get? key).getD (.string "") with
  | .string s => .ok s
  | v => .error (.notString part key v.kindName)

/-- Reads a condition. -/
def Condition.ofValue : Value → Except DocumentError Condition
  | .object fields => do
    let label ← textMember .condition fields "label"
    if label = "" then throw .emptyLabel
    let operator ← textMember .condition fields "operator"
    let value ← textMember .condition fields "value"
    return ⟨label, operator, value⟩
  | _ => .error .conditionKind

/-- The scopes of a query: null counts as none. -/
def scopeItems : Value → Except DocumentError (List Value)
  | .null => .ok []
  | .array xs => .ok xs
  | _ => .error .scopesKind

theorem sizeOf_get?_lt {fields : Entries Value} {name : String} {v : Value}
    (h : fields.get? name = some v) : sizeOf v < sizeOf (Value.object fields) := by
  suffices sizeOf v < sizeOf fields by simp only [Value.object.sizeOf_spec]; omega
  induction fields with
  | nil => simp [Entries.get?] at h
  | cons e es ih =>
    obtain ⟨k, w⟩ := e
    rw [Entries.get?, Keyed.get?_cons] at h
    split at h
    · cases h; simp; omega
    · have := ih h; simp; omega

theorem sizeOf_scopeItems_le {v : Value} {xs : List Value} (h : scopeItems v = .ok xs) :
    sizeOf xs ≤ sizeOf v := by
  cases v with
  | array items =>
    cases h
    simp only [Value.array.sizeOf_spec]
    omega
  | null => cases h; simp
  | _ => cases h

/-- Whether a value is null. -/
def isNull : Value → Bool
  | .null => true
  | _ => false

/-- A member that is there and not null. -/
def given? (fields : Entries Value) (name : String) :
    Option { v : Value // fields.get? name = some v } :=
  (fields.get? name).attach.filter fun v => !isNull v.1

theorem sizeOf_member_lt (fields : Entries Value) (name : String) :
    sizeOf (member fields name) < sizeOf (Value.object fields) := by
  unfold member
  cases h : fields.get? name with
  | none => simp only [Option.getD_none, Value.null.sizeOf_spec, Value.object.sizeOf_spec]; cases fields <;> simp +arith
  | some v => exact sizeOf_get?_lt h

namespace Scope

mutual

/-- Reads a scope. -/
def ofValue (v : Value) : Except DocumentError Scope :=
  match v with
  | .object fields =>
    match given? fields "condition", given? fields "query" with
    | some _, some _ => .error .bothBranches
    | some c, none => (Condition.ofValue c.1).map condition
    | none, some ⟨.object members, _⟩ =>
      match _ : scopeItems (member members "scopes") with
      | .error e => .error e
      | .ok items =>
        match textMember .query members "operator" with
        | .error e => .error e
        | .ok operator => (ofValues items).map (query operator)
    | none, some _ => .error .queryKind
    | none, none => .ok empty
  | v => .error (.scopeKind v.kindName)
termination_by sizeOf v
decreasing_by
  have h1 := sizeOf_get?_lt ‹Entries.get? fields "query" = _›
  have h2 := sizeOf_scopeItems_le ‹scopeItems _ = _›
  have h3 := sizeOf_member_lt members "scopes"
  omega

/-- Reads the scopes of a query. -/
def ofValues (vs : List Value) : Except DocumentError (List Scope) :=
  match vs with
  | [] => .ok []
  | v :: vs =>
    match ofValue v with
    | .error e => .error e
    | .ok s => (ofValues vs).map (s :: ·)
termination_by sizeOf vs

end

mutual

/-- The document of a scope. -/
def toValue : Scope → Value
  | condition c => .object [("condition", .object [("label", .string c.label),
      ("operator", .string c.operator), ("value", .string c.value)])]
  | query operator scopes => .object [("query", .object [("operator", .string operator),
      ("scopes", .array (toValues scopes))])]
  | empty => .object []

/-- The documents of the scopes of a query. -/
def toValues : List Scope → List Value
  | [] => []
  | s :: ss => toValue s :: toValues ss

end

end Scope

namespace Filter

/-- Reads a filter; null is the filter that matches all. -/
def ofValue : Value → Except DocumentError Filter
  | .null => .ok ⟨none⟩
  | .object fields => match given? fields "scope" with
    | none => .ok ⟨none⟩
    | some s => (Scope.ofValue s.1).map fun s => ⟨some s⟩
  | v => .error (.filterKind v.kindName)

/-- The document of a filter. -/
def toValue (f : Filter) : Value :=
  .object [("scope", match f.scope with
    | none => .null
    | some s => s.toValue)]

/-- Why a text is no filter. -/
inductive TextError where
  | notJson (e : Json.ReadError)
  | document (e : DocumentError)

/-- The wording of a fault of the text of a filter. -/
def TextError.message : TextError → String
  | notJson (.tooManyDigits n) => (Json.ReadError.tooManyDigits n).message
  | notJson e => "Invalid filter JSON: " ++ e.message
  | document e => e.message

/-- Reads a filter from the JSON text of its document. -/
def ofText (text : String) : Except TextError Filter :=
  match Json.read text with
  | .error e => .error (.notJson e)
  | .ok v => (ofValue v).mapError .document

/-- The JSON text of the document of a filter. -/
def toText (layout : Json.Layout) (f : Filter) : String := Json.write layout f.toValue

end Filter

end ComplianceHistory
