import ComplianceHistory.Json.Reader

/-!
# Bodies of requests

The body of a request is an object with members of given kinds; other members do not matter.  All flaws
of a body are told, in the order of the members.
-/

namespace ComplianceHistory.Web

open Value

/-- A step on the way to a value inside a body. -/
inductive Step where
  | member (name : String)
  | item (index : Nat)
deriving DecidableEq, Repr

/-- What is wrong with a value. -/
inductive FlawKind where
  | missing
  | notText
  | notObject
  | notList
  | notModel
  | notJson
deriving DecidableEq, Repr

/-- The name of a kind of flaw. -/
def FlawKind.name : FlawKind → String
  | missing => "missing"
  | notText => "string_type"
  | notObject => "dict_type"
  | notList => "list_type"
  | notModel => "model_attributes_type"
  | notJson => "json_invalid"

/-- A flaw of a body: where it is, and the value that has it. -/
structure Flaw where
  steps : List Step
  kind : FlawKind
  value : Value

/-- A part of a body, or the flaws that it has. -/
abbrev Checked (α : Type) := Except (List Flaw) α

namespace Checked

variable {α : Type}

/-- A part with a single flaw. -/
def flaw (steps : List Step) (kind : FlawKind) (v : Value) : Checked α := .error [⟨steps, kind, v⟩]

/-- The flaws of a part. -/
def flaws : Checked α → List Flaw
  | .error fs => fs
  | .ok _ => []

end Checked

/-- The members of a body. -/
def membersOf : Value → Checked (Entries Value)
  | .object fields => .ok fields
  | v => .flaw [] .notModel v

/-- A text. -/
def textAt (steps : List Step) : Value → Checked String
  | .string s => .ok s
  | v => .flaw steps .notText v

/-- An object. -/
def objectAt (steps : List Step) : Value → Checked Value
  | .object fields => .ok (.object fields)
  | v => .flaw steps .notObject v

/-- Texts, from the item with an index on. -/
def textsFrom (name : String) (index : Nat) : List Value → Checked (List String)
  | [] => .ok []
  | v :: vs => match textAt [.member name, .item index] v, textsFrom name (index + 1) vs with
    | .ok s, .ok ss => .ok (s :: ss)
    | s, ss => .error (s.flaws ++ ss.flaws)

/-- A list of texts. -/
def textsAt (name : String) : Value → Checked (List String)
  | .array vs => textsFrom name 0 vs
  | v => .flaw [.member name] .notList v

/-- A member that has to be there, by the first of its names that is there; a missing one has the first. -/
def required {α : Type} (fields : Entries Value) (names : List String)
    (read : List Step → Value → Checked α) : Checked α :=
  match names.findSome? fun name => (fields.get? name).map (name, ·) with
  | some (name, v) => read [.member name] v
  | none => .flaw ((names.head?.map .member).toList) .missing (.object fields)

/-- A member that may be null or missing. -/
def optional {α : Type} (fields : Entries Value) (name : String) (read : Value → Checked α) :
    Checked (Option α) :=
  match member fields name with
  | .null => .ok none
  | v => (read v).map some

/-- The document of a filter, null if there is none. -/
def filterForm (body : Value) : Checked Value := do
  let fields ← membersOf body
  return (← optional fields "filter" (objectAt [.member "filter"])).getD .null

/-- An expression. -/
def expressionForm (body : Value) : Checked String := do
  let fields ← membersOf body
  required fields ["expression"] textAt

/-- The identity of a stream. -/
def streamForm (body : Value) : Checked String := do
  let fields ← membersOf body
  required fields ["streamId", "stream_id"] textAt

/-- Texts as a value. -/
def textsValue (ss : List String) : Value := .array (ss.map .string)

/-- The members of a new filter, without controls unless they are given. -/
def newFilterForm (body : Value) : Checked (Entries Value) := do
  let fields ← membersOf body
  let name := required fields ["name"] textAt
  let filter := required fields ["filter"] objectAt
  let controls := textsAt "controls" ((fields.get? "controls").getD (.array []))
  match name, filter, controls with
  | .ok name, .ok filter, .ok controls =>
    return [("name", .string name), ("filter", filter), ("controls", textsValue controls)]
  | _, _, _ => .error (name.flaws ++ filter.flaws ++ controls.flaws)

/-- The updates of a filter; null updates nothing. -/
def updateForm (body : Value) : Checked (Entries Value) := do
  let fields ← membersOf body
  let name := optional fields "name" (textAt [.member "name"])
  let filter := optional fields "filter" (objectAt [.member "filter"])
  let controls := optional fields "controls" (textsAt "controls")
  match name, filter, controls with
  | .ok name, .ok filter, .ok controls =>
    return (name.map fun s => ("name", .string s)).toList ++
      (filter.map fun v => ("filter", v)).toList ++
      (controls.map fun ss => ("controls", textsValue ss)).toList
  | _, _, _ => .error (name.flaws ++ filter.flaws ++ controls.flaws)

end ComplianceHistory.Web
