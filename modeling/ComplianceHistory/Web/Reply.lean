import ComplianceHistory.SavedFilters
import ComplianceHistory.Service
import ComplianceHistory.Web.Form

/-!
# Replies

A request is answered, refused for a reason, or refused for the flaws of its body; a reply that says
nothing tells that something broke while the request was handled.  Texts with halves of pairs cannot be
sent.
-/

namespace ComplianceHistory.Web

/-- The reply to a request. -/
inductive Reply where
  | answer (body : Value)
  | refusal (status : Nat) (detail : String)
  | flawed (flaws : List Flaw)
  | broken
  /-- A refusal without a body. -/
  | silent (status : Nat)

/-- The status of a reply. -/
def Reply.status : Reply → Nat
  | answer _ => 200
  | refusal status _ => status
  | flawed _ => 422
  | broken => 500
  | silent status => status

/-- Whether a reply is one for the flaws of a body. -/
def Reply.isFlawed : Reply → Bool
  | flawed _ => true
  | _ => false

/-- What a reply says of values and texts, as JSON texts. -/
def Reply.texts : Reply → List (List Char)
  | answer body => [Json.render none 0 body]
  | refusal _ detail => [Json.stringText detail]
  | flawed flaws => flaws.map fun f => Json.render none 0 f.value
  | broken | silent _ => []

/-- Whether there are stand-ins in a reply. -/
def Reply.showsStandIn (reply : Reply) : Bool := reply.texts.any Json.hasStandIn

mutual

/-- Whether a number in a value is not finite. -/
def hasNonFinite : Value → Bool
  | .float x => !x.isFinite
  | .array vs => anyNonFinite vs
  | .object fs => memberNonFinite fs
  | _ => false

/-- Whether a number in values is not finite. -/
def anyNonFinite : List Value → Bool
  | [] => false
  | v :: vs => hasNonFinite v || anyNonFinite vs

/-- Whether a number in members is not finite. -/
def memberNonFinite : List (String × Value) → Bool
  | [] => false
  | (_, v) :: fs => hasNonFinite v || memberNonFinite fs

end

/-- Refuses a body; a flaw is told with its value, which is not possible for a number that is not finite. -/
def Reply.ofFlaws (flaws : List Flaw) : Reply :=
  if flaws.any fun f => hasNonFinite f.value then .broken else .flawed flaws

mutual

/-- A value with null for every number that is not finite. -/
def finite : Value → Value
  | .float x => if x.isFinite then .float x else .null
  | .array vs => .array (finiteItems vs)
  | .object fs => .object (finiteMembers fs)
  | v => v

/-- Values with null for every number that is not finite. -/
def finiteItems : List Value → List Value
  | [] => []
  | v :: vs => finite v :: finiteItems vs

/-- Members with null for every number that is not finite. -/
def finiteMembers : List (String × Value) → List (String × Value)
  | [] => []
  | (k, v) :: fs => (k, finite v) :: finiteMembers fs

end

/-- The reply to a request of the service. -/
def Reply.ofService {α : Type} (answer : α → Value) : Except ServiceError α → Reply
  | .ok x => .answer (answer x)
  | .error (.unsupported u) => .refusal 422 u.message
  | .error (.store e) => match e.message? with
    | some m => if e.isOfStore then .refusal 500 ("Record store failure: " ++ m) else .broken
    | none => .broken
  | .error _ => .broken

/-- The refusal of the document of a filter. -/
def Reply.ofDocument (e : DocumentError) : Reply := .refusal 422 ("Invalid label filter: " ++ e.message)

/-- The reply to an operation on saved filters that failed. -/
def Reply.ofSaved : SavedError → Reply
  | .document e => .ofDocument e
  | _ => .broken

/-- There is no saved filter with an identity. -/
def Reply.noFilter (id : String) : Reply := .refusal 404 ("Filter '" ++ id ++ "' not found")

/-- Whether a value is a text. -/
def isText : Value → Bool
  | .string _ => true
  | _ => false

/-- Whether a value is a list of texts. -/
def areTexts : Value → Bool
  | .array vs => vs.all isText
  | _ => false

/-- Whether a value is an object. -/
def isObject : Value → Bool
  | .object _ => true
  | _ => false

/-- What is shown of a saved filter, and of what kind it has to be. -/
def savedMembers : List (String × (Value → Bool)) := [
  ("id", isText), ("name", isText), ("filter", isObject), ("controls", areTexts),
  ("created_at", isText), ("updated_at", isText)]

/-- A saved filter as it is shown, if all members are there and of their kinds. -/
def savedView? (members : Entries Value) : Option Value :=
  (savedMembers.mapM fun (name, isKind) =>
    ((members.get? name).filter isKind).map fun v => (name, finite v)).map .object

/-- The answer that shows a saved filter. -/
def Reply.ofEntry (members : Entries Value) : Reply :=
  match savedView? members with
  | some v => .answer v
  | none => .broken

/-- Saved filters as they are shown, if all of them can be. -/
def savedViews? (content : Value) : Option (List Value) :=
  match content with
  | .array items => items.mapM fun
    | .object members => savedView? members
    | _ => none
  | .object [] => some []
  | .string "" => some []
  | _ => none

end ComplianceHistory.Web
