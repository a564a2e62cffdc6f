import ComplianceHistory.Filter.Expression
import ComplianceHistory.Web.Reply
import ComplianceHistory.Web.Route
import ComplianceHistory.Text.Case

/-!
# Requests

Requests compile filters, ask the service for reports and keep saved filters.  The route is found first,
then the body is read and checked, and then the request is answered.  Only then is the reply sent; if that
is not possible since the reply holds halves of pairs, what was written is not taken back.
-/

namespace ComplianceHistory.Web

open Report

/-- A request; only the path of its address counts. -/
structure Request where
  method : String
  address : String
  body : Option String

/-- Whether all halves of pairs in the body of a request have their other halves. -/
def Request.isPaired (request : Request) : Bool := Json.isPaired (request.body.getD "").toList

/-- Where requests take from what is not given: the instants of the clock, and the identities of filters. -/
structure Sources where
  clock : Nat → Time.Instant
  newId : Nat → String

/-- What requests work on. -/
structure Api where
  service : Service
  /-- The present instant of reports. -/
  now : Time.Instant
  saved : SavedFilters
  /-- How many filters were to be saved. -/
  created : Nat

/-- The value of a body, which may begin with a byte order mark. -/
def bodyValue (body : Option String) : Except Reply Value :=
  let text := (body.getD "").toList
  if text.isEmpty then .error (.ofFlaws [⟨[], .missing, .null⟩])
  else
    let text := if text.head? = some '\ufeff' then text.drop 1 else text
    match Json.read (String.ofList text) with
    | .ok v => .ok v
    | .error (.malformed _ _ _ offset) => .error (.ofFlaws [⟨[.item offset], .notJson, .null⟩])
    | .error (.tooManyDigits _) => .error (.refusal 400 "There was an error parsing the body")

/-- What a form reads from a body. -/
def readBody {α : Type} (form : Value → Checked α) (body : Option String) : Except Reply α := do
  let v ← bodyValue body
  (form v).mapError .ofFlaws

/-- The filter in a body. -/
def bodyFilter (body : Option String) : Except Reply Filter := do
  let document ← readBody filterForm body
  (Filter.ofValue document).mapError .ofDocument

/-- The reply that was found on either way. -/
def Reply.either : Except Reply Reply → Reply
  | .ok r => r
  | .error r => r

/-- The answer that lists data. -/
def dataValue {α : Type} (toValue : α → Value) (xs : List α) : Value :=
  .object [("data", .array (xs.map toValue))]

namespace Api

variable (api : Api)

/-- Compiles a filter into both forms of queries. -/
def compile (f : Filter) : Except ServiceError Value := do
  let policy := Policy.ofBool api.service.settings.strictFilters
  let query ← (f.compile DocumentQuery.form policy).mapError .unsupported
  let sql ← (f.compile Sql.form policy).mapError .unsupported
  return .object [("filter", f.toValue), ("query", query.query), ("sql", sql.query.toValue)]

/-- The reply with the filter of an expression. -/
def parse (text : String) : Reply :=
  match Filter.ofExpression text with
  | .ok f => .answer f.toValue
  | .error e => .refusal 400 ("Invalid filter expression: " ++ e.message)

/-- The reply with the latest records. -/
def search (f : Filter) : Reply := .ofService (dataValue Record.toValue) (api.service.search f)

/-- The reply with histories. -/
def compliance (selection : Selection) : Reply :=
  .ofService (dataValue StreamReport.toValue) (api.service.compliance api.now selection)

/-- The reply with a histogram. -/
def statusOverTime (selection : Selection) : Reply :=
  .ofService (dataValue StatusGroup.toValue) (api.service.statusOverTime api.now selection)

/-- The reply with all saved filters. -/
def list : Reply :=
  match api.saved.content with
  | .error e => .ofSaved e
  | .ok v => match savedViews? v with
    | some vs => .answer (.array vs)
    | none => .broken

/-- The reply with all saved filters and the instant; the clock is read only if they can be shown. -/
def exportAll (sources : Sources) : Reply × Api :=
  match api.saved.content.toOption.bind savedViews? with
  | none => (.broken, api)
  | some vs =>
    let now := sources.clock api.saved.readings
    (.answer (.object [("filters", .array vs), ("export_timestamp", .string now.text),
      ("total_count", .int vs.length)]),
      { api with saved.readings := api.saved.readings + 1 })

/-- The reply with a saved filter. -/
def getFilter (id : String) : Reply :=
  match api.saved.get? (.string id) with
  | .error e => .ofSaved e
  | .ok none => .noFilter id
  | .ok (some members) => .ofEntry members

/-- The reply with the histories of the streams that match a saved filter; its document has to be sound. -/
def filterCompliance (id : String) : Reply :=
  match api.saved.filter? (.string id) with
  | .error _ => .broken
  | .ok none => .noFilter id
  | .ok (some f) => api.compliance (.matching f)

/-- Saves a filter under a new identity. -/
def createFilter (sources : Sources) (members : Entries Value) : Reply × Api :=
  let created := api.created + 1
  let entry := ("id", .string (sources.newId created)) :: members
  match api.saved.create sources.clock entry with
  | (.error e, saved) => (.ofSaved e, { api with saved, created })
  | (.ok entry, saved) => (.ofEntry entry, { api with saved, created })

/-- Updates a saved filter. -/
def updateFilter (sources : Sources) (id : String) (updates : Entries Value) : Reply × Api :=
  match api.saved.update sources.clock (.string id) updates with
  | (.error e, saved) => (.ofSaved e, { api with saved })
  | (.ok none, saved) => (.noFilter id, { api with saved })
  | (.ok (some members), saved) => (.ofEntry members, { api with saved })

/-- Deletes a saved filter. -/
def deleteFilter (id : String) : Reply × Api :=
  match api.saved.delete (.string id) with
  | (.error e, saved) => (.ofSaved e, { api with saved })
  | (.ok false, saved) => (.noFilter id, { api with saved })
  | (.ok true, saved) =>
    (.answer (.object [("message", .string ("Filter '" ++ id ++ "' deleted successfully"))]),
      { api with saved })

/-- Replies to what is asked for. -/
def reply (sources : Sources) (body : Option String) : Route → Reply × Api
  | .health => (.answer (.object [("status", .string "healthy")]), api)
  | .compile =>
    (.either ((bodyFilter body).map fun f => .ofService id (api.compile f)), api)
  | .parse => (.either ((readBody expressionForm body).map parse), api)
  | .search => (.either ((bodyFilter body).map api.search), api)
  | .complianceBySearch =>
    (.either ((bodyFilter body).map fun f => api.compliance (.matching f)), api)
  | .complianceByStream =>
    (.either ((readBody streamForm body).map fun s => api.compliance (.stream s)), api)
  | .statusOverTime =>
    (.either ((bodyFilter body).map fun f => api.statusOverTime (.matching f)), api)
  | .statusOverTimeByStream =>
    (.either ((readBody streamForm body).map fun s => api.statusOverTime (.stream s)), api)
  | .listFilters => (api.list, api)
  | .createFilter => match readBody newFilterForm body with
    | .error r => (r, api)
    | .ok members => api.createFilter sources members
  | .exportFilters => api.exportAll sources
  | .getFilter id => (api.getFilter id, api)
  | .updateFilter id => match readBody updateForm body with
    | .error r => (r, api)
    | .ok updates => api.updateFilter sources id updates
  | .deleteFilter id => api.deleteFilter id
  | .filterCompliance id => (api.filterCompliance id, api)

/-- The reply to a request without a route; a request for the head only gets no body. -/
def refuse (method : String) (e : NoRoute) : Reply :=
  let (status, detail) := match e with
    | .notFound => (404, "Not Found")
    | .badMethod => (405, "Method Not Allowed")
  if method = "HEAD" then .silent status else .refusal status detail

/-- What is to be replied to a request. -/
def respond (sources : Sources) (request : Request) : Reply × Api :=
  let method := Text.upper request.method
  match Route.find method request.address.toList with
  | .error e => (refuse method e, api)
  | .ok route => api.reply sources request.body route

/-- Whether a reply on a route takes its texts from where there are halves of pairs. -/
def repeatsHalves (request : Request) (reply : Reply) (route : Route) : Bool :=
  !request.isPaired && (route.repeatsBody || reply.isFlawed) || api.saved.halves && route.repeatsFile

/-- Whether a reply to a request would hold halves of pairs. -/
def showsHalves (request : Request) (reply : Reply) : Bool :=
  match Route.find (Text.upper request.method) request.address.toList with
  | .error _ => false
  | .ok route => api.repeatsHalves request reply route && reply.showsStandIn

/-- Handles a request; a reply that would hold halves of pairs is broken. -/
def handle (sources : Sources) (request : Request) : Reply × Api :=
  let (reply, after) := api.respond sources request
  if api.showsHalves request reply then
    (.broken, { after with saved.halves := api.saved.halves || after.saved.text ≠ api.saved.text })
  else (reply, after)

end Api

end ComplianceHistory.Web
