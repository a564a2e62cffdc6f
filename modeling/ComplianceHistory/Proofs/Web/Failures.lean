import ComplianceHistory.Proofs.Filter.Documents
import ComplianceHistory.Proofs.SavedFilters.Listing
import ComplianceHistory.Proofs.Store.Parity
import ComplianceHistory.Proofs.Web.Sending

/-!
# Replies to requests with filters

Five routes lead from the document of a filter to the service.  The document is decoded, the filter is put into the
form of the store, and the store is asked; each step can fail, and a reply tells of it (`Reply.Maps`): with 422 of a
document or an operator that is refused, with 500 and its wording of a failure of the store.

The route of a saved filter decodes the document without telling of its faults, and a body is only refused with the
value that is wrong, which cannot be told of a number that is not finite.  Apart from these documents
(`FilterRoute.Sound`), and from replies that would hold halves of pairs, every fault is told (`handle_maps_iff`).
-/

namespace ComplianceHistory

open Report

/-- Whether a failure is one of the filter or of the store. -/
def ServiceError.isTold : ServiceError → Bool
  | .unsupported _ => true
  | .store e => e.isOfStore
  | .duration _ | .bucket _ => false

/-- A failure of the store has a wording. -/
theorem StoreError.exists_message {e : StoreError} (h : e.isOfStore = true) : ∃ m, e.message? = some m := by
  cases e with
  | misuse m => cases h
  | query f =>
    cases f with
    | misuse m => cases h
    | unknownQueryOperator name => exact ⟨_, rfl⟩
    | unknownFieldOperator name => exact ⟨_, rfl⟩
  | _ => exact ⟨_, rfl⟩

namespace Web

/-- The routes that lead from the document of a filter to the service. -/
inductive FilterRoute where
  | compile
  | search
  | complianceBySearch
  | statusOverTime
  | saved (id : String)

namespace FilterRoute

/-- The route among all. -/
def route : FilterRoute → Route
  | compile => .compile
  | search => .search
  | complianceBySearch => .complianceBySearch
  | statusOverTime => .statusOverTime
  | saved id => .filterCompliance id

/-- Whether the document of the filter is posted. -/
def isPosted : FilterRoute → Bool
  | saved _ => false
  | _ => true

/-- Documents whose faults are told on a route: saved ones that have none, and posted ones that are objects or can be
repeated in the reply. -/
def Sound : FilterRoute → Value → Prop
  | saved _, document => ∃ f, Filter.ofValue document = .ok f
  | _, document => isObject document = true ∨ hasNonFinite document = false

end FilterRoute

/-- A reply that refuses what was sent, and tells why. -/
def Reply.Unprocessable : Reply → Prop
  | refusal status _ => status = 422
  | flawed flaws => flaws ≠ []
  | _ => False

/-- A reply that tells what became of the document of a filter which the service serves under a policy. -/
structure Reply.Maps (reply : Reply) (policy : Policy) (serve : Filter → Except ServiceError Value)
    (document : Value) : Prop where
  undecodable : ∀ e, Filter.ofValue document = .error e → reply.Unprocessable
  unsupported : ∀ f u us, Filter.ofValue document = .ok f → policy = .strict → f.unsupported = u :: us →
    reply = .refusal 422 u.message
  failed : ∀ f e, Filter.ofValue document = .ok f → serve f = .error (.store e) → e.isOfStore = true →
    ∃ m, e.message? = some m ∧ reply = .refusal 500 ("Record store failure: " ++ m)
  served : ∀ f v, Filter.ofValue document = .ok f → serve f = .ok v → reply = .answer v
  escaped : reply = .broken →
    ∃ f fault, Filter.ofValue document = .ok f ∧ serve f = .error fault ∧ fault.isTold = false

namespace Api

variable (api : Api)

/-- What the service answers to a filter on a route. -/
def serve : FilterRoute → Filter → Except ServiceError Value
  | .compile, f => api.compile f
  | .search, f => (api.service.search f).map (dataValue Record.toValue)
  | .statusOverTime, f =>
    (api.service.statusOverTime api.now (.matching f)).map (dataValue StatusGroup.toValue)
  | .complianceBySearch, f | .saved _, f =>
    (api.service.compliance api.now (.matching f)).map (dataValue StreamReport.toValue)

/-- The policy about unknown operators on a route: filters are compiled under the one of the settings. -/
def policy : FilterRoute → Policy
  | .compile => .ofBool api.service.settings.strictFilters
  | _ => api.service.store.policy

/-- The document of the filter that a request is about: the one in its body, or in the first saved entry with its
identity, in a file that holds a list of objects. -/
inductive Involves (body : Option String) : FilterRoute → Value → Prop
  | posted {r : FilterRoute} {members : Entries Value} (hr : r.isPosted = true)
      (hbody : bodyValue body = .ok (.object members)) : Involves body r (Value.member members "filter")
  | saved {id : String} {entries : List (Entries Value)} {members : Entries Value}
      (hfile : api.saved.content = .ok (.array (entries.map .object)))
      (hentry : entries.find? (SavedFilters.hasId (.string id)) = some members) :
      Involves body (.saved id) (Value.member members "filter")

end Api

/-! ### Replies to answers of the service -/

theorem Reply.ofService_map {α : Type} (answer : α → Value) (r : Except ServiceError α) :
    ofService id (r.map answer) = ofService answer r := by
  cases r with
  | ok x => rfl
  | error e => cases e <;> rfl

/-- A reply tells of every failure of the filter and of the store. -/
theorem Reply.ofService_eq_broken {r : Except ServiceError Value} (h : ofService id r = .broken) :
    ∃ fault, r = .error fault ∧ fault.isTold = false := by
  cases r with
  | ok x => cases h
  | error fault =>
    refine ⟨fault, rfl, ?_⟩
    cases fault with
    | unsupported u => cases h
    | store e =>
      refine Bool.eq_false_iff.mpr fun he => ?_
      obtain ⟨m, hm⟩ := StoreError.exists_message he
      have htold : ofService id (.error (.store e) : Except ServiceError Value) =
          .refusal 500 ("Record store failure: " ++ m) := by
        simp only [ofService, hm]
        exact if_pos he
      rw [htold] at h
      cases h
    | duration e => rfl
    | bucket e => rfl

/-- Where the service cannot tell of its failure, the reply is broken before it is sent. -/
theorem Reply.ofService_untold {fault : ServiceError} (h : fault.isTold = false) :
    ofService id (.error fault : Except ServiceError Value) = .broken := by
  cases fault with
  | unsupported u => cases h
  | store e =>
    have he : e.isOfStore = false := h
    unfold ofService
    dsimp only
    rw [he]
    cases e.message? <;> rfl
  | duration e => rfl
  | bucket e => rfl

/-- The reply to what the service makes of a filter tells what became of its document. -/
theorem Reply.maps_ofService {policy : Policy} {serve : Filter → Except ServiceError Value} {document : Value}
    {f : Filter} (hf : Filter.ofValue document = .ok f)
    (hrefused : ∀ u us, policy = .strict → f.unsupported = u :: us → serve f = .error (.unsupported u)) :
    (ofService id (serve f)).Maps policy serve document where
  undecodable e he := by
    rw [hf] at he
    cases he
  unsupported f' u us hf' hpolicy hu := by
    obtain rfl := Except.ok.inj (hf.symm.trans hf')
    rw [hrefused u us hpolicy hu]
    rfl
  failed f' e hf' he hstore := by
    obtain rfl := Except.ok.inj (hf.symm.trans hf')
    obtain ⟨m, hm⟩ := StoreError.exists_message hstore
    refine ⟨m, hm, ?_⟩
    rw [he]
    simp only [ofService, hm]
    exact if_pos hstore
  served f' v hf' hv := by
    obtain rfl := Except.ok.inj (hf.symm.trans hf')
    rw [hv]
    rfl
  escaped hbroken := by
    obtain ⟨fault, hfault, htold⟩ := ofService_eq_broken hbroken
    exact ⟨f, fault, hf, hfault, htold⟩

/-- A reply that refuses what was sent tells what became of a document that is no filter. -/
theorem Reply.Unprocessable.maps {reply : Reply} (h : reply.Unprocessable) {policy : Policy}
    {serve : Filter → Except ServiceError Value} {document : Value} {e : DocumentError}
    (he : Filter.ofValue document = .error e) : reply.Maps policy serve document where
  undecodable _ _ := h
  unsupported f u us hf := by
    rw [he] at hf
    cases hf
  failed f e' hf := by
    rw [he] at hf
    cases hf
  served f v hf := by
    rw [he] at hf
    cases hf
  escaped hbroken := by
    rw [hbroken] at h
    cases h

namespace Api

variable (api : Api)

theorem compile_refused {f : Filter} {u : Unsupported}
    (hquery : f.compile DocumentQuery.form (.ofBool api.service.settings.strictFilters) = .error u) :
    api.compile f = .error (.unsupported u) := by
  unfold compile
  dsimp only
  rw [hquery]
  rfl

/-- Under the strict policy, the service refuses a filter with its first unsupported node on every route, whatever
the store. -/
theorem serve_refused {r : FilterRoute} {f : Filter} {u : Unsupported} {us : List Unsupported}
    (hpolicy : api.policy r = .strict) (h : f.unsupported = u :: us) : api.serve r f = .error (.unsupported u) := by
  have hask : api.service.store.policy = .strict → api.service.ask (.matching f) = .error (.unsupported u) :=
    fun hstore => congrArg (Except.mapError _) (api.service.store.question_refused hstore h)
  cases r with
  | compile =>
    refine api.compile_refused ?_
    rw [show Policy.ofBool api.service.settings.strictFilters = .strict from hpolicy]
    exact Store.compile_refused DocumentQuery.form h
  | search =>
    refine congrArg (Except.map _) (?_ : api.service.search f = .error (.unsupported u))
    unfold Service.search
    rw [hask hpolicy]
    rfl
  | statusOverTime =>
    refine congrArg (Except.map _) (?_ : api.service.statusOverTime api.now (.matching f) = .error (.unsupported u))
    unfold Service.statusOverTime
    rw [hask hpolicy]
    rfl
  | complianceBySearch | saved =>
    refine congrArg (Except.map _) (?_ : api.service.compliance api.now (.matching f) = .error (.unsupported u))
    unfold Service.compliance
    rw [hask hpolicy]
    rfl

/-! ### Replies on the routes -/

variable (sources : Sources) (body : Option String)

/-- A posted filter is decoded and served. -/
theorem reply_posted {r : FilterRoute} (hr : r.isPosted = true) : (api.reply sources body r.route).1 =
    .either ((bodyFilter body).map fun f => .ofService id (api.serve r f)) := by
  cases r with
  | compile => rfl
  | search =>
    simp only [serve, Reply.ofService_map]
    rfl
  | complianceBySearch =>
    simp only [serve, Reply.ofService_map]
    rfl
  | statusOverTime =>
    simp only [serve, Reply.ofService_map]
    rfl
  | saved id => cases hr

/-- The document of a posted filter is decoded if it is an object or null. -/
theorem bodyFilter_eq {members : Entries Value} (hbody : bodyValue body = .ok (.object members)) :
    bodyFilter body = match Value.member members "filter" with
      | .object _ | .null => (Filter.ofValue (Value.member members "filter")).mapError .ofDocument
      | v => .error (.ofFlaws [⟨[.member "filter"], .notObject, v⟩]) := by
  unfold bodyFilter readBody
  rw [hbody]
  show (filterForm (.object members)).mapError Reply.ofFlaws >>= _ = _
  unfold filterForm
  show ((optional members "filter" (objectAt [.member "filter"]) >>= _).mapError Reply.ofFlaws >>= _) = _
  unfold optional
  cases Value.member members "filter" <;> rfl

/-- A saved filter is served if its document is sound. -/
theorem reply_saved {name : String} {document : Value} (h : api.Involves body (.saved name) document) :
    (api.reply sources body (.filterCompliance name)).1 = match Filter.ofValue document with
      | .error _ => .broken
      | .ok f => .ofService id (api.serve (.saved name) f) := by
  cases h with
  | posted hr => cases hr
  | @saved _ entries members hfile hentry =>
    have hget := SavedFilters.get?_entries hfile (.string name)
    rw [hentry] at hget
    have hfilter : api.saved.filter? (.string name) =
        ((Filter.ofValue (Value.member members "filter")).mapError SavedError.document).map some := by
      unfold SavedFilters.filter?
      rw [hget]
      show ((Filter.ofValue _).mapError SavedError.document >>= _) = _
      cases Filter.ofValue (Value.member members "filter") <;> rfl
    show api.filterCompliance name = _
    unfold filterCompliance
    rw [hfilter]
    cases Filter.ofValue (Value.member members "filter") with
    | error e => rfl
    | ok f =>
      simp only [serve, Reply.ofService_map]
      rfl

/-- What comes of a document that is decoded and served is told. -/
theorem decoded_maps (r : FilterRoute) (document : Value) :
    (Reply.either (((Filter.ofValue document).mapError Reply.ofDocument).map fun f =>
      .ofService id (api.serve r f))).Maps (api.policy r) (api.serve r) document := by
  cases hf : Filter.ofValue document with
  | error e =>
    have hdetail : (Reply.ofDocument e).Unprocessable := rfl
    exact hdetail.maps hf
  | ok f => exact Reply.maps_ofService hf fun u us hpolicy hu => api.serve_refused hpolicy hu

end Api

/-- The reply to a flaw tells of it if its value can be repeated. -/
theorem Reply.ofFlaws_maps_iff {steps : List Step} {kind : FlawKind} {v : Value} {e : DocumentError}
    (hobject : isObject v = false) (he : Filter.ofValue v = .error e) {policy : Policy}
    {serve : Filter → Except ServiceError Value} :
    (ofFlaws [⟨steps, kind, v⟩]).Maps policy serve v ↔ isObject v = true ∨ hasNonFinite v = false := by
  have hflaws : ofFlaws [⟨steps, kind, v⟩] = if hasNonFinite v then .broken else .flawed [⟨steps, kind, v⟩] := by
    unfold ofFlaws
    rw [List.any_cons, List.any_nil, Bool.or_false]
  rw [hflaws, hobject]
  cases hasNonFinite v with
  | false =>
    have hdetail : (flawed [⟨steps, kind, v⟩]).Unprocessable := List.cons_ne_nil _ _
    exact iff_of_true (hdetail.maps he) (.inr rfl)
  | true => exact iff_of_false (fun h => h.undecodable e he) (by simp)

theorem FilterRoute.sound_posted {r : FilterRoute} (hr : r.isPosted = true) (document : Value) :
    r.Sound document ↔ isObject document = true ∨ hasNonFinite document = false := by
  cases r with
  | saved id => cases hr
  | _ => exact Iff.rfl

namespace Api

variable (api : Api) (sources : Sources) {request : Request}

theorem posted_maps_iff {body : Option String} {r : FilterRoute} (hr : r.isPosted = true) {members : Entries Value}
    (hbody : bodyValue body = .ok (.object members)) :
    (api.reply sources body r.route).1.Maps (api.policy r) (api.serve r) (Value.member members "filter") ↔
      r.Sound (Value.member members "filter") := by
  rw [api.reply_posted sources body hr, bodyFilter_eq body hbody, FilterRoute.sound_posted hr]
  -- an object and null are decoded; what is neither is a flaw of the body
  cases Value.member members "filter" with
  | object fields => exact iff_of_true (api.decoded_maps r _) (.inl rfl)
  | null => exact iff_of_true (api.decoded_maps r _) (.inr rfl)
  | _ => exact Reply.ofFlaws_maps_iff rfl rfl

theorem saved_maps_iff {body : Option String} {name : String} {document : Value}
    (h : api.Involves body (.saved name) document) :
    (api.reply sources body (.filterCompliance name)).1.Maps (api.policy (.saved name)) (api.serve (.saved name))
      document ↔ (FilterRoute.saved name).Sound document := by
  rw [api.reply_saved sources body h]
  cases hf : Filter.ofValue document with
  | error e =>
    -- the fault of the document is not turned into a refusal on this route
    refine iff_of_false (fun h => h.undecodable e hf) fun ⟨f, hok⟩ => ?_
    rw [hf] at hok
    cases hok
  | ok f => exact iff_of_true (Reply.maps_ofService hf fun u us hp hu => api.serve_refused hp hu) ⟨f, hf⟩

theorem respond_maps_iff {r : FilterRoute} {document : Value} (hasks : request.Asks r.route)
    (hdocument : api.Involves request.body r document) :
    (api.respond sources request).1.Maps (api.policy r) (api.serve r) document ↔ r.Sound document := by
  rw [respond_of_asks hasks]
  cases r with
  | saved name => exact api.saved_maps_iff sources hdocument
  | _ =>
    cases hdocument with
    | posted hr hbody => exact api.posted_maps_iff sources hr hbody

/-- A document that is decoded is responded to with what the service makes of it. -/
theorem respond_decoded {r : FilterRoute} {document : Value} (hasks : request.Asks r.route)
    (hdocument : api.Involves request.body r document) {f : Filter} (hf : Filter.ofValue document = .ok f) :
    (api.respond sources request).1 = .ofService id (api.serve r f) := by
  rw [respond_of_asks hasks]
  cases hdocument with
  | @posted _ members hr hbody =>
    rw [api.reply_posted sources request.body hr, bodyFilter_eq request.body hbody]
    revert hf
    -- only an object and null are decoded
    cases Value.member members "filter" <;> intro hf <;> first | (rw [hf]; rfl) | cases hf
  | saved hfile hentry =>
    refine (api.reply_saved sources request.body (.saved hfile hentry)).trans ?_
    rw [hf]

/-- **What replies tell of filters.**  Let a request lead from the document of a filter to the service.  Its reply
tells what became of the document if and only if this is one whose faults are told on the route, and the reply holds
no halves of pairs: with 422 if it cannot be decoded, with 422 and the first unsupported node if the policy is strict,
whatever the store, with 500 and the wording of the failure if the store fails, and else with the answer of the
service; and no failure of the filter or of the store breaks the reply. -/
theorem handle_maps_iff {r : FilterRoute} {document : Value}
    (hroute : Route.find (Text.upper request.method) request.address.toList = .ok r.route)
    (hdocument : api.Involves request.body r document) :
    (api.handle sources request).1.Maps (api.policy r) (api.serve r) document ↔
      r.Sound document ∧ api.showsHalves request (api.respond sources request).1 = false := by
  cases hshows : api.showsHalves request (api.respond sources request).1 with
  | false =>
    rw [handle_of_sendable hshows, and_iff_left rfl]
    exact api.respond_maps_iff sources hroute hdocument
  | true =>
    refine iff_of_false (fun hmaps => ?_) fun h => nomatch h.2
    -- a reply that was broken before would have held nothing
    obtain ⟨f, fault, hf, hfault, htold⟩ := hmaps.escaped (handle_of_halves hshows)
    have hbroken := api.respond_decoded sources hroute hdocument hf
    rw [hfault, Reply.ofService_untold htold] at hbroken
    rw [hbroken, showsHalves_of_asks hroute] at hshows
    rw [show Reply.broken.showsStandIn = false from rfl, Bool.and_false] at hshows
    cases hshows

/-! ### A document that is refused, and one that breaks the reply -/

open Json SavedFilters

/-- Requests to a service under the strict policy whose store cannot be reached, with one saved filter. -/
def unreachable (document : Value) : Api where
  service := .make ⟨.strict, .unreachable .empty⟩ .defaults .null
  now := .epoch
  saved := .initial (some (fileText (.array [.object [("id", .string "f1"), ("filter", document)]])))
  created := 0

/-- The request for the report on the saved filter. -/
def reportRequest : Request := ⟨"GET", "/api/filters/f1/compliance", none⟩

theorem find_reportRequest : Route.find (Text.upper reportRequest.method) reportRequest.address.toList =
    .ok (FilterRoute.saved "f1").route := by
  have hasks : reportRequest.Asks (.filterCompliance "f1") := by decide +kernel
  exact hasks

theorem showsHalves_reportRequest (api : Api) (reply : Reply) : api.showsHalves reportRequest reply = false :=
  showsHalves_of_repeats find_reportRequest (.inl rfl) (.inr rfl)

theorem involves_unreachable {document : Value} (h : Expressible Lossless document) :
    (unreachable document).Involves none (.saved "f1") document := by
  have hentry : Expressible Lossless (.object [("id", .string "f1"), ("filter", document)]) :=
    .pair (by decide) (.string "f1") h
  have hfile : (unreachable document).saved.content =
      .ok (.array ([[("id", .string "f1"), ("filter", document)]].map .object)) := by
    refine content_fileText (fun x hx => ?_) 0 _
    rw [List.mem_singleton.mp hx]
    exact hentry
  have hid : hasId (.string "f1") [("id", .string "f1"), ("filter", document)] = true := by
    show Value.same (.string "f1") (.string "f1") = true
    simp [Value.same]
  exact .saved hfile (List.find?_cons_of_pos hid)

/-- A filter with one condition on a label. -/
def envFilter (operator : String) : Filter := ⟨some (.condition ⟨"env", operator, "prod"⟩)⟩

theorem ofValue_envFilter (operator : String) :
    Filter.ofValue (envFilter operator).toValue = .ok (envFilter operator) := by
  refine Filter.ofValue_toValue fun s hs => ?_
  obtain rfl := Option.some.inj hs
  have hlabel : "env" ≠ "" := by decide
  exact .condition hlabel

/-- Where instants and identities are taken from. -/
def fixedSources : Sources := ⟨fun _ => .epoch, fun _ => "f2"⟩

/-- An operator that is not known is refused though the store cannot be reached; else the reply tells of that. -/
theorem handle_maps_iff_unreachable :
    ((unreachable (envFilter "~").toValue).handle fixedSources reportRequest).1 =
      .refusal 422 "Unsupported condition operator: '~'" ∧
    ((unreachable (envFilter "=").toValue).handle fixedSources reportRequest).1 =
      .refusal 500 "Record store failure: connection refused" := by
  have hmaps : ∀ operator, ((unreachable (envFilter operator).toValue).handle fixedSources reportRequest).1.Maps .strict
      ((unreachable (envFilter operator).toValue).serve (.saved "f1")) (envFilter operator).toValue := fun operator =>
    ((unreachable (envFilter operator).toValue).handle_maps_iff fixedSources find_reportRequest
      (involves_unreachable (envFilter operator).expressible_toValue)).mpr
        ⟨⟨_, ofValue_envFilter operator⟩, showsHalves_reportRequest _ _⟩
  constructor
  · have hmessage : Unsupported.message ⟨"~", .condition⟩ = "Unsupported condition operator: '~'" := by
      decide +kernel
    exact hmessage ▸ (hmaps "~").unsupported _ _ [] (ofValue_envFilter "~") rfl rfl
  · obtain ⟨m, hm, hreply⟩ := (hmaps "=").failed _ .refused (ofValue_envFilter "=") rfl rfl
    obtain rfl := Option.some.inj hm
    exact hreply

/-- A document whose scope is no object. -/
def misplaced : Value := .object [("scope", .int 5)]

theorem ofValue_misplaced : Filter.ofValue misplaced = .error (.scopeKind "int") := by
  have hscope : Scope.ofValue (.int 5) = .error (.scopeKind "int") := by
    rw [Scope.ofValue]
    · rfl
    · intro fields h
      cases h
  show (Scope.ofValue (.int 5)).map _ = _
  rw [hscope]
  rfl

theorem expressible_misplaced : Expressible Lossless misplaced := .single _ (.int (by decide))

/-- **A saved document that is no filter breaks the reply.**  Where it is posted, the same document is refused. -/
theorem handle_misplaced :
    (unreachable misplaced).Involves none (.saved "f1") misplaced ∧
    Filter.ofValue misplaced = .error (.scopeKind "int") ∧
    ((unreachable misplaced).handle fixedSources reportRequest).1 = .broken ∧ Reply.broken.status = 500 ∧
    ∀ body members, bodyValue body = .ok (.object members) → Value.member members "filter" = misplaced →
      ((unreachable misplaced).reply fixedSources body .complianceBySearch).1 =
        .refusal 422 "Invalid label filter: scope must be an object, got int" := by
  have hinvolves := involves_unreachable expressible_misplaced
  refine ⟨hinvolves, ofValue_misplaced, ?_, rfl, fun body members hbody hmember => ?_⟩
  · rw [handle_of_sendable (showsHalves_reportRequest _ _), respond_of_asks find_reportRequest]
    show ((unreachable misplaced).reply fixedSources none (.filterCompliance "f1")).1 = .broken
    rw [reply_saved _ _ _ hinvolves, ofValue_misplaced]
  · have hposted := (unreachable misplaced).reply_posted fixedSources body (r := .complianceBySearch) rfl
    rw [bodyFilter_eq body hbody, hmember] at hposted
    refine hposted.trans ?_
    show Reply.either (((Filter.ofValue misplaced).mapError Reply.ofDocument).map _) = _
    rw [ofValue_misplaced]
    rfl

end Api

end Web

end ComplianceHistory
