import ComplianceHistory.Web.Api

/-!
# Replies that can be sent

A request is responded to, and then the reply is sent.  It is sent as it is, or broken (`Api.handle_fst`); beyond that
only the mark of the file may change (`Api.exists_handle_snd`).  A request whose body is paired gets the reply as it
is if the file holds no halves of pairs (`Api.handle_of_paired`), and so does every request for something that repeats
neither the body nor the file (`Api.showsHalves_of_asks`).
-/

namespace ComplianceHistory.Web

/-- A request asks for what a route leads to. -/
def Request.Asks (request : Request) (route : Route) : Prop :=
  Route.find (Text.upper request.method) request.address.toList = .ok route

theorem Request.Asks.eq {request : Request} {route other : Route} (h : request.Asks route) (h' : request.Asks other) :
    route = other := Except.ok.inj (h.symm.trans h')

theorem Request.asks_iff {request : Request} {route : Route} : request.Asks route ↔
    (Route.find (Text.upper request.method) request.address.toList).toOption = some route := by
  unfold Request.Asks
  cases Route.find (Text.upper request.method) request.address.toList with
  | error e => exact ⟨nofun, nofun⟩
  | ok other => exact ⟨fun h => congrArg some (Except.ok.inj h), fun h => congrArg Except.ok (Option.some.inj h)⟩

instance (request : Request) (route : Route) : Decidable (request.Asks route) :=
  decidable_of_iff' _ Request.asks_iff

namespace Api

variable {sources : Sources} {api : Api} {request : Request} {reply : Reply} {route : Route}

theorem respond_of_asks (h : request.Asks route) :
    api.respond sources request = api.reply sources request.body route := by
  have hfind : Route.find (Text.upper request.method) request.address.toList = .ok route := h
  unfold respond
  dsimp only
  rw [hfind]

theorem respond_of_error {e : NoRoute}
    (h : Route.find (Text.upper request.method) request.address.toList = .error e) :
    api.respond sources request = (refuse (Text.upper request.method) e, api) := by
  unfold respond
  dsimp only
  rw [h]

/-! ### What is sent -/

theorem handle_of_sendable (h : api.showsHalves request (api.respond sources request).1 = false) :
    api.handle sources request = api.respond sources request := by
  unfold handle
  dsimp only
  rw [h]
  rfl

theorem handle_of_halves (h : api.showsHalves request (api.respond sources request).1 = true) :
    (api.handle sources request).1 = .broken := by
  unfold handle
  dsimp only
  rw [h]
  rfl

/-- A reply is sent as it is, or broken. -/
theorem handle_fst (sources : Sources) (api : Api) (request : Request) :
    (api.handle sources request).1 = (api.respond sources request).1 ∨ (api.handle sources request).1 = .broken := by
  cases h : api.showsHalves request (api.respond sources request).1 with
  | false => exact .inl (congrArg Prod.fst (handle_of_sendable h))
  | true => exact .inr (handle_of_halves h)

/-- Sending a reply changes nothing but the mark of the file. -/
theorem exists_handle_snd (sources : Sources) (api : Api) (request : Request) : ∃ halves,
    (api.handle sources request).2 = { (api.respond sources request).2 with saved.halves := halves } := by
  unfold handle
  dsimp only
  split
  · exact ⟨_, rfl⟩
  · exact ⟨(api.respond sources request).2.saved.halves, rfl⟩

/-- A file that is written for a reply with halves of pairs is marked. -/
theorem halves_of_written (h : api.showsHalves request (api.respond sources request).1 = true)
    (htext : (api.handle sources request).2.saved.text ≠ api.saved.text) :
    (api.handle sources request).2.saved.halves = true := by
  unfold handle at htext ⊢
  dsimp only at htext ⊢
  rw [h, if_pos rfl] at htext ⊢
  have hwritten : decide ((api.respond sources request).2.saved.text ≠ api.saved.text) = true := decide_eq_true htext
  rw [hwritten, Bool.or_true]

/-! ### Halves of pairs in replies -/

theorem showsHalves_of_asks (h : request.Asks route) :
    api.showsHalves request reply = (api.repeatsHalves request reply route && reply.showsStandIn) := by
  have hfind : Route.find (Text.upper request.method) request.address.toList = .ok route := h
  unfold showsHalves
  rw [hfind]

/-- A reply that takes no texts from a file with halves of pairs, nor from such a body, shows none. -/
theorem showsHalves_of_repeats (h : request.Asks route)
    (hbody : request.isPaired = true ∨ route.repeatsBody = false ∧ reply.isFlawed = false)
    (hfile : api.saved.halves = false ∨ route.repeatsFile = false) : api.showsHalves request reply = false := by
  have hposted : (!request.isPaired && (route.repeatsBody || reply.isFlawed)) = false := by
    rcases hbody with hpaired | ⟨hroute, hreply⟩
    · rw [hpaired]
      rfl
    · rw [hroute, hreply, Bool.or_self, Bool.and_false]
  have hsaved : (api.saved.halves && route.repeatsFile) = false := by
    rcases hfile with hhalves | hroute
    · rw [hhalves, Bool.false_and]
    · rw [hroute, Bool.and_false]
  rw [showsHalves_of_asks h, repeatsHalves, hposted, hsaved]
  rfl

/-- A reply that shows stand-ins from a file with halves of pairs is not sent. -/
theorem handle_of_shown (h : request.Asks route) (hroute : route.repeatsFile = true) (hfile : api.saved.halves = true)
    (hshown : (api.reply sources request.body route).1.showsStandIn = true) :
    (api.handle sources request).1 = .broken := by
  refine handle_of_halves ?_
  rw [respond_of_asks h, showsHalves_of_asks h, hshown, repeatsHalves, hfile, hroute, Bool.and_self, Bool.or_true]
  rfl

/-- **A request with a paired body gets its reply as it is**, if the file holds no halves of pairs. -/
theorem handle_of_paired (hrequest : request.isPaired = true) (hfile : api.saved.halves = false) :
    api.handle sources request = api.respond sources request := by
  refine handle_of_sendable ?_
  cases hfind : Route.find (Text.upper request.method) request.address.toList with
  | error e =>
    unfold showsHalves
    rw [hfind]
  | ok route => exact showsHalves_of_repeats hfind (.inl hrequest) (.inl hfile)

end Api

end ComplianceHistory.Web
