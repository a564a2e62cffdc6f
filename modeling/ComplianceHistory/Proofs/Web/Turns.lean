import ComplianceHistory.Proofs.Web.Bodies
import ComplianceHistory.Proofs.Web.Sending

/-!
# What requests do with saved filters

Let the file hold a list of entries.  A request that creates, updates or deletes a filter makes one change to the
list, or leaves the file as it is and is to be refused; every other request leaves the file as it is (`Turn`).  So
after every request the file holds a list again, and the list is the one that the request leaves, whether its reply
can be sent or not (`Api.exists_turn`).  No request touches the service (`Api.handle_serves`).
-/

namespace ComplianceHistory.Web

open Json SavedFilters Value

/-- Whether requests on a route may write the file. -/
def Route.writes : Route → Bool
  | createFilter | updateFilter _ | deleteFilter _ => true
  | _ => false

/-- What is told of a filter that was deleted. -/
def Reply.deleted (id : String) : Reply :=
  .answer (.object [("message", .string ("Filter '" ++ id ++ "' deleted successfully"))])

variable (sources : Sources)

/-- What a request makes of the entries in the file, and what is to be replied. -/
inductive Turn (request : Request) (api after : Api) : List (Entries Value) → Reply → List (Entries Value) → Prop where
  /-- The file stays; a request that was to write it is refused. -/
  | kept {es : List (Entries Value)} {reply : Reply} (htext : after.saved.text = api.saved.text)
      (hrefused : ∀ route, request.Asks route → route.writes = true → 400 ≤ reply.status) :
      Turn request api after es reply es
  /-- A filter that is created from the body stands behind the others. -/
  | created {es : List (Entries Value)} {members : Entries Value} {s : Saved} (hasks : request.Asks .createFilter)
      (hbody : bodyValue request.body = .ok (.object members))
      (hcreated : s.CreatedFrom (sources.newId (api.created + 1)) (sources.clock api.saved.readings) members)
      (hcount : after.created = api.created + 1) :
      Turn request api after es (.answer s.view) (es ++ [s.entry])
  /-- The first entry with the identity is updated from the body. -/
  | updated {before behind : List (Entries Value)} {old members : Entries Value} {id : String} {a : Amendment}
      (hasks : request.Asks (.updateFilter id)) (hbody : bodyValue request.body = .ok (.object members))
      (ha : a.ReadFrom members) (hbefore : ∀ e ∈ before, hasId (.string id) e = false)
      (hold : hasId (.string id) old = true) :
      Turn request api after (before ++ old :: behind)
        (.ofEntry (SavedFilters.updated (sources.clock api.saved.readings) a.entries old))
        (before ++ SavedFilters.updated (sources.clock api.saved.readings) a.entries old :: behind)
  /-- The entries with the identity, of which there are some, are deleted. -/
  | deleted {es : List (Entries Value)} {id : String} (hasks : request.Asks (.deleteFilter id))
      (hany : es.any (hasId (.string id)) = true) :
      Turn request api after es (.deleted id) (es.filter fun e => !hasId (.string id) e)

/-- A turn depends on nothing that is left but the text of the file and the number of identities. -/
theorem Turn.of_text_eq {sources : Sources} {request : Request} {api after after' : Api} {reply : Reply}
    {es es' : List (Entries Value)} (h : Turn sources request api after es reply es')
    (htext : after'.saved.text = after.saved.text) (hcreated : after'.created = after.created) :
    Turn sources request api after' es reply es' := by
  cases h with
  | kept h hrefused => exact .kept (htext.trans h) hrefused
  | created hasks hbody hfrom hcount => exact .created hasks hbody hfrom (hcreated.trans hcount)
  | updated hasks hbody ha hbefore hold => exact .updated hasks hbody ha hbefore hold
  | deleted hasks hany => exact .deleted hasks hany

/-- A request for a new filter that is answered puts the filter of the answer behind the others. -/
theorem Turn.exists_created {sources : Sources} {request : Request} {api after : Api} {reply : Reply}
    {es es' : List (Entries Value)} (h : Turn sources request api after es reply es')
    (hasks : request.Asks .createFilter) (hreply : reply.status = 200) :
    ∃ (members : Entries Value) (s : Saved), bodyValue request.body = .ok (.object members) ∧
      s.CreatedFrom (sources.newId (api.created + 1)) (sources.clock api.saved.readings) members ∧
      reply = .answer s.view ∧ es' = es ++ [s.entry] := by
  cases h with
  | kept _ hrefused =>
    have := hrefused _ hasks rfl
    omega
  | created _ hbody hcreated => exact ⟨_, _, hbody, hcreated, rfl, rfl⟩
  | updated hasks' => cases hasks.eq hasks'
  | deleted hasks' => cases hasks.eq hasks'

namespace Api

variable {sources} {api : Api} {request : Request} {m : Listing}

theorem turn_refused {after : Api} {reply : Reply} {es : List (Entries Value)}
    (htext : after.saved.text = api.saved.text) (hstatus : 400 ≤ reply.status) :
    Turn sources request api after es reply es := .kept htext fun _ _ _ => hstatus

theorem refuse_status (method : String) (e : NoRoute) : 400 ≤ (refuse method e).status := by
  have hsplit : ∀ status detail, 400 ≤ status →
      400 ≤ (if method = "HEAD" then Reply.silent status else .refusal status detail).status := by
    intro status detail hstatus
    split <;> exact hstatus
  cases e with
  | notFound => exact hsplit 404 _ (by decide)
  | badMethod => exact hsplit 405 _ (by decide)

/-! ### Requests that write -/

theorem createFilter_eq {given entry : Entries Value}
    (h : (api.saved.create sources.clock (("id", .string (sources.newId (api.created + 1))) :: given)).1 = .ok entry) :
    api.createFilter sources given = (.ofEntry entry, { api with
      saved := (api.saved.create sources.clock (("id", .string (sources.newId (api.created + 1))) :: given)).2
      created := api.created + 1 }) := by
  unfold createFilter
  dsimp only
  generalize api.saved.create sources.clock _ = outcome at h ⊢
  obtain ⟨r, saved⟩ := outcome
  obtain rfl : r = .ok entry := h
  rfl

theorem updateFilter_eq {id : String} {updates entry : Entries Value}
    (h : (api.saved.update sources.clock (.string id) updates).1 = .ok (some entry)) :
    api.updateFilter sources id updates =
      (.ofEntry entry, { api with saved := (api.saved.update sources.clock (.string id) updates).2 }) := by
  unfold updateFilter
  generalize api.saved.update sources.clock (.string id) updates = outcome at h ⊢
  obtain ⟨r, saved⟩ := outcome
  obtain rfl : r = .ok (some entry) := h
  rfl

theorem deleteFilter_eq {id : String} {any : Bool} (h : (api.saved.delete (.string id)).1 = .ok any) :
    api.deleteFilter id = (if any then .deleted id else .noFilter id,
      { api with saved := (api.saved.delete (.string id)).2 }) := by
  unfold deleteFilter
  generalize api.saved.delete (.string id) = outcome at h ⊢
  obtain ⟨r, saved⟩ := outcome
  obtain rfl : r = .ok any := h
  cases any <;> rfl

section Writes

variable (h : Holds api.saved m)
include h

theorem createFilter_turn (hasks : request.Asks .createFilter) {given : Entries Value}
    (hread : readBody newFilterForm request.body = .ok given) :
    ∃ m', Holds (api.createFilter sources given).2.saved m' ∧
      Turn sources request api (api.createFilter sources given).2 m.entries (api.createFilter sources given).1
        m'.entries := by
  obtain ⟨members, hbody, ⟨e, he⟩ | ⟨stored, hok, hstored⟩⟩ :=
    prepared_of_newFilterForm hread (sources.newId (api.created + 1))
  · unfold createFilter
    dsimp only
    rw [create_refused he]
    exact ⟨m, h, turn_refused rfl (by decide : 400 ≤ 422)⟩
  · obtain ⟨s, hs, hcreated⟩ := hstored (sources.clock m.readings)
    obtain ⟨hcreate, hholds⟩ := create_holds h sources.clock hok (hs ▸ s.expressible_entry)
    have hview : Reply.ofEntry s.entry = .answer s.view := by rw [Reply.ofEntry, savedView?_entry]
    rw [hs] at hcreate hholds
    rw [createFilter_eq hcreate, hview]
    refine ⟨_, hholds, .created hasks hbody ?_ rfl⟩
    rw [h.readings]
    exact hcreated

theorem updateFilter_turn {id : String} (hasks : request.Asks (.updateFilter id)) {updates : Entries Value}
    (hread : readBody updateForm request.body = .ok updates) :
    ∃ m', Holds (api.updateFilter sources id updates).2.saved m' ∧
      Turn sources request api (api.updateFilter sources id updates).2 m.entries
        (api.updateFilter sources id updates).1 m'.entries := by
  obtain ⟨members, hbody, ⟨e, he⟩ | ⟨a, hok, ha⟩⟩ := preparedUpdates_of_updateForm hread
  · unfold updateFilter
    rw [update_refused he]
    exact ⟨m, h, turn_refused rfl (by decide : 400 ≤ 422)⟩
  · rcases find_split (.string id) m.entries with ⟨before, old, behind, hentries, hbefore, hold⟩ | hnone
    · have hmember : Expressible Lossless (.object old) := h.entries old (by rw [hentries]; simp)
      obtain ⟨hupdate, hholds⟩ := update_holds h sources.clock hentries hbefore hold hok
        (expressible_updated _ a.expressible_entries hmember)
      rw [updateFilter_eq hupdate, hentries]
      refine ⟨_, hholds, ?_⟩
      rw [← h.readings]
      exact .updated hasks hbody ha hbefore hold
    · unfold updateFilter
      rw [update_unknown h hnone hok]
      exact ⟨m, h, turn_refused rfl (by decide : 400 ≤ 404)⟩

theorem deleteFilter_turn {id : String} (hasks : request.Asks (.deleteFilter id)) :
    ∃ m', Holds (api.deleteFilter id).2.saved m' ∧
      Turn sources request api (api.deleteFilter id).2 m.entries (api.deleteFilter id).1 m'.entries := by
  obtain ⟨hdelete, hholds⟩ := delete_holds h (.string id)
  refine ⟨_, by rw [deleteFilter_eq hdelete]; exact hholds, ?_⟩
  by_cases hany : m.entries.any (hasId (.string id)) = true
  · rw [deleteFilter_eq hdelete, if_pos hany]
    exact .deleted hasks hany
  · have htext : (api.saved.delete (.string id)).2.text = api.saved.text := by
      refine text_delete fun hok => hany ?_
      rw [hdelete] at hok
      exact Except.ok.inj hok
    have hall : (m.entries.filter fun e => !hasId (.string id) e) = m.entries := by
      refine List.filter_eq_self.mpr fun e he => ?_
      simpa using fun hid => hany (List.any_eq_true.mpr ⟨e, he, hid⟩)
    rw [deleteFilter_eq hdelete, if_neg hany]
    dsimp only
    rw [hall]
    exact turn_refused htext (by decide : 400 ≤ 404)

/-! ### All requests -/

/-- A route that does not write leaves the file as it is, and only counts a reading of the clock. -/
theorem reply_reads (sources : Sources) (body : Option String) {route : Route} (hroute : route.writes = false) :
    (api.reply sources body route).2.saved.text = api.saved.text ∧
      ∃ m', Holds (api.reply sources body route).2.saved m' ∧ m'.entries = m.entries := by
  cases route with
  | createFilter => cases hroute
  | updateFilter id => cases hroute
  | deleteFilter id => cases hroute
  | exportFilters =>
    show (api.exportAll sources).2.saved.text = _ ∧ _
    unfold reply exportAll
    split
    · exact ⟨rfl, m, h, rfl⟩
    · exact ⟨rfl, ⟨m.entries, m.readings + 1⟩, ⟨h.content, congrArg (· + 1) h.readings, h.entries⟩, rfl⟩
  | _ => exact ⟨rfl, m, h, rfl⟩

variable (sources request)

theorem exists_response : ∃ m', Holds (api.respond sources request).2.saved m' ∧
    Turn sources request api (api.respond sources request).2 m.entries (api.respond sources request).1 m'.entries := by
  cases hfind : Route.find (Text.upper request.method) request.address.toList with
  | error e =>
    rw [respond_of_error hfind]
    exact ⟨m, h, turn_refused rfl (refuse_status _ e)⟩
  | ok route =>
    have hasks : request.Asks route := hfind
    rw [respond_of_asks hasks]
    by_cases hwrites : route.writes = true
    · cases route with
      | createFilter =>
        unfold reply
        cases hread : readBody newFilterForm request.body with
        | error r => exact ⟨m, h, turn_refused rfl (status_of_readBody hread)⟩
        | ok given => exact createFilter_turn h hasks hread
      | updateFilter id =>
        unfold reply
        cases hread : readBody updateForm request.body with
        | error r => exact ⟨m, h, turn_refused rfl (status_of_readBody hread)⟩
        | ok updates => exact updateFilter_turn h hasks hread
      | deleteFilter id => exact deleteFilter_turn h hasks
      | _ => cases hwrites
    · obtain ⟨htext, m', hholds, hentries⟩ := reply_reads h sources request.body (Bool.eq_false_iff.mpr hwrites)
      refine ⟨m', hholds, ?_⟩
      rw [hentries]
      refine .kept htext fun other hother hother' => ?_
      rw [hasks.eq hother] at hwrites
      exact absurd hother' hwrites

/-- **After a request the file holds the list that the request makes of the entries.** -/
theorem exists_turn : ∃ m', Holds (api.handle sources request).2.saved m' ∧
    Turn sources request api (api.handle sources request).2 m.entries (api.respond sources request).1 m'.entries := by
  obtain ⟨m', hholds, hturn⟩ := exists_response sources request h
  obtain ⟨halves, hhandle⟩ := exists_handle_snd sources api request
  rw [hhandle]
  exact ⟨m', ⟨hholds.content, hholds.readings, hholds.entries⟩, hturn.of_text_eq rfl rfl⟩

end Writes

/-! ### The service -/

/-- Requests left the service and its instant as they were, and at most counted new filters. -/
structure Serves (api after : Api) : Prop where
  service : after.service = api.service
  now : after.now = api.now
  created : api.created ≤ after.created

theorem Serves.trans {first second third : Api} (h : first.Serves second) (h' : second.Serves third) :
    first.Serves third where
  service := h'.service.trans h.service
  now := h'.now.trans h.now
  created := Nat.le_trans h.created h'.created

theorem respond_serves (sources : Sources) (api : Api) (request : Request) :
    api.Serves (api.respond sources request).2 := by
  have hsame : ∀ saved, api.Serves { api with saved } := fun _ => ⟨rfl, rfl, Nat.le_refl _⟩
  cases hfind : Route.find (Text.upper request.method) request.address.toList with
  | error e =>
    rw [respond_of_error hfind]
    exact hsame _
  | ok route =>
    rw [respond_of_asks hfind]
    cases route with
    | createFilter =>
      unfold reply
      cases readBody newFilterForm request.body with
      | error r => exact hsame _
      | ok given =>
        dsimp only
        unfold createFilter
        dsimp only
        split <;> exact ⟨rfl, rfl, Nat.le_succ _⟩
    | updateFilter id =>
      unfold reply
      cases readBody updateForm request.body with
      | error r => exact hsame _
      | ok updates =>
        dsimp only
        unfold updateFilter
        split <;> exact hsame _
    | deleteFilter id =>
      unfold reply deleteFilter
      dsimp only
      split <;> exact hsame _
    | exportFilters =>
      unfold reply exportAll
      dsimp only
      split <;> exact hsame _
    | _ => exact hsame _

theorem handle_serves (sources : Sources) (api : Api) (request : Request) :
    api.Serves (api.handle sources request).2 := by
  obtain ⟨halves, hhandle⟩ := exists_handle_snd sources api request
  have hserves := respond_serves sources api request
  rw [hhandle]
  exact ⟨hserves.service, hserves.now, hserves.created⟩

/-! ### The mark of the file -/

/-- To respond to a request is not to mark the file. -/
theorem respond_halves (sources : Sources) (api : Api) (request : Request) :
    (api.respond sources request).2.saved.halves = api.saved.halves := by
  cases hfind : Route.find (Text.upper request.method) request.address.toList with
  | error e => rw [respond_of_error hfind]
  | ok route =>
    rw [respond_of_asks hfind]
    cases route with
    | createFilter =>
      unfold reply
      cases readBody newFilterForm request.body with
      | error r => rfl
      | ok given =>
        have hhalves := create_halves sources.clock api.saved
          (("id", .string (sources.newId (api.created + 1))) :: given)
        dsimp only
        unfold createFilter
        dsimp only
        generalize api.saved.create sources.clock _ = outcome at hhalves ⊢
        obtain ⟨e | entry, saved⟩ := outcome <;> exact hhalves
    | updateFilter id =>
      unfold reply
      cases readBody updateForm request.body with
      | error r => rfl
      | ok updates =>
        have hhalves := update_halves sources.clock api.saved (.string id) updates
        dsimp only
        unfold updateFilter
        generalize api.saved.update sources.clock _ updates = outcome at hhalves ⊢
        obtain ⟨e | _ | members, saved⟩ := outcome <;> exact hhalves
    | deleteFilter id =>
      have hhalves := delete_halves api.saved (.string id)
      show (api.deleteFilter id).2.saved.halves = _
      unfold deleteFilter
      generalize api.saved.delete _ = outcome at hhalves ⊢
      obtain ⟨e | _ | _, saved⟩ := outcome <;> exact hhalves
    | exportFilters =>
      unfold reply exportAll
      dsimp only
      split <;> rfl
    | _ => rfl

/-! ### Runs -/

variable (sources)

/-- What requests one after the other leave. -/
def after (api : Api) : List Request → Api
  | [] => api
  | r :: rs => after (api.handle sources r).2 rs

theorem after_serves (api : Api) (requests : List Request) : api.Serves (api.after sources requests) := by
  induction requests generalizing api with
  | nil => exact ⟨rfl, rfl, Nat.le_refl _⟩
  | cons r rs ih => exact (handle_serves sources api r).trans (ih _)

end Api

end ComplianceHistory.Web
