import ComplianceHistory.Proofs.Json.Halves
import ComplianceHistory.Proofs.Web.Turns
import Mathlib.Data.List.Nodup

/-!
# The shelf of saved filters

From an absent file on, the file holds a shelf of saved filters with different identities (`Shelved`).  A request
with a paired body that is answered puts a filter that it creates at the end of the shelf, takes one away, or changes
one at its place (`Change`); one that is refused leaves the text of the file.  The step lemma is
`Shelved.exists_change`, and by induction the shelf after any such requests has the filters that were created and not
deleted, as the replies told (`Api.exists_shelf`).  What requests show of the filters is the shelf (`Shelved.shows`).

A body with half of a pair in a filter breaks this: the filter is saved, but can be shown neither in the reply nor
later (`Api.exists_shelf_halved`).
-/

namespace ComplianceHistory.Web

open Json SavedFilters Value

/-- The identity in the answer to a request. -/
def Reply.idOf? : Reply → Option String
  | .answer (.object members) => match member members "id" with
    | .string id => some id
    | _ => none
  | _ => none

/-- The identities that are left of some after an answer on a route: one more if a filter was created, and one less if
a filter was deleted. -/
def Route.leaves (ids : List String) (reply : Reply) : Route → List String
  | createFilter => ids ++ reply.idOf?.toList
  | deleteFilter id => ids.filter fun other => other ≠ id
  | _ => ids

/-- The identities that are left of some after a request with its reply. -/
def remaining (ids : List String) (told : Request × Reply) : List String :=
  if told.2.status ≠ 200 then ids
  else match Route.find (Text.upper told.1.method) told.1.address.toList with
    | .ok route => route.leaves ids told.2
    | .error _ => ids

variable (sources : Sources)

/-- Requests one after the other with their replies. -/
def Api.trace (api : Api) : List Request → List (Request × Reply)
  | [] => []
  | r :: rs => (r, (api.handle sources r).1) :: trace (api.handle sources r).2 rs

/-- The file holds the filters of a shelf, which have different identities of those that were given so far, and no
halves of pairs. -/
structure Shelved (api : Api) (shelf : List Saved) : Prop where
  holds : ∃ readings, Holds api.saved ⟨shelf.map Saved.entry, readings⟩
  paired : api.saved.halves = false
  distinct : (shelf.map Saved.id).Nodup
  given : ∀ s ∈ shelf, ∃ k ≤ api.created, s.id = sources.newId k
  labelled : ∀ s ∈ shelf, s.filter.Labelled

/-- Requests show the filters of a shelf: all of them in their order, each under its identity, and no other. -/
structure Shows (api : Api) (shelf : List Saved) : Prop where
  list : ∀ {request : Request}, request.Asks .listFilters →
    (api.handle sources request).1 = .answer (.array (shelf.map Saved.view))
  found : ∀ {request : Request}, ∀ s ∈ shelf, request.Asks (.getFilter s.id) →
    (api.handle sources request).1 = .answer s.view
  unknown : ∀ {request : Request} {id : String}, request.Asks (.getFilter id) → id ∉ shelf.map Saved.id →
    (api.handle sources request).1 = .refusal 404 ("Filter '" ++ id ++ "' not found")

/-- What a request makes of a shelf. -/
structure Change (request : Request) (api after : Api) (reply : Reply) (shelf shelf' : List Saved) : Prop where
  /-- The identities are those that the reply tells of. -/
  ids : shelf'.map Saved.id = remaining (shelf.map Saved.id) (request, reply)
  /-- A request that is refused leaves the text of the file. -/
  refused : 400 ≤ reply.status → after.saved.text = api.saved.text
  /-- A filter changes only as an update of it says that is answered. -/
  old : ∀ s ∈ shelf, ∀ s' ∈ shelf', s'.id = s.id → s' = s ∨
    ∃ members a, request.Asks (.updateFilter s.id) ∧ bodyValue request.body = .ok (.object members) ∧
      a.ReadFrom members ∧ s' = s.amended (sources.clock api.saved.readings) a ∧ reply = .answer s'.view
  /-- A new filter is created as the body says. -/
  new : ∀ s' ∈ shelf', s'.id ∉ shelf.map Saved.id →
    ∃ members, request.Asks .createFilter ∧ bodyValue request.body = .ok (.object members) ∧
      s'.CreatedFrom (sources.newId (api.created + 1)) (sources.clock api.saved.readings) members ∧
      reply = .answer s'.view

variable {sources} {api : Api} {shelf : List Saved}

/-! ### Entries of a shelf -/

theorem savedViews?_shelf (shelf : List Saved) :
    savedViews? (.array ((shelf.map Saved.entry).map .object)) = some (shelf.map Saved.view) := by
  rw [List.map_map]
  induction shelf with
  | nil => rfl
  | cons s shelf ih =>
    unfold savedViews? at ih ⊢
    dsimp only at ih ⊢
    rw [List.map_cons, List.mapM_cons, ih]
    show (savedView? s.entry >>= _) = _
    rw [savedView?_entry]
    rfl

theorem find?_entry (id : String) (shelf : List Saved) : (shelf.map Saved.entry).find? (hasId (.string id)) =
    (shelf.find? fun s => s.id = id).map Saved.entry := by
  rw [List.find?_map]
  refine congrArg (Option.map Saved.entry) (congrArg (fun p => shelf.find? p) (funext fun s => ?_))
  exact hasId_entry id s

/-- The filter with an identity is the only one. -/
theorem eq_of_id (h : (shelf.map Saved.id).Nodup) {s s' : Saved} (hs : s ∈ shelf) (hs' : s' ∈ shelf)
    (hid : s.id = s'.id) : s = s' := List.inj_on_of_nodup_map h hs hs' hid

theorem find?_of_mem (h : (shelf.map Saved.id).Nodup) {s : Saved} (hs : s ∈ shelf) :
    shelf.find? (fun t => t.id = s.id) = some s := by
  cases hfind : shelf.find? (fun t => t.id = s.id) with
  | none => exact absurd (decide_eq_true rfl) (List.find?_eq_none.mp hfind s hs)
  | some t =>
    have hid : t.id = s.id := by simpa using List.find?_some hfind
    rw [eq_of_id h (List.mem_of_find?_eq_some hfind) hs hid]

/-- An update changes no identity. -/
theorem map_id_amended (before behind : List Saved) (old : Saved) (a : Amendment) (now : Time.Instant) :
    (before ++ old.amended now a :: behind).map Saved.id = (before ++ old :: behind).map Saved.id := by
  rw [List.map_append, List.map_append]
  rfl

section Replies

variable {readings : Nat} (h : Holds api.saved ⟨shelf.map Saved.entry, readings⟩)
include h

theorem Api.list_holds : api.list = .answer (.array (shelf.map Saved.view)) := by
  unfold list
  rw [h.content]
  dsimp only
  rw [savedViews?_shelf]

theorem Api.getFilter_holds (id : String) : api.getFilter id =
    ((shelf.find? fun s => s.id = id).elim (.noFilter id) fun s => .answer s.view) := by
  unfold getFilter
  rw [get?_holds h]
  dsimp only
  rw [find?_entry]
  cases shelf.find? fun s => s.id = id with
  | none => rfl
  | some s =>
    show Reply.ofEntry s.entry = _
    rw [Reply.ofEntry, savedView?_entry]
    rfl

end Replies

/-- What does not repeat the body of a request is sent. -/
theorem Shelved.sends (h : Shelved sources api shelf) {request : Request} {route : Route} (hasks : request.Asks route)
    (hbody : route.repeatsBody = false) {reply : Reply} (hreply : (api.reply sources request.body route).1 = reply)
    (hflawed : reply.isFlawed = false) : (api.handle sources request).1 = reply := by
  have hshows : api.showsHalves request reply = false :=
    Api.showsHalves_of_repeats hasks (.inr ⟨hbody, hflawed⟩) (.inl h.paired)
  have hrespond : (api.respond sources request).1 = reply := by rw [Api.respond_of_asks hasks, hreply]
  rw [← hrespond] at hshows
  rw [Api.handle_of_sendable hshows, hrespond]

/-- **Requests show the filters of the shelf.** -/
theorem Shelved.shows (h : Shelved sources api shelf) : Shows sources api shelf where
  list hasks := by
    obtain ⟨readings, hholds⟩ := h.holds
    exact h.sends hasks rfl (Api.list_holds hholds) rfl
  found s hs hasks := by
    obtain ⟨readings, hholds⟩ := h.holds
    have hreply := Api.getFilter_holds hholds s.id
    rw [find?_of_mem h.distinct hs] at hreply
    exact h.sends hasks rfl hreply rfl
  unknown {request id} hasks hid := by
    obtain ⟨readings, hholds⟩ := h.holds
    have hnone : shelf.find? (fun s => s.id = id) = none := by
      refine List.find?_eq_none.mpr fun s hs hsid => hid ?_
      exact of_decide_eq_true hsid ▸ List.mem_map_of_mem hs
    have hreply := Api.getFilter_holds hholds id
    rw [hnone] at hreply
    exact h.sends hasks rfl hreply rfl

/-! ### What replies tell of identities -/

theorem remaining_answered (ids : List String) {request : Request} {reply : Reply} {route : Route}
    (hasks : request.Asks route) (h : reply.status = 200) :
    remaining ids (request, reply) = route.leaves ids reply := by
  have hfind : Route.find (Text.upper request.method) request.address.toList = .ok route := hasks
  unfold remaining
  rw [if_neg (not_not.mpr h)]
  dsimp only
  rw [hfind]

/-- A request that is not to write tells nothing of identities. -/
theorem remaining_kept (ids : List String) {request : Request} {reply : Reply}
    (h : ∀ route, request.Asks route → route.writes = true → 400 ≤ reply.status) :
    remaining ids (request, reply) = ids := by
  by_cases hstatus : reply.status = 200
  · cases hfind : Route.find (Text.upper request.method) request.address.toList with
    | error e =>
      unfold remaining
      dsimp only
      rw [hfind, if_neg (not_not.mpr hstatus)]
    | ok route =>
      have hwrites : route.writes ≠ true := by
        intro hwrites
        have := h route hfind hwrites
        omega
      rw [remaining_answered ids hfind hstatus]
      cases route with
      | createFilter => exact absurd rfl hwrites
      | deleteFilter id => exact absurd rfl hwrites
      | _ => rfl
  · exact if_pos hstatus

/-! ### Single requests -/

section Requests

variable {after : Api} {request : Request}

theorem Change.kept {reply : Reply} (h : (shelf.map Saved.id).Nodup) (htext : after.saved.text = api.saved.text)
    (hrefused : ∀ route, request.Asks route → route.writes = true → 400 ≤ reply.status) :
    Change sources request api after reply shelf shelf where
  ids := (remaining_kept _ hrefused).symm
  refused _ := htext
  old _ hs _ hs' hid := .inl (eq_of_id h hs' hs hid)
  new _ hs' hnew := absurd (List.mem_map_of_mem hs') hnew

theorem Change.created {s : Saved} (h : ((shelf ++ [s]).map Saved.id).Nodup) {members : Entries Value}
    (hasks : request.Asks .createFilter) (hbody : bodyValue request.body = .ok (.object members))
    (hcreated : s.CreatedFrom (sources.newId (api.created + 1)) (sources.clock api.saved.readings) members) :
    Change sources request api after (.answer s.view) shelf (shelf ++ [s]) where
  ids := by
    rw [remaining_answered _ hasks rfl, List.map_append]
    rfl
  refused hstatus := absurd hstatus (by show ¬400 ≤ 200; decide)
  old _ hs _ hs' hid := .inl (eq_of_id h hs' (List.mem_append_left _ hs) hid)
  new s' hs' hnew := by
    rcases List.mem_append.mp hs' with hs' | hs'
    · exact absurd (List.mem_map_of_mem hs') hnew
    · rw [List.mem_singleton.mp hs']
      exact ⟨members, hasks, hbody, hcreated, rfl⟩

theorem Change.updated {before behind : List Saved} {old : Saved} {a : Amendment}
    (h : ((before ++ old :: behind).map Saved.id).Nodup) {members : Entries Value}
    (hasks : request.Asks (.updateFilter old.id)) (hbody : bodyValue request.body = .ok (.object members))
    (ha : a.ReadFrom members) :
    Change sources request api after (.answer (old.amended (sources.clock api.saved.readings) a).view)
      (before ++ old :: behind) (before ++ old.amended (sources.clock api.saved.readings) a :: behind) where
  ids := by
    rw [remaining_answered _ hasks rfl, map_id_amended]
    rfl
  refused hstatus := absurd hstatus (by show ¬400 ≤ 200; decide)
  old s hs s' hs' hid := by
    rcases eq_or_mem_of_mem_replaced (x := old) hs' with rfl | hs'
    · obtain rfl : s = old := eq_of_id h hs (List.mem_append_right _ List.mem_cons_self) hid.symm
      exact .inr ⟨members, a, hasks, hbody, ha, rfl, rfl⟩
    · exact .inl (eq_of_id h hs' hs hid)
  new s' hs' hnew := by
    refine absurd ?_ hnew
    rw [← map_id_amended before behind old a (sources.clock api.saved.readings)]
    exact List.mem_map_of_mem hs'

theorem Change.deleted {id : String} (h : (shelf.map Saved.id).Nodup) (hasks : request.Asks (.deleteFilter id)) :
    Change sources request api after (.deleted id) shelf (shelf.filter fun s => s.id ≠ id) where
  ids := by
    rw [remaining_answered _ hasks rfl, Route.leaves, List.filter_map]
    rfl
  refused hstatus := absurd hstatus (by show ¬400 ≤ 200; decide)
  old _ hs _ hs' hid := .inl (eq_of_id h (List.mem_of_mem_filter hs') hs hid)
  new _ hs' hnew := absurd (List.mem_map_of_mem (List.mem_of_mem_filter hs')) hnew

end Requests

/-! ### Steps and runs -/

theorem Saved.CreatedFrom.labelled {s : Saved} {id : String} {now : Time.Instant} {members : Entries Value}
    (h : s.CreatedFrom id now members) : s.filter.Labelled := by
  obtain ⟨fields, -, hf⟩ := h.filter
  exact Filter.labelled_of_ofValue hf

theorem Amendment.ReadFrom.labelled {a : Amendment} {members : Entries Value} (h : a.ReadFrom members) {s : Saved}
    (hs : s.filter.Labelled) (now : Time.Instant) : (s.amended now a).filter.Labelled := by
  have hfilter := h.filter
  obtain ⟨name, filter, controls⟩ := a
  cases filter with
  | none => exact hs
  | some f =>
    obtain ⟨fields, -, hf⟩ := hfilter
    exact Filter.labelled_of_ofValue hf

section Turns

variable {after : Api}

/-- The identities of a shelf were given, also after more of them have been. -/
theorem Shelved.given_later (h : Shelved sources api shelf) (hcreated : api.created ≤ after.created) :
    ∀ s ∈ shelf, ∃ k ≤ after.created, s.id = sources.newId k := by
  intro s hs
  obtain ⟨k, hk, hid⟩ := h.given s hs
  exact ⟨k, Nat.le_trans hk hcreated, hid⟩

theorem Shelved.append (h : Shelved sources api shelf) (hnew : Function.Injective sources.newId) {s : Saved}
    (hid : s.id = sources.newId (api.created + 1)) (hs : s.filter.Labelled) (hcount : after.created = api.created + 1)
    (hholds : ∃ readings, Holds after.saved ⟨(shelf ++ [s]).map Saved.entry, readings⟩)
    (hpaired : after.saved.halves = false) : Shelved sources after (shelf ++ [s]) where
  holds := hholds
  paired := hpaired
  distinct := by
    -- the identities so far were given with smaller numbers
    have hfresh : s.id ∉ shelf.map Saved.id := by
      intro hmem
      obtain ⟨t, ht, htid⟩ := List.mem_map.mp hmem
      obtain ⟨k, hk, hgiven⟩ := h.given t ht
      rw [← htid, hgiven] at hid
      have := hnew hid
      omega
    rw [List.map_append, List.nodup_append]
    refine ⟨h.distinct, List.nodup_singleton _, fun id hmem other hother => ?_⟩
    rw [List.mem_singleton.mp hother]
    rintro rfl
    exact hfresh hmem
  given t ht := by
    rcases List.mem_append.mp ht with ht | ht
    · exact h.given_later (by omega) t ht
    · rw [List.mem_singleton.mp ht]
      exact ⟨_, Nat.le_of_eq hcount.symm, hid⟩
  labelled t ht := by
    rcases List.mem_append.mp ht with ht | ht
    · exact h.labelled t ht
    · rw [List.mem_singleton.mp ht]
      exact hs

theorem Shelved.replace {before behind : List Saved} {old : Saved} {a : Amendment} {now : Time.Instant}
    (h : Shelved sources api (before ++ old :: behind)) (hlabelled : (old.amended now a).filter.Labelled)
    (hcreated : api.created ≤ after.created)
    (hholds : ∃ readings, Holds after.saved ⟨(before ++ old.amended now a :: behind).map Saved.entry, readings⟩)
    (hpaired : after.saved.halves = false) : Shelved sources after (before ++ old.amended now a :: behind) where
  holds := hholds
  paired := hpaired
  distinct := by
    rw [map_id_amended]
    exact h.distinct
  given t ht := by
    rcases eq_or_mem_of_mem_replaced (x := old) ht with rfl | ht
    · exact h.given_later hcreated old (List.mem_append_right _ List.mem_cons_self)
    · exact h.given_later hcreated t ht
  labelled t ht := by
    rcases eq_or_mem_of_mem_replaced (x := old) ht with rfl | ht
    · exact hlabelled
    · exact h.labelled t ht

theorem Shelved.filter (h : Shelved sources api shelf) (p : Saved → Bool) (hcreated : api.created ≤ after.created)
    (hholds : ∃ readings, Holds after.saved ⟨(shelf.filter p).map Saved.entry, readings⟩)
    (hpaired : after.saved.halves = false) : Shelved sources after (shelf.filter p) where
  holds := hholds
  paired := hpaired
  distinct := h.distinct.sublist (List.filter_sublist.map Saved.id)
  given s hs := h.given_later hcreated s (List.mem_of_mem_filter hs)
  labelled s hs := h.labelled s (List.mem_of_mem_filter hs)

end Turns

/-- **A request with a paired body makes a change of the shelf**, and the file holds the shelf after it. -/
theorem Shelved.exists_change (h : Shelved sources api shelf) (hnew : Function.Injective sources.newId)
    {request : Request} (hrequest : request.isPaired = true) :
    ∃ shelf', Shelved sources (api.handle sources request).2 shelf' ∧
      Change sources request api (api.handle sources request).2 (api.handle sources request).1 shelf shelf' := by
  obtain ⟨readings, hholds⟩ := h.holds
  obtain ⟨⟨es', readings'⟩, hholds', hturn⟩ := Api.exists_response sources request hholds
  have hcreated := (Api.respond_serves sources api request).created
  have hpaired : (api.respond sources request).2.saved.halves = false :=
    (Api.respond_halves sources api request).trans h.paired
  rw [Api.handle_of_paired hrequest h.paired]
  generalize api.respond sources request = outcome at hholds' hturn hcreated hpaired ⊢
  obtain ⟨reply, after⟩ := outcome
  dsimp only at hholds' hturn hcreated hpaired ⊢
  generalize hes : shelf.map Saved.entry = es at hturn
  cases hturn with
  | kept htext hrefused =>
    have hkept : Shelved sources after shelf :=
      ⟨⟨readings', hes ▸ hholds'⟩, hpaired, h.distinct, h.given_later hcreated, h.labelled⟩
    exact ⟨shelf, hkept, .kept h.distinct htext hrefused⟩
  | @created _ members s hasks hbody hfrom hcount =>
    have happend : Shelved sources after (shelf ++ [s]) := by
      refine h.append hnew hfrom.id hfrom.labelled hcount ⟨readings', ?_⟩ hpaired
      rw [List.map_append, hes]
      exact hholds'
    exact ⟨shelf ++ [s], happend, .created happend.distinct hasks hbody hfrom⟩
  | @updated before behind old members id a hasks hbody ha hbefore hold =>
    -- the entries in front of the updated one and behind it are those of filters
    obtain ⟨first, rest, rfl, rfl, hrest⟩ := List.map_eq_append_iff.mp hes
    obtain ⟨s, second, rfl, rfl, rfl⟩ := List.map_eq_cons_iff.mp hrest
    obtain rfl : s.id = id := by
      rw [hasId_entry] at hold
      exact of_decide_eq_true hold
    have hs : s ∈ first ++ s :: second := List.mem_append_right _ List.mem_cons_self
    rw [updated_entry, Reply.ofEntry, savedView?_entry]
    refine ⟨_, h.replace (ha.labelled (h.labelled s hs) _) hcreated ⟨readings', ?_⟩ hpaired,
      .updated h.distinct hasks hbody ha⟩
    rw [List.map_append, List.map_cons, ← updated_entry]
    exact hholds'
  | @deleted _ id hasks hany =>
    have hrest : (shelf.filter fun s => s.id ≠ id).map Saved.entry =
        es.filter fun e => !hasId (.string id) e := by
      rw [← hes, List.filter_map]
      refine congrArg (List.map Saved.entry) (List.filter_congr fun s _ => ?_)
      rw [Function.comp_apply, hasId_entry, decide_not]
    refine ⟨_, h.filter _ hcreated ⟨readings', ?_⟩ hpaired, .deleted h.distinct hasks⟩
    rw [hrest]
    exact hholds'

/-- The shelf after requests has the filters that are left as the replies tell.  The induction is on the requests. -/
theorem Shelved.exists_after (h : Shelved sources api shelf) (hnew : Function.Injective sources.newId)
    {requests : List Request} (hrequests : ∀ r ∈ requests, r.isPaired = true) :
    ∃ shelf', Shelved sources (api.after sources requests) shelf' ∧
      shelf'.map Saved.id = (api.trace sources requests).foldl remaining (shelf.map Saved.id) := by
  induction requests generalizing api shelf with
  | nil => exact ⟨shelf, h, rfl⟩
  | cons r rs ih =>
    obtain ⟨shelf₁, hshelf₁, hchange⟩ := h.exists_change hnew (hrequests r List.mem_cons_self)
    obtain ⟨shelf', hshelf', hids⟩ := ih hshelf₁ fun r' hr' => hrequests r' (List.mem_cons_of_mem r hr')
    refine ⟨shelf', hshelf', ?_⟩
    rw [hids, hchange.ids]
    rfl

theorem halves_initial : (SavedFilters.initial none).halves = false := by decide +kernel

theorem shelved_initial (h : api.saved = .initial none) : Shelved sources api [] where
  holds := ⟨0, h ▸ holds_initial⟩
  paired := h ▸ halves_initial
  distinct := List.nodup_nil
  given := List.forall_mem_nil _
  labelled := List.forall_mem_nil _

/-- An update changes the date of the update, and else only members to which the body gives a value. -/
theorem Amendment.ReadFrom.changes {a : Amendment} {members : Entries Value} (h : a.ReadFrom members) (s : Saved)
    (now : Time.Instant) {name : String} (hne : (s.amended now a).entry.get? name ≠ s.entry.get? name) :
    name = "updated_at" ∨ name ∈ ["name", "filter", "controls"] ∧ member members name ≠ .null := by
  have hname := h.name
  have hfilter := h.filter
  have hcontrols := h.controls
  by_cases hmember : name ∈ ["id", "name", "filter", "controls", "created_at", "updated_at"]
  · simp only [List.mem_cons, List.not_mem_nil, or_false] at hmember
    rcases hmember with rfl | rfl | rfl | rfl | rfl | rfl
    · exact absurd rfl hne
    · refine .inr ⟨by simp, fun hnull => hne ?_⟩
      rw [hnull] at hname
      obtain ⟨_ | text, filter, controls⟩ := a
      · rfl
      · cases hname
    · refine .inr ⟨by simp, fun hnull => hne ?_⟩
      obtain ⟨text, _ | f, controls⟩ := a
      · rfl
      · obtain ⟨fields, hobject, -⟩ := hfilter
        rw [hnull] at hobject
        cases hobject
    · refine .inr ⟨by simp, fun hnull => hne ?_⟩
      rw [hnull] at hcontrols
      obtain ⟨text, filter, _ | texts⟩ := a
      · simp [Saved.entry, Saved.amended, Entries.get?, Keyed.get?_cons]
      · cases hcontrols
    · refine absurd ?_ hne
      simp [Saved.entry, Saved.amended, Entries.get?, Keyed.get?_cons]
    · exact .inl rfl
  · have hnone : ∀ t : Saved, t.entry.get? name = none := by
      intro t
      refine Keyed.get?_eq_none fun hkey => hmember ?_
      exact hkey
    rw [hnone, hnone] at hne
    exact absurd rfl hne

/-- A member of a filter changes only by an answered update of it: the date of the update, and else a member to which
the body gives a value. -/
theorem Change.member {request : Request} {after : Api} {reply : Reply} {shelf' : List Saved}
    (h : Change sources request api after reply shelf shelf') {s s' : Saved} (hs : s ∈ shelf) (hs' : s' ∈ shelf')
    (hid : s'.id = s.id) {name : String} (hne : s'.entry.get? name ≠ s.entry.get? name) :
    request.Asks (.updateFilter s.id) ∧ reply = .answer s'.view ∧
      ∃ members, bodyValue request.body = .ok (.object members) ∧
        (name = "updated_at" ∨ name ∈ ["name", "filter", "controls"] ∧ Value.member members name ≠ .null) := by
  rcases h.old s hs s' hs' hid with rfl | ⟨members, a, hasks, hbody, ha, rfl, hreply⟩
  · exact absurd rfl hne
  · exact ⟨hasks, hreply, members, hbody, ha.changes s _ hne⟩

/-- **The saved filters over whole runs.**  From an absent file on, after any requests with paired bodies there is a
shelf of filters: those that were created and not deleted, as the replies told, in the order of their creation.  Their
identities are different and their documents canonical and decoded, and requests show just these filters.  The next
request makes a change of the shelf, which leaves the text of the file if it is refused, and a member of a filter
changes only if the request is an answered update of the filter that gives it a value. -/
theorem Api.exists_shelf (hnew : Function.Injective sources.newId) (hfile : api.saved = .initial none)
    {requests : List Request} (hrequests : ∀ r ∈ requests, r.isPaired = true) : ∃ shelf : List Saved,
      shelf.map Saved.id = (api.trace sources requests).foldl remaining [] ∧ (shelf.map Saved.id).Nodup ∧
      (∀ s ∈ shelf, Filter.Canonical s.filter.toValue ∧ Filter.ofValue s.filter.toValue = .ok s.filter) ∧
      Shows sources (api.after sources requests) shelf ∧
      ∀ request reply after, request.isPaired = true →
        (api.after sources requests).handle sources request = (reply, after) →
        (400 ≤ reply.status → after.saved.text = (api.after sources requests).saved.text) ∧
        ∃ shelf', Shows sources after shelf' ∧
          Change sources request (api.after sources requests) after reply shelf shelf' ∧
          ∀ s ∈ shelf, ∀ s' ∈ shelf', s'.id = s.id → ∀ name, s'.entry.get? name ≠ s.entry.get? name →
            request.Asks (.updateFilter s.id) ∧ reply.status = 200 ∧
              ∃ members, bodyValue request.body = .ok (.object members) ∧
                (name = "updated_at" ∨ name ∈ ["name", "filter", "controls"] ∧ member members name ≠ .null) := by
  obtain ⟨shelf, hshelf, hids⟩ := (shelved_initial hfile).exists_after hnew hrequests
  refine ⟨shelf, hids, hshelf.distinct, fun s hs => ?_, hshelf.shows, fun request reply after hrequest hhandle => ?_⟩
  · have hlabelled := hshelf.labelled s hs
    exact ⟨Filter.canonical_toValue hlabelled, Filter.ofValue_toValue hlabelled⟩
  · obtain ⟨shelf', hshelf', hchange⟩ := hshelf.exists_change hnew hrequest
    rw [hhandle] at hshelf' hchange
    dsimp only at hshelf' hchange
    refine ⟨hchange.refused, shelf', hshelf'.shows, hchange, fun s hs s' hs' hid name hne => ?_⟩
    obtain ⟨hasks, hreply, hbody⟩ := hchange.member hs hs' hid hne
    exact ⟨hasks, by rw [hreply]; rfl, hbody⟩

/-- Identities that are counted by their length. -/
def countedSources : Sources := ⟨fun _ => .epoch, fun n => String.ofList (List.replicate n 'f')⟩

theorem countedSources_injective : Function.Injective countedSources.newId := by
  intro m n h
  have hlists : List.replicate m 'f' = List.replicate n 'f' := by
    rw [← String.toList_ofList (l := List.replicate m 'f'), ← String.toList_ofList (l := List.replicate n 'f')]
    exact congrArg String.toList h
  rw [← List.length_replicate (n := m) (a := 'f'), hlists, List.length_replicate]

/-- A service with an absent file. -/
def unfiled : Api where
  service := .make ⟨.permissive, .memory .empty⟩ .defaults .null
  now := .epoch
  saved := .initial none
  created := 0

/-- The request for a new filter that matches all. -/
def newFilter : Request := ⟨"POST", "/api/filters", some "\x7b\"name\":\"all\",\"filter\":\x7b\x7d\x7d"⟩

theorem trace_newFilter : (unfiled.trace countedSources [newFilter]).foldl remaining [] = ["f"] := by decide +kernel

/-- A filter is created and listed, and there is no other. -/
theorem Api.exists_shelf_created : ∃ s : Saved, s.id = "f" ∧
    ((unfiled.after countedSources [newFilter]).handle countedSources ⟨"get", "/api/filters/", none⟩).1 =
      .answer (.array [s.view]) ∧
    ((unfiled.after countedSources [newFilter]).handle countedSources ⟨"GET", "/api/filters/g", none⟩).1 =
      .refusal 404 "Filter 'g' not found" := by
  have hfile : unfiled.saved = .initial none := rfl
  have hrequests : ∀ r ∈ [newFilter], r.isPaired = true := by decide +kernel
  obtain ⟨shelf, hids, -, -, hshows, -⟩ := Api.exists_shelf countedSources_injective hfile hrequests
  rw [trace_newFilter] at hids
  obtain ⟨s, rest, rfl, hid, hrest⟩ := List.map_eq_cons_iff.mp hids
  obtain rfl := List.map_eq_nil_iff.mp hrest
  refine ⟨s, hid, hshows.list (by decide +kernel), ?_⟩
  have hasks : Request.Asks ⟨"GET", "/api/filters/g", none⟩ (.getFilter "g") := by decide +kernel
  refine hshows.unknown hasks ?_
  rw [hids]
  decide

/-- The request for a new filter on a label that is half of a pair. -/
def halvedFilter : Request := ⟨"POST", "/api/filters",
  some "\x7b\"name\":\"half\",\"filter\":\x7b\"scope\":\x7b\"condition\":\x7b\"label\":\"\\ud800\",\"operator\":\"=\",\"value\":\"x\"\x7d\x7d\x7d\x7d"⟩

/-- **A filter with half of a pair breaks the reply, but is saved**, and afterwards no list of filters can be shown. -/
theorem Api.exists_shelf_halved :
    (unfiled.handle countedSources halvedFilter).1.status = 500 ∧
    (unfiled.handle countedSources halvedFilter).2.saved.text ≠ unfiled.saved.text ∧
    ((unfiled.handle countedSources halvedFilter).2.handle countedSources ⟨"GET", "/api/filters", none⟩).1.status = 500 ∧
    ((unfiled.handle countedSources halvedFilter).2.handle countedSources ⟨"GET", "/api/filters/f", none⟩).1.status =
      500 := by
  have hasks : halvedFilter.Asks .createFilter := by decide +kernel
  have hpaired : halvedFilter.isPaired = false := by decide +kernel
  have hstatus : (unfiled.respond countedSources halvedFilter).1.status = 200 := by decide +kernel
  have hshown : (unfiled.respond countedSources halvedFilter).1.showsStandIn = true := by decide +kernel
  have hshows : unfiled.showsHalves halvedFilter (unfiled.respond countedSources halvedFilter).1 = true := by
    rw [showsHalves_of_asks hasks, repeatsHalves, hpaired, hshown]
    rfl
  have hnew : Holds unfiled.saved ⟨[], 0⟩ := holds_initial
  obtain ⟨⟨entries, readings⟩, hholds, hturn⟩ := exists_turn countedSources halvedFilter hnew
  obtain ⟨members, s, -, hcreated, hreply, rfl⟩ := hturn.exists_created hasks hstatus
  have hview : hasStandIn (render none 0 s.view) = true := by
    rw [hreply] at hshown
    simpa [Reply.showsStandIn, Reply.texts] using hshown
  have htext : (unfiled.handle countedSources halvedFilter).2.saved.text ≠ unfiled.saved.text :=
    fun hsame => List.cons_ne_nil s.entry [] (hholds.entries_eq hnew hsame)
  have hhalves := halves_of_written hshows htext
  have hheld : Holds (unfiled.handle countedSources halvedFilter).2.saved ⟨[s].map Saved.entry, readings⟩ := hholds
  have hid : s.id = "f" := hcreated.id.trans (by decide)
  have hrefused : (unfiled.handle countedSources halvedFilter).1.status = 500 := by
    rw [handle_of_halves hshows]
    rfl
  generalize unfiled.handle countedSources halvedFilter = outcome at hrefused htext hhalves hheld ⊢
  refine ⟨hrefused, htext, ?_, ?_⟩
  · have hasks' : Request.Asks ⟨"GET", "/api/filters", none⟩ .listFilters := by decide +kernel
    have hlist := list_holds hheld
    have hsingle : hasStandIn (render none 0 (.array [s.view])) = hasStandIn (render none 0 s.view) :=
      hasStandIn_singleton (P := Lossless) s.expressible_entry
    rw [handle_of_shown hasks' rfl hhalves]
    · rfl
    · show Reply.showsStandIn (list _) = true
      rw [hlist]
      simpa [Reply.showsStandIn, Reply.texts, hsingle] using hview
  · have hasks' : Request.Asks ⟨"GET", "/api/filters/f", none⟩ (.getFilter "f") := by decide +kernel
    have hget := getFilter_holds hheld "f"
    rw [handle_of_shown hasks' rfl hhalves]
    · rfl
    · show Reply.showsStandIn (getFilter _ "f") = true
      rw [hget]
      simpa [hid, Reply.showsStandIn, Reply.texts] using hview

end ComplianceHistory.Web
