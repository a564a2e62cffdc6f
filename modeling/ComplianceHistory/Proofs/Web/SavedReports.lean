import ComplianceHistory.Proofs.Web.Failures
import ComplianceHistory.Proofs.Web.Shelf

/-!
# Reports on saved filters

A filter that was saved keeps its entry while other requests create filters, and update or delete those with other
identities (`Turn.find?_kept`).  Its document is read back as the filter that was posted.  So the report on a saved
filter is the one on the document that it was created from, whatever the service answers or fails with
(`Api.report_saved`).
-/

namespace ComplianceHistory.Web

open Json SavedFilters Value

variable {sources : Sources} {api after : Api} {request : Request}

/-! ### The entry with an identity -/

/-- An update leaves the identity of an entry. -/
theorem member_id_updated (now : Time.Instant) (a : Amendment) (old : Entries Value) :
    member (updated now a.entries old) "id" = member old "id" := by
  obtain ⟨name, filter, controls⟩ := a
  unfold member
  cases name <;> cases filter <;> cases controls <;>
    simp [updated, Amendment.entries, Entries.putAll, Entries.get?_put_of_ne]

theorem hasId_updated (id : Value) (now : Time.Instant) (a : Amendment) (old : Entries Value) :
    hasId id (updated now a.entries old) = hasId id old := by
  unfold hasId
  rw [member_id_updated]

/-- An entry has at most one text for its identity. -/
theorem hasId_unique {id other : String} {e : Entries Value} (h : hasId (.string id) e = true)
    (h' : hasId (.string other) e = true) : id = other :=
  Value.string.inj ((hasId_string.mp h).symm.trans (hasId_string.mp h'))

/-- **A request that is not about an identity leaves the first entry with it.** -/
theorem Turn.find?_kept {es es' : List (Entries Value)} {reply : Reply}
    (h : Turn sources request api after es reply es') {id : String} (hupdate : ¬request.Asks (.updateFilter id))
    (hdelete : ¬request.Asks (.deleteFilter id)) {e : Entries Value}
    (hfind : es.find? (hasId (.string id)) = some e) : es'.find? (hasId (.string id)) = some e := by
  cases h with
  | kept => exact hfind
  | created =>
    rw [List.find?_append, hfind]
    rfl
  | @updated before behind old members other a hasks hbody ha hbefore hold =>
    have hother : hasId (.string id) old = false := by
      refine Bool.eq_false_iff.mpr fun hid => hupdate ?_
      rw [hasId_unique hid hold]
      exact hasks
    have hnew : hasId (.string id) (SavedFilters.updated (sources.clock api.saved.readings) a.entries old) = false := by
      rw [hasId_updated, hother]
    rw [List.find?_append, List.find?_cons, hother] at hfind
    rw [List.find?_append, List.find?_cons, hnew]
    exact hfind
  | @deleted _ other hasks hany =>
    have hsame : ∀ d, decide ((!hasId (.string other) d) = true ∧ hasId (.string id) d = true) =
        hasId (.string id) d := by
      intro d
      rw [Bool.eq_iff_iff, decide_eq_true_eq, and_iff_right_iff_imp, Bool.not_eq_true', Bool.eq_false_iff]
      intro hid hother
      refine hdelete ?_
      rw [hasId_unique hid hother]
      exact hasks
    rw [List.find?_filter]
    simp only [hsame]
    exact hfind

namespace Api

/-- The first entry with an identity stays while requests are about others.  The induction is on the requests. -/
theorem find?_after (sources : Sources) {m : Listing} (hholds : Holds api.saved m) {id : String} {requests : List Request}
    (hothers : ∀ r ∈ requests, ¬r.Asks (.updateFilter id) ∧ ¬r.Asks (.deleteFilter id)) {e : Entries Value}
    (hfind : m.entries.find? (hasId (.string id)) = some e) : ∃ m', Holds (api.after sources requests).saved m' ∧
      m'.entries.find? (hasId (.string id)) = some e := by
  induction requests generalizing api m with
  | nil => exact ⟨m, hholds, hfind⟩
  | cons r rs ih =>
    obtain ⟨m₁, hholds₁, hturn⟩ := exists_turn sources r hholds
    obtain ⟨hupdate, hdelete⟩ := hothers r List.mem_cons_self
    exact ih hholds₁ (fun r' hr' => hothers r' (List.mem_cons_of_mem r hr')) (hturn.find?_kept hupdate hdelete hfind)

/-- A filter that is accepted under a new identity has the first entry with it. -/
theorem find?_created {m : Listing} (hholds : Holds api.saved m)
    (hfresh : ∀ e ∈ m.entries, hasId (.string (sources.newId (api.created + 1))) e = false)
    (hcreate : request.Asks .createFilter) (haccepted : (api.handle sources request).1.status = 200) :
    ∃ (m' : Listing) (members : Entries Value) (s : Saved), Holds (api.handle sources request).2.saved m' ∧
      m'.entries.find? (hasId (.string (sources.newId (api.created + 1)))) = some s.entry ∧
      bodyValue request.body = .ok (.object members) ∧
      s.CreatedFrom (sources.newId (api.created + 1)) (sources.clock api.saved.readings) members := by
  obtain ⟨m', hholds', hturn⟩ := exists_turn sources request hholds
  have haccepted : (api.respond sources request).1.status = 200 := by
    rcases handle_fst sources api request with h | h <;> rw [h] at haccepted
    · exact haccepted
    · cases haccepted
  obtain ⟨members, s, hbody, hcreated, -, hentries⟩ := hturn.exists_created hcreate haccepted
  refine ⟨m', members, s, hholds', ?_, hbody, hcreated⟩
  have hnone : m.entries.find? (hasId (.string (sources.newId (api.created + 1)))) = none :=
    List.find?_eq_none.mpr fun e he => by simp [hfresh e he]
  have hentry : hasId (.string (sources.newId (api.created + 1))) s.entry = true := by
    rw [hasId_entry, hcreated.id, decide_eq_true_eq]
  rw [hentries, List.find?_append, hnone, List.find?_cons_of_pos hentry]
  rfl

/-! ### Replies -/

/-- The report on a filter, which its document or its identity may have named. -/
def report (api : Api) (f : Filter) : Reply := .ofService id (api.serve .complianceBySearch f)

/-- A report repeats no texts that were posted. -/
theorem isFlawed_report (api : Api) (f : Filter) : (api.report f).isFlawed = false := by
  unfold report Reply.ofService
  split
  · rfl
  · rfl
  · split
    · split <;> rfl
    · rfl
  · rfl

/-- A report is sent as it is. -/
theorem handle_report {route : Route} (hasks : request.Asks route) (hbody : route.repeatsBody = false)
    (hfile : route.repeatsFile = false) {f : Filter} (h : (api.reply sources request.body route).1 = api.report f) :
    (api.handle sources request).1 = api.report f := by
  have hrespond : (api.respond sources request).1 = api.report f := by rw [respond_of_asks hasks, h]
  have hshows : api.showsHalves request (api.respond sources request).1 = false :=
    showsHalves_of_repeats hasks (.inr ⟨hbody, hrespond ▸ isFlawed_report api f⟩) (.inr hfile)
  rw [handle_of_sendable hshows, hrespond]

theorem report_of_serves (h : api.Serves after) (f : Filter) : after.report f = api.report f := by
  unfold report serve
  rw [h.service, h.now]

/-- A posted document is reported on as the filter that it is read as. -/
theorem reply_search {body : Option String} {members fields : Entries Value} {f : Filter}
    (hbody : bodyValue body = .ok (.object members)) (hfilter : member members "filter" = .object fields)
    (hf : Filter.ofValue (.object fields) = .ok f) : (api.reply sources body .complianceBySearch).1 = api.report f := by
  have hposted := api.reply_posted sources body (r := .complianceBySearch) rfl
  rw [bodyFilter_eq body hbody, hfilter] at hposted
  refine hposted.trans ?_
  dsimp only
  rw [hf]
  rfl

/-- A saved filter is reported on as the filter of its entry. -/
theorem reply_report {body : Option String} {m : Listing} (hholds : Holds api.saved m) {id : String} {s : Saved}
    (hfind : m.entries.find? (hasId (.string id)) = some s.entry) (hs : s.filter.Labelled) :
    (api.reply sources body (.filterCompliance id)).1 = api.report s.filter := by
  have hinvolves : api.Involves body (.saved id) (member s.entry "filter") := .saved hholds.content hfind
  have hdocument : member s.entry "filter" = s.filter.toValue := rfl
  rw [api.reply_saved sources body hinvolves, hdocument, Filter.ofValue_toValue hs]
  rfl

/-- **A saved filter is reported on like the document that it was created from.**  The file holds a list of objects,
whose floating-point numbers are read back from their texts, and none of them has the new identity.  A document is
accepted as a filter, and later requests neither update nor delete it.  Then the reply to a request for its report is
the one to a request with the same document, both at that time and before all of them. -/
theorem report_saved {es : List (Entries Value)} (hfile : api.saved.content = .ok (.array (es.map .object)))
    (hfloats : ∀ e ∈ es, ∀ x, FloatIn x (.object e) → Lossless x) {id : String}
    (hid : sources.newId (api.created + 1) = id) (hfresh : ∀ e ∈ es, hasId (.string id) e = false)
    {create : Request} (hcreate : create.Asks .createFilter) {members fields : Entries Value}
    (hbody : bodyValue create.body = .ok (.object members)) (hfilter : member members "filter" = .object fields)
    (haccepted : (api.handle sources create).1.status = 200) {later : List Request}
    (hlater : ∀ r ∈ later, ¬r.Asks (.updateFilter id) ∧ ¬r.Asks (.deleteFilter id)) {get : Request}
    (hget : get.Asks (.filterCompliance id)) {post : Request} (hpost : post.Asks .complianceBySearch)
    {posted : Entries Value} (hposted : bodyValue post.body = .ok (.object posted))
    (hsame : member posted "filter" = .object fields) {last : Api}
    (hlast : (api.handle sources create).2.after sources later = last) :
    (last.handle sources get).1 = (last.handle sources post).1 ∧
      (last.handle sources get).1 = (api.handle sources post).1 := by
  subst hid hlast
  have hholds : Holds api.saved ⟨es, api.saved.readings⟩ := ⟨hfile, rfl, fun e he =>
    expressible_iff.mpr ⟨(isJson_of_content hfile).items _ (List.mem_map_of_mem he), hfloats e he⟩⟩
  obtain ⟨m₁, members', s, hholds₁, hfind₁, hbody', hcreated⟩ := find?_created hholds hfresh hcreate haccepted
  obtain ⟨m, hholds', hfind⟩ := find?_after sources hholds₁ hlater hfind₁
  obtain rfl : members = members' := Value.object.inj (Except.ok.inj (hbody.symm.trans hbody'))
  obtain ⟨fields', hfilter', hf⟩ := hcreated.filter
  obtain rfl : fields = fields' := Value.object.inj (hfilter.symm.trans hfilter')
  have hserves : api.Serves ((api.handle sources create).2.after sources later) :=
    (handle_serves sources api create).trans (after_serves sources _ later)
  have hreport : ((api.handle sources create).2.after sources later).report s.filter = api.report s.filter :=
    report_of_serves hserves s.filter
  have hget' : (((api.handle sources create).2.after sources later).handle sources get).1 =
      ((api.handle sources create).2.after sources later).report s.filter :=
    handle_report hget rfl rfl (reply_report hholds' hfind (Filter.labelled_of_ofValue hf))
  have hpost' : ∀ {api' : Api}, (api'.handle sources post).1 = api'.report s.filter :=
    handle_report hpost rfl rfl (reply_search hposted hsame hf)
  rw [hget', hpost', hpost', hreport]
  exact ⟨rfl, rfl⟩

/-- A document of a filter with a member that has no meaning. -/
def noted : Entries Value := [("scope", .null), ("note", .int 1)]

theorem expressible_noted {name : String} :
    Expressible Lossless (.object [("name", .string name), ("filter", .object noted)]) := by
  have hnoted : Expressible Lossless (.object noted) := .pair (by decide) .null (.int (by decide))
  exact .pair (by decide) (.string name) hnoted

/-- A request with the document. -/
def noting (address : String) : Request :=
  ⟨"POST", address, some (write (.blanks 2) (.object [("name", .string "noted"), ("filter", .object noted)]))⟩

/-- The document is saved, another filter is created and deleted, and the report is the one on the document. -/
theorem report_saved_noted : ∃ last : Api,
    (unfiled.handle countedSources (noting "/api/filters")).2.after countedSources
      [newFilter, ⟨"DELETE", "/api/filters/ff", none⟩] = last ∧
    (last.handle countedSources ⟨"GET", "/api/filters/f/compliance", none⟩).1 =
      (unfiled.handle countedSources (noting "/api/results/compliance-by-search")).1 := by
  refine ⟨_, rfl, ?_⟩
  have hbody : ∀ address, bodyValue (noting address).body =
      .ok (.object [("name", .string "noted"), ("filter", .object noted)]) := fun _ => bodyValue_write expressible_noted
  have hlater : ∀ r ∈ [newFilter, ⟨"DELETE", "/api/filters/ff", none⟩],
      ¬r.Asks (.updateFilter "f") ∧ ¬r.Asks (.deleteFilter "f") := by decide +kernel
  have hfile : unfiled.saved.content = .ok (.array (([] : List (Entries Value)).map .object)) :=
    content_fileText (List.forall_mem_nil _) 0 _
  have hid : countedSources.newId (unfiled.created + 1) = "f" := by decide
  have hcreate : (noting "/api/filters").Asks .createFilter := by decide +kernel
  have haccepted : (unfiled.handle countedSources (noting "/api/filters")).1.status = 200 := by decide +kernel
  have hget : Request.Asks ⟨"GET", "/api/filters/f/compliance", none⟩ (.filterCompliance "f") := by decide +kernel
  have hpost : (noting "/api/results/compliance-by-search").Asks .complianceBySearch := by decide +kernel
  exact (report_saved hfile (List.forall_mem_nil _) hid (List.forall_mem_nil _) hcreate (hbody _) rfl haccepted hlater
    hget hpost (hbody _) rfl rfl).2

end Api

end ComplianceHistory.Web
