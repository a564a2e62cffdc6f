import ComplianceHistory.Proofs.Command.Reports
import ComplianceHistory.Proofs.Json.Halves
import ComplianceHistory.Proofs.Json.Reading
import ComplianceHistory.Proofs.Sql.Shapes
import ComplianceHistory.Proofs.Web.Failures
import ComplianceHistory.Proofs.Web.Turns

/-!
# The command and the service show one filter alike

The command shows the compiled queries of the filter in a file, the service those of a filter that is posted.  They
compile the two forms of queries in different order and tell of failures at different places, but a filter is refused
for the same node in every form (`Filter.compile_uniform`), so what they tell of one document is the same
(`compiles_alike`).

They part over documents that one of them cannot tell of.  The command shows halves of pairs, which the service
cannot send (`compiles_alike_apart`); and the command tells of a number of too many digits, where the service only
tells that the body is faulty.
-/

namespace ComplianceHistory

open Json

namespace Filter

/-- A filter is compiled into any two forms, or the strict policy refuses it for its first unsupported node in both. -/
theorem compile_uniform {β γ : Type} (form : QueryForm β) (form' : QueryForm γ) (policy : Policy) (f : Filter) :
    (∃ t t', f.compile form policy = .ok t ∧ f.compile form' policy = .ok t') ∨
      ∃ u us, policy = .strict ∧ f.unsupported = u :: us ∧
        f.compile form policy = .error u ∧ f.compile form' policy = .error u := by
  obtain ⟨q, hq, hstrict⟩ := f.compile_cases form
  obtain ⟨q', hq', hstrict'⟩ := f.compile_cases form'
  cases policy with
  | permissive => exact .inl ⟨_, _, hq, hq'⟩
  | strict =>
    cases hu : f.unsupported with
    | nil =>
      rw [hu] at hstrict hstrict'
      exact .inl ⟨_, _, hstrict, hstrict'⟩
    | cons u us =>
      rw [hu] at hstrict hstrict'
      exact .inr ⟨u, us, rfl, rfl, hstrict, hstrict'⟩

/-- The document of a filter with its queries in both forms. -/
def shown (f : Filter) (query : Value) (sql : Sql.Query) : Value :=
  .object [("filter", f.toValue), ("query", query), ("sql", sql.toValue)]

/-! ### What is shown can be read -/

section Expressible

variable {P : Float → Prop} {policy : Policy}

/-- Document queries are made of texts, lists and objects. -/
theorem expressible_form (labels : Entries String) :
    DocumentQuery.form.Sound labels fun q _ => Expressible P q where
  everything := .noMembers
  compare c label value := by
    cases c with
    | equal => exact .single _ (.string value)
    | different => exact .single _ (.single _ (.string value))
  join connective q qs b bs hq hqs := by
    have hall : ∀ x ∈ q :: qs, Expressible P x := by
      intro x hx
      obtain ⟨b', -, hx'⟩ := exists_of_mem_left (.cons hq hqs : List.Forall₂ _ (q :: qs) (b :: bs)) hx
      exact hx'
    cases connective with
    | and => exact .single _ (.array hall)
    | or => exact .single _ (.array hall)

theorem expressible_sql {f : Filter} {sql : Compiled Sql.Query} (hsql : f.compile Sql.form policy = .ok sql) :
    Expressible P sql.query.toValue := by
  have hparams : Expressible P (.array sql.query.params) := by
    refine .array fun v hv => ?_
    rw [Sql.params_filter f hsql, List.mem_flatMap] at hv
    obtain ⟨c, -, hv⟩ := hv
    rcases List.mem_pair.mp hv with rfl | rfl <;> exact .string _
  exact .pair (by decide) (.string _) hparams

theorem expressible_shown {f : Filter} {query : Compiled Value} {sql : Compiled Sql.Query}
    (hquery : f.compile DocumentQuery.form policy = .ok query) (hsql : f.compile Sql.form policy = .ok sql) :
    Expressible P (f.shown query.query sql.query) := by
  refine .object (by simp) fun g hg => ?_
  simp only [List.mem_cons, List.not_mem_nil, or_false] at hg
  rcases hg with rfl | rfl | rfl
  · exact f.expressible_toValue
  · exact f.compile_means (expressible_form []) hquery
  · exact expressible_sql hsql

end Expressible

end Filter

/-! ### What the command leaves behind -/

namespace Command

/-- What is printed reads as the answer. -/
theorem read_printed {v : Value} (h : Expressible Lossless v) :
    Json.read (Json.write (.blanks 2) v ++ "\n") = .ok v := by
  have hspace : ∀ c ∈ ['\n'], isSpace c = true := by simp [isSpace]
  have hline : "\n" = String.ofList ['\n'] := by decide
  rw [hline]
  exact read_write_append (Layout.spaced_blanks 2) h hspace (Ends.cons (by decide) [])

section Run

variable {fs : Files} {configured : Option String} {present : Time.Instant} {args : List String} {a : Arguments}
  (hargs : Arguments.read args = .ok a)
include hargs

/-- A command without a file for its output prints the answer. -/
theorem run_answered {v : Value} (houtput : given a.output = none)
    (h : Yields (answer fs configured present a) (.ok v)) :
    ∃ logged : List LogLine, run fs configured present args =
      .ok ⟨0, answerText fs a v ++ "\n", logged.map .log, []⟩ := by
  obtain ⟨lines, hlines⟩ := h []
  unfold run deliver
  simp only [hargs, hlines, houtput]
  exact ⟨_, rfl⟩

/-- A command that fails in order tells why, and leaves nothing else behind. -/
theorem run_failed {e : JobError} {message : String} (horder : e.breaksOff = false) (hmessage : e.message? = some message)
    (h : Yields (answer fs configured present a) (.error e)) :
    ∃ logged : List LogLine, run fs configured present args =
      .ok ⟨1, "", logged.map .log ++ [.failure message], []⟩ := by
  obtain ⟨lines, hlines⟩ := h []
  unfold run
  simp only [hargs, hlines, horder, hmessage]
  exact ⟨_, rfl⟩

end Run

/-- An answer is written as it is if the filter comes from a paired text, or if there are no stand-ins in the answer. -/
theorem answerText_eq {fs : Files} {a : Arguments} {path : String} {text : List Char} (hmode : a.mode = .compile)
    (hfile : given a.filterFile = some path) (hread : fs.read path (plainPath path) = .ok text) {P : Float → Prop}
    {v : Value} (hv : Expressible P v) (h : isPaired text = true ∨ hasStandIn (render none 0 v) = false) :
    answerText fs a v = Json.write (.blanks 2) v := by
  have htexts : a.jsonTexts fs = [text] := by
    unfold Arguments.jsonTexts
    rw [if_pos hmode, hfile]
    show [path].filterMap (fun path => (fs.read path (plainPath path)).toOption) = _
    rw [List.filterMap_cons, hread]
    rfl
  unfold answerText
  rw [htexts]
  dsimp only
  split
  · rfl
  · rename_i hpaired
    have hwhole : hasStandIn (render none 0 v) = false := h.resolve_left fun htext => hpaired (by simpa using htext)
    rw [withHalves_write hv hwhole, String.ofList_toList]

section Forms

variable {s : Settings} {f : Filter}

theorem yields_compile {β : Type} {form : QueryForm β} {t : Compiled β}
    (h : f.compile form (.ofBool s.strictFilters) = .ok t) : Yields (compile form s f) (.ok t.query) :=
  (yields_check h).bind ((yields_log _).bind (yields_pure _))

theorem yields_compiledForms {query : Compiled Value} {sql : Compiled Sql.Query}
    (hquery : f.compile DocumentQuery.form (.ofBool s.strictFilters) = .ok query)
    (hsql : f.compile Sql.form (.ofBool s.strictFilters) = .ok sql) :
    Yields (compiledForms s f) (.ok (f.shown query.query sql.query)) :=
  (yields_compile hsql).bind ((yields_compile hquery).bind (yields_pure _))

theorem yields_compiledForms_refused {u : Unsupported}
    (hsql : f.compile Sql.form (.ofBool s.strictFilters) = .error u) :
    Yields (compiledForms s f) (.error (.unsupported u)) :=
  have hcompile : Yields (compile Sql.form s f) (.error (.unsupported u)) := (yields_check_error hsql).bind_error
  hcompile.bind_error

end Forms

end Command

/-! ### The reply of the service -/

namespace Web.Api

variable (api : Api) (sources : Sources) {request : Request} {members : Entries Value} {d : Value}

/-- A filter that is posted to be compiled is decoded, if its document is an object or null, and compiled. -/
theorem respond_compile (hasks : request.Asks .compile) (hbody : bodyValue request.body = .ok (.object members))
    (hmember : Value.member members "filter" = d) (hdocument : d = .null ∨ isObject d = true) :
    (api.respond sources request).1 = .either (((Filter.ofValue d).mapError .ofDocument).map fun f =>
      .ofService id (api.compile f)) := by
  have hfilter : bodyFilter request.body = (Filter.ofValue d).mapError .ofDocument := by
    rw [bodyFilter_eq request.body hbody, hmember]
    cases d with
    | null => rfl
    | object fields => rfl
    | _ => rcases hdocument with h | h <;> cases h
  rw [respond_of_asks hasks, ← hfilter]
  rfl

/-- A body that stops at a number of too many digits is refused without naming it. -/
theorem handle_compile_stopped (hasks : request.Asks .compile) {body : String} (hbody : request.body = some body)
    {n : Nat} (hread : Json.read body = .error (.tooManyDigits n)) :
    (api.handle sources request).1 = .refusal 400 "There was an error parsing the body" := by
  have hvalue : bodyValue request.body = .error (.refusal 400 "There was an error parsing the body") := by
    rw [hbody, bodyValue_tooManyDigits hread]
  have hreply : (api.respond sources request).1 = .refusal 400 "There was an error parsing the body" := by
    rw [respond_of_asks hasks, reply, bodyFilter, readBody, hvalue]
    rfl
  have hplain : (Reply.refusal 400 "There was an error parsing the body").showsStandIn = false := by decide +kernel
  rw [handle_of_sendable, hreply]
  rw [hreply, showsHalves_of_asks hasks, hplain, Bool.and_false]

/-- Only the body of a request is repeated in what is compiled. -/
theorem showsHalves_compile (hasks : request.Asks .compile) (reply : Reply) :
    api.showsHalves request reply = (!request.isPaired && reply.showsStandIn) := by
  rw [showsHalves_of_asks hasks, repeatsHalves]
  simp [Route.repeatsBody, Route.repeatsFile]

theorem compile_shown {f : Filter} {query : Compiled Value} {sql : Compiled Sql.Query}
    (hquery : f.compile DocumentQuery.form (.ofBool api.service.settings.strictFilters) = .ok query)
    (hsql : f.compile Sql.form (.ofBool api.service.settings.strictFilters) = .ok sql) :
    api.compile f = .ok (f.shown query.query sql.query) := by
  unfold compile
  dsimp only
  rw [hquery, hsql]
  rfl

end Web.Api

/-! ### Both on one document -/

/-- What the command leaves behind and the service replies, where both tell the same of the document of a filter that
is compiled under a policy. -/
inductive ShownAlike (policy : Policy) (d : Value) : Command.Outcome → Web.Reply → Prop
  /-- It is no document of a filter. -/
  | undecodable {e : DocumentError} {logged : List Command.LogLine} (hd : Filter.ofValue d = .error e) :
      ShownAlike policy d ⟨1, "", logged.map .log ++ [.failure e.message], []⟩
        (.refusal 422 ("Invalid label filter: " ++ e.message))
  /-- The strict policy refuses the first unsupported node of the filter. -/
  | refused {f : Filter} {u : Unsupported} {us : List Unsupported} {logged : List Command.LogLine}
      (hd : Filter.ofValue d = .ok f) (hpolicy : policy = .strict) (hu : f.unsupported = u :: us) :
      ShownAlike policy d ⟨1, "", logged.map .log ++ [.failure u.message], []⟩ (.refusal 422 u.message)
  /-- The filter is shown with its queries; what is printed reads as the value that is replied. -/
  | shown {f : Filter} {query : Compiled Value} {sql : Compiled Sql.Query} {text : String}
      {logged : List Command.LogLine} (hd : Filter.ofValue d = .ok f)
      (hquery : f.compile DocumentQuery.form policy = .ok query) (hsql : f.compile Sql.form policy = .ok sql)
      (htext : Json.read text = .ok (f.shown query.query sql.query)) :
      ShownAlike policy d ⟨0, text, logged.map .log, []⟩ (.answer (f.shown query.query sql.query))

open Command Web

/-- A text and a request hold one document, both with halves of pairs or both without. -/
structure HoldAlike (text : List Char) (request : Web.Request) (d : Value) : Prop where
  read : Json.read (String.ofList text) = .ok d
  document : d = .null ∨ isObject d = true
  posted : ∃ members, bodyValue request.body = .ok (.object members) ∧ Value.member members "filter" = d
  paired : Json.isPaired text = request.isPaired

section Both

variable {fs : Files} {configured : Option String} {args : List String} {a : Arguments} {s : Settings} {path : String}
  {text : List Char} {api : Api} {request : Web.Request}
  (hargs : Arguments.read args = .ok a) (hmode : a.mode = .compile) (hfile : given a.filterFile = some path)
  (hexpression : given a.expression = none) (hsettings : Yields (settingsOf fs a configured) (.ok s))
  (hread : fs.read path (plainPath path) = .ok text)
include hargs hmode hfile hexpression hsettings hread

/-- What the service responds with is what the command tells, up to halves of pairs in what it prints. -/
theorem exists_shownAlike (houtput : given a.output = none) (hasks : request.Asks .compile)
    (hstrict : api.service.settings.strictFilters = s.strictFilters) {d : Value} (hd : HoldAlike text request d)
    (sources : Sources) (present : Time.Instant) :
    ∃ outcome, Command.run fs configured present args = .ok outcome ∧
      (api.showsHalves request (api.respond sources request).1 = false →
        ShownAlike (.ofBool s.strictFilters) d outcome (api.respond sources request).1) := by
  obtain ⟨members, hbody, hmember⟩ := hd.posted
  have hreply := api.respond_compile sources hasks hbody hmember hd.document
  have hfilter := yields_filterOf_file hfile hexpression hread
  have htext : Filter.ofText (String.ofList text) = (Filter.ofValue d).mapError .document := by
    rw [Filter.ofText, hd.read]
  rw [htext] at hfilter
  cases hf : Filter.ofValue d with
  | error e =>
    rw [hf] at hfilter hreply
    have hanswer : Yields (answer fs configured present a) (.error (.filterText (.document e))) :=
      hsettings.bind hfilter.bind_error
    obtain ⟨logged, hrun⟩ := run_failed hargs rfl rfl hanswer
    refine ⟨_, hrun, fun _ => ?_⟩
    rw [hreply]
    exact .undecodable hf
  | ok f =>
    rw [hf] at hfilter hreply
    -- in this mode the job goes on with the two forms
    have hanswer : ∀ {outcome}, Yields (compiledForms s f) outcome → Yields (answer fs configured present a) outcome := by
      intro outcome hforms
      refine hsettings.bind (hfilter.bind ?_)
      rw [if_pos hmode]
      exact hforms
    have hserved : (api.respond sources request).1 = .ofService id (api.compile f) := hreply
    rcases f.compile_uniform DocumentQuery.form Sql.form (.ofBool s.strictFilters) with
      ⟨query, sql, hquery, hsql⟩ | ⟨u, us, hpolicy, hu, hquery, hsql⟩
    · obtain ⟨logged, hrun⟩ := run_answered hargs houtput (hanswer (yields_compiledForms hquery hsql))
      have hcompile := api.compile_shown (f := f) (by rw [hstrict]; exact hquery) (by rw [hstrict]; exact hsql)
      refine ⟨_, hrun, fun hshows => ?_⟩
      rw [hserved, hcompile] at hshows ⊢
      refine .shown hf hquery hsql ?_
      -- without halves in the reply there are none in what is printed
      have hwhole : isPaired text = true ∨ hasStandIn (render none 0 (f.shown query.query sql.query)) = false := by
        rw [api.showsHalves_compile hasks, ← hd.paired, Bool.and_eq_false_iff, Bool.not_eq_false'] at hshows
        refine hshows.imp_right fun hreply => ?_
        simpa [Reply.ofService, Reply.showsStandIn, Reply.texts] using hreply
      rw [answerText_eq hmode hfile hread (Filter.expressible_shown (P := Lossless) hquery hsql) hwhole]
      exact read_printed (Filter.expressible_shown hquery hsql)
    · obtain ⟨logged, hrun⟩ := run_failed hargs rfl rfl (hanswer (yields_compiledForms_refused hsql))
      have hcompile := api.compile_refused (f := f) (by rw [hstrict]; exact hquery)
      refine ⟨_, hrun, fun _ => ?_⟩
      rw [hserved, hcompile]
      exact .refused hf hpolicy hu

omit hmode in
/-- The command tells of a number of too many digits in a filter. -/
theorem run_stopped {n : Nat} (hstop : Json.read (String.ofList text) = .error (.tooManyDigits n))
    (present : Time.Instant) : ∃ logged : List LogLine, Command.run fs configured present args =
      .ok ⟨1, "", logged.map .log ++ [.failure (ReadError.tooManyDigits n).message], []⟩ := by
  have hfilter := yields_filterOf_file hfile hexpression hread
  have htext : Filter.ofText (String.ofList text) = .error (.notJson (.tooManyDigits n)) := by
    rw [Filter.ofText, hstop]
  rw [htext] at hfilter
  have hanswer : Yields (answer fs configured present a) (.error (.filterText (.notJson (.tooManyDigits n)))) :=
    hsettings.bind hfilter.bind_error
  exact run_failed hargs rfl rfl hanswer

end Both

/-- **The command and the service compile alike**, as long as they can tell of a filter.  Let the command compile the
filter in a file, and let a request ask a service to compile, which is as strict as the settings of the command.

If both hold one document, null or an object, then the command ends in order.  Both tell the same of the filter if and
only if the reply of the service would hold no halves of pairs, which it does not if the request is paired: they show
the filter with the same queries, or refuse it with one message, where the service tells beforehand that a document is
none.

If both stop at a number of too many digits, the command names the fault, and the service only refuses the body. -/
theorem compiles_alike {fs : Files} {configured : Option String} {present : Time.Instant} {args : List String}
    {a : Arguments} {s : Settings} {path : String} {text : List Char} {api : Api} {sources : Sources}
    {request : Web.Request} (hargs : Arguments.read args = .ok a) (hmode : a.mode = .compile)
    (hfile : given a.filterFile = some path) (hexpression : given a.expression = none)
    (houtput : given a.output = none) (hsettings : Yields (settingsOf fs a configured) (.ok s))
    (hread : fs.read path (plainPath path) = .ok text) (hasks : request.Asks .compile)
    (hstrict : api.service.settings.strictFilters = s.strictFilters) :
    (∀ d, HoldAlike text request d → ∃ outcome, Command.run fs configured present args = .ok outcome ∧
      (ShownAlike (.ofBool s.strictFilters) d outcome (api.handle sources request).1 ↔
        api.showsHalves request (api.respond sources request).1 = false)) ∧
    ∀ n m body, Json.read (String.ofList text) = .error (.tooManyDigits n) → request.body = some body →
      Json.read body = .error (.tooManyDigits m) →
      ∃ logged : List LogLine, Command.run fs configured present args =
          .ok ⟨1, "", logged.map .log ++ [.failure (ReadError.tooManyDigits n).message], []⟩ ∧
        (api.handle sources request).1 = .refusal 400 "There was an error parsing the body" := by
  refine ⟨fun d hd => ?_, fun n m body hstop hbody hposted => ?_⟩
  · obtain ⟨outcome, hrun, halike⟩ :=
      exists_shownAlike hargs hmode hfile hexpression hsettings hread houtput hasks hstrict hd sources present
    refine ⟨outcome, hrun, ?_⟩
    cases hshows : api.showsHalves request (api.respond sources request).1 with
    | false =>
      rw [Api.handle_of_sendable hshows]
      exact iff_of_true (halike hshows) rfl
    | true =>
      rw [Api.handle_of_halves hshows]
      exact iff_of_false nofun (by simp)
  · obtain ⟨logged, hrun⟩ := run_stopped hargs hfile hexpression hsettings hread hstop present
    exact ⟨logged, hrun, api.handle_compile_stopped sources hasks hbody hposted⟩

/-- Arguments for the queries of a filter with an unsupported operator, where filters are strict. -/
def compileArguments : Arguments where
  mode := .compile
  filterFile := some "filter.json"
  strict := true

/-- The same document, posted to be compiled. -/
def unsupportedRequest : Web.Request :=
  ⟨"POST", "/api/filters/compile", some (Json.write (.blanks 2) (.object [("filter", unsupportedFilter.toValue)]))⟩

/-- A service with the settings of the command. -/
def strictApi : Api where
  service := .make ⟨.strict, .memory .empty⟩ (compileArguments.override .defaults) .null
  now := .epoch
  saved := .initial none
  created := 0

/-- Under the strict policy both refuse the operator with one message. -/
theorem compiles_alike_strict : ∃ outcome,
    Command.run strictFiles none .epoch ["--mode", "compile", "--filter-file", "filter.json", "--strict"] = .ok outcome ∧
    outcome.exitCode = 1 ∧
    outcome.notices.getLast? = some (.failure "Unsupported condition operator: '~'") ∧
    (strictApi.handle Api.fixedSources unsupportedRequest).1 = .refusal 422 "Unsupported condition operator: '~'" := by
  have hargs : Arguments.read ["--mode", "compile", "--filter-file", "filter.json", "--strict"] =
      .ok compileArguments := rfl
  have hsettings : Yields (settingsOf strictFiles compileArguments none) (.ok (compileArguments.override .defaults)) :=
    yields_settingsOf (yields_baseSettings_defaults rfl) rfl
  have hread : strictFiles.read "filter.json" (plainPath "filter.json") =
      .ok (Text.plainLines (unsupportedFilter.toText none).toList) := by
    have hpath : plainPath "filter.json" = "filter.json" := by decide +kernel
    rw [Files.read, Files.text?, hpath]
    rfl
  have hd : Json.read (String.ofList (Text.plainLines (unsupportedFilter.toText none).toList)) =
      .ok unsupportedFilter.toValue := by
    rw [Filter.plainLines_toText fun _ => List.not_mem_nil]
    exact read_write Layout.spaced_none unsupportedFilter.expressible_toValue
  have hbody : bodyValue unsupportedRequest.body = .ok (.object [("filter", unsupportedFilter.toValue)]) :=
    bodyValue_write (.single _ unsupportedFilter.expressible_toValue)
  have hasks : unsupportedRequest.Asks .compile := by decide +kernel
  have hrequest : unsupportedRequest.isPaired = true := by decide +kernel
  have htext : isPaired (Text.plainLines (unsupportedFilter.toText none).toList) = true := by decide +kernel
  have hboth : HoldAlike (Text.plainLines (unsupportedFilter.toText none).toList) unsupportedRequest
      unsupportedFilter.toValue := ⟨hd, .inr rfl, ⟨_, hbody, rfl⟩, htext.trans hrequest.symm⟩
  have hrunning : ∃ outcome, Command.run strictFiles none .epoch
        ["--mode", "compile", "--filter-file", "filter.json", "--strict"] = .ok outcome ∧
      (ShownAlike .strict unsupportedFilter.toValue outcome (strictApi.handle Api.fixedSources unsupportedRequest).1 ↔
        strictApi.showsHalves unsupportedRequest (strictApi.respond Api.fixedSources unsupportedRequest).1 = false) :=
    (compiles_alike hargs rfl rfl rfl rfl hsettings hread hasks rfl).1 _ hboth
  obtain ⟨outcome, hrun, hiff⟩ := hrunning
  have hshows : ∀ reply, strictApi.showsHalves unsupportedRequest reply = false := fun reply => by
    rw [Api.showsHalves_compile _ hasks, hrequest, Bool.not_true, Bool.false_and]
  have halike := hiff.mpr (hshows _)
  refine ⟨outcome, hrun, ?_⟩
  have hf : Filter.ofValue unsupportedFilter.toValue = .ok unsupportedFilter := by
    refine Filter.ofValue_toValue fun s hs => ?_
    cases hs
    exact .condition (by decide)
  generalize (strictApi.handle Api.fixedSources unsupportedRequest).1 = reply at halike ⊢
  cases halike with
  | undecodable hd =>
    rw [hf] at hd
    cases hd
  | @refused f u us logged hd _ hu =>
    obtain rfl := Except.ok.inj (hf.symm.trans hd)
    have hunsupported : unsupportedFilter.unsupported = [⟨"~", .condition⟩] := by decide +kernel
    obtain ⟨rfl, -⟩ := List.cons.inj (hunsupported.symm.trans hu)
    have hmessage : Unsupported.message ⟨"~", .condition⟩ = "Unsupported condition operator: '~'" := by decide +kernel
    rw [← hmessage]
    exact ⟨rfl, List.getLast?_concat, rfl⟩
  | @shown f query sql text logged hd hquery _ _ =>
    obtain rfl := Except.ok.inj (hf.symm.trans hd)
    cases hquery

/-! ### Where the two part -/

/-- The switches that compile the filter in a file. -/
def compileSwitches : List String := ["--mode", "compile", "--filter-file", "filter.json"]

/-- The files with the text of a filter. -/
def filterFiles (text : String) : Files where
  texts := [("filter.json", text)]

/-- The request that posts a text to be compiled. -/
def filterRequest (text : String) : Web.Request :=
  ⟨"POST", "/api/filters/compile", some ("\x7b\"filter\":" ++ text ++ "\x7d")⟩

/-- A service with the default settings. -/
def defaultApi : Api where
  service := .make ⟨.permissive, .memory .empty⟩ .defaults .null
  now := .epoch
  saved := .initial none
  created := 0

/-- The document of a filter on a label that is half of a pair. -/
def halvedText : String :=
  "\x7b\"scope\":\x7b\"condition\":\x7b\"label\":\"\\ud800\",\"operator\":\"=\",\"value\":\"x\"\x7d\x7d\x7d"

/-- A number with one digit more than are read. -/
def longDigits : List Char := '1' :: List.replicate Decimal.maxDigits '1'

/-- The document of a filter with a member that is not looked at, which is such a number. -/
def longText : List Char := '\x7b' :: (stringText "x" ++ ':' :: (longDigits ++ ['\x7d']))

theorem value_longText {rest : List Char} (hrest : Ends rest) (fuel : Nat) :
    value (fuel + 3) ('\x7b' :: (stringText "x" ++ ':' :: (longDigits ++ rest))) = .error (.tooManyDigits 4301) := by
  have hdigits : ∀ c ∈ longDigits, c.isDigit = true := fun c hc => by
    rw [longDigits, ← List.replicate_succ] at hc
    rw [List.eq_of_mem_replicate hc]
    decide
  have hlength : longDigits.length = 4301 := by
    rw [longDigits, List.length_cons, List.length_replicate]
    rfl
  have hmax : Decimal.maxDigits < longDigits.length := by
    rw [hlength]
    decide
  have hskip : skipSpace (longDigits ++ rest) = longDigits ++ rest := skipSpace_cons (by decide) _
  refine value_member_stop ?_ "x"
  rw [hskip, ← hlength]
  exact value_tooManyDigits (by decide) hdigits hmax hrest fuel

theorem read_longText : Json.read (String.ofList longText) = .error (.tooManyDigits 4301) := by
  refine read_tooManyDigits (by decide) (by decide) ?_
  have hlength : 1 ≤ (stringText "x" ++ ':' :: (longDigits ++ ['\x7d'])).length := by
    rw [List.length_append, List.length_cons]
    omega
  obtain ⟨k, hk⟩ := Nat.exists_eq_add_of_le' hlength
  rw [hk]
  exact value_longText (Ends.cons (by decide) []) k

theorem read_longRequest : ∃ body, (filterRequest (String.ofList longText)).body = some body ∧
    Json.read body = .error (.tooManyDigits 4301) := by
  refine ⟨_, rfl, ?_⟩
  have hopen : "\x7b\"filter\":" = String.ofList ('\x7b' :: (stringText "filter" ++ [':'])) := by decide +kernel
  have hclose : "\x7d" = String.ofList ['\x7d'] := by decide
  have hbody : "\x7b\"filter\":" ++ String.ofList longText ++ "\x7d" = String.ofList ('\x7b' :: (stringText "filter" ++
      ':' :: ('\x7b' :: (stringText "x" ++ ':' :: (longDigits ++ ['\x7d', '\x7d']))))) := by
    rw [hopen, hclose, ← String.ofList_append, ← String.ofList_append]
    simp [longText]
  rw [hbody]
  refine read_tooManyDigits (by decide) (by decide) ?_
  have hlength : 3 ≤ (stringText "filter" ++
      ':' :: ('\x7b' :: (stringText "x" ++ ':' :: (longDigits ++ ['\x7d', '\x7d'])))).length := by
    rw [List.length_append, List.length_cons, List.length_cons, List.length_append, List.length_cons]
    omega
  obtain ⟨k, hk⟩ := Nat.exists_eq_add_of_le' hlength
  rw [hk]
  refine value_member_stop ?_ "filter"
  rw [skipSpace_cons (by decide)]
  exact value_longText (Ends.cons (by decide) _) k

/-- **The two part** over a label that is half of a pair, which the command shows and the service cannot send; and over
a number of too many digits, which only the command names. -/
theorem compiles_alike_apart :
    (∃ outcome, Command.run (filterFiles halvedText) none .epoch compileSwitches = .ok outcome ∧ outcome.exitCode = 0 ∧
      (defaultApi.handle Api.fixedSources (filterRequest halvedText)).1.status = 500) ∧
    ∃ logged : List LogLine, Command.run (filterFiles (String.ofList longText)) none .epoch compileSwitches =
        .ok ⟨1, "", logged.map .log ++ [.failure (ReadError.tooManyDigits 4301).message], []⟩ ∧
      (defaultApi.handle Api.fixedSources (filterRequest (String.ofList longText))).1 =
        .refusal 400 "There was an error parsing the body" := by
  refine ⟨?_, ?_⟩
  · have hexit : (Command.run (filterFiles halvedText) none .epoch compileSwitches).toOption.map (·.exitCode) =
        some 0 := by decide +kernel
    have hstatus : (defaultApi.handle Api.fixedSources (filterRequest halvedText)).1.status = 500 := by decide +kernel
    cases hrun : Command.run (filterFiles halvedText) none .epoch compileSwitches with
    | error e =>
      rw [hrun] at hexit
      cases hexit
    | ok outcome =>
      rw [hrun] at hexit
      exact ⟨outcome, rfl, Option.some.inj hexit, hstatus⟩
  · have hargs : Arguments.read compileSwitches =
        .ok { mode := .compile, filterFile := some "filter.json" } := rfl
    have hsettings : Yields (settingsOf (filterFiles (String.ofList longText))
        { mode := .compile, filterFile := some "filter.json" } none) (.ok .defaults) :=
      yields_settingsOf (yields_baseSettings_defaults rfl) rfl
    have hplain : '\r' ∉ longText := by
      simp [longText, longDigits, stringText, escapedChar]
    have hread : (filterFiles (String.ofList longText)).read "filter.json" (plainPath "filter.json") = .ok longText := by
      have hpath : plainPath "filter.json" = "filter.json" := by decide +kernel
      rw [Files.read, Files.text?, hpath]
      show Except.ok (Text.plainLines (String.ofList longText).toList) = _
      rw [String.toList_ofList, Text.plainLines_of_not_mem hplain]
    have hasks : (filterRequest (String.ofList longText)).Asks .compile := by
      have hfind : Route.find (Text.upper "POST") "/api/filters/compile".toList = .ok .compile := by decide +kernel
      exact hfind
    obtain ⟨body, hbody, hposted⟩ := read_longRequest
    obtain ⟨logged, hrun⟩ := run_stopped hargs rfl rfl hsettings hread read_longText .epoch
    exact ⟨logged, hrun, defaultApi.handle_compile_stopped Api.fixedSources hasks hbody hposted⟩

end ComplianceHistory
