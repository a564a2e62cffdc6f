import ComplianceHistory.Command.Job
import ComplianceHistory.Proofs.Filter.Texts

/-!
# How jobs end

A job ends in the same way whatever was logged before, and only adds to the log (`Yields`).  There is a rule for each
way in which jobs are put together, so that the outcome of a job follows from those of its steps.
-/

namespace ComplianceHistory.Command

variable {α β ε : Type}

/-- A job ends with an outcome whatever was logged before, and only adds to the log. -/
def Yields (job : Job α) (outcome : Except JobError α) : Prop :=
  ∀ lines, ∃ more, job.run lines = (outcome, lines ++ more)

/-- A job has one outcome. -/
theorem Yields.unique {job : Job α} {outcome outcome' : Except JobError α} (h : Yields job outcome)
    (h' : Yields job outcome') : outcome = outcome' := by
  obtain ⟨more, hrun⟩ := h []
  obtain ⟨more', hrun'⟩ := h' []
  exact congrArg Prod.fst (hrun.symm.trans hrun')

/-! ### Single steps -/

theorem yields_pure (x : α) : Yields (pure x) (.ok x) := by
  intro lines
  refine ⟨[], ?_⟩
  rw [List.append_nil]
  rfl

theorem yields_log (more : List LogLine) : Yields (log more) (.ok ()) := fun _ => ⟨more, rfl⟩

section Check

variable {wrap : ε → JobError} {r : Except ε α}

theorem yields_check {x : α} (h : r = .ok x) : Yields (check wrap r) (.ok x) := by
  rw [h]
  exact yields_pure x

theorem yields_check_error {e : ε} (h : r = .error e) : Yields (check wrap r) (.error (wrap e)) := by
  intro lines
  refine ⟨[], ?_⟩
  rw [h, List.append_nil]
  rfl

theorem yields_checked (wrap : ε → JobError) (r : Except ε α) : Yields (check wrap r) (r.mapError wrap) := by
  cases r with
  | error e => exact yields_check_error rfl
  | ok x => exact yields_check rfl

/-- A check that gives a result is passed. -/
theorem eq_ok_of_run_check {x : α} {lines logged : List LogLine} (h : (check wrap r).run lines = (.ok x, logged)) :
    r = .ok x := by
  cases r with
  | error e => cases h
  | ok y =>
    cases h
    rfl

end Check

/-! ### Steps one after the other -/

theorem run_bind (job : Job α) (next : α → Job β) (lines : List LogLine) : (job >>= next).run lines =
    match job.run lines with
    | (.ok x, logged) => (next x).run logged
    | (.error e, logged) => (.error e, logged) := by
  show (match job.run lines with | (r, logged) => (ExceptT.bindCont next r).run logged) = _
  rcases job.run lines with ⟨_ | _, logged⟩ <;> rfl

section Bind

variable {job : Job α} {next : α → Job β}

/-- A job whose first step gives a result goes on with it. -/
theorem Yields.bind {x : α} {outcome : Except JobError β} (hjob : Yields job (.ok x)) (hnext : Yields (next x) outcome) :
    Yields (job >>= next) outcome := by
  intro lines
  obtain ⟨more, hmore⟩ := hjob lines
  obtain ⟨rest, hrest⟩ := hnext (lines ++ more)
  refine ⟨more ++ rest, ?_⟩
  rw [run_bind, hmore, ← List.append_assoc]
  exact hrest

/-- A job whose first step fails fails in the same way. -/
theorem Yields.bind_error {e : JobError} (hjob : Yields job (.error e)) : Yields (job >>= next) (.error e) := by
  intro lines
  obtain ⟨more, hmore⟩ := hjob lines
  refine ⟨more, ?_⟩
  rw [run_bind, hmore]

/-- A result comes from a first step that gave one. -/
theorem exists_of_run_bind {y : β} {lines logged : List LogLine} (h : (job >>= next).run lines = (.ok y, logged)) :
    ∃ x between, job.run lines = (.ok x, between) ∧ (next x).run between = (.ok y, logged) := by
  rw [run_bind] at h
  rcases hrun : job.run lines with ⟨_ | x, between⟩
  · rw [hrun] at h
    cases h
  · rw [hrun] at h
    exact ⟨x, between, rfl, h⟩

end Bind

/-! ### What a job reads -/

section Reads

variable {fs : Files} {a : Arguments} {configured : Option String}

/-- The settings of a job are those of its configuration, or the defaults, with those that arguments replace. -/
theorem yields_settingsOf {base : Settings} (hbase : Yields (baseSettings fs a configured) (.ok base))
    (hcheck : (a.override base).draft.check = .ok ()) :
    Yields (settingsOf fs a configured) (.ok (a.override base)) :=
  hbase.bind ((yields_check hcheck).bind (yields_pure _))

theorem yields_baseSettings_defaults (hpath : SettingsFile.firstPath? [a.config, configured] = none) :
    Yields (baseSettings fs a configured) (.ok .defaults) := by
  unfold baseSettings
  rw [hpath]
  exact yields_pure _

theorem yields_baseSettings_file {path : String} {fields : Entries Value} {base : Settings}
    (hpath : SettingsFile.firstPath? [a.config, configured] = some path)
    (hfields : SettingsFile.fields fs path = .ok fields) (hbase : Settings.ofFields fields = .ok base) :
    Yields (baseSettings fs a configured) (.ok base) := by
  unfold baseSettings
  rw [hpath]
  dsimp only
  rw [hfields]
  exact (yields_log _).bind (yields_check hbase)

/-- The settings of a job have been checked. -/
theorem check_of_settingsOf {s : Settings} (h : Yields (settingsOf fs a configured) (.ok s)) :
    s.draft.check = .ok () := by
  obtain ⟨logged, hrun⟩ := h []
  obtain ⟨base, between, -, hrun⟩ := exists_of_run_bind hrun
  obtain ⟨u, rest, hcheck, hrun⟩ := exists_of_run_bind hrun
  cases hrun
  exact eq_ok_of_run_check hcheck

theorem yields_filterOf_file {path : String} {text : List Char} (hfile : given a.filterFile = some path)
    (hexpression : given a.expression = none) (hread : fs.read path (plainPath path) = .ok text) :
    Yields (filterOf fs a) ((Filter.ofText (String.ofList text)).mapError .filterText) := by
  unfold filterOf
  rw [hfile, hexpression]
  exact (yields_check hread).bind (yields_checked .filterText _)

/-- A filter whose text stands in the named file is the filter of the job. -/
theorem yields_filterOf_text {path : String} {l : Json.Layout} {f : Filter} (hfile : given a.filterFile = some path)
    (hexpression : given a.expression = none) (htext : fs.text? path = some (f.toText l)) (hl : l.Spaced)
    (hbreak : ∀ level, '\r' ∉ l.break level) (hf : f.Labelled) : Yields (filterOf fs a) (.ok f) := by
  have hread : fs.read path (plainPath path) = .ok (Text.plainLines (f.toText l).toList) := by
    rw [Files.read, htext]
  have hfilter := yields_filterOf_file hfile hexpression hread
  rw [Filter.plainLines_toText hbreak, Filter.ofText_toText hl hf] at hfilter
  exact hfilter

theorem yields_filterOf_expression {text : String} {f : Filter} (hfile : given a.filterFile = none)
    (hexpression : given a.expression = some text) (hf : Filter.ofExpression text = .ok f) :
    Yields (filterOf fs a) (.ok f) := by
  unfold filterOf
  rw [hfile, hexpression]
  exact yields_check hf

end Reads

end ComplianceHistory.Command
