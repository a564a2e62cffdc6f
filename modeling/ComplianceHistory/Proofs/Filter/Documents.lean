import ComplianceHistory.Filter.Document

/-!
# Canonical documents of filters

A canonical document holds nothing that could be left out or said otherwise but the order of its members: the scope or
null, and for each scope the one branch that it has, with all its members.  `Filter.Canonical` says so of a value
without reading or writing it.

Whatever is read as a filter has a label in every condition, and the document of such a filter is canonical and read
back as the same filter.  A canonical document is in turn the document of what it is read as
(`Filter.document_normal_form`).
-/

namespace ComplianceHistory

open Value

/-! ### Members that are given -/

theorem given?_eq_some {fields : Entries Value} {name : String} {v : Value} (h : fields.get? name = some v)
    (hv : isNull v = false) : given? fields name = some ⟨v, h⟩ := by
  unfold given?
  rw [Option.filter_eq_some_iff]
  refine ⟨?_, by simp [hv]⟩
  rw [Option.attach_eq_some_iff]
  exact h

theorem textMember_string {part : FilterPart} {fields : Entries Value} {key s : String}
    (h : fields.get? key = some (.string s)) : textMember part fields key = .ok s := by
  rw [textMember, h]
  rfl

theorem member_eq {fields : Entries Value} {name : String} {v : Value} (h : fields.get? name = some v) :
    member fields name = v := by
  rw [member, h]
  rfl

/-- A member of an object is found whatever the order of the members. -/
theorem get?_of_perm {fields fields' : Entries Value} (h : fields.Perm fields') (hnames : (Keyed.keys fields').Nodup)
    {name : String} {v : Value} (hmem : (name, v) ∈ fields') : fields.get? name = some v :=
  Keyed.get?_of_mem ((h.map Prod.fst).nodup_iff.mpr hnames) (h.mem_iff.mpr hmem)

/-! ### Filters that have documents -/

/-- Every condition has a label. -/
inductive Scope.Labelled : Scope → Prop
  | condition {c : Condition} (h : c.label ≠ "") : Labelled (.condition c)
  | query {operator : String} {scopes : List Scope} (h : ∀ s ∈ scopes, Labelled s) :
      Labelled (.query operator scopes)
  | empty : Labelled .empty

/-- Every condition of a filter has a label. -/
def Filter.Labelled (f : Filter) : Prop := ∀ s, f.scope = some s → s.Labelled

/-! ### Canonical documents -/

/-- The document of a scope with all that it may hold, in any order of its members. -/
inductive Scope.Canonical : Value → Prop
  | condition {members : Entries Value} {label operator value : String} (hlabel : label ≠ "")
      (h : members.Perm [("label", .string label), ("operator", .string operator), ("value", .string value)]) :
      Canonical (.object [("condition", .object members)])
  | query {members : Entries Value} {operator : String} {scopes : List Value}
      (h : members.Perm [("operator", .string operator), ("scopes", .array scopes)])
      (hscopes : ∀ d ∈ scopes, Canonical d) : Canonical (.object [("query", .object members)])
  | empty : Canonical (.object [])

/-- The document of a filter with all that it may hold. -/
inductive Filter.Canonical : Value → Prop
  | everything : Canonical (.object [("scope", .null)])
  | scope {d : Value} (h : Scope.Canonical d) : Canonical (.object [("scope", d)])

/-! ### Reading conditions and scopes -/

/-- What is read as a condition has a label. -/
theorem Condition.label_ne_of_ofValue {v : Value} {c : Condition} (h : Condition.ofValue v = .ok c) :
    c.label ≠ "" := by
  cases v with
  | object fields =>
    rw [Condition.ofValue] at h
    cases hl : textMember .condition fields "label" with
    | error e => rw [hl] at h; cases h
    | ok label =>
      by_cases hempty : label = ""
      · rw [hl, hempty] at h; cases h
      simp only [hl, hempty, if_false, bind, Except.bind, pure] at h
      split at h
      · cases h
      split at h
      · cases h
      cases h
      exact hempty
  | _ => cases h

theorem Condition.ofValue_members {fields : Entries Value} {c : Condition} (hlabel : c.label ≠ "")
    (hl : fields.get? "label" = some (.string c.label)) (ho : fields.get? "operator" = some (.string c.operator))
    (hv : fields.get? "value" = some (.string c.value)) : Condition.ofValue (.object fields) = .ok c := by
  rw [Condition.ofValue, textMember_string hl, textMember_string ho, textMember_string hv]
  simp [hlabel, bind, Except.bind, pure, Except.pure]

namespace Scope

theorem ofValues_cons {v : Value} {vs : List Value} {s : Scope} {ss : List Scope} (hv : ofValue v = .ok s)
    (hvs : ofValues vs = .ok ss) : ofValues (v :: vs) = .ok (s :: ss) := by
  rw [ofValues, hv, hvs]
  rfl

/-- Scopes are read one by one. -/
theorem exists_of_ofValues {vs : List Value} {ss : List Scope} (h : ofValues vs = .ok ss) {s : Scope}
    (hs : s ∈ ss) : ∃ v ∈ vs, ofValue v = .ok s := by
  induction vs generalizing ss with
  | nil =>
    rw [ofValues] at h
    cases h
    cases hs
  | cons v vs ih =>
    rw [ofValues] at h
    cases hv : ofValue v with
    | error e => rw [hv] at h; cases h
    | ok t =>
      cases hvs : ofValues vs with
      | error e => rw [hv, hvs] at h; cases h
      | ok ts =>
        rw [hv, hvs] at h
        cases h
        rcases List.mem_cons.mp hs with rfl | hs
        · exact ⟨v, List.mem_cons_self, hv⟩
        · obtain ⟨w, hw, hread⟩ := ih hvs hs
          exact ⟨w, List.mem_cons_of_mem v hw, hread⟩

/-- A scope is read from its one branch, or is empty. -/
theorem cases_of_ofValue {v : Value} {s : Scope} (h : ofValue v = .ok s) :
    (∃ d c, Condition.ofValue d = .ok c ∧ s = .condition c) ∨
      (∃ operator items ss, ofValues items = .ok ss ∧ s = .query operator ss) ∨ s = .empty := by
  rw [ofValue.eq_def] at h
  split at h
  · split at h
    · cases h
    · rename_i d _ _
      cases hc : Condition.ofValue d.1 with
      | error e => rw [hc] at h; cases h
      | ok c =>
        rw [hc] at h
        exact .inl ⟨d.1, c, hc, (Except.ok.inj h).symm⟩
    · split at h
      · cases h
      · rename_i items _
        split at h
        · cases h
        · rename_i operator _
          cases hss : ofValues items with
          | error e => rw [hss] at h; cases h
          | ok ss =>
            rw [hss] at h
            exact .inr (.inl ⟨operator, items, ss, hss, (Except.ok.inj h).symm⟩)
    · cases h
    · exact .inr (.inr (Except.ok.inj h).symm)
  · cases h

theorem ofValue_empty : ofValue (.object []) = .ok .empty := by
  rw [ofValue.eq_def]
  rfl

theorem ofValue_condition (members : Entries Value) :
    ofValue (.object [("condition", .object members)]) = (Condition.ofValue (.object members)).map .condition := by
  rw [ofValue.eq_def]
  rfl

theorem ofValue_query {fields members : Entries Value} {operator : String} {items : List Value}
    (hcondition : given? fields "condition" = none) (hquery : fields.get? "query" = some (.object members))
    (ho : textMember .query members "operator" = .ok operator) (hs : scopeItems (member members "scopes") = .ok items) :
    ofValue (.object fields) = (ofValues items).map (.query operator) := by
  rw [ofValue.eq_def]
  simp only [hcondition, given?_eq_some hquery rfl]
  split
  · rename_i h
    rw [hs] at h
    cases h
  · rename_i h
    rw [hs] at h
    cases h
    rw [ho]

/-- What is read as a scope has a label in every condition. -/
theorem labelled_of_ofValue (s : Scope) : ∀ {v : Value}, ofValue v = .ok s → s.Labelled := by
  induction s using Scope.induct with
  | condition c =>
    intro v h
    rcases cases_of_ofValue h with ⟨d, c', hc, hs⟩ | ⟨_, _, _, -, hs⟩ | hs <;> cases hs
    exact .condition (Condition.label_ne_of_ofValue hc)
  | query operator ss ih =>
    intro v h
    rcases cases_of_ofValue h with ⟨_, _, -, hs⟩ | ⟨_, items, _, hss, hs⟩ | hs <;> cases hs
    refine .query fun s hs => ?_
    obtain ⟨w, -, hw⟩ := exists_of_ofValues hss hs
    exact ih s hs hw
  | empty => exact fun _ => .empty

/-! ### Writing scopes -/

theorem toValues_eq (ss : List Scope) : toValues ss = ss.map toValue := by
  induction ss with
  | nil => rfl
  | cons s ss ih => rw [toValues, ih, List.map_cons]

/-- The members of a condition, in any order, by their names. -/
theorem get?_of_condition {members : Entries Value} {label operator value : Value}
    (h : members.Perm [("label", label), ("operator", operator), ("value", value)]) :
    members.get? "label" = some label ∧ members.get? "operator" = some operator ∧
      members.get? "value" = some value := by
  have hnames : (Keyed.keys [("label", label), ("operator", operator), ("value", value)]).Nodup := by
    show ["label", "operator", "value"].Nodup
    decide
  exact ⟨get?_of_perm h hnames (by simp), get?_of_perm h hnames (by simp), get?_of_perm h hnames (by simp)⟩

/-- The members of a query, in any order, by their names. -/
theorem get?_of_query {members : Entries Value} {operator scopes : Value}
    (h : members.Perm [("operator", operator), ("scopes", scopes)]) :
    members.get? "operator" = some operator ∧ members.get? "scopes" = some scopes := by
  have hnames : (Keyed.keys [("operator", operator), ("scopes", scopes)]).Nodup := by
    show ["operator", "scopes"].Nodup
    decide
  exact ⟨get?_of_perm h hnames (by simp), get?_of_perm h hnames (by simp)⟩

/-- The document of a scope with labels is canonical. -/
theorem canonical_toValue {s : Scope} (h : s.Labelled) : Canonical s.toValue := by
  induction h with
  | condition hlabel => exact .condition hlabel (.refl _)
  | query _ ih =>
    refine .query (.refl _) fun d hd => ?_
    rw [toValues_eq] at hd
    obtain ⟨s, hs, rfl⟩ := List.mem_map.mp hd
    exact ih s hs
  | empty => exact .empty

theorem isNull_of_canonical {d : Value} (h : Canonical d) : isNull d = false := by
  cases h <;> rfl

/-- The members of a canonical condition are read whatever their order. -/
theorem ofValue_condition_of_perm {members : Entries Value} {c : Condition} (hlabel : c.label ≠ "")
    (h : members.Perm [("label", .string c.label), ("operator", .string c.operator), ("value", .string c.value)]) :
    ofValue (.object [("condition", .object members)]) = .ok (.condition c) := by
  obtain ⟨hl, ho, hv⟩ := get?_of_condition h
  rw [ofValue_condition, Condition.ofValue_members hlabel hl ho hv]
  rfl

/-- The members of a canonical query are read whatever their order. -/
theorem ofValue_query_of_perm {members : Entries Value} {operator : String} {items : List Value}
    (h : members.Perm [("operator", .string operator), ("scopes", .array items)]) :
    ofValue (.object [("query", .object members)]) = (ofValues items).map (.query operator) := by
  obtain ⟨ho, hs⟩ := get?_of_query h
  refine ofValue_query rfl rfl (textMember_string ho) ?_
  rw [member_eq hs]
  rfl

theorem ofValues_toValues {ss : List Scope} (h : ∀ s ∈ ss, ofValue s.toValue = .ok s) :
    ofValues (toValues ss) = .ok ss := by
  induction ss with
  | nil => rw [toValues, ofValues]
  | cons s ss ih =>
    exact ofValues_cons (h s List.mem_cons_self) (ih fun t ht => h t (List.mem_cons_of_mem s ht))

/-- **The document of a scope with labels is read back.** -/
theorem ofValue_toValue {s : Scope} (h : s.Labelled) : ofValue s.toValue = .ok s := by
  induction h with
  | condition hlabel => exact ofValue_condition_of_perm hlabel (.refl _)
  | query _ ih =>
    rw [toValue, ofValue_query_of_perm (.refl _), ofValues_toValues ih]
    rfl
  | empty => exact ofValue_empty

/-! ### Equal documents -/

/-- Objects are equal if every member of one is a member of the other with an equal value. -/
theorem same_object {fs gs : Entries Value} (hlength : fs.length = gs.length)
    (h : ∀ f ∈ fs, ∃ w, gs.get? f.1 = some w ∧ same f.2 w = true) : same (.object fs) (.object gs) = true := by
  rw [same, hlength, BEq.rfl, Bool.true_and]
  clear hlength
  induction fs with
  | nil => rfl
  | cons f fs ih =>
    obtain ⟨w, hw, hsame⟩ := h f List.mem_cons_self
    have hlookup : gs.lookup f.1 = some w := hw
    rw [sameFields, hlookup, ih fun g hg => h g (List.mem_cons_of_mem f hg)]
    simpa using hsame

theorem same_text (s : String) : same (.string s) (.string s) = true := by
  rw [same, BEq.rfl]

theorem same_single {name : String} {v w : Value} (h : same v w = true) :
    same (.object [(name, v)]) (.object [(name, w)]) = true := by
  refine same_object rfl fun f hf => ⟨w, ?_, ?_⟩
  · rw [List.mem_singleton.mp hf, Entries.get?, Keyed.get?_cons, if_pos rfl]
  · rwa [List.mem_singleton.mp hf]

theorem exists_items {items : List Value} (h : ∀ d ∈ items, ∃ s, ofValue d = .ok s ∧ same s.toValue d = true) :
    ∃ ss, ofValues items = .ok ss ∧ sameAll (toValues ss) items = true := by
  induction items with
  | nil => exact ⟨[], by rw [ofValues], rfl⟩
  | cons d items ih =>
    obtain ⟨s, hs, hsame⟩ := h d List.mem_cons_self
    obtain ⟨ss, hss, hall⟩ := ih fun e he => h e (List.mem_cons_of_mem d he)
    refine ⟨s :: ss, ofValues_cons hs hss, ?_⟩
    rw [toValues, sameAll, hsame, hall]
    rfl

/-- A canonical document is read, and is the document of what it is read as. -/
theorem exists_of_canonical {d : Value} (h : Canonical d) :
    ∃ s, ofValue d = .ok s ∧ same s.toValue d = true := by
  induction h with
  | @condition members label operator value hlabel h =>
    refine ⟨.condition ⟨label, operator, value⟩, ofValue_condition_of_perm hlabel h, same_single ?_⟩
    obtain ⟨hl, ho, hv⟩ := get?_of_condition h
    refine same_object h.length_eq.symm fun f hf => ?_
    simp only [List.mem_cons, List.not_mem_nil, or_false] at hf
    rcases hf with rfl | rfl | rfl
    · exact ⟨_, hl, same_text label⟩
    · exact ⟨_, ho, same_text operator⟩
    · exact ⟨_, hv, same_text value⟩
  | @query members operator items h _ ih =>
    obtain ⟨ss, hss, hall⟩ := exists_items ih
    refine ⟨.query operator ss, by rw [ofValue_query_of_perm h, hss]; rfl, same_single ?_⟩
    obtain ⟨ho, hs⟩ := get?_of_query h
    refine same_object h.length_eq.symm fun f hf => ?_
    simp only [List.mem_cons, List.not_mem_nil, or_false] at hf
    rcases hf with rfl | rfl
    · exact ⟨_, ho, same_text operator⟩
    · exact ⟨_, hs, by rw [same, hall]⟩
  | empty => exact ⟨.empty, ofValue_empty, rfl⟩

end Scope

/-! ### Filters -/

namespace Filter

/-- What is read as a filter has a label in every condition. -/
theorem labelled_of_ofValue {d : Value} {f : Filter} (h : ofValue d = .ok f) : f.Labelled := by
  intro s hs
  unfold ofValue at h
  split at h
  · cases h; cases hs
  · split at h
    · cases h; cases hs
    · rename_i v _
      cases hv : Scope.ofValue v.1 with
      | error e => rw [hv] at h; cases h
      | ok t =>
        rw [hv] at h
        cases h
        cases hs
        exact Scope.labelled_of_ofValue _ hv
  · cases h

/-- The document of a filter with labels is canonical. -/
theorem canonical_toValue {f : Filter} (h : f.Labelled) : Canonical f.toValue := by
  obtain ⟨_ | s⟩ := f
  · exact .everything
  · exact .scope (Scope.canonical_toValue (h s rfl))

/-- A scope that is given is read. -/
theorem ofValue_scope {d : Value} (h : isNull d = false) :
    ofValue (.object [("scope", d)]) = (Scope.ofValue d).map fun s => ⟨some s⟩ := by
  have hget : Entries.get? [("scope", d)] "scope" = some d := rfl
  rw [ofValue, given?_eq_some hget h]

/-- The document of a filter with labels is read back. -/
theorem ofValue_toValue {f : Filter} (h : f.Labelled) : ofValue f.toValue = .ok f := by
  obtain ⟨_ | s⟩ := f
  · rfl
  · have hs := h s rfl
    rw [toValue, ofValue_scope (Scope.isNull_of_canonical (Scope.canonical_toValue hs)), Scope.ofValue_toValue hs]
    rfl

/-- A canonical document is read, and is the document of what it is read as. -/
theorem exists_of_canonical {d : Value} (h : Canonical d) : ∃ f, ofValue d = .ok f ∧ same f.toValue d = true := by
  cases h with
  | everything => exact ⟨⟨none⟩, rfl, rfl⟩
  | scope h =>
    obtain ⟨s, hs, hsame⟩ := Scope.exists_of_canonical h
    refine ⟨⟨some s⟩, ?_, Scope.same_single hsame⟩
    rw [ofValue_scope (Scope.isNull_of_canonical h), hs]
    rfl

/-- **The document of a filter is a normal form.**  Whatever a value is read as has a label in every condition, and
its document is canonical and read back as the same filter.  A canonical document is read, and equals the document
of what it is read as.  The document of any filter with labels is read back, so different filters have different
documents: one without a scope and one whose scope is empty among them. -/
theorem document_normal_form :
    (∀ d f, ofValue d = .ok f → f.Labelled ∧ Canonical f.toValue ∧ ofValue f.toValue = .ok f) ∧
    (∀ d, Canonical d → ∃ f, ofValue d = .ok f ∧ same f.toValue d = true) ∧
    (∀ f : Filter, f.Labelled → ofValue f.toValue = .ok f) ∧
    ∀ f g : Filter, f.Labelled → g.Labelled → f.toValue = g.toValue → f = g := by
  refine ⟨fun d f h => ?_, fun d => exists_of_canonical, fun f => ofValue_toValue, fun f g hf hg h => ?_⟩
  · have hlabelled := labelled_of_ofValue h
    exact ⟨hlabelled, canonical_toValue hlabelled, ofValue_toValue hlabelled⟩
  · have hread := ofValue_toValue hf
    rw [h, ofValue_toValue hg] at hread
    exact (Except.ok.inj hread).symm

/-- A document that leaves out and adds what it can: null for a branch, members without a meaning, no operator. -/
def looseDocument : Value := .object [("scope", .object [("condition", .null), ("note", .int 1), ("query", .object [
  ("scopes", .array [.object [], .object [("condition", .object [("label", .string "env")])],
    .object [("query", .object [("operator", .string "or"), ("scopes", .null)])]])])])]

theorem document_normal_form_loose : ∃ f, ofValue looseDocument = .ok f ∧
    f.Labelled ∧ Canonical f.toValue ∧ ofValue f.toValue = .ok f := by
  have hcondition : Scope.ofValue (.object [("condition", .object [("label", .string "env")])]) =
      .ok (.condition ⟨"env", "", ""⟩) := by
    rw [Scope.ofValue_condition]
    rfl
  have hquery : Scope.ofValue (.object [("query", .object [("operator", .string "or"), ("scopes", .null)])]) =
      .ok (.query "or" []) := by
    rw [Scope.ofValue_query rfl rfl rfl rfl, Scope.ofValues]
    rfl
  have hscopes := Scope.ofValues_cons Scope.ofValue_empty
    (Scope.ofValues_cons hcondition (Scope.ofValues_cons hquery Scope.ofValues.eq_1))
  have hread : ofValue looseDocument =
      .ok ⟨some (.query "" [.empty, .condition ⟨"env", "", ""⟩, .query "or" []])⟩ := by
    rw [looseDocument, ofValue_scope rfl, Scope.ofValue_query rfl rfl rfl rfl, hscopes]
    rfl
  exact ⟨_, hread, document_normal_form.1 _ _ hread⟩

end Filter

end ComplianceHistory
