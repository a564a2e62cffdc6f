import ComplianceHistory.Proofs.Filter.Unsupported
import ComplianceHistory.Proofs.Sql.Filters

/-!
# What the text of a clause tells of a filter

The text of a clause tells the shape of a filter: its nodes and their operators, but neither labels nor values nor the
wording of an operator that is unsupported (`Scope.SameShape`).  So no text of a filter gets into a clause; the labels
and values of the conditions are bound to its placeholders, of which there is one for each of them (`texts_are_bound`).
-/

namespace ComplianceHistory

/-! ### Filters of one shape -/

namespace Scope

/-- Scopes that are built alike.  Conditions differ at most in their labels and values, and operators differ only where
both are unsupported. -/
inductive SameShape : Scope → Scope → Prop
  | condition {c d : Condition} (hoperator : c.operator = d.operator ∨
      (condition c).unsupported?.isSome = true ∧ (condition d).unsupported?.isSome = true) :
      SameShape (.condition c) (.condition d)
  | query {operator operator' : String} {ss ts : List Scope} (hoperator : operator = operator' ∨
      (query operator ss).unsupported?.isSome = true ∧ (query operator' ts).unsupported?.isSome = true)
      (hscopes : List.Forall₂ SameShape ss ts) : SameShape (.query operator ss) (.query operator' ts)
  | empty : SameShape .empty .empty

/-- The condition at a scope, if its operator is supported. -/
def comparison? : Scope → Option Condition
  | condition c => if c.operator = "=" ∨ c.operator = "!=" then some c else none
  | _ => none

end Scope

/-- Filters whose scopes are of one shape, or that both have none. -/
def Filter.SameShape (f g : Filter) : Prop := Option.Rel Scope.SameShape f.scope g.scope

/-- The conditions of a filter with supported operators that have no unsupported query above them, in pre-order. -/
def Filter.compared (f : Filter) : List Condition := Node.toldIn Scope.comparison? f.nodes

/-- The label and the value of a condition. -/
def Condition.texts (c : Condition) : List Value := [.string c.label, .string c.value]

namespace Scope

theorem comparison?_condition (c : Condition) : (condition c).comparison? =
    (Comparison.ofOperator? c.operator).map fun _ => c := by
  unfold comparison? Comparison.ofOperator?
  by_cases h1 : c.operator = "="
  · simp [h1]
  · by_cases h2 : c.operator = "!="
    · simp [h2]
    · simp [h1, h2]

theorem comparison_eq_of_same {c d : Condition} (h : c.operator = d.operator ∨
    (condition c).unsupported?.isSome = true ∧ (condition d).unsupported?.isSome = true) :
    Comparison.ofOperator? c.operator = Comparison.ofOperator? d.operator := by
  rcases h with h | ⟨hc, hd⟩
  · rw [h]
  · rw [unsupported?_condition] at hc hd
    cases hc' : Comparison.ofOperator? c.operator <;> cases hd' : Comparison.ofOperator? d.operator <;> simp_all

theorem connective_eq_of_same {operator operator' : String} {ss ts : List Scope} (h : operator = operator' ∨
    (query operator ss).unsupported?.isSome = true ∧ (query operator' ts).unsupported?.isSome = true) :
    Connective.ofOperator? operator = Connective.ofOperator? operator' := by
  rcases h with h | ⟨hs, ht⟩
  · rw [h]
  · rw [unsupported?_query] at hs ht
    cases hs' : Connective.ofOperator? operator <;> cases ht' : Connective.ofOperator? operator' <;> simp_all

end Scope

namespace Sql

open Clause Scope

/-! ### Clauses of one shape -/

/-- Two compilations both fail, or both give results that are related. -/
def Alike {α : Type} (related : α → α → Prop) (r r' : Except Unsupported α) : Prop :=
  (∃ x y, r = .ok x ∧ r' = .ok y ∧ related x y) ∨ ∃ u v, r = .error u ∧ r' = .error v

/-- Compiled queries with one clause. -/
def SameClause (t u : Compiled Query) : Prop := t.query.clause = u.query.clause

section Shape

variable {policy : Policy}

theorem compileUnsupported_alike (u v : Unsupported) :
    Alike SameClause (compileUnsupported form policy u) (compileUnsupported form policy v) := by
  cases policy with
  | permissive => exact .inl ⟨_, _, rfl, rfl, rfl⟩
  | strict => exact .inr ⟨_, _, rfl, rfl⟩

theorem compileAll_alike {ss ts : List Scope}
    (ih : ∀ s ∈ ss, ∀ t, s.SameShape t → Alike SameClause (s.compile form policy) (t.compile form policy))
    (h : List.Forall₂ SameShape ss ts) :
    Alike (fun a b => a.query.map Query.clause = b.query.map Query.clause)
      (compileAll form policy ss) (compileAll form policy ts) := by
  induction h with
  | nil => exact .inl ⟨_, _, rfl, rfl, rfl⟩
  | @cons s t ss ts hst _ ihs =>
    unfold compileAll
    rcases ih s List.mem_cons_self t hst with ⟨a, b, ha, hb, hab⟩ | ⟨u, v, hu, hv⟩
    · rw [ha, hb]
      rcases ihs fun s' hs' => ih s' (List.mem_cons_of_mem s hs') with ⟨as, bs, has, hbs, hrest⟩ | ⟨u, v, hu, hv⟩
      · rw [has, hbs]
        exact .inl ⟨_, _, rfl, rfl, congrArg₂ List.cons hab hrest⟩
      · rw [hu, hv]
        exact .inr ⟨_, _, rfl, rfl⟩
    · rw [hu, hv]
      exact .inr ⟨_, _, rfl, rfl⟩

/-- Scopes of one shape are compiled into one clause, or are both refused. -/
theorem compile_alike (s : Scope) : ∀ t, s.SameShape t →
    Alike SameClause (s.compile form policy) (t.compile form policy) := by
  induction s using Scope.induct with
  | condition c =>
    rintro _ (@⟨_, d, hoperator⟩ | _ | _)
    rw [compile, compile, ← comparison_eq_of_same hoperator]
    cases Comparison.ofOperator? c.operator with
    | none => exact compileUnsupported_alike _ _
    | some comparison => exact .inl ⟨_, _, rfl, rfl, rfl⟩
  | query operator ss ih =>
    intro t h
    cases h with
    | @query _ operator' _ ts hoperator hscopes =>
    rw [compile, compile, ← connective_eq_of_same hoperator]
    cases Connective.ofOperator? operator with
    | none => exact compileUnsupported_alike _ _
    | some connective =>
      cases hscopes with
      | nil => exact .inl ⟨_, _, rfl, rfl, rfl⟩
      | cons hst hrest =>
        simp only [List.isEmpty_cons, Bool.false_eq_true, if_false]
        rcases compileAll_alike ih (.cons hst hrest) with ⟨a, b, ha, hb, hab⟩ | ⟨u, v, hu, hv⟩
        · rw [ha, hb]
          exact .inl ⟨_, _, rfl, rfl, congrArg (Clause.join connective) hab⟩
        · rw [hu, hv]
          exact .inr ⟨_, _, rfl, rfl⟩
  | empty =>
    intro t h
    cases h
    exact .inl ⟨_, _, rfl, rfl, rfl⟩

end Shape

/-- Filters of one shape are compiled into one clause, or are both refused. -/
theorem compileFilter_alike (policy : Policy) {f g : Filter} (h : f.SameShape g) :
    Alike SameClause (f.compile form policy) (g.compile form policy) := by
  obtain ⟨s⟩ := f
  obtain ⟨t⟩ := g
  cases h with
  | some hst => exact Sql.compile_alike _ _ hst
  | none => exact .inl ⟨_, _, rfl, rfl, rfl⟩

/-! ### Placeholders in the text of a clause -/

namespace Clause

theorem count_separator (connective : Connective) : (separator connective).count '?' = 0 := by
  cases connective with
  | and => decide
  | or => decide

theorem count_column {name : List Char} (h : isColumn name = true) : name.count '?' = 0 := by
  have hnames : ∀ column ∈ columnNames, column.toList.count '?' = 0 := by decide
  simpa using hnames _ (List.contains_iff_mem.mp h)

theorem count_renderAll {cs : List Clause} (ih : ∀ c ∈ cs, (render c).count '?' = placeholders c)
    (connective : Connective) : (renderAll (separator connective) cs).count '?' = placeholdersOfAll cs := by
  induction cs with
  | nil => rfl
  | cons c cs ihs =>
    have hc := ih c List.mem_cons_self
    have hcs := ihs fun d hd => ih d (List.mem_cons_of_mem c hd)
    cases cs with
    | nil => simpa [renderAll, placeholdersOfAll] using hc
    | cons d ds =>
      rw [renderAll, List.count_append, List.count_append, hc, count_separator, hcs]
      · rfl
      · exact List.cons_ne_nil d ds

/-- The text of a clause has a question mark for each placeholder, and no other. -/
theorem count_render {c : Clause} (hc : Readable c) : (render c).count '?' = placeholders c := by
  induction c using Clause.induct with
  | constant b => cases b <;> decide
  | column name =>
    cases hc with
    | column h => simp [render, placeholders, count_column h]
  | hasLabel => decide
  | not c ih =>
    cases hc with
    | not h =>
      rw [render, List.count_append, ih h, placeholders]
      exact Nat.zero_add _
  | join connective cs ih =>
    cases hc with
    | join _ _ h =>
      have hall := count_renderAll (fun c hc => ih c hc (h c hc)) connective
      simp [render, placeholders, hall]

end Clause

/-! ### The values of the placeholders -/

section Params

variable {policy : Policy}

theorem params_of_all {above ss : List Scope} {t : Compiled (List Query)}
    (ih : ∀ s ∈ ss, ∀ a, s.compile form policy = .ok a →
      a.query.params = (Node.toldIn comparison? (nodes above s)).flatMap Condition.texts)
    (h : compileAll form policy ss = .ok t) :
    t.query.flatMap Query.params = (Node.toldIn comparison? (nodesOfAll above ss)).flatMap Condition.texts := by
  induction ss generalizing t with
  | nil =>
    cases h
    rfl
  | cons s ss ihs =>
    obtain ⟨a, b, ha, hb, rfl⟩ := compileAll_cons h
    rw [nodesOfAll, Node.toldIn_append, List.flatMap_append, ← ih s List.mem_cons_self a ha,
      ← ihs (fun s' hs' => ih s' (List.mem_cons_of_mem s hs')) hb]
    rfl

/-- The values of a compiled scope are the labels and values of the comparisons in it that are compiled. -/
theorem params_eq (s : Scope) : ∀ {above : List Scope} {t : Compiled Query}, Clear above →
    s.compile form policy = .ok t →
    t.query.params = (Node.toldIn comparison? (nodes above s)).flatMap Condition.texts := by
  induction s using Scope.induct with
  | condition c =>
    intro above t h ht
    rw [nodes, Node.toldIn_cons _ (h.isExposed _), comparison?_condition]
    rw [compile] at ht
    cases hc : Comparison.ofOperator? c.operator with
    | some comparison =>
      rw [hc] at ht
      cases ht
      rfl
    | none =>
      rw [hc] at ht
      rw [compileUnsupported_query ht]
      rfl
  | query operator ss ih =>
    intro above t h ht
    rw [nodes, Node.toldIn_cons _ (h.isExposed _)]
    have hu := unsupported?_query operator ss
    cases hc : Connective.ofOperator? operator with
    | none =>
      rw [hc] at hu
      rw [compile, hc] at ht
      rw [toldIn_nodesOfAll _ hu List.mem_cons_self, compileUnsupported_query ht]
      rfl
    | some connective =>
      rw [hc] at hu
      have hclear := h.cons hu
      cases ss with
      | nil =>
        rw [compile, hc] at ht
        cases ht
        rfl
      | cons s ss =>
        obtain ⟨qs, hqs, rfl⟩ := compile_query_of_some hc ht
        exact params_of_all (fun s hs a ha => ih s hs hclear ha) hqs
  | empty =>
    intro above t h ht
    cases ht
    rw [nodes, Node.toldIn_cons _ (h.isExposed _)]
    rfl

theorem params_filter (f : Filter) {t : Compiled Query} (ht : f.compile form policy = .ok t) :
    t.query.params = f.compared.flatMap Condition.texts := by
  obtain ⟨_ | s⟩ := f
  · cases ht
    rfl
  · exact Sql.params_eq s Clear.nil ht

end Params

/-- A subject without columns and labels. -/
def bareSubject : Subject := ⟨fun _ => none, fun _ _ => false⟩

/-- A compiled filter has as many placeholders, and question marks in its text, as values. -/
theorem count_text (f : Filter) {policy : Policy} {t : Compiled Query} (ht : f.compile form policy = .ok t) :
    t.query.clause.text.toList.count '?' = t.query.params.length := by
  -- that a clause is readable and knows its values is told by its truth for any one subject
  have hbare : bareSubject.Labelled [] := fun name value => by simp [bareSubject, Entries.get?]
  have hmeans := f.compile_means (form_sound hbare) ht
  obtain ⟨texts, hparams, hknows⟩ := hmeans.knows
  have hlength := hknows.length
  rw [List.length_map] at hlength
  rw [text, String.toList_ofList, count_render hmeans.readable, hparams, List.length_map, hlength]

/-- **No text of a filter gets into a clause.**  Filters of one shape, which may differ in every label and value and
in the wording of unsupported operators, are compiled into clauses of one text, or are both refused, which only the
strict policy does.  The text has one question mark for each value that is bound, and the values are the labels and
values of the conditions that are compiled, from left to right. -/
theorem texts_are_bound (policy : Policy) :
    (∀ f g : Filter, f.SameShape g → Alike (fun t u => t.query.clause.text = u.query.clause.text)
      (f.compile form policy) (g.compile form policy)) ∧
    (policy = .permissive → ∀ f : Filter, ∃ t, f.compile form policy = .ok t) ∧
    ∀ (f : Filter) (t : Compiled Query), f.compile form policy = .ok t →
      t.query.clause.text.toList.count '?' = t.query.params.length ∧
      t.query.params = f.compared.flatMap Condition.texts := by
  refine ⟨fun f g h => ?_, ?_, fun f t ht => ⟨count_text f ht, params_filter f ht⟩⟩
  · rcases compileFilter_alike policy h with ⟨t, u, ht, hu, htu⟩ | ⟨u, v, hu, hv⟩
    · exact .inl ⟨t, u, ht, hu, congrArg Clause.text htu⟩
    · exact .inr ⟨u, v, hu, hv⟩
  · rintro rfl f
    exact f.compile_permissive form

/-- Conditions with plain texts, one of them below an unsupported query. -/
def plainFilter : Filter :=
  ⟨some (.query "and" [.condition ⟨"env", "=", "prod"⟩, .query "xor" [.condition ⟨"tier", "!=", "1"⟩],
    .condition ⟨"team", "!=", "a"⟩])⟩

/-- The same shape, with texts that are pieces of clauses. -/
def hostileFilter : Filter :=
  ⟨some (.query "and" [.condition ⟨"?", "=", "' OR 1 = 1 --"⟩, .query "? OR 1 = 1" [.condition ⟨"?)", "!=", ""⟩],
    .condition ⟨"", "!=", "NOT ?"⟩])⟩

theorem texts_are_bound_hostile : ∃ t u, plainFilter.compile form .permissive = .ok t ∧
    hostileFilter.compile form .permissive = .ok u ∧ t.query.clause.text = u.query.clause.text ∧
    u.query.clause.text.toList.count '?' = 4 ∧
    u.query.params = [.string "?", .string "' OR 1 = 1 --", .string "", .string "NOT ?"] := by
  obtain ⟨halike, hall, hvalues⟩ := texts_are_bound .permissive
  have hshape : plainFilter.SameShape hostileFilter :=
    .some (.query (.inl rfl) (.cons (.condition (.inl rfl)) (.cons
      (.query (.inr (by decide +kernel)) (.cons (.condition (.inl rfl)) .nil))
      (.cons (.condition (.inl rfl)) .nil))))
  obtain ⟨t, u, ht, hu, htext⟩ | ⟨_, _, ht, -⟩ := halike _ _ hshape
  · obtain ⟨hcount, hparams⟩ := hvalues _ u hu
    have hcompared : hostileFilter.compared = [⟨"?", "=", "' OR 1 = 1 --"⟩, ⟨"", "!=", "NOT ?"⟩] := by decide +kernel
    rw [hcompared] at hparams
    rw [hparams] at hcount
    exact ⟨t, u, ht, hu, htext, hcount, hparams⟩
  · obtain ⟨_, hok⟩ := hall rfl plainFilter
    rw [hok] at ht
    cases ht

end Sql

end ComplianceHistory
