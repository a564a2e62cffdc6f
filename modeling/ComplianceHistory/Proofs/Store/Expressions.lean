import ComplianceHistory.Proofs.Filter.Expressions
import ComplianceHistory.Proofs.Store.Parity

/-!
# What an expression can be used for

A filter that was read from an expression is fit for whatever comes after the reader (`Filter.Usable`): both forms of
queries, its document, and the questions to both stores.  All of it rests on the scope being well built, so it is
shown for every well-built scope (`Filter.usable_of_wellBuilt`), and then for expressions (`ofExpression_usable`).
-/

namespace ComplianceHistory

open Relational

/-- What can be done with a filter without a fault, a warning or a loss. -/
structure Filter.Usable (f : Filter) : Prop where
  /-- Labels in words, known operators and two scopes or more below every query. -/
  built : ∀ s, f.scope = some s → s.WellBuilt
  /-- The strict policy puts the filter into both forms. -/
  strict : ∃ query clause, f.compile DocumentQuery.form .strict = .ok ⟨query, []⟩ ∧
    f.compile Sql.form .strict = .ok ⟨clause, []⟩
  /-- The document of the filter is read as the filter. -/
  document : Filter.ofValue f.toValue = .ok f
  /-- Whatever a form has for every record, it has no part in the query of a filter with a scope. -/
  everything : f.scope ≠ none → ∀ {β : Type} (form : QueryForm β) (x : β) (policy : Policy),
    f.compile { form with everything := x } policy = f.compile form policy
  /-- The store in memory answers with the records whose labels meet the scope. -/
  memory : ∃ chosen : Record → Bool, (∀ r, chosen r = true ↔ ∀ s, f.scope = some s → s.Met r.labels) ∧
    ∀ policy (m : Memory Record), ∃ q, (Store.mk policy (.memory m)).question (.matching f) = .ok q ∧
      q.warnings = [] ∧ ∀ collection timeout,
        q.answer (.string collection) timeout = .ok ((m.records collection).filter chosen)
  /-- So does the database with the records of a history, which it answers with in their order. -/
  database : ∃ chosen : Record → Bool, (∀ r, chosen r = true ↔ ∀ s, f.scope = some s → s.Met r.labels) ∧
    ∀ policy (h : History), (∀ e ∈ h, e.2.DistinctLabels) →
      ∃ q, (Store.mk policy (.database (tables h))).question (.matching f) = .ok q ∧ q.warnings = [] ∧
        ∀ collection timeout late, timeIsOver timeout = .ok late → q.answer (.string collection) timeout =
          .ok (((numbered h).filter fun e => decide (e.1.1 = collection) && chosen e.1.2).map stored)

namespace Filter

variable {f : Filter} (h : ∀ s, f.scope = some s → s.WellBuilt)
include h

theorem unsupported_of_wellBuilt : f.unsupported = [] := by
  obtain ⟨_ | s⟩ := f
  · rfl
  · exact (h s rfl).faultsIn_nodes []

/-- Labels match the filter exactly if they meet its scope. -/
theorem holds_of_wellBuilt (labels : Entries String) :
    f.holds labels = true ↔ ∀ s, f.scope = some s → s.Met labels := by
  obtain ⟨_ | s⟩ := f
  · exact iff_of_true rfl nofun
  · refine ((h s rfl).holds_iff labels).trans ⟨fun hmet t ht => ?_, fun hmet => hmet s rfl⟩
    cases ht
    exact hmet

theorem compile_everything_of_wellBuilt (hscope : f.scope ≠ none) {β : Type} (form : QueryForm β) (x : β)
    (policy : Policy) : f.compile { form with everything := x } policy = f.compile form policy := by
  obtain ⟨_ | s⟩ := f
  · exact absurd rfl hscope
  · exact (h s rfl).compile_everything form x policy

/-- Every store takes the question for the filter, without a warning. -/
theorem question_of_wellBuilt (policy : Policy) (backend : Backend) :
    ∃ q, (Store.mk policy backend).question (.matching f) = .ok q ∧ q.warnings = [] := by
  obtain ⟨query, hquery⟩ := compile_of_supported DocumentQuery.form (unsupported_of_wellBuilt h)
  obtain ⟨clause, hclause⟩ := compile_of_supported Sql.form (unsupported_of_wellBuilt h)
  cases backend with
  | memory m => exact ⟨_, congrArg (Except.map _) (hquery policy), rfl⟩
  | database db => exact ⟨_, congrArg (Except.map _) (hclause policy), rfl⟩
  | unreachable m => exact ⟨_, congrArg (Except.map _) (hquery policy), rfl⟩

/-- A filter with a well-built scope, or with none, can be used for everything. -/
theorem usable_of_wellBuilt : f.Usable where
  built := h
  strict := by
    obtain ⟨query, hquery⟩ := compile_of_supported DocumentQuery.form (unsupported_of_wellBuilt h)
    obtain ⟨clause, hclause⟩ := compile_of_supported Sql.form (unsupported_of_wellBuilt h)
    exact ⟨query, clause, hquery .strict, hclause .strict⟩
  document := ofValue_toValue fun s hs => (h s hs).labelled
  everything hscope := compile_everything_of_wellBuilt h hscope
  memory := by
    refine ⟨fun r => f.holds r.labels, fun r => holds_of_wellBuilt h r.labels, fun policy m => ?_⟩
    obtain ⟨q, hq, hwarnings⟩ := question_of_wellBuilt h policy (.memory m)
    exact ⟨q, hq, hwarnings, fun collection timeout => Store.memory_answers policy m hq (.string collection) timeout⟩
  database := by
    refine ⟨fun r => f.holds r.labels, fun r => holds_of_wellBuilt h r.labels, fun policy history hlabels => ?_⟩
    obtain ⟨q, hq, hwarnings⟩ := question_of_wellBuilt h policy (.database (tables history))
    obtain ⟨query, hquery, hanswer⟩ := Store.database_answers policy (tables history) hq
    refine ⟨q, hq, hwarnings, fun collection timeout late hlate => ?_⟩
    rw [hanswer, Store.answer_chosen hlabels hquery collection hlate]
    rfl

end Filter

/--
**What is read from an expression can be used for everything.**  The filter has no scope exactly if the expression
has no tokens.  Its scope is well built; both policies compile it into both forms without a warning; its document is
read as the filter; and both stores answer with the records whose labels meet it, where nothing is taken for every
record.
-/
theorem ofExpression_usable {expression : String} {f : Filter} (h : Filter.ofExpression expression = .ok f) :
    (f.scope = none ↔ Token.scan expression = .ok []) ∧ f.Usable := by
  obtain ⟨hnone, hbuilt⟩ := Filter.wellBuilt_of_ofExpression h
  exact ⟨hnone, Filter.usable_of_wellBuilt hbuilt⟩

/-- An expression with a group, and one of blanks only. -/
theorem ofExpression_usable_group :
    (∃ f, Filter.ofExpression "env=prod AND (tier:web Or team != \"a b\")" = .ok f ∧ f.scope ≠ none ∧ f.Usable) ∧
      ∃ f, Filter.ofExpression " \t" = .ok f ∧ f.scope = none ∧ f.Usable := by
  have hgroup : Filter.ofExpression "env=prod AND (tier:web Or team != \"a b\")" = .ok ⟨some (.query "AND"
      [.condition ⟨"env", "=", "prod"⟩,
        .query "OR" [.condition ⟨"tier", "=", "web"⟩, .condition ⟨"team", "!=", "a b"⟩]])⟩ := by cbv
  have hblank : Filter.ofExpression " \t" = .ok ⟨none⟩ := by cbv
  exact ⟨⟨_, hgroup, Option.some_ne_none _, (ofExpression_usable hgroup).2⟩,
    ⟨_, hblank, rfl, (ofExpression_usable hblank).2⟩⟩

end ComplianceHistory
