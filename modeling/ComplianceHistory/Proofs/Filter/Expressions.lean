import ComplianceHistory.Filter.Meaning
import ComplianceHistory.Proofs.Filter.Documents
import ComplianceHistory.Proofs.Filter.Grammar
import ComplianceHistory.Proofs.Filter.Scanning
import ComplianceHistory.Proofs.Filter.Unsupported

/-!
# What an expression can be read as

A scope that comes from an expression is well built (`Scope.WellBuilt`): words as labels, operators that have a meaning,
and two scopes or more below every query.  The invariant goes up from the tokens, which are lexemes, through the
derivation of the grammar (`Filter.wellBuilt_of_ofExpression`).

In a well-built scope nothing is left to be taken for every record.  So both policies compile it without a warning
(`Filter.compile_wellBuilt`), into a query in which the form's query for every record has no part
(`Scope.WellBuilt.compile_everything`), and its meaning needs no rule for what has none (`Scope.WellBuilt.holds_iff`).
-/

namespace ComplianceHistory

open Token

namespace Scope

/-- Words as labels, operators as the grammar makes them, and two scopes or more below every query. -/
inductive WellBuilt : Scope → Prop
  | condition {c : Condition} (hlabel : IsWord c.label.toList) (hoperator : c.operator = "=" ∨ c.operator = "!=") :
      WellBuilt (.condition c)
  | query {operator : String} {scopes : List Scope} (hoperator : operator = "AND" ∨ operator = "OR")
      (htwo : 2 ≤ scopes.length) (hscopes : ∀ s ∈ scopes, WellBuilt s) : WellBuilt (.query operator scopes)

/-- What labels meet by the operators alone: whatever has no meaning is met by none. -/
inductive Met (labels : Entries String) : Scope → Prop
  | equal {c : Condition} (hoperator : c.operator = "=") (h : labels.get? c.label = some c.value) :
      Met labels (.condition c)
  | different {c : Condition} (hoperator : c.operator = "!=") (h : labels.get? c.label ≠ some c.value) :
      Met labels (.condition c)
  | all {operator : String} {scopes : List Scope} (hoperator : operator = "AND") (h : ∀ s ∈ scopes, Met labels s) :
      Met labels (.query operator scopes)
  | any {operator : String} {scopes : List Scope} {s : Scope} (hoperator : operator = "OR") (hs : s ∈ scopes)
      (h : Met labels s) : Met labels (.query operator scopes)

theorem WellBuilt.labelled {s : Scope} (h : s.WellBuilt) : s.Labelled := by
  induction h with
  | condition hlabel _ =>
    refine .condition fun hempty => ?_
    rw [hempty] at hlabel
    exact hlabel
  | query _ _ _ ih => exact .query ih

/-! ### Meaning -/

theorem met_and {labels : Entries String} {scopes : List Scope} :
    Met labels (.query "AND" scopes) ↔ ∀ s ∈ scopes, Met labels s := by
  refine ⟨fun h => ?_, .all rfl⟩
  cases h with
  | all _ h => exact h
  | any hoperator => exact absurd hoperator (by decide)

theorem met_or {labels : Entries String} {scopes : List Scope} :
    Met labels (.query "OR" scopes) ↔ ∃ s ∈ scopes, Met labels s := by
  refine ⟨fun h => ?_, fun ⟨s, hs, h⟩ => .any rfl hs h⟩
  cases h with
  | all hoperator => exact absurd hoperator (by decide)
  | any _ hs h => exact ⟨_, hs, h⟩

/-- Labels match a well-built scope exactly if they meet it. -/
theorem WellBuilt.holds_iff {s : Scope} (h : s.WellBuilt) (labels : Entries String) :
    s.holds labels = true ↔ s.Met labels := by
  induction h with
  | @condition c _ hoperator =>
    rw [holds, Condition.holds]
    rcases hoperator with hoperator | hoperator
    · rw [if_pos hoperator, decide_eq_true_eq]
      refine ⟨.equal hoperator, fun h => ?_⟩
      cases h with
      | equal _ h => exact h
      | different hother => exact absurd (hoperator.symm.trans hother) (by decide)
    · have hne : c.operator ≠ "=" := fun he => absurd (he.symm.trans hoperator) (by decide)
      rw [if_neg hne, if_pos hoperator, decide_eq_true_eq]
      refine ⟨.different hoperator, fun h => ?_⟩
      cases h with
      | equal hother => exact absurd hother hne
      | different _ h => exact h
  | @query operator scopes hoperator htwo _ ih =>
    have hne : scopes.isEmpty = false := List.isEmpty_eq_false_iff.mpr (List.ne_nil_of_length_pos (by omega))
    have hand : Text.lower "AND" = "and" := by decide +kernel
    have hor : Text.lower "OR" = "or" := by decide +kernel
    rw [holds, hne, allHold_eq, anyHolds_eq]
    rcases hoperator with rfl | rfl
    · rw [if_neg (by decide), if_pos hand, met_and, List.all_map, List.all_eq_true]
      exact forall₂_congr ih
    · rw [if_neg (by decide), hor, if_neg (by decide), if_pos rfl, met_or, List.any_map, List.any_eq_true]
      exact exists_congr fun s => and_congr_right (ih s)

/-! ### Compilation -/

/-- Nothing in a well-built scope is unsupported. -/
theorem WellBuilt.faultsIn_nodes {s : Scope} (h : s.WellBuilt) (above : List Scope) :
    Node.faultsIn (nodes above s) = [] := by
  induction h generalizing above with
  | @condition c _ hoperator =>
    rw [nodes, Node.faultsIn_cons, unsupported?, if_pos hoperator]
    rfl
  | @query operator scopes hoperator _ _ ih =>
    have hnone : (Scope.query operator scopes).unsupported? = none := by
      rcases hoperator with rfl | rfl
      · rw [unsupported?, if_pos (by decide +kernel)]
      · rw [unsupported?, if_pos (by decide +kernel)]
    have hbelow : ∀ n ∈ nodesOfAll (Scope.query operator scopes :: above) scopes, n.scope.unsupported? = none := by
      intro n hn
      rw [nodesOfAll_eq, List.mem_flatMap] at hn
      obtain ⟨s, hs, hn⟩ := hn
      exact List.filterMap_eq_nil_iff.mp (ih s hs _) n hn
    rw [nodes, Node.faultsIn_cons, hnone]
    exact List.filterMap_eq_nil_iff.mpr hbelow

section Everything

variable {β : Type} (form : QueryForm β) (x : β) (policy : Policy)

theorem compileAll_everything {scopes : List Scope}
    (h : ∀ s ∈ scopes, s.compile { form with everything := x } policy = s.compile form policy) :
    compileAll { form with everything := x } policy scopes = compileAll form policy scopes := by
  induction scopes with
  | nil => rfl
  | cons s scopes ih =>
    rw [compileAll, compileAll, h s List.mem_cons_self, ih fun t ht => h t (List.mem_cons_of_mem s ht)]

/-- The query for every record has no part in what a well-built scope is compiled into. -/
theorem WellBuilt.compile_everything {s : Scope} (h : s.WellBuilt) :
    s.compile { form with everything := x } policy = s.compile form policy := by
  induction h with
  | condition _ hoperator =>
    rw [compile, compile]
    rcases hoperator with hoperator | hoperator <;> rw [hoperator] <;> rfl
  | @query operator scopes hoperator htwo _ ih =>
    have hne : scopes.isEmpty = false := List.isEmpty_eq_false_iff.mpr (List.ne_nil_of_length_pos (by omega))
    rw [compile, compile, hne, compileAll_everything form x policy ih]
    rcases hoperator with rfl | rfl <;> rfl

end Everything

end Scope

/-! ### Derivations -/

namespace Filter

open Scope

theorem Comparator.operator_known (c : Comparator) : c.operator = "=" ∨ c.operator = "!=" := by
  cases c with
  | equal => exact .inl rfl
  | colon => exact .inl rfl
  | notEqual => exact .inr rfl

theorem Factors.scopes_pos (fs : Factors) : 0 < fs.scopes.length := by
  cases fs <;> simp [Factors.scopes]

theorem Alternatives.scopes_pos (e : Alternatives) : 0 < e.scopes.length := by
  cases e <;> simp [Alternatives.scopes]

/-- Tokens as they are scanned. -/
def AreLexemes (ts : List Token) : Prop := ∀ t ∈ ts, Lexeme t.kind t.text

theorem AreLexemes.append {ts us : List Token} (h : AreLexemes (ts ++ us)) : AreLexemes ts ∧ AreLexemes us :=
  List.forall_mem_append.mp h

theorem AreLexemes.tail {t : Token} {ts : List Token} (h : AreLexemes (t :: ts)) : AreLexemes ts :=
  (List.forall_mem_cons.mp h).2

theorem isWord_of_lexeme {t : TokenOf .word} (h : Lexeme t.1.kind t.1.text) : IsWord t.1.text := by
  rw [t.2] at h
  cases h with
  | word hword _ => exact hword

mutual

/-- A term means a well-built scope. -/
theorem Term.wellBuilt (t : Term) (h : AreLexemes t.tokens) : t.scope.WellBuilt := by
  cases t with
  | condition label comparator operand =>
    have hword := isWord_of_lexeme (h label.1 List.mem_cons_self)
    exact .condition (by rwa [String.toList_ofList]) comparator.operator_known
  | group opening e closing => exact (e.wellBuilt h.tail.append.1).2

/-- The terms of a run mean well-built scopes, and so does the run. -/
theorem Factors.wellBuilt (fs : Factors) (h : AreLexemes fs.tokens) :
    (∀ s ∈ fs.scopes, s.WellBuilt) ∧ fs.scope.WellBuilt := by
  cases fs with
  | one t =>
    have ht := t.wellBuilt h
    exact ⟨List.forall_mem_singleton.mpr ht, ht⟩
  | and t keyword fs =>
    have hall := List.forall_mem_cons.mpr ⟨t.wellBuilt h.append.1, (fs.wellBuilt h.append.2.tail).1⟩
    exact ⟨hall, .query (.inl rfl) (Nat.succ_le_succ fs.scopes_pos) hall⟩

/-- The runs of an expression mean well-built scopes, and so does the expression. -/
theorem Alternatives.wellBuilt (e : Alternatives) (h : AreLexemes e.tokens) :
    (∀ s ∈ e.scopes, s.WellBuilt) ∧ e.scope.WellBuilt := by
  cases e with
  | one fs =>
    have hfs := (fs.wellBuilt h).2
    exact ⟨List.forall_mem_singleton.mpr hfs, hfs⟩
  | or fs keyword e =>
    have hall := List.forall_mem_cons.mpr ⟨(fs.wellBuilt h.append.1).2, (e.wellBuilt h.append.2.tail).1⟩
    exact ⟨hall, .query (.inr rfl) (Nat.succ_le_succ e.scopes_pos) hall⟩

end

/-- An expression without tokens is read as the filter without a scope, every other one as a well-built scope. -/
theorem wellBuilt_of_ofExpression {expression : String} {f : Filter} (h : ofExpression expression = .ok f) :
    (f.scope = none ↔ scan expression = .ok []) ∧ ∀ s, f.scope = some s → s.WellBuilt := by
  unfold ofExpression at h
  split at h
  · cases h
  · rename_i ts hts
    rcases exists_of_ofTokens h with ⟨rfl, rfl⟩ | ⟨e, rfl, rfl⟩
    · refine ⟨iff_of_true rfl hts, fun s hs => ?_⟩
      cases hs
    · refine ⟨iff_of_false (Option.some_ne_none _) fun hnone => ?_, fun s hs => ?_⟩
      · have htokens : e.tokens = [] := Except.ok.inj (hts.symm.trans hnone)
        have hread := ofTokens_tokens e
        rw [htokens] at hread
        cases hread
      · cases hs
        exact (e.wellBuilt (lexeme_of_scan hts)).2

/-- A filter in which nothing is unsupported is compiled under both policies, without a warning. -/
theorem compile_of_supported {β : Type} (form : QueryForm β) {f : Filter} (h : f.unsupported = []) :
    ∃ q, ∀ policy, f.compile form policy = .ok ⟨q, []⟩ := by
  obtain ⟨q, hpermissive, hstrict⟩ := f.compile_cases form
  have hexposed : f.exposed = [] := by
    rw [← List.head?_eq_none_iff, f.head?_exposed, h]
    rfl
  rw [h] at hstrict
  rw [hexposed] at hpermissive
  refine ⟨q, fun policy => ?_⟩
  cases policy with
  | permissive => exact hpermissive
  | strict => exact hstrict

end Filter

end ComplianceHistory
