import Mathlib.Data.List.Forall2
import ComplianceHistory.Filter.Compiled
import ComplianceHistory.Filter.Meaning
import ComplianceHistory.Proofs.Filter.Operators

/-!
# What compiled filters mean

A form of queries is sound for labels if its three ways of building queries (every record, one comparison,
a join) mean what they say.  A filter compiled into a sound form then means what the filter means
(`Filter.compile_means`), whatever its depth and under both policies; and the permissive policy compiles every
filter (`Filter.compile_permissive`).
-/

namespace ComplianceHistory

/-- Whether a label compares with a text as a condition says. -/
def Comparison.holds (c : Comparison) (labels : Entries String) (label value : String) : Bool :=
  match c with
  | .equal => labels.get? label = some value
  | .different => labels.get? label ≠ some value

/-- Truth values under a connective. -/
def Connective.fold : Connective → List Bool → Bool
  | .and, bs => bs.all id
  | .or, bs => bs.any id

/-- The three ways of building queries mean what they say for labels. -/
structure QueryForm.Sound {β : Type} (form : QueryForm β) (labels : Entries String)
    (means : β → Bool → Prop) : Prop where
  everything : means form.everything true
  compare : ∀ c label value, means (form.compare c label value) (c.holds labels label value)
  join : ∀ connective q qs b bs, means q b → List.Forall₂ means qs bs →
    means (form.join connective (q :: qs)) (connective.fold (b :: bs))

/-! ### The meaning by comparisons and connectives -/

theorem Condition.holds_eq (c : Condition) (labels : Entries String) :
    c.holds labels = match Comparison.ofOperator? c.operator with
      | some comparison => comparison.holds labels c.label c.value
      | none => true := by
  unfold Condition.holds Comparison.ofOperator?
  by_cases h1 : c.operator = "="
  · rw [if_pos h1, if_pos h1]
    rfl
  · rw [if_neg h1, if_neg h1]
    by_cases h2 : c.operator = "!="
    · rw [if_pos h2, if_pos h2]
      rfl
    · rw [if_neg h2, if_neg h2]

namespace Scope

theorem allHold_eq (labels : Entries String) (ss : List Scope) :
    allHold labels ss = (ss.map (holds labels)).all id := by
  induction ss with
  | nil => rfl
  | cons s ss ih => rw [allHold, ih]; rfl

theorem anyHolds_eq (labels : Entries String) (ss : List Scope) :
    anyHolds labels ss = (ss.map (holds labels)).any id := by
  induction ss with
  | nil => rfl
  | cons s ss ih => rw [anyHolds, ih]; rfl

theorem holds_query_eq (labels : Entries String) (operator : String) (ss : List Scope) :
    holds labels (.query operator ss) = match Connective.ofOperator? operator with
      | none => true
      | some connective => ss.isEmpty || connective.fold (ss.map (holds labels)) := by
  rw [Connective.ofOperator?_eq, holds, allHold_eq, anyHolds_eq]
  cases ss with
  | nil => simp only [List.isEmpty_nil, if_true, Bool.true_or]; split <;> rfl
  | cons s ss =>
    by_cases h1 : Text.lower operator = "and"
    · simp only [h1, if_true]
      rfl
    · by_cases h2 : Text.lower operator = "or"
      · simp only [h2, if_true]
        rfl
      · simp only [h1, h2, if_false]
        rfl

/-! ### Compiling node by node -/

section Compile

variable {β : Type} {form : QueryForm β} {policy : Policy}

theorem compileUnsupported_query {u : Unsupported} {t : Compiled β}
    (h : compileUnsupported form policy u = .ok t) : t.query = form.everything := by
  cases policy with
  | permissive => cases h; rfl
  | strict => cases h

theorem compileAll_cons {s : Scope} {ss : List Scope} {t : Compiled (List β)}
    (h : compileAll form policy (s :: ss) = .ok t) :
    ∃ a b, s.compile form policy = .ok a ∧ compileAll form policy ss = .ok b ∧
      t = ⟨a.query :: b.query, a.warnings ++ b.warnings⟩ := by
  rw [compileAll] at h
  cases ha : s.compile form policy with
  | error e => rw [ha] at h; cases h
  | ok a =>
    cases hb : compileAll form policy ss with
    | error e => rw [ha, hb] at h; cases h
    | ok b =>
      rw [ha, hb] at h
      exact ⟨a, b, rfl, rfl, (Except.ok.inj h).symm⟩

theorem compile_query_of_some {operator : String} {s : Scope} {ss : List Scope} {connective : Connective}
    {t : Compiled β} (hc : Connective.ofOperator? operator = some connective)
    (h : compile form policy (.query operator (s :: ss)) = .ok t) :
    ∃ qs, compileAll form policy (s :: ss) = .ok qs ∧ t = ⟨form.join connective qs.query, qs.warnings⟩ := by
  rw [compile, hc] at h
  simp only [List.isEmpty_cons, Bool.false_eq_true, if_false] at h
  cases hq : compileAll form policy (s :: ss) with
  | error e => rw [hq] at h; cases h
  | ok qs =>
    rw [hq] at h
    exact ⟨qs, rfl, (Except.ok.inj h).symm⟩

variable {labels : Entries String} {means : β → Bool → Prop}

theorem compileAll_means {ss : List Scope}
    (ih : ∀ s ∈ ss, ∀ t, s.compile form policy = .ok t → means t.query (s.holds labels))
    {t : Compiled (List β)} (h : compileAll form policy ss = .ok t) :
    List.Forall₂ means t.query (ss.map (holds labels)) := by
  induction ss generalizing t with
  | nil => cases h; exact .nil
  | cons s ss ihs =>
    obtain ⟨a, b, ha, hb, rfl⟩ := compileAll_cons h
    exact .cons (ih s List.mem_cons_self a ha)
      (ihs (fun s' hs' => ih s' (List.mem_cons_of_mem _ hs')) hb)

/-- A scope compiled into a sound form means what the scope means. -/
theorem compile_means (hf : form.Sound labels means) (s : Scope) {t : Compiled β}
    (h : s.compile form policy = .ok t) : means t.query (s.holds labels) := by
  induction s using Scope.induct generalizing t with
  | condition c =>
    rw [holds, Condition.holds_eq]
    cases hc : Comparison.ofOperator? c.operator with
    | some comparison =>
      rw [compile, hc] at h
      cases h
      exact hf.compare _ _ _
    | none =>
      rw [compile, hc] at h
      rw [compileUnsupported_query h]
      exact hf.everything
  | query operator ss ih =>
    rw [holds_query_eq]
    cases hc : Connective.ofOperator? operator with
    | none =>
      rw [compile, hc] at h
      rw [compileUnsupported_query h]
      exact hf.everything
    | some connective =>
      cases ss with
      | nil =>
        rw [compile, hc] at h
        cases h
        exact hf.everything
      | cons s ss =>
        obtain ⟨qs, hqs, rfl⟩ := compile_query_of_some hc h
        obtain ⟨a, b, ha, hb, rfl⟩ := compileAll_cons hqs
        exact hf.join _ _ _ _ _ (ih s List.mem_cons_self ha)
          (compileAll_means (fun s' hs' _ => ih s' (List.mem_cons_of_mem _ hs')) hb)
  | empty =>
    cases h
    exact hf.everything

theorem compileAll_permissive (form : QueryForm β) {ss : List Scope}
    (ih : ∀ s ∈ ss, ∃ t, s.compile form .permissive = .ok t) :
    ∃ t, compileAll form .permissive ss = .ok t := by
  induction ss with
  | nil => exact ⟨_, rfl⟩
  | cons s ss ihs =>
    obtain ⟨a, ha⟩ := ih s List.mem_cons_self
    obtain ⟨b, hb⟩ := ihs fun s' hs' => ih s' (List.mem_cons_of_mem _ hs')
    exact ⟨_, by rw [compileAll, ha, hb]⟩

/-- The permissive policy compiles every scope. -/
theorem compile_permissive (form : QueryForm β) (s : Scope) :
    ∃ t, s.compile form .permissive = .ok t := by
  induction s using Scope.induct with
  | condition c =>
    rw [compile]
    split
    · exact ⟨_, rfl⟩
    · exact ⟨_, rfl⟩
  | query operator ss ih =>
    obtain ⟨qs, hqs⟩ := compileAll_permissive form ih
    rw [compile, hqs]
    split
    · exact ⟨_, rfl⟩
    · split
      · exact ⟨_, rfl⟩
      · exact ⟨_, rfl⟩
  | empty => exact ⟨_, rfl⟩

end Compile

end Scope

namespace Filter

variable {β : Type} {form : QueryForm β} {policy : Policy} {labels : Entries String} {means : β → Bool → Prop}

/-- **A filter compiled into a sound form means what the filter means.** -/
theorem compile_means (hf : form.Sound labels means) (f : Filter) {t : Compiled β}
    (h : f.compile form policy = .ok t) : means t.query (f.holds labels) := by
  unfold Filter.compile at h
  unfold Filter.holds
  split at h
  · rename_i hs
    cases h
    rw [hs]
    exact hf.everything
  · rename_i s hs
    rw [hs]
    exact s.compile_means hf h

/-- The permissive policy compiles every filter. -/
theorem compile_permissive (form : QueryForm β) (f : Filter) :
    ∃ t, f.compile form .permissive = .ok t := by
  unfold Filter.compile
  split
  · exact ⟨_, rfl⟩
  · exact Scope.compile_permissive form _

end Filter

end ComplianceHistory
