import ComplianceHistory.DocumentQuery
import ComplianceHistory.Sql.Clause
import ComplianceHistory.Proofs.Filter.Compilation

/-!
# Unknown operators under both policies

`Filter.nodes` lists the nodes of a filter in pre-order, each with the queries above it; what is unknown about a node
is told from the text of its operator alone.  Compiling does not look below a query with an unknown operator, so the
permissive policy warns of the unsupported nodes that have no unsupported query above them (`Scope.warnings_eq`).
The strict policy fails with the first warning of the permissive one and else gives the same query
(`Scope.compile_strict`).  Both policies meet the same first node, because whatever is not looked at stands behind the
query that hides it (`Scope.head?_exposedIn`).
-/

namespace ComplianceHistory

/-- A node of a filter with the queries above it, the nearest one first. -/
structure Node where
  above : List Scope
  scope : Scope

/-- What is unknown about a scope itself: its operator, if it is neither a comparison nor, in any case, a connective. -/
def Scope.unsupported? : Scope → Option Unsupported
  | condition c => if c.operator = "=" ∨ c.operator = "!=" then none else some ⟨c.operator, .condition⟩
  | query operator _ =>
    if Text.lower operator = "and" ∨ Text.lower operator = "or" then none else some ⟨operator, .query⟩
  | empty => none

namespace Node

/-- No query above a node is unsupported. -/
def isExposed (n : Node) : Bool := n.above.all fun s => s.unsupported?.isNone

/-- What is unknown about nodes, in their order. -/
def faultsIn (ns : List Node) : List Unsupported := ns.filterMap fun n => n.scope.unsupported?

/-- What is unknown about nodes that have no unsupported query above them. -/
def exposedIn (ns : List Node) : List Unsupported := faultsIn (ns.filter isExposed)

theorem faultsIn_append (ns ms : List Node) : faultsIn (ns ++ ms) = faultsIn ns ++ faultsIn ms :=
  List.filterMap_append

theorem faultsIn_cons (n : Node) (ns : List Node) :
    faultsIn (n :: ns) = n.scope.unsupported?.toList ++ faultsIn ns := by
  unfold faultsIn
  rw [List.filterMap_cons]
  cases n.scope.unsupported? <;> rfl

/-- What is told of nodes that have no unsupported query above them. -/
def toldIn {γ : Type} (tell : Scope → Option γ) (ns : List Node) : List γ :=
  (ns.filter isExposed).filterMap fun n => tell n.scope

section Told

variable {γ : Type} (tell : Scope → Option γ)

theorem toldIn_append (ns ms : List Node) : toldIn tell (ns ++ ms) = toldIn tell ns ++ toldIn tell ms := by
  rw [toldIn, List.filter_append, List.filterMap_append]
  rfl

theorem toldIn_cons {n : Node} (hn : n.isExposed = true) (ns : List Node) :
    toldIn tell (n :: ns) = (tell n.scope).toList ++ toldIn tell ns := by
  rw [toldIn, List.filter_cons_of_pos hn, List.filterMap_cons]
  cases tell n.scope <;> rfl

theorem toldIn_eq_nil {ns : List Node} (h : ∀ n ∈ ns, n.isExposed = false) : toldIn tell ns = [] := by
  rw [toldIn, List.filter_eq_nil_iff.mpr fun n hn => Bool.eq_false_iff.mp (h n hn)]
  rfl

end Told

theorem exposedIn_append (ns ms : List Node) : exposedIn (ns ++ ms) = exposedIn ns ++ exposedIn ms :=
  toldIn_append Scope.unsupported? ns ms

theorem exposedIn_cons {n : Node} (hn : n.isExposed = true) (ns : List Node) :
    exposedIn (n :: ns) = n.scope.unsupported?.toList ++ exposedIn ns := toldIn_cons Scope.unsupported? hn ns

end Node

namespace Scope

mutual

/-- The nodes of a scope in pre-order. -/
def nodes (above : List Scope) : Scope → List Node
  | condition c => [⟨above, condition c⟩]
  | query operator ss => ⟨above, query operator ss⟩ :: nodesOfAll (query operator ss :: above) ss
  | empty => [⟨above, empty⟩]

/-- The nodes of scopes, one scope after the other. -/
def nodesOfAll (above : List Scope) : List Scope → List Node
  | [] => []
  | s :: ss => nodes above s ++ nodesOfAll above ss

end

end Scope

namespace Filter

/-- The nodes of a filter in pre-order. -/
def nodes (f : Filter) : List Node :=
  match f.scope with
  | none => []
  | some s => s.nodes []

/-- What is unsupported anywhere in a filter, in pre-order. -/
def unsupported (f : Filter) : List Unsupported := Node.faultsIn f.nodes

/-- What is unsupported in a filter and has no unsupported query above it, in pre-order. -/
def exposed (f : Filter) : List Unsupported := Node.exposedIn f.nodes

end Filter

namespace Scope

open Node

/-! ### Single nodes -/

theorem unsupported?_condition (c : Condition) : (condition c).unsupported? =
    match Comparison.ofOperator? c.operator with
    | some _ => none
    | none => some ⟨c.operator, .condition⟩ := by
  unfold unsupported? Comparison.ofOperator?
  by_cases h1 : c.operator = "="
  · simp only [h1, true_or, if_true]
  · by_cases h2 : c.operator = "!="
    · simp [h2]
    · simp only [h1, h2, or_self, if_false]

theorem unsupported?_query (operator : String) (ss : List Scope) : (query operator ss).unsupported? =
    match Connective.ofOperator? operator with
    | some _ => none
    | none => some ⟨operator, .query⟩ := by
  rw [Connective.ofOperator?_eq]
  unfold unsupported?
  by_cases h1 : Text.lower operator = "and"
  · simp only [h1, true_or, if_true]
  · by_cases h2 : Text.lower operator = "or"
    · simp [h2]
    · simp only [h1, h2, or_self, if_false]

theorem nodesOfAll_eq (above ss : List Scope) : nodesOfAll above ss = ss.flatMap (nodes above) := by
  induction ss with
  | nil => rfl
  | cons s ss ih => rw [nodesOfAll, ih, List.flatMap_cons]

/-! ### What is hidden -/

/-- The queries above a scope stand above all its nodes. -/
theorem mem_above {s q : Scope} {above : List Scope} (hq : q ∈ above) : ∀ n ∈ nodes above s, q ∈ n.above := by
  induction s using Scope.induct generalizing above with
  | condition c => simpa [nodes] using hq
  | query operator ss ih =>
    intro n hn
    rw [nodes, nodesOfAll_eq, List.mem_cons, List.mem_flatMap] at hn
    rcases hn with rfl | ⟨s, hs, hn⟩
    · exact hq
    · exact ih s hs (List.mem_cons_of_mem _ hq) n hn
  | empty => simpa [nodes] using hq

/-- Nothing is exposed below an unsupported query. -/
theorem toldIn_nodesOfAll {γ : Type} (tell : Scope → Option γ) {q : Scope} {u : Unsupported}
    (hq : q.unsupported? = some u) {above : List Scope} (hmem : q ∈ above) (ss : List Scope) :
    toldIn tell (nodesOfAll above ss) = [] := by
  refine toldIn_eq_nil tell fun n hn => ?_
  rw [nodesOfAll_eq, List.mem_flatMap] at hn
  obtain ⟨s, -, hn⟩ := hn
  rw [isExposed, List.all_eq_false]
  exact ⟨q, mem_above hmem n hn, by simp [hq]⟩

theorem exposedIn_nodesOfAll {q : Scope} {u : Unsupported} (hq : q.unsupported? = some u) {above : List Scope}
    (hmem : q ∈ above) (ss : List Scope) : exposedIn (nodesOfAll above ss) = [] :=
  toldIn_nodesOfAll unsupported? hq hmem ss

/-- Whether all queries of a list are supported. -/
def Clear (above : List Scope) : Prop := ∀ s ∈ above, s.unsupported? = none

theorem Clear.nil : Clear [] := nofun

theorem Clear.isExposed {above : List Scope} (h : Clear above) (s : Scope) : (Node.mk above s).isExposed = true := by
  rw [Node.isExposed, List.all_eq_true]
  intro q hq
  rw [h q hq]
  rfl

theorem Clear.cons {above : List Scope} (h : Clear above) {s : Scope} (hs : s.unsupported? = none) :
    Clear (s :: above) := by
  intro q hq
  rcases List.mem_cons.mp hq with rfl | hq
  · exact hs
  · exact h q hq

/-- The first unsupported node has no unsupported query above it. -/
theorem head?_exposedIn (s : Scope) : ∀ {above : List Scope}, Clear above →
    (exposedIn (nodes above s)).head? = (faultsIn (nodes above s)).head? := by
  induction s using Scope.induct with
  | condition c =>
    intro above h
    rw [nodes, exposedIn_cons (h.isExposed _), faultsIn_cons]
    rfl
  | query operator ss ih =>
    intro above h
    rw [nodes, exposedIn_cons (h.isExposed _), faultsIn_cons]
    cases hu : (query operator ss).unsupported? with
    | some u => rfl
    | none =>
      have hclear := h.cons hu
      show (exposedIn (nodesOfAll _ ss)).head? = (faultsIn (nodesOfAll _ ss)).head?
      generalize query operator ss :: above = inner at hclear
      clear hu
      induction ss with
      | nil => rfl
      | cons s ss ihss =>
        rw [nodesOfAll, exposedIn_append, faultsIn_append, List.head?_append, List.head?_append,
          ih s List.mem_cons_self hclear, ihss fun t ht => ih t (List.mem_cons_of_mem s ht)]
  | empty =>
    intro above h
    rw [nodes, exposedIn_cons (h.isExposed _), faultsIn_cons]
    rfl

/-! ### The two policies -/

section Policies

variable {β : Type} {form : QueryForm β}

theorem warnings_of_all {above ss : List Scope} {t : Compiled (List β)}
    (ih : ∀ s ∈ ss, ∀ a, s.compile form .permissive = .ok a → a.warnings = exposedIn (nodes above s))
    (h : compileAll form .permissive ss = .ok t) : t.warnings = exposedIn (nodesOfAll above ss) := by
  induction ss generalizing t with
  | nil =>
    cases h
    rfl
  | cons s ss ihs =>
    obtain ⟨a, b, ha, hb, rfl⟩ := compileAll_cons h
    rw [nodesOfAll, exposedIn_append, ← ih s List.mem_cons_self a ha,
      ← ihs (fun s' hs' => ih s' (List.mem_cons_of_mem s hs')) hb]

/-- The warnings of the permissive policy are the unsupported nodes that it meets. -/
theorem warnings_eq (s : Scope) : ∀ {above : List Scope} {t : Compiled β}, Clear above →
    s.compile form .permissive = .ok t → t.warnings = exposedIn (nodes above s) := by
  induction s using Scope.induct with
  | condition c =>
    intro above t h ht
    rw [nodes, exposedIn_cons (h.isExposed _), unsupported?_condition]
    rw [compile] at ht
    cases hc : Comparison.ofOperator? c.operator with
    | some comparison =>
      rw [hc] at ht
      cases ht
      rfl
    | none =>
      rw [hc] at ht
      cases ht
      rfl
  | query operator ss ih =>
    intro above t h ht
    rw [nodes, exposedIn_cons (h.isExposed _)]
    have hu := unsupported?_query operator ss
    cases hc : Connective.ofOperator? operator with
    | none =>
      rw [hc] at hu
      rw [compile, hc] at ht
      cases ht
      rw [exposedIn_nodesOfAll hu List.mem_cons_self, hu]
      rfl
    | some connective =>
      rw [hc] at hu
      have hclear := h.cons hu
      rw [hu]
      show t.warnings = exposedIn (nodesOfAll _ ss)
      cases ss with
      | nil =>
        rw [compile, hc] at ht
        cases ht
        rfl
      | cons s ss =>
        obtain ⟨qs, hqs, rfl⟩ := compile_query_of_some hc ht
        exact warnings_of_all (fun s hs a ha => ih s hs hclear ha) hqs
  | empty =>
    intro above t h ht
    cases ht
    rw [nodes, exposedIn_cons (h.isExposed _)]
    rfl

/-- The outcome under the strict policy, told from what the permissive one gives: its first warning is the failure. -/
def strictly {γ : Type} (t : Compiled γ) : Except Unsupported (Compiled γ) :=
  match t.warnings with
  | [] => .ok t
  | u :: _ => .error u

theorem compileAll_strict {ss : List Scope} {t : Compiled (List β)}
    (ih : ∀ s ∈ ss, ∀ a, s.compile form .permissive = .ok a → s.compile form .strict = strictly a)
    (h : compileAll form .permissive ss = .ok t) : compileAll form .strict ss = strictly t := by
  induction ss generalizing t with
  | nil =>
    cases h
    rfl
  | cons s ss ihs =>
    obtain ⟨⟨q, ws⟩, ⟨qs, more⟩, ha, hb, rfl⟩ := compileAll_cons h
    rw [compileAll, ih s List.mem_cons_self _ ha, ihs (fun s' hs' => ih s' (List.mem_cons_of_mem s hs')) hb]
    cases ws with
    | cons u ws => rfl
    | nil => cases more <;> rfl

/-- The strict policy fails with the first warning of the permissive one, and else gives the same. -/
theorem compile_strict (s : Scope) : ∀ {t : Compiled β}, s.compile form .permissive = .ok t →
    s.compile form .strict = strictly t := by
  induction s using Scope.induct with
  | condition c =>
    intro t ht
    rw [compile] at ht ⊢
    cases hc : Comparison.ofOperator? c.operator with
    | some comparison =>
      rw [hc] at ht
      cases ht
      rfl
    | none =>
      rw [hc] at ht
      cases ht
      rfl
  | query operator ss ih =>
    intro t ht
    cases hc : Connective.ofOperator? operator with
    | none =>
      rw [compile, hc] at ht ⊢
      cases ht
      rfl
    | some connective =>
      cases ss with
      | nil =>
        rw [compile, hc] at ht ⊢
        cases ht
        rfl
      | cons s ss =>
        obtain ⟨⟨qs, ws⟩, hqs, rfl⟩ := compile_query_of_some hc ht
        rw [compile, hc, compileAll_strict ih hqs]
        cases ws <;> rfl
  | empty =>
    intro t ht
    cases ht
    rfl

end Policies

end Scope

namespace Filter

open Node

/-- The first unsupported node of a filter has no unsupported query above it. -/
theorem head?_exposed (f : Filter) : f.exposed.head? = f.unsupported.head? := by
  obtain ⟨_ | s⟩ := f
  · rfl
  · exact Scope.head?_exposedIn s Scope.Clear.nil

/-- Both policies told by the lists of what is unsupported, for any form of queries. -/
theorem compile_cases {β : Type} (form : QueryForm β) (f : Filter) :
    ∃ q, f.compile form .permissive = .ok ⟨q, f.exposed⟩ ∧
      f.compile form .strict = match f.unsupported with
        | [] => .ok ⟨q, []⟩
        | u :: _ => .error u := by
  have hhead := f.head?_exposed
  obtain ⟨_ | s⟩ := f
  · exact ⟨form.everything, rfl, rfl⟩
  obtain ⟨⟨q, ws⟩, ht⟩ := s.compile_permissive form
  obtain rfl : ws = exposed ⟨some s⟩ := Scope.warnings_eq s Scope.Clear.nil ht
  refine ⟨q, ht, (s.compile_strict ht).trans ?_⟩
  unfold Scope.strictly
  cases hu : unsupported ⟨some s⟩ with
  | nil =>
    rw [hu, List.head?_nil, List.head?_eq_none_iff] at hhead
    rw [hhead]
  | cons u us =>
    rw [hu, List.head?_cons, List.head?_eq_some_iff] at hhead
    obtain ⟨ws, hws⟩ := hhead
    rw [hws]

/-- **What the policies make of unknown operators.**  The permissive policy compiles a filter into both forms of
queries, and warns in pre-order of the unsupported nodes that have no unsupported query above them.  Either nothing
in the filter is unsupported, and the strict policy gives the same queries and there is no warning; or the strict
policy fails for both forms with the first node in pre-order that is unsupported, which is also the first warning. -/
theorem policies_agree (f : Filter) : ∃ query clause,
    f.compile DocumentQuery.form .permissive = .ok ⟨query, f.exposed⟩ ∧
    f.compile Sql.form .permissive = .ok ⟨clause, f.exposed⟩ ∧
    ((∀ n ∈ f.nodes, n.scope.unsupported? = none) ∧ f.exposed = [] ∧
        f.compile DocumentQuery.form .strict = .ok ⟨query, []⟩ ∧
        f.compile Sql.form .strict = .ok ⟨clause, []⟩ ∨
      ∃ u, f.unsupported.head? = some u ∧ f.exposed.head? = some u ∧
        f.compile DocumentQuery.form .strict = .error u ∧
        f.compile Sql.form .strict = .error u) := by
  obtain ⟨query, hquery, hstrict⟩ := f.compile_cases DocumentQuery.form
  obtain ⟨clause, hclause, hstrict'⟩ := f.compile_cases Sql.form
  refine ⟨query, clause, hquery, hclause, ?_⟩
  have hhead := f.head?_exposed
  cases hu : f.unsupported with
  | nil =>
    rw [hu] at hhead hstrict hstrict'
    exact .inl ⟨List.filterMap_eq_nil_iff.mp hu, List.head?_eq_none_iff.mp hhead, hstrict, hstrict'⟩
  | cons u us =>
    rw [hu] at hhead hstrict hstrict'
    exact .inr ⟨u, rfl, hhead, hstrict, hstrict'⟩

/-- A condition below an unsupported query is hidden; one behind the query is not. -/
example : exposed ⟨some (.query "Or" [.condition ⟨"a", "=", ""⟩,
      .query "xor" [.condition ⟨"b", "~", ""⟩], .condition ⟨"c", "<", ""⟩])⟩ =
    [⟨"xor", .query⟩, ⟨"<", .condition⟩] := by decide +kernel

end Filter

end ComplianceHistory
