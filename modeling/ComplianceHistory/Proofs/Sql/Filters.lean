import ComplianceHistory.Proofs.Filter.Compilation
import ComplianceHistory.Proofs.Lists
import ComplianceHistory.Proofs.Sql.Reading
import ComplianceHistory.Store.Relational

/-!
# Filters as relational clauses

A filter becomes a clause that names no column and has one placeholder for each of its texts, in their order.
So the clause is true exactly of the subjects whose labels the filter matches (`form_sound`), and never
unknown.  The same is told by its text alone, read with the precedence of the database language
(`compiled_text_means`).
-/

namespace ComplianceHistory.Sql

open Clause Relational

/-- The subject has exactly these labels. -/
def Subject.Labelled (s : Subject) (labels : Entries String) : Prop :=
  ∀ name value, s.hasLabel name value = decide (labels.get? name = some value)

/-- A clause has a truth value that is known, with cells for its placeholders in front of any others. -/
structure Clause.Knows (s : Subject) (c : Clause) (cells : List Cell) (b : Bool) : Prop where
  length : cells.length = c.placeholders
  truth : ∀ more, c.truth s (cells ++ more) = some b

/-- A query of texts alone that is true or false of a subject, as `b` says. -/
structure Query.Means (s : Subject) (q : Query) (b : Bool) : Prop where
  readable : q.clause.Readable
  knows : ∃ texts : List String, q.params = texts.map .string ∧ q.clause.Knows s (texts.map some) b

/-! ### Values of placeholders -/

theorem bindFrom_texts (floats : Float → String) (place : Nat) (texts : List String) :
    bindFrom floats place (texts.map .string) = .ok (texts.map some) := by
  induction texts generalizing place with
  | nil => rfl
  | cons s texts ih =>
    show (bindFrom floats (place + 1) (texts.map Value.string)).map (some s :: ·) = _
    rw [ih]
    rfl

theorem Query.Means.bound {s : Subject} {q : Query} {b : Bool} (h : q.Means s b) {floats : Float → String}
    {place : Nat} {cells : List Cell} (hcells : bindFrom floats place q.params = .ok cells) :
    q.clause.Knows s cells b := by
  obtain ⟨texts, hparams, hknows⟩ := h.knows
  rw [hparams, bindFrom_texts] at hcells
  cases hcells
  exact hknows

/-! ### The form of relational queries -/

section Form

variable {s : Subject} {labels : Entries String}

theorem Truth.join_some (connective : Connective) (b : Bool) (bs : List Bool) :
    Truth.join connective (some b) (some (connective.fold bs)) = some (connective.fold (b :: bs)) := by
  cases connective with
  | and =>
    show Truth.and (some b) (some (bs.all id)) = some (b && bs.all id)
    cases b <;> cases bs.all id <;> rfl
  | or =>
    show Truth.or (some b) (some (bs.any id)) = some (b || bs.any id)
    cases b <;> cases bs.any id <;> rfl

theorem Truth.unit_eq (connective : Connective) : Truth.unit connective = some (connective.fold []) := by
  cases connective with
  | and => rfl
  | or => rfl

/-- The cells of joined queries stand one behind the other, each query taking its own. -/
theorem join_knows (connective : Connective) {qs : List Query} {bs : List Bool}
    (h : List.Forall₂ (Query.Means s) qs bs) :
    ∃ texts : List String, qs.flatMap Query.params = texts.map .string ∧
      (Clause.join connective (qs.map Query.clause)).Knows s (texts.map some) (connective.fold bs) := by
  induction h with
  | nil => exact ⟨[], rfl, rfl, fun _ => Truth.unit_eq connective⟩
  | @cons q b qs bs hq _ ih =>
    obtain ⟨texts, hparams, hlength, htruth⟩ := hq.knows
    obtain ⟨texts', hparams', hlength', htruth'⟩ := ih
    refine ⟨texts ++ texts', ?_, ?_, fun more => ?_⟩
    · rw [List.flatMap_cons, hparams, hparams', List.map_append]
    · rw [List.map_append, List.length_append, hlength, hlength']
      rfl
    · show truthOfAll s connective (q.clause :: qs.map Query.clause) _ = _
      have hrest := htruth' more
      rw [truth] at hrest
      rw [truthOfAll, List.map_append, List.append_assoc, htruth, ← hlength, List.drop_left, hrest,
        Truth.join_some]

theorem compareLabel_means (hs : s.Labelled labels) (c : Comparison) (label value : String) :
    (compareLabel c label value).Means s (c.holds labels label value) := by
  have hlabel : ∀ more, truth s .hasLabel (some label :: some value :: more) =
      some (decide (labels.get? label = some value)) := fun more => congrArg some (hs label value)
  cases c with
  | equal => exact ⟨.hasLabel, [label, value], rfl, rfl, hlabel⟩
  | different =>
    refine ⟨.not .hasLabel, [label, value], rfl, rfl, fun more => ?_⟩
    show (truth s .hasLabel (some label :: some value :: more)).not = _
    rw [hlabel, Comparison.holds, decide_not]
    rfl

/-- Relational queries are a sound form: they are true of the subjects with matching labels, and otherwise
false. -/
theorem form_sound (hs : s.Labelled labels) : form.Sound labels (Query.Means s) where
  everything := ⟨.constant true, [], rfl, rfl, fun _ => rfl⟩
  compare := compareLabel_means hs
  join connective q qs b bs hq hqs := by
    have hall : List.Forall₂ (Query.Means s) (q :: qs) (b :: bs) := .cons hq hqs
    refine ⟨.join connective (List.cons_ne_nil _ _) fun c hc => ?_, join_knows connective hall⟩
    obtain ⟨q', hq', rfl⟩ := List.mem_map.mp hc
    obtain ⟨b', -, hb'⟩ := exists_of_mem_left hall hq'
    exact hb'.readable

theorem ofStream_means {streamId : String} (hs : s.column? "r.stream_id" = some streamId) (stream : String) :
    (ofStream stream).Means s (decide (streamId = stream)) := by
  refine ⟨.column (by decide), [stream], rfl, rfl, fun more => ?_⟩
  show compares (s.column? "r.stream_id") (some stream) = _
  rw [hs]
  rfl

/-- The condition of a statement about a collection compares the collection first. -/
theorem within_truth {q : Query} {b : Bool} {cells : List Cell} (hq : q.clause.Knows s cells b)
    {collection : String} (hs : s.column? "r.collection" = some collection) (name : String) (v : Value) :
    (q.within v).clause.truth s (some name :: cells) = some (decide (collection = name) && b) := by
  have hcolumn : truth s collectionColumn (some name :: cells) = some (decide (collection = name)) := by
    show compares (s.column? "r.collection") (some name) = _
    rw [hs]
    rfl
  have hclause : truth s q.clause cells = some b := by
    rw [← List.append_nil cells, hq.truth]
  show truthOfAll s .and [collectionColumn, q.clause] (some name :: cells) = _
  rw [truthOfAll, truthOfAll, truthOfAll, hcolumn]
  show Truth.and _ (Truth.and (truth s q.clause cells) (some true)) = _
  rw [hclause]
  cases decide (collection = name) <;> cases b <;> rfl

/-- A statement about a collection is true of what it is asked of under that name, whatever the cell of the name. -/
theorem within_true_iff {q : Query} {b : Bool} {cells : List Cell} (hq : q.clause.Knows s cells b)
    {collection : String} (hs : s.column? "r.collection" = some collection) (cell : Cell) (v : Value) :
    (q.within v).clause.truth s (cell :: cells) = some true ↔ (decide (some collection = cell) && b) = true := by
  cases cell with
  | some name =>
    rw [within_truth hq hs name v, Option.some.injEq]
    simp only [Option.some.injEq]
  | none =>
    -- a comparison with null is unknown, so the whole condition is never true
    have hcolumn : truth s collectionColumn (none :: cells) = none := by
      show compares (s.column? "r.collection") none = _
      rw [hs]
      rfl
    have hfalse : Truth.and none (Truth.and (truth s q.clause cells) (some true)) ≠ some true := by
      rcases truth s q.clause cells with _ | _ | _ <;> decide
    have hjoin : (q.within v).clause.truth s (none :: cells) =
        Truth.and none (Truth.and (truth s q.clause cells) (some true)) := by
      show truthOfAll s .and [collectionColumn, q.clause] (none :: cells) = _
      rw [truthOfAll, truthOfAll, truthOfAll, hcolumn]
      rfl
    rw [hjoin]
    refine iff_of_false hfalse fun h => ?_
    rw [decide_eq_false (Option.some_ne_none collection), Bool.false_and] at h
    cases h

end Form

/-! ### The text of a compiled filter -/

/-- A text reads as a clause with one placeholder for each of the cells, whose truth is `b`. -/
def ReadsAs (text : String) (cells : List Cell) (s : Subject) (b : Bool) : Prop :=
  ∃ c, ofText? text = some c ∧ c.placeholders = cells.length ∧ c.truth s cells = some b

theorem Query.Means.text {s : Subject} {q : Query} {b : Bool} (h : q.Means s b) {floats : Float → String}
    {cells : List Cell} (hcells : bindFrom floats 1 q.params = .ok cells) : ReadsAs q.clause.text cells s b := by
  have hknows := h.bound hcells
  refine ⟨plain q.clause, ofText?_text h.readable, ?_, ?_⟩
  · rw [placeholders_plain, hknows.length]
  · rw [truth_plain, ← List.append_nil cells, hknows.truth]

theorem Query.Means.conditionText {s : Subject} {q : Query} {b : Bool} (h : q.Means s b) {floats : Float → String}
    {cells : List Cell} (hcells : bindFrom floats 1 q.params = .ok cells) {collection : String}
    (hs : s.column? "r.collection" = some collection) (name : String) :
    ReadsAs (conditionText q.clause) (some name :: cells) s (decide (collection = name) && b) := by
  have hknows := h.bound hcells
  refine ⟨_, ofText?_conditionText h.readable, ?_, ?_⟩
  · show 1 + (placeholders (plain q.clause) + 0) = cells.length + 1
    rw [placeholders_plain, hknows.length]
    omega
  · rw [← within_truth hknows hs name (.string name)]
    show truthOfAll s .and [collectionColumn, plain q.clause] _ =
      truthOfAll s .and [collectionColumn, q.clause] _
    simp only [truthOfAll, truth_plain]

/-- **Filters as texts of clauses.**  The permissive policy compiles every filter.  When a filter compiles, its
values can be bound; and for every subject, the text of the clause with these values in the order of its
placeholders is true or false as the filter matches the labels of the subject, by itself and where it stands
behind the comparison of the collection. -/
theorem compiled_text_means (floats : Float → String) (policy : Policy) (f : Filter) :
    (policy = .permissive → ∃ t, f.compile form policy = .ok t) ∧
    ∀ t, f.compile form policy = .ok t → ∃ cells, bindFrom floats 1 t.query.params = .ok cells ∧
      ∀ (s : Subject) (labels : Entries String), s.Labelled labels →
        ReadsAs t.query.clause.text cells s (f.holds labels) ∧
        ∀ collection, s.column? "r.collection" = some collection → ∀ name,
          ReadsAs (conditionText t.query.clause) (some name :: cells) s
            (decide (collection = name) && f.holds labels) := by
  refine ⟨?_, fun t ht => ?_⟩
  · rintro rfl
    exact f.compile_permissive form
  · have hmeans : ∀ {s : Subject} {labels : Entries String}, s.Labelled labels →
        t.query.Means s (f.holds labels) := fun hs => f.compile_means (form_sound hs) ht
    -- the values can be bound, whichever subject is asked for
    have hunlabelled : Subject.Labelled ⟨fun _ => none, fun n v => Entries.get? [] n = some v⟩ [] :=
      fun _ _ => rfl
    obtain ⟨texts, hparams, -⟩ := (hmeans hunlabelled).knows
    have hcells : bindFrom floats 1 t.query.params = .ok (texts.map some) := by rw [hparams, bindFrom_texts]
    exact ⟨_, hcells, fun s labels hs => ⟨(hmeans hs).text hcells,
      fun collection hc name => (hmeans hs).conditionText hcells hc name⟩⟩

/-- The labels of a record in the collection `results`. -/
def exampleLabels : Entries String := [("tier", "1"), ("env", "prod")]

/-- The record as a subject. -/
def exampleSubject : Subject where
  column? name := if name = "r.collection" then some "results" else none
  hasLabel name value := exampleLabels.get? name = some value

/-- A filter of nested joins, with a negation and with an operator that is unknown. -/
def exampleFilter : Filter :=
  ⟨some (.query "or" [
    .query "And" [.condition ⟨"tier", "=", "2"⟩, .condition ⟨"x", "~", "y"⟩],
    .query "AND" [.condition ⟨"env", "!=", "test"⟩]])⟩

theorem compiled_text_means_nested :
    ∃ t cells, exampleFilter.compile form .permissive = .ok t ∧
      bindFrom (Decimal.floatText .column) 1 t.query.params = .ok cells ∧
      ReadsAs t.query.clause.text cells exampleSubject true ∧
      ReadsAs (conditionText t.query.clause) (some "other" :: cells) exampleSubject false := by
  obtain ⟨hcompiles, hmeans⟩ := compiled_text_means (Decimal.floatText .column) .permissive exampleFilter
  obtain ⟨t, ht⟩ := hcompiles rfl
  obtain ⟨cells, hcells, h⟩ := hmeans t ht
  have hs : exampleSubject.Labelled exampleLabels := fun _ _ => rfl
  have hholds : exampleFilter.holds exampleLabels = true := by decide +kernel
  obtain ⟨htext, hcondition⟩ := h exampleSubject exampleLabels hs
  rw [hholds] at htext hcondition
  exact ⟨t, cells, ht, hcells, htext, hcondition "results" rfl "other"⟩

end ComplianceHistory.Sql
