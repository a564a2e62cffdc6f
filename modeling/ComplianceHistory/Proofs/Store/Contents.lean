import ComplianceHistory.Proofs.Store.Parity

/-!
# What stores choose from

A store that holds records (`Store.Holds`) answers every question that it takes with the wanted ones of the records
with which it answers when nothing is asked of them, under both policies, from any collection and within any time; and
if it does not answer the one question, it does not answer the other (`Store.Holds.answer`).
-/

namespace ComplianceHistory

/-- The question for every record. -/
def Selection.all : Selection := .matching ⟨none⟩

/-- A store that holds records by their collections: a store in memory, or a database that was empty and to which
batches of records that were read were added. -/
inductive Store.Holds : Store → (String → List Record) → Prop
  | memory (policy : Policy) (m : Memory Record) : Holds ⟨policy, .memory m⟩ m.records
  | database {policy : Policy} {batches : List (String × List Record)} {store : Store}
      (hread : ∀ b ∈ batches, ∀ r ∈ b.2, ∃ v : Value, v.distinct = true ∧ Record.ofValue v = .ok r)
      (hadd : (Store.mk policy (.database .empty)).addAll batches = .ok store) :
      Holds store (History.ofBatches batches).records

namespace Store

/-! ### Answers from all records -/

/-- What is wanted does not depend on the identity of a record. -/
theorem chooses_stored (selection : Selection) (e : (String × Record) × Nat) :
    selection.chooses (stored e) = selection.chooses e.1.2 := by
  cases selection <;> rfl

open Relational in
/-- Of the tables of a history, the wanted records are found among all of a collection, or none is found. -/
theorem answer_tables {h : History} (hlabels : ∀ e ∈ h, e.2.DistinctLabels) {query everything : Sql.Query}
    {selection : Selection} (hquery : query.Chooses selection.chooses)
    (heverything : everything.Chooses Selection.all.chooses) (collection timeout : Value) :
    (tables h).answer query collection timeout =
      ((tables h).answer everything collection timeout).map (List.filter selection.chooses) := by
  have hfind : (tables h).find query collection =
      ((tables h).find everything collection).map (List.filter selection.chooses) := by
    rw [find_within hlabels hquery, find_within hlabels heverything]
    cases bindFrom empty.floats 1 [collection] with
    | error e => rfl
    | ok cells =>
      show Except.ok _ = Except.ok _
      rw [List.filter_map, List.filter_filter]
      refine congrArg Except.ok (congrArg (List.map stored) (List.filter_congr fun e _ => ?_))
      rw [Function.comp_apply, chooses_stored, Bool.and_comm]
      exact congrArg _ (Bool.and_true _).symm
  unfold answer
  cases timeIsOver timeout with
  | error e => rfl
  | ok late =>
    dsimp only
    rw [hfind]
    cases (tables h).find everything collection <;> rfl

/-- The database to which batches of records that were read were added has the tables of their history. -/
theorem eq_tables_of_addAll {policy : Policy} {batches : List (String × List Record)} {store : Store}
    (hread : ∀ b ∈ batches, ∀ r ∈ b.2, ∃ v : Value, v.distinct = true ∧ Record.ofValue v = .ok r)
    (hadd : (Store.mk policy (.database .empty)).addAll batches = .ok store) :
    store = ⟨policy, .database (Relational.tables (History.ofBatches batches))⟩ ∧
      ∀ e ∈ History.ofBatches batches, e.2.DistinctLabels := by
  have hdistinct : ∀ b ∈ batches, ∀ r ∈ b.2, r.DistinctLabels := by
    intro b hb r hr
    obtain ⟨v, hv, hr⟩ := hread b hb r hr
    exact Record.distinctLabels_of_ofValue hv hr
  obtain ⟨m, db, -, hdb, ha⟩ := agrees_empty.addAll policy hdistinct
  rw [hdb] at hadd
  obtain rfl := Except.ok.inj hadd
  rw [List.nil_append] at ha
  exact ⟨by rw [ha.tables], ha.distinct⟩

section Holds

variable {s : Store} {records : String → List Record}

/-- **A store answers with the wanted ones of all records.** -/
theorem Holds.answer (hstore : s.Holds records) {selection : Selection} {q all : Question}
    (hq : s.question selection = .ok q) (hall : s.question .all = .ok all) (collection timeout : Value) :
    q.answer collection timeout = (all.answer collection timeout).map (List.filter selection.chooses) := by
  cases hstore with
  | memory policy m =>
    rw [memory_answers policy m hq, memory_answers policy m hall]
    cases collectionKey collection with
    | error e => rfl
    | ok name =>
      have htrue : (m.records name).filter Selection.all.chooses = m.records name :=
        List.filter_eq_self.mpr fun _ _ => rfl
      show Except.ok _ = Except.ok (List.filter _ ((m.records name).filter _))
      rw [htrue]
  | database hread hadd =>
    obtain ⟨rfl, hlabels⟩ := eq_tables_of_addAll hread hadd
    obtain ⟨query, hquery, hanswer⟩ := database_answers _ _ hq
    obtain ⟨everything, heverything, hanswer'⟩ := database_answers _ _ hall
    rw [hanswer, hanswer']
    exact answer_tables hlabels hquery heverything collection timeout

open Relational in
/-- Without identities, all records are those that the store holds in the collection. -/
theorem Holds.answer_all (hstore : s.Holds records) {all : Question} (hall : s.question .all = .ok all)
    (collection : String) {timeout : Value} {late : Bool} (htimeout : timeIsOver timeout = .ok late) :
    ∃ rs, all.answer (.string collection) timeout = .ok rs ∧
      rs.map Record.withoutId = (records collection).map Record.withoutId := by
  cases hstore with
  | memory policy m =>
    have hself : (m.records collection).filter Selection.all.chooses = m.records collection :=
      List.filter_eq_self.mpr fun _ _ => rfl
    refine ⟨m.records collection, ?_, rfl⟩
    rw [memory_answers policy m hall]
    exact congrArg Except.ok hself
  | @database policy batches _ hread hadd =>
    obtain ⟨rfl, hlabels⟩ := eq_tables_of_addAll hread hadd
    obtain ⟨everything, heverything, hanswer⟩ := database_answers _ _ hall
    have hself : ((History.ofBatches batches).records collection).filter Selection.all.chooses =
        (History.ofBatches batches).records collection := List.filter_eq_self.mpr fun _ _ => rfl
    have hids := withoutId_stored (History.ofBatches batches) collection Selection.all.chooses
    refine ⟨_, ?_, hids.trans (by rw [hself])⟩
    rw [hanswer, answer_chosen hlabels heverything collection htimeout]

end Holds

end Store

end ComplianceHistory
