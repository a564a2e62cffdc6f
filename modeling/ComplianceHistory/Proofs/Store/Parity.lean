import ComplianceHistory.Proofs.Filter.Unsupported
import ComplianceHistory.Proofs.Store.Batches
import ComplianceHistory.Proofs.Store.Documents

/-!
# Agreement of the stores

After the same batches of records, a store in memory and a database hold the same history (`Agrees`): the first
one as the records of each collection, the second one as tables.  A batch keeps that (`Agrees.add`), so a run of
batches does (`Agrees.addAll`), and both stores then answer every question with the same records in the same
order, apart from the identities that the database gives (`stores_agree`).
-/

namespace ComplianceHistory

/-- Whether a record is wanted. -/
def Selection.chooses : Selection → Record → Bool
  | .matching f, r => f.holds r.labels
  | .stream id, r => r.streamId = id

/-- The records of a collection in the order in which they were added. -/
def History.records (h : History) (collection : String) : List Record :=
  (h.filter fun e => e.1 = collection).map Prod.snd

/-- The history of batches. -/
def History.ofBatches (batches : List (String × List Record)) : History :=
  batches.flatMap fun b => b.2.map fun r => (b.1, r)

/-- A record without its identity. -/
def Record.withoutId (r : Record) : Record := { r with id := none }

namespace Store

/-- Adds batches of records to their collections one after the other. -/
def addAll (s : Store) : List (String × List Record) → Except StoreError Store
  | [] => .ok s
  | b :: batches => match s.add b.1 b.2 with
    | .error e => .error e
    | .ok (s, _) => s.addAll batches

/-! ### What batches leave behind -/

/-- A store in memory and a database that hold the records of a history. -/
structure Agrees (m : Memory Record) (db : Relational) (h : History) : Prop where
  records : ∀ collection, m.records collection = h.records collection
  tables : db = Relational.tables h
  distinct : ∀ e ∈ h, e.2.DistinctLabels

theorem agrees_empty : Agrees .empty .empty [] where
  records _ := rfl
  tables := rfl
  distinct _ he := nomatch he

theorem records_add (m : Memory Record) (collection : String) (rs : List Record) (other : String) :
    (m.add collection rs).records other =
      if other = collection then m.records collection ++ rs else m.records other := by
  unfold Memory.add
  by_cases h : other = collection
  · rw [if_pos h, h]
    show (Entries.get? (Entries.put _ _ _) _).getD [] = _
    rw [Entries.get?_put_self]
    rfl
  · rw [if_neg h]
    show (Entries.get? (Entries.put _ _ _) _).getD [] = _
    rw [Entries.get?_put_of_ne _ _ h]
    rfl

theorem records_append (h : History) (collection : String) (rs : List Record) (other : String) :
    History.records (h ++ rs.map fun r => (collection, r)) other =
      if other = collection then h.records collection ++ rs else h.records other := by
  unfold History.records
  rw [List.filter_append, List.map_append, List.filter_map, List.map_map]
  by_cases hother : other = collection
  · rw [if_pos hother, hother]
    simp [Function.comp_def]
  · rw [if_neg hother]
    simp [Function.comp_def, Ne.symm hother]

section Runs

variable {m : Memory Record} {db : Relational} {h : History}

/-- A batch is added to both stores, and they agree on the longer history. -/
theorem Agrees.add (ha : Agrees m db h) (policy : Policy) (collection : String) {rs : List Record}
    (hrs : ∀ r ∈ rs, r.DistinctLabels) : ∃ db' n,
      (Store.mk policy (.memory m)).add collection rs = .ok (⟨policy, .memory (m.add collection rs)⟩, none) ∧
      (Store.mk policy (.database db)).add collection rs = .ok (⟨policy, .database db'⟩, some n) ∧
      Agrees (m.add collection rs) db' (h ++ rs.map fun r => (collection, r)) := by
  have hinsert : db.insertInto collection (rs.map LooseRecord.ofRecord) =
      .ok (Relational.tables (h ++ rs.map fun r => (collection, r)), rs.length) := by
    rw [Relational.insertInto, ha.tables, Relational.insert_tables h collection hrs]
    rfl
  refine ⟨_, rs.length, rfl, ?_, ?_, rfl, ?_⟩
  · unfold Store.add
    simp only [hinsert]
    rfl
  · intro other
    rw [records_add, records_append, ha.records, ha.records]
  · intro e he
    rcases List.mem_append.mp he with he | he
    · exact ha.distinct e he
    · obtain ⟨r, hr, rfl⟩ := List.mem_map.mp he
      exact hrs r hr

/-- Batches are added to both stores, and they agree on the history.  The induction is on the batches. -/
theorem Agrees.addAll (ha : Agrees m db h) (policy : Policy) {batches : List (String × List Record)}
    (hbatches : ∀ b ∈ batches, ∀ r ∈ b.2, r.DistinctLabels) : ∃ m' db',
      (Store.mk policy (.memory m)).addAll batches = .ok ⟨policy, .memory m'⟩ ∧
      (Store.mk policy (.database db)).addAll batches = .ok ⟨policy, .database db'⟩ ∧
      Agrees m' db' (h ++ History.ofBatches batches) := by
  induction batches generalizing m db h with
  | nil =>
    refine ⟨m, db, rfl, rfl, ?_⟩
    rw [History.ofBatches, List.flatMap_nil, List.append_nil]
    exact ha
  | cons b batches ih =>
    obtain ⟨db₁, n, hm₁, hdb₁, ha₁⟩ := ha.add policy b.1 (hbatches b List.mem_cons_self)
    obtain ⟨m', db', hm', hdb', ha'⟩ := ih ha₁ fun b' hb' => hbatches b' (List.mem_cons_of_mem _ hb')
    refine ⟨m', db', ?_, ?_, ?_⟩
    · rw [Store.addAll, hm₁]
      exact hm'
    · rw [Store.addAll, hdb₁]
      exact hdb'
    · rw [History.ofBatches, List.flatMap_cons, ← List.append_assoc]
      exact ha'

end Runs

/-! ### Questions that are taken -/

/-- The question for a stream is always taken. -/
theorem question_stream (s : Store) (stream : String) : ∃ q, s.question (.stream stream) = .ok q := by
  obtain ⟨policy, _ | _ | _⟩ := s <;> exact ⟨_, rfl⟩

section Compiled

variable {β : Type} (form : QueryForm β) {f : Filter} {policy : Policy}

/-- The policies compile a filter in which nothing is unsupported, and the permissive one every filter. -/
theorem exists_compile (h : policy = .permissive ∨ f.unsupported = []) : ∃ t, f.compile form policy = .ok t := by
  obtain ⟨q, hpermissive, hstrict⟩ := f.compile_cases form
  cases policy with
  | permissive => exact ⟨_, hpermissive⟩
  | strict =>
    rcases h with h | h
    · cases h
    · rw [h] at hstrict
      exact ⟨_, hstrict⟩

/-- The strict policy refuses a filter with its first unsupported node. -/
theorem compile_refused {u : Unsupported} {us : List Unsupported} (h : f.unsupported = u :: us) :
    f.compile form .strict = .error u := by
  obtain ⟨q, -, hstrict⟩ := f.compile_cases form
  rw [h] at hstrict
  exact hstrict

end Compiled

/-- The question for a filter is taken under the permissive policy, and if nothing in the filter is unsupported. -/
theorem question_matching (s : Store) {f : Filter} (h : s.policy = .permissive ∨ f.unsupported = []) :
    ∃ q, s.question (.matching f) = .ok q := by
  obtain ⟨t, ht⟩ := exists_compile DocumentQuery.form h
  obtain ⟨u, hu⟩ := exists_compile Sql.form h
  obtain ⟨policy, m | db | m⟩ := s
  · exact ⟨_, congrArg (Except.map _) ht⟩
  · exact ⟨_, congrArg (Except.map _) hu⟩
  · exact ⟨_, congrArg (Except.map _) ht⟩

/-- Under the strict policy the question for a filter fails with its first unsupported node, whatever the store. -/
theorem question_refused (s : Store) {f : Filter} {u : Unsupported} {us : List Unsupported}
    (hpolicy : s.policy = .strict) (h : f.unsupported = u :: us) : s.question (.matching f) = .error u := by
  obtain ⟨policy, m | db | m⟩ := s <;> obtain rfl : policy = .strict := hpolicy
  · exact congrArg (Except.map _) (compile_refused DocumentQuery.form h)
  · exact congrArg (Except.map _) (compile_refused Sql.form h)
  · exact congrArg (Except.map _) (compile_refused DocumentQuery.form h)

/-! ### What the stores answer -/

/-- The store in memory answers with the wanted records of a collection that can be named. -/
theorem memory_answers (policy : Policy) (m : Memory Record) {selection : Selection} {q : Question}
    (hq : (Store.mk policy (.memory m)).question selection = .ok q) (collection timeout : Value) :
    q.answer collection timeout =
      (collectionKey collection).map fun name => (m.records name).filter selection.chooses := by
  cases selection with
  | matching f =>
    have hmap : (f.compile DocumentQuery.form policy).map (fun t => (⟨t.warnings,
        fun collection _ => m.answer t.query collection⟩ : Question)) = .ok q := hq
    cases ht : f.compile DocumentQuery.form policy with
    | error u =>
      rw [ht] at hmap
      cases hmap
    | ok t =>
      rw [ht] at hmap
      cases hmap
      exact m.answer_within (fun r => f.compile_means (DocumentQuery.form_sound r) ht) collection
  | stream id =>
    cases hq
    exact m.answer_within (fun r => DocumentQuery.matches?_ofStream r id) collection

open Relational in
/-- The database with the tables of a history answers with the result of a query that chooses the wanted records. -/
theorem database_answers (policy : Policy) (db : Relational) {selection : Selection} {q : Question}
    (hq : (Store.mk policy (.database db)).question selection = .ok q) :
    ∃ query : Sql.Query, query.Chooses selection.chooses ∧ q.answer = db.answer query := by
  cases selection with
  | matching f =>
    have hmap : (f.compile Sql.form policy).map (fun t => (⟨t.warnings, db.answer t.query⟩ : Question)) =
      .ok q := hq
    cases ht : f.compile Sql.form policy with
    | error u =>
      rw [ht] at hmap
      cases hmap
    | ok t =>
      rw [ht] at hmap
      cases hmap
      exact ⟨t.query, fun hs => f.compile_means (Sql.form_sound hs.labelled) ht, rfl⟩
  | stream id =>
    cases hq
    exact ⟨_, fun hs => Sql.ofStream_means hs.stream id, rfl⟩

/-- The permissive policy takes every question. -/
theorem question_permissive (backend : Backend) (selection : Selection) :
    ∃ q, (Store.mk .permissive backend).question selection = .ok q := by
  cases selection with
  | matching f => exact question_matching _ (.inl rfl)
  | stream id => exact question_stream _ id

/-- The permissive store in memory answers every question with the records that it chooses. -/
theorem memory_answer (m : Memory Record) (selection : Selection) :
    ∃ q, (Store.mk .permissive (.memory m)).question selection = .ok q ∧ ∀ collection timeout,
      q.answer (.string collection) timeout = .ok ((m.records collection).filter selection.chooses) := by
  obtain ⟨q, hq⟩ := question_permissive (.memory m) selection
  exact ⟨q, hq, fun collection => memory_answers .permissive m hq (.string collection)⟩

open Relational in
/-- The tables of a history answer within any time with the records of a collection that a query chooses. -/
theorem answer_chosen {h : History} (hlabels : ∀ e ∈ h, e.2.DistinctLabels) {query : Sql.Query}
    {chosen : Record → Bool} (hquery : query.Chooses chosen) (collection : String) {timeout : Value} {late : Bool}
    (htimeout : timeIsOver timeout = .ok late) : (tables h).answer query (.string collection) timeout =
      .ok (((numbered h).filter fun e => decide (e.1.1 = collection) && chosen e.1.2).map stored) := by
  rw [Relational.answer, htimeout]
  simp only [find_tables hlabels hquery collection]
  rfl

open Relational in
/-- The permissive store with the tables of a history answers every question with the records that it chooses. -/
theorem database_answer {h : History} (hlabels : ∀ e ∈ h, e.2.DistinctLabels) (selection : Selection) :
    ∃ q, (Store.mk .permissive (.database (tables h))).question selection = .ok q ∧ ∀ collection,
      q.answer (.string collection) .null =
        .ok (((numbered h).filter fun e => decide (e.1.1 = collection) && selection.chooses e.1.2).map stored) := by
  obtain ⟨q, hq⟩ := question_permissive (.database (tables h)) selection
  obtain ⟨query, hquery, hanswer⟩ := database_answers .permissive (tables h) hq
  refine ⟨q, hq, fun collection => ?_⟩
  have hlate : timeIsOver .null = .ok false := rfl
  rw [hanswer, answer_chosen hlabels hquery collection hlate]

open Relational in
/-- Without identities, the records that are found under their numbers are those of the collection. -/
theorem withoutId_stored (h : History) (collection : String) (chosen : Record → Bool) :
    (((numbered h).filter fun e => decide (e.1.1 = collection) && chosen e.1.2).map stored).map
      Record.withoutId = ((h.records collection).filter chosen).map Record.withoutId := by
  have hfst : ((numbered h).filter fun e => decide (e.1.1 = collection) && chosen e.1.2).map Prod.fst =
      h.filter fun e => decide (e.1 = collection) && chosen e.2 := by
    conv_rhs => rw [← numberedAfter_map_fst 0 h]
    rw [List.filter_map]
    rfl
  have hright : (h.records collection).filter chosen =
      (h.filter fun e => decide (e.1 = collection) && chosen e.2).map Prod.snd := by
    unfold History.records
    rw [List.filter_map, List.filter_filter]
    congr 2
    funext e
    exact Bool.and_comm _ _
  rw [hright, ← hfst, List.map_map, List.map_map, List.map_map]
  rfl

/-- **The stores agree.**  Let the same batches of records be added to a permissive store in memory and to a
permissive database, both empty at first.  Then both take all batches, both take every question about every
collection, and both answer it with the records that are wanted, in the order in which they were added, apart
from their identities. -/
theorem stores_agree (batches : List (String × List Record))
    (hread : ∀ b ∈ batches, ∀ r ∈ b.2, ∃ v : Value, v.distinct = true ∧ Record.ofValue v = .ok r) :
    ∃ m db, (Store.mk .permissive (.memory .empty)).addAll batches = .ok m ∧
      (Store.mk .permissive (.database .empty)).addAll batches = .ok db ∧
      ∀ selection collection, ∃ qm qdb found found',
        m.question selection = .ok qm ∧ qm.answer (.string collection) .null = .ok found ∧
        db.question selection = .ok qdb ∧ qdb.answer (.string collection) .null = .ok found' ∧
        found = ((History.ofBatches batches).records collection).filter selection.chooses ∧
        found'.map Record.withoutId = found.map Record.withoutId := by
  have hdistinct : ∀ b ∈ batches, ∀ r ∈ b.2, r.DistinctLabels := by
    intro b hb r hr
    obtain ⟨v, hv, hr⟩ := hread b hb r hr
    exact Record.distinctLabels_of_ofValue hv hr
  obtain ⟨m, db, hm, hdb, ha⟩ := agrees_empty.addAll .permissive hdistinct
  rw [List.nil_append] at ha
  refine ⟨_, _, hm, hdb, fun selection collection => ?_⟩
  obtain ⟨qm, hqm, hfound⟩ := memory_answer m selection
  obtain ⟨qdb, hqdb, hfound'⟩ := database_answer ha.distinct selection
  rw [← ha.tables] at hqdb
  refine ⟨qm, qdb, _, _, hqm, hfound collection .null, hqdb, hfound' collection, ?_, ?_⟩
  · rw [ha.records]
  · rw [withoutId_stored, ha.records]

/-- A record as it is given, with its instant as a text. -/
def given (stream : String) (t : Time.Instant) (labels : Value) : Value :=
  .object [("uuid", .string stream), ("ts", .string t.text), ("labels", labels)]

theorem ofValue_given (stream : String) (t : Time.Instant) {v : Value} {labels : Entries String}
    (h : Record.labelsOf stream v = .ok labels) :
    Record.ofValue (given stream t v) = .ok ⟨stream, t, "", "", labels, none⟩ := by
  have hinstant : Time.timestamp (.string t.text) = .ok t := Time.ofText_text t
  have hread := Record.ofFields_of_given [("uuid", .string stream), ("ts", .string t.text), ("labels", v)]
    (.string stream) rfl rfl h hinstant
  rw [given, Record.ofValue, hread]
  rfl

/-- Batches for two collections, with labels given as an object, as a list, and not at all. -/
def givenBatches : List (String × List Record) := [
  ("results", [⟨"web", .epoch, "", "", [("app.tier", "1"), ("env", "prod")], none⟩]),
  ("archive", [⟨"web", .epoch, "", "", [("env", "prod")], none⟩, ⟨"db", .epoch, "", "", [], none⟩]),
  ("results", [⟨"web", .epoch, "", "", [("env", "test")], none⟩])]

theorem stores_agree_given :
    ∃ m db qm qdb found found', (Store.mk .permissive (.memory .empty)).addAll givenBatches = .ok m ∧
      (Store.mk .permissive (.database .empty)).addAll givenBatches = .ok db ∧
      m.question (.matching ⟨some (.condition ⟨"env", "!=", "prod"⟩)⟩) = .ok qm ∧
      qm.answer (.string "results") .null = .ok found ∧
      db.question (.matching ⟨some (.condition ⟨"env", "!=", "prod"⟩)⟩) = .ok qdb ∧
      qdb.answer (.string "results") .null = .ok found' ∧
      found = [⟨"web", .epoch, "", "", [("env", "test")], none⟩] ∧
      found'.map Record.withoutId = found.map Record.withoutId := by
  have hread : ∀ b ∈ givenBatches, ∀ r ∈ b.2, ∃ v : Value, v.distinct = true ∧ Record.ofValue v = .ok r := by
    intro b hb r hr
    simp only [givenBatches, List.mem_cons, List.not_mem_nil, or_false] at hb
    rcases hb with rfl | rfl | rfl
    · obtain rfl := List.mem_singleton.mp hr
      exact ⟨given "web" .epoch (.object [("app.tier", .int 1), ("env", .string "prod")]), by decide,
        ofValue_given _ _ rfl⟩
    · rcases List.mem_pair.mp hr with rfl | rfl
      · exact ⟨given "web" .epoch (.array [.object [("name", .string "env"), ("value", .string "prod")]]),
          by decide, ofValue_given _ _ rfl⟩
      · exact ⟨given "db" .epoch .null, by decide, ofValue_given _ _ rfl⟩
    · obtain rfl := List.mem_singleton.mp hr
      exact ⟨given "web" .epoch (.object [("env", .string "test")]), by decide, ofValue_given _ _ rfl⟩
  obtain ⟨m, db, hm, hdb, hanswers⟩ := stores_agree givenBatches hread
  obtain ⟨qm, qdb, found, found', hqm, hfound, hqdb, hfound', hchosen, hsame⟩ :=
    hanswers (.matching ⟨some (.condition ⟨"env", "!=", "prod"⟩)⟩) "results"
  refine ⟨m, db, qm, qdb, found, found', hm, hdb, hqm, hfound, hqdb, hfound', ?_, hsame⟩
  rw [hchosen]
  decide +kernel

end Store

end ComplianceHistory
