import ComplianceHistory.Proofs.Store.Batches

/-!
# Transactions

A batch is inserted statement by statement, in a transaction: a statement that fails ends the batch and leaves behind
what the statements before it did, in the middle of a record perhaps.  Only a connection can see that (`Connection`):
what was committed stays as it was (`Connection.run_committed`), and a rollback or a close without a commit brings it
back.  So the statements of a batch have the outcome of the batch as a whole (`transact_eq_insert`), and either all
records of the batch are there afterwards or the database is the one from before (`Sound.transact_whole`).
-/

namespace ComplianceHistory.Relational

open Sql

/-- A statement, which gives the state after it or fails. -/
abbrev Statement := Relational → Except RelationalError Relational

/-- A connection in a transaction: what was committed, and what the connection sees. -/
structure Connection where
  committed : Relational
  working : Relational

namespace Connection

/-- A new connection sees what was committed. -/
def opened (db : Relational) : Connection := ⟨db, db⟩

/-- Runs statements up to the first that fails; what was done before it stays in the transaction. -/
def run (c : Connection) : List Statement → Connection × Option RelationalError
  | [] => (c, none)
  | s :: ss => match s c.working with
    | .error e => (c, some e)
    | .ok db => run { c with working := db } ss

def commit (c : Connection) : Connection := { c with committed := c.working }

def rollback (c : Connection) : Connection := { c with working := c.committed }

/-- A connection that is closed leaves what was committed. -/
def close (c : Connection) : Relational := c.committed

/-- No statement touches what was committed. -/
theorem run_committed (c : Connection) (ss : List Statement) : (c.run ss).1.committed = c.committed := by
  induction ss generalizing c with
  | nil => rfl
  | cons s ss ih =>
    rw [run]
    split
    · rfl
    · exact ih _

/-- Statements that all succeed leave what comes of them one after the other. -/
theorem run_of_ok {c : Connection} {ss : List Statement} {db : Relational}
    (h : ss.foldlM (fun db s => s db) c.working = .ok db) : c.run ss = (⟨c.committed, db⟩, none) := by
  induction ss generalizing c with
  | nil =>
    cases h
    rfl
  | cons s ss ih =>
    rw [List.foldlM_cons, bind_eq_ok] at h
    obtain ⟨db₁, hs, hss⟩ := h
    rw [run, hs]
    exact ih (c := ⟨c.committed, db₁⟩) hss

/-- Statements one of which fails give its failure. -/
theorem run_of_error {c : Connection} {ss : List Statement} {e : RelationalError}
    (h : ss.foldlM (fun db s => s db) c.working = .error e) : (c.run ss).2 = some e := by
  induction ss generalizing c with
  | nil => cases h
  | cons s ss ih =>
    rw [run]
    rw [List.foldlM_cons] at h
    cases hs : s c.working with
    | error e' =>
      rw [hs] at h
      cases h
      rfl
    | ok db =>
      rw [hs] at h
      exact ih (c := ⟨c.committed, db⟩) h

end Connection

/-- The statements that add a record: its row, and then each of its labels.  Labels that are no mapping end the batch
when the row is already there. -/
def statementsOf (collection : String) (r : LooseRecord) : List Statement :=
  addRow collection r :: match r.labels with
    | .mapping labels => labels.map fun label db => addLabel db.lastId db label
    | .other _ => [fun _ => .error (.misuse .noMembers)]

/-- Inserts a batch in a transaction.  A statement that fails is answered with a rollback; after any other failure
the connection is closed, and no more. -/
def transact (db : Relational) (collection : String) (given : List LooseRecord) :
    Relational × Except RelationalError Nat :=
  match (Connection.opened db).run (given.flatMap (statementsOf collection)) with
  | (c, none) => (c.commit.close, .ok given.length)
  | (c, some (.statement f)) => (c.rollback.close, .error (.statement f))
  | (c, some e) => (c.close, .error e)

/-! ### Statements of a batch -/

/-- The labels of a record stand under the last number, which no label changes. -/
theorem foldlM_labels (labels : List (Value × Value)) (db : Relational) :
    (labels.map fun label (db : Relational) => addLabel db.lastId db label).foldlM (fun db s => s db) db =
      labels.foldlM (addLabel db.lastId) db := by
  induction labels generalizing db with
  | nil => rfl
  | cons label labels ih =>
    rw [List.map_cons, List.foldlM_cons, List.foldlM_cons]
    show addLabel db.lastId db label >>= _ = _
    cases hfirst : addLabel db.lastId db label with
    | error e => rfl
    | ok db₁ =>
      obtain ⟨held, -, -, rfl⟩ := addLabel_eq_ok.mp hfirst
      exact ih _

theorem foldlM_statementsOf (collection : String) (r : LooseRecord) (db : Relational) :
    (statementsOf collection r).foldlM (fun db s => s db) db = addRecord collection db r := by
  rw [addRecord_eq, statementsOf, List.foldlM_cons]
  refine bind_congr fun db₁ => ?_
  cases r.labels with
  | mapping labels => exact foldlM_labels labels db₁
  | other v => rfl

/-- The statements of a batch, one after the other, add its records one after the other. -/
theorem foldlM_statements (collection : String) (given : List LooseRecord) (db : Relational) :
    (given.flatMap (statementsOf collection)).foldlM (fun db s => s db) db =
      given.foldlM (addRecord collection) db := by
  induction given generalizing db with
  | nil => rfl
  | cons g given ih =>
    rw [List.flatMap_cons, List.foldlM_append, foldlM_statementsOf, List.foldlM_cons]
    exact bind_congr fun db₁ => ih db₁

/-- **The statements of a batch have the outcome of the batch as a whole**; if it fails, the database is the one from
before. -/
theorem transact_eq_insert (db : Relational) (collection : String) (given : List LooseRecord) :
    transact db collection given = match db.insert collection given with
      | .ok (db', n) => (db', .ok n)
      | .error e => (db, .error e) := by
  have hstatements := foldlM_statements collection given db
  unfold insert
  cases hadded : given.foldlM (addRecord collection) db with
  | ok db' =>
    rw [hadded] at hstatements
    unfold transact
    rw [Connection.run_of_ok (c := .opened db) hstatements]
    rfl
  | error e =>
    rw [hadded] at hstatements
    have hfailed := Connection.run_of_error (c := .opened db) hstatements
    have hkept := Connection.run_committed (.opened db) (given.flatMap (statementsOf collection))
    unfold transact
    -- a rollback and a mere close leave the same database
    generalize (Connection.opened db).run (given.flatMap (statementsOf collection)) = outcome at hfailed hkept ⊢
    obtain ⟨c, failure⟩ := outcome
    obtain rfl : failure = some e := hfailed
    obtain rfl : c.committed = db := hkept
    cases e <;> rfl

/-! ### All or nothing -/

/-- The query for everything picks all records of a collection. -/
theorem picks_everything (floats : Float → String) (collection : String) (e : String × Record) :
    (Query.picks ⟨.constant true, []⟩ floats (.string collection) e) = decide (e.1 = collection) := by
  have hprepare : prepare floats (Query.within ⟨.constant true, []⟩ (.string collection)) = .ok [some collection] := rfl
  have htruth : (Query.within ⟨.constant true, []⟩ (.string collection)).clause.truth (subjectOf e) [some collection] =
      some (decide (e.1 = collection)) := by
    rw [within_truth (b := true) ⟨rfl, fun _ => rfl⟩ rfl, Bool.and_true]
  unfold Query.picks
  simp only [hprepare, htruth, Option.some.injEq, decide_eq_true_eq]

/-- Of a batch, the query for everything picks all records in their own collection and none in any other. -/
theorem filter_picks_batch (floats : Float → String) (last : Nat) (collection other : String) (rs : List Record) :
    ((numberedAfter last (batch collection rs)).filter fun e =>
      Query.picks ⟨.constant true, []⟩ floats (.string other) e.1) =
      if other = collection then numberedAfter last (batch collection rs) else [] := by
  have hcollection : ∀ e ∈ numberedAfter last (batch collection rs), e.1.1 = collection := by
    intro e he
    obtain ⟨r, -, hr⟩ := List.mem_map.mp (mem_of_mem_numbered he)
    rw [← hr]
  split
  · rename_i heq
    refine List.filter_eq_self.mpr fun e he => ?_
    rw [picks_everything, heq, decide_eq_true_eq]
    exact hcollection e he
  · rename_i hne
    refine List.filter_eq_nil_iff.mpr fun e he => ?_
    rw [picks_everything, hcollection e he, decide_eq_true_eq]
    exact Ne.symm hne

/-- **A batch is inserted as a whole or not at all.**  If every record of it can be held, the insertion tells their
number, they take the numbers after the last one, and every question finds those that it is true of behind the
records that it found before.  Otherwise the insertion fails, and the database is the one from before.  In whatever
way the engine turns numbers into texts, it does so in the same way afterwards. -/
theorem Sound.transact_whole {db : Relational} (hdb : db.Sound) (collection : String) (given : List LooseRecord) :
    (∃ rs db', List.Forall₂ (LooseRecord.HeldAs db.floats) given rs ∧
      db.insert collection given = .ok (db', given.length) ∧
      transact db collection given = (db', .ok given.length) ∧
      db'.Sound ∧ db'.lastId = db.lastId + given.length ∧ db'.floats = db.floats ∧
      (∀ other : String, db'.find ⟨.constant true, []⟩ (.string other) =
        (db.find ⟨.constant true, []⟩ (.string other)).map fun found =>
          found ++ if other = collection then (numberedAfter db.lastId (batch collection rs)).map stored else []) ∧
      ∀ (q : Query) (other : Value), db'.find q other = (db.find q other).map fun found =>
        found ++ ((numberedAfter db.lastId (batch collection rs)).filter fun e =>
          q.picks db.floats other e.1).map stored) ∨
    ∃ e, (¬∃ rs, List.Forall₂ (LooseRecord.HeldAs db.floats) given rs) ∧
      db.insert collection given = .error e ∧ transact db collection given = (db, .error e) := by
  rw [transact_eq_insert]
  cases hinsert : db.insert collection given with
  | error e =>
    refine .inr ⟨e, ?_, rfl, rfl⟩
    rintro ⟨rs, hrs⟩
    have hok : db.insert collection given = .ok (db.append (batch collection rs), given.length) :=
      hdb.insert_eq_ok.mpr ⟨rfl, rs, hrs, rfl⟩
    rw [hinsert] at hok
    cases hok
  | ok outcome =>
    obtain ⟨db', n⟩ := outcome
    obtain ⟨rfl, rs, hrs, rfl⟩ := hdb.insert_eq_ok.mp hinsert
    have hfind := hdb.find_append (distinct_batch hrs collection)
    refine .inl ⟨rs, _, hrs, rfl, rfl, hdb.append _, ?_, rfl, fun other => ?_, hfind⟩
    · show db.lastId + (batch collection rs).length = _
      rw [batch, List.length_map, hrs.length_eq]
    · rw [hfind, filter_picks_batch]
      split <;> rfl

/-- A record that names its stream and a label by numbers, and has a flag for a title. -/
def countedRecord : LooseRecord where
  streamId := .int 7
  timestamp := .epoch
  status := .string "up"
  title := .bool true
  labels := .mapping [(.int 2, .moment .epoch)]
  id := .null

/-- A record of which the row and the first label can be held, but not the second label. -/
def taggedRecord : LooseRecord :=
  { countedRecord with labels := .mapping [(.string "env", .string "test"), (.string "tags", .array [])] }

/-- An instant is held as its text, with a blank between date and time. -/
theorem columnText?_epoch (floats : Float → String) :
    columnText? floats (.moment .epoch) = some "1970-01-01 00:00:00+00:00" := by
  refine columnText?_eq_some.mpr (congrArg (fun s => Except.ok (some s)) ?_)
  decide +kernel

theorem transact_whole_tagged :
    (∃ db', transact empty "results" [countedRecord] = (db', .ok 1) ∧ db'.Sound ∧
      db'.find ⟨.constant true, []⟩ (.string "results") =
        .ok [⟨"7", .epoch, "up", "1", [("2", "1970-01-01 00:00:00+00:00")], some "1"⟩]) ∧
    transact empty "results" [countedRecord, taggedRecord] = (empty, .error (.statement (.binding 3 "list"))) := by
  constructor
  · rcases sound_empty.transact_whole "results" [countedRecord] with
      ⟨rs, db', hrs, -, htransact, hsound, -, -, hfind, -⟩ | ⟨e, -, hinsert, -⟩
    · refine ⟨db', htransact, hsound, ?_⟩
      have hempty : empty.find ⟨.constant true, []⟩ (.string "results") = .ok [] := by
        rw [sound_empty.find_rows]
        rfl
      have hheld : ∀ r, countedRecord.HeldAs empty.floats r → stored (("results", r), 1) =
          ⟨"7", .epoch, "up", "1", [("2", "1970-01-01 00:00:00+00:00")], some "1"⟩ := by
        rintro ⟨streamId, timestamp, status, title, labels, id⟩ hr
        obtain rfl : "7" = streamId := Option.some.inj hr.streamId
        obtain rfl : "1" = title := Option.some.inj hr.title
        obtain rfl : "up" = status := Option.some.inj hr.status
        obtain rfl : timestamp = .epoch := hr.timestamp
        obtain ⟨given, hgiven, hlabels⟩ := hr.labels
        cases hgiven
        obtain ⟨⟨name, value⟩, rest, ⟨hname, hvalue⟩, hrest, rfl⟩ := List.forall₂_cons_left_iff.mp hlabels
        obtain rfl : "2" = name := Option.some.inj hname
        obtain rfl := Option.some.inj ((columnText?_epoch _).symm.trans hvalue)
        cases hrest
        have hnumber : toString 1 = "1" := by decide
        unfold stored
        simp only [hnumber]
      obtain ⟨r, rest, hr, hrest, rfl⟩ := List.forall₂_cons_left_iff.mp hrs
      cases hrest
      rw [hfind, hempty]
      exact congrArg (fun r => Except.ok [r]) (hheld r hr)
    · cases hinsert
  · rcases sound_empty.transact_whole "results" [countedRecord, taggedRecord] with
      ⟨rs, db', -, hinsert, -⟩ | ⟨e, -, hinsert, htransact⟩
    · cases hinsert
    · cases hinsert
      exact htransact

end ComplianceHistory.Relational
