import ComplianceHistory.Proofs.Sql.Filters
import ComplianceHistory.Proofs.Store.Tables
import ComplianceHistory.Proofs.Time.RoundTrip

/-!
# Answers from the tables of a history

The row of a record with its labels is what a clause is asked about (`subjectOf`), and is read as the record under its
number (`recordOf_row`).  So a question finds the records that were appended behind those that it found before
(`Sound.find_append`).  A query that is meant to choose records is true of the rows of these, and the answer from the
tables of a history is the chosen records of the history under their numbers (`find_tables`).
-/

namespace ComplianceHistory

open Sql Sql.Clause

/-- What a clause can ask of a record in a collection. -/
structure Sql.Subject.IsOf (s : Subject) (collection : String) (r : Record) : Prop where
  labelled : s.Labelled r.labels
  collection : s.column? "r.collection" = some collection
  stream : s.column? "r.stream_id" = some r.streamId

/-- A query chooses records: it is true of them and false of all others. -/
def Sql.Query.Chooses (q : Query) (chosen : Record → Bool) : Prop :=
  ∀ {s : Subject} {collection : String} {r : Record}, s.IsOf collection r → q.Means s (chosen r)

/-- A record under its number. -/
def stored (e : (String × Record) × Nat) : Record := { e.1.2 with id := some (toString e.2) }

namespace Relational

/-- What a clause is asked about, for a record in a collection. -/
def subjectOf (e : String × Record) : Subject where
  column? name :=
    Entries.get? [("r.collection", e.1), ("r.stream_id", e.2.streamId), ("r.title", e.2.title),
      ("r.status", e.2.status), ("r.collected", e.2.timestamp.text)] name
  hasLabel name value := e.2.labels.any fun l => l.1 = name && l.2 = value

end Relational

/-- Whether a query about a collection is true of a record in a collection. -/
def Sql.Query.picks (q : Query) (floats : Float → String) (collection : Value) (e : String × Record) : Bool :=
  match Relational.prepare floats (q.within collection) with
  | .ok cells => (q.within collection).clause.truth (Relational.subjectOf e) cells = some true
  | .error _ => false

namespace Relational

/-! ### Preparing a statement -/

theorem columnsOfAll_known {cs : List Clause} (h : ∀ c ∈ cs, ∀ name ∈ c.columns, isColumn name = true) :
    ∀ name ∈ columnsOfAll cs, isColumn name = true := by
  induction cs with
  | nil => exact fun _ hname => nomatch hname
  | cons c cs ih =>
    intro name hname
    rcases List.mem_append.mp hname with hname | hname
    · exact h c List.mem_cons_self name hname
    · exact ih (fun d hd => h d (List.mem_cons_of_mem _ hd)) name hname

/-- A clause that has a text names known columns. -/
theorem columns_known {c : Clause} (hc : c.Readable) : ∀ name ∈ c.columns, isColumn name = true := by
  induction c using Clause.induct with
  | constant b => exact fun _ hname => nomatch hname
  | column name =>
    cases hc with
    | column h =>
      intro name' hname
      obtain rfl := List.mem_singleton.mp hname
      exact h
  | hasLabel => exact fun _ hname => nomatch hname
  | not c ih =>
    cases hc with
    | not h => exact ih h
  | join connective cs ih =>
    cases hc with
    | join _ _ h => exact columnsOfAll_known fun c hc => ih c hc (h c hc)

/-- A query about a collection is prepared by binding the collection, which may fail, in front of its texts. -/
theorem prepare_within {q : Query} (hq : q.clause.Readable) {texts : List String}
    (hparams : q.params = texts.map .string) (hlength : (texts.map some).length = q.clause.placeholders)
    (floats : Float → String) (collection : Value) :
    prepare floats (q.within collection) = (bindFrom floats 1 [collection]).map (· ++ texts.map some) := by
  have hcolumns : ((q.within collection).clause.columns.find? fun name => !isColumn name) = none := by
    rw [List.find?_eq_none]
    intro name hname
    have hknown := columns_known (.join .and (List.cons_ne_nil _ _) fun c hc => ?_) name hname
    · simp [hknown]
    · rcases List.mem_pair.mp hc with rfl | rfl
      · exact readable_collectionColumn
      · exact hq
  have hwanted : (q.within collection).params.length = (q.within collection).clause.placeholders := by
    show q.params.length + 1 = 1 + (q.clause.placeholders + 0)
    rw [hparams, List.length_map, ← hlength, List.length_map]
    omega
  have hbind : bindFrom floats 1 (q.within collection).params =
      (bindFrom floats 1 [collection]).map (· ++ texts.map some) := by
    show bindFrom floats 1 (collection :: q.params) = _
    rw [bindFrom, bindFrom, hparams]
    cases cellOf floats collection with
    | error fault => cases fault <;> rfl
    | ok cell =>
      show (bindFrom floats 2 (texts.map Value.string)).map (cell :: ·) = _
      rw [bindFrom_texts]
      rfl
  unfold prepare
  rw [hcolumns]
  simp only [hwanted, ne_eq, not_true_eq_false, if_false, hbind]

/-! ### Rows of records -/

section Rows

variable {db : Relational} {e : (String × Record) × Nat}

/-- The row of a record with its labels is what a clause is asked about. -/
theorem subject_row (hlabelsOf : db.labelsOf e.2 = labelRowsOf e) : db.subject (rowOf e) = subjectOf e.1 := by
  have hhas : ∀ name value, ((db.labelsOf e.2).any fun l => l.name = name && l.value = value) =
      e.1.2.labels.any fun l => l.1 = name && l.2 = value := by
    intro name value
    rw [hlabelsOf, labelRowsOf, List.any_map]
    rfl
  unfold subject subjectOf
  simp only [Subject.mk.injEq]
  exact ⟨rfl, funext fun name => funext fun value => hhas name value⟩

/-- What a clause is asked about tells the labels of the record. -/
theorem subjectOf_isOf {e : String × Record} (hlabels : e.2.DistinctLabels) : (subjectOf e).IsOf e.1 e.2 where
  collection := rfl
  stream := rfl
  labelled name value := by
    show e.2.labels.any (fun l => l.1 = name && l.2 = value) = _
    rw [Bool.eq_iff_iff, List.any_eq_true, decide_eq_true_eq]
    constructor
    · rintro ⟨l, hl, hname⟩
      rw [Bool.and_eq_true, decide_eq_true_eq, decide_eq_true_eq] at hname
      obtain ⟨rfl, rfl⟩ := hname
      exact Keyed.get?_of_mem hlabels hl
    · intro hget
      exact ⟨(name, value), Keyed.mem_of_get? hget, by simp⟩

/-- The row of a record with its labels is read as the record under its number. -/
theorem recordOf_row (hlabelsOf : db.labelsOf e.2 = labelRowsOf e) (hlabels : e.1.2.DistinctLabels) :
    recordOf (rowOf e) (db.labelsAt (rowOf e)) = .ok (stored e) := by
  have htime : Time.ofText (rowOf e).collected = .ok e.1.2.timestamp := Time.ofText_text _
  have hpairs : (labelRowsOf e).map (fun l => (l.name, l.value)) = e.1.2.labels := by
    unfold labelRowsOf
    rw [List.map_map]
    exact List.map_id _
  have hlabelsAt : db.labelsAt (rowOf e) = e.1.2.labels := by
    show Entries.ofList ((db.labelsOf e.2).map _) = _
    rw [hlabelsOf, hpairs]
    exact Entries.putAll_of_nodup [] hlabels
  unfold recordOf
  rw [htime, hlabelsAt]
  rfl

end Rows

/-! ### Records that were appended -/

section Append

variable {db : Relational} {h : History}

/-- A clause is true of the rows that it was true of, and then of those of the records that it is true of. -/
theorem Sound.rowsWhere_append (hdb : db.Sound) (clause : Clause) (cells : List Cell) :
    (db.append h).rowsWhere clause cells = db.rowsWhere clause cells ++
      ((numberedAfter db.lastId h).filter fun e => clause.truth (subjectOf e.1) cells = some true).map rowOf := by
  have hold : db.rows.filter (fun r => clause.truth ((db.append h).subject r) cells = some true) =
      db.rowsWhere clause cells := by
    refine List.filter_congr fun r hr => ?_
    unfold subject
    simp only [labelsOf_old db h (hdb.rows r hr)]
  have hnew : ((numberedAfter db.lastId h).map rowOf).filter
      (fun r => clause.truth ((db.append h).subject r) cells = some true) =
      ((numberedAfter db.lastId h).filter fun e => clause.truth (subjectOf e.1) cells = some true).map rowOf := by
    rw [List.filter_map]
    refine congrArg (List.map rowOf) (List.filter_congr fun e he => ?_)
    rw [Function.comp_apply, subject_row (hdb.labelsOf_new he)]
  show (db.rows ++ _).filter _ = _
  rw [List.filter_append, hold, hnew]

/-- **A question finds the records that were appended behind those that it found before**, under their numbers. -/
theorem Sound.find_append (hdb : db.Sound) (hlabels : ∀ e ∈ h, e.2.DistinctLabels) (q : Query) (collection : Value) :
    (db.append h).find q collection = (db.find q collection).map fun found =>
      found ++ ((numberedAfter db.lastId h).filter fun e => q.picks db.floats collection e.1).map stored := by
  have hfloats : (db.append h).floats = db.floats := rfl
  rw [(hdb.append h).find_rows, hdb.find_rows, hfloats]
  unfold Query.picks
  cases prepare db.floats (q.within collection) with
  | error e => rfl
  | ok cells =>
    have hold : (db.rowsWhere (q.within collection).clause cells).mapM
        (fun r => recordOf r ((db.append h).labelsAt r)) =
        (db.rowsWhere (q.within collection).clause cells).mapM fun r => recordOf r (db.labelsAt r) := by
      refine mapM_congr fun r hr => ?_
      unfold labelsAt
      rw [labelsOf_old db h (hdb.rows r (List.mem_of_mem_filter hr))]
    have hnew : ∀ es : List ((String × Record) × Nat), (∀ e ∈ es, e ∈ numberedAfter db.lastId h) →
        (es.map rowOf).mapM (fun r => recordOf r ((db.append h).labelsAt r)) = .ok (es.map stored) := by
      intro es hes
      rw [List.mapM_map]
      refine mapM_of_ok fun e he => ?_
      rw [Function.comp_apply]
      exact recordOf_row (hdb.labelsOf_new (hes e he)) (hlabels e.1 (mem_of_mem_numbered (hes e he)))
    show ((db.append h).rowsWhere _ cells).mapM _ = _
    rw [hdb.rowsWhere_append, List.mapM_append, hold, hnew _ fun e he => List.mem_of_mem_filter he]
    rfl

end Append

/-! ### Queries that choose records -/

theorem eq_singleton_of_bindFrom {floats : Float → String} {place : Nat} {v : Value} {cells : List Cell}
    (h : bindFrom floats place [v] = .ok cells) : ∃ cell, cells = [cell] := by
  rw [bindFrom] at h
  split at h
  · cases h
  · cases h
  · rename_i cell _
    cases h
    exact ⟨cell, rfl⟩

/-- What is bound for a query that chooses records: its texts, as many as it has placeholders. -/
theorem texts_of_chooses {q : Query} {chosen : Record → Bool} (hq : q.Chooses chosen) :
    q.clause.Readable ∧ ∃ texts : List String, q.params = texts.map .string ∧
      (texts.map some).length = q.clause.placeholders := by
  have hempty : Subject.IsOf ⟨fun _ => some "", fun n v => Entries.get? [] n = some v⟩ ""
      ⟨"", .epoch, "", "", [], none⟩ := ⟨fun _ _ => rfl, rfl, rfl⟩
  obtain ⟨hreadable, texts, hparams, hlength, -⟩ := hq hempty
  exact ⟨hreadable, texts, hparams, hlength⟩

/-- A query that chooses records picks the chosen ones of the collection. -/
theorem picks_of_chooses {q : Query} {chosen : Record → Bool} (hq : q.Chooses chosen) {floats : Float → String}
    {collection : Value} {cell : Cell} (hcell : bindFrom floats 1 [collection] = .ok [cell]) {e : String × Record}
    (he : e.2.DistinctLabels) : q.picks floats collection e = (decide (some e.1 = cell) && chosen e.2) := by
  obtain ⟨hreadable, texts, hparams, hlength⟩ := texts_of_chooses hq
  have hprepare : prepare floats (q.within collection) = .ok (cell :: texts.map some) := by
    rw [prepare_within hreadable hparams hlength, hcell]
    rfl
  have hcells : bindFrom floats 1 q.params = .ok (texts.map some) := by rw [hparams, bindFrom_texts]
  have hsubject := subjectOf_isOf he
  unfold Query.picks
  simp only [hprepare]
  rw [Bool.eq_iff_iff, decide_eq_true_eq]
  exact within_true_iff ((hq hsubject).bound hcells) hsubject.collection cell collection

/-- **The answer from the tables of a history is the chosen records of the collection under their numbers**, if the
name of the collection can be bound. -/
theorem find_within {h : History} (hlabels : ∀ e ∈ h, e.2.DistinctLabels) {q : Query} {chosen : Record → Bool}
    (hq : q.Chooses chosen) (collection : Value) : (tables h).find q collection =
      (bindFrom empty.floats 1 [collection]).map fun cells =>
        ((numbered h).filter fun e => decide (some e.1.1 = cells.headD none) && chosen e.1.2).map stored := by
  obtain ⟨hreadable, texts, hparams, hlength⟩ := texts_of_chooses hq
  have hempty : empty.find q collection = (bindFrom empty.floats 1 [collection]).map fun _ => [] := by
    rw [sound_empty.find_rows, prepare_within hreadable hparams hlength]
    cases bindFrom empty.floats 1 [collection] <;> rfl
  rw [← empty_append, sound_empty.find_append hlabels, hempty]
  cases hbound : bindFrom empty.floats 1 [collection] with
  | error e => rfl
  | ok cells =>
    obtain ⟨cell, rfl⟩ := eq_singleton_of_bindFrom hbound
    have hpicked : ((numberedAfter 0 h).filter fun e => q.picks empty.floats collection e.1) =
        (numbered h).filter fun e => decide (some e.1.1 = cell) && chosen e.1.2 := by
      refine List.filter_congr fun e he => ?_
      rw [picks_of_chooses hq hbound (hlabels e.1 (mem_of_mem_numbered he))]
    show Except.ok ([] ++ ((numberedAfter 0 h).filter _).map stored) = _
    rw [List.nil_append, hpicked]
    rfl

theorem find_tables {h : History} (hlabels : ∀ e ∈ h, e.2.DistinctLabels) {q : Query} {chosen : Record → Bool}
    (hq : q.Chooses chosen) (collection : String) :
    (tables h).find q (.string collection) =
      .ok (((numbered h).filter fun e => decide (e.1.1 = collection) && chosen e.1.2).map stored) := by
  rw [find_within hlabels hq]
  show Except.ok (((numbered h).filter fun e => decide (some e.1.1 = some collection) && _).map stored) = _
  simp only [Option.some.injEq]

end Relational

end ComplianceHistory
