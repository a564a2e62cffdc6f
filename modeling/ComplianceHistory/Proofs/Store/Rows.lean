import ComplianceHistory.Proofs.Lists
import ComplianceHistory.Store.Relational

/-!
# Rows in the order of their numbers

A database whose rows stand in the order of their numbers needs no sorting: the join has one block of rows for each
record, the blocks stand in that order, and each of them is put together into its record.  So what is found are the
records of the rows that a query is true of, each with the labels under its number (`find_rows`).
-/

namespace ComplianceHistory.Relational

open Sql

/--
The rows stand in the order of their numbers, no number is used twice, and none that was not yet given stands in a
row or under a label.
-/
structure Sound (db : Relational) : Prop where
  ascending : db.rows.Pairwise fun a b => a.id < b.id
  rows : ∀ r ∈ db.rows, r.id ≤ db.lastId
  labels : ∀ l ∈ db.labels, l.recordId ≤ db.lastId

theorem sound_empty : empty.Sound where
  ascending := .nil
  rows := nofun
  labels := nofun

variable (db : Relational)

/-- The labels under the number of a row. -/
def labelsAt (r : Row) : Entries String := Entries.ofList ((db.labelsOf r.id).map fun l => (l.name, l.value))

/-- The rows that a clause is true of. -/
def rowsWhere (clause : Clause) (cells : List Cell) : List Row :=
  db.rows.filter fun r => clause.truth (db.subject r) cells = some true

theorem mem_joined {r : Row} {j : Row × Option LabelRow} (hj : j ∈ db.joined r) : j.1 = r := by
  unfold joined at hj
  split at hj
  · rw [List.mem_singleton.mp hj]
  · obtain ⟨l, -, rfl⟩ := List.mem_map.mp hj
    rfl

/-- The block of a row in the join: one row of the join always, and one for each label after the first. -/
theorem joined_eq (r : Row) : db.joined r =
    (r, (db.labelsOf r.id).head?) :: (db.labelsOf r.id).tail.map fun l => (r, some l) := by
  unfold joined
  cases db.labelsOf r.id with
  | nil => rfl
  | cons l ls => rfl

/-- The blocks of rows in order are in order. -/
theorem pairwise_joined {rows : List Row} (h : rows.Pairwise fun a b => a.id < b.id) :
    (rows.flatMap db.joined).Pairwise fun a b => decide (a.1.id ≤ b.1.id) = true := by
  rw [List.pairwise_flatMap]
  constructor
  · intro r _
    refine List.pairwise_of_forall_mem_list fun a ha b hb => ?_
    rw [db.mem_joined ha, db.mem_joined hb]
    simp
  · refine h.imp fun hlt a ha b hb => ?_
    rw [db.mem_joined ha, db.mem_joined hb, decide_eq_true_eq]
    exact Nat.le_of_lt hlt

variable {db}

/-- The rows of the join that a clause is true of are the blocks of the rows that it is true of. -/
theorem Sound.select_eq (h : db.Sound) (clause : Clause) (cells : List Cell) :
    db.select clause cells = (db.rowsWhere clause cells).flatMap db.joined := by
  have hblock : ∀ r ∈ db.rows, ((db.joined r).filter fun j => clause.truth (db.subject j.1) cells = some true) =
      if decide (clause.truth (db.subject r) cells = some true) then db.joined r else [] := by
    intro r _
    split
    · rename_i htrue
      refine List.filter_eq_self.mpr fun j hj => ?_
      rw [db.mem_joined hj]
      exact htrue
    · rename_i hfalse
      refine List.filter_eq_nil_iff.mpr fun j hj => ?_
      rw [db.mem_joined hj]
      exact hfalse
  have hwhere : (db.rows.flatMap db.joined).filter
      (fun j => clause.truth (db.subject j.1) cells = some true) =
      (db.rowsWhere clause cells).flatMap db.joined := by
    rw [List.filter_flatMap, List.flatMap_congr hblock, flatMap_ite]
    rfl
  unfold select
  rw [hwhere]
  exact List.mergeSort_of_pairwise (pairwise_joined db (h.ascending.sublist List.filter_sublist))

theorem foldl_withLabel (row : Row) (ls : List LabelRow) (labels : Entries String) :
    (ls.map fun l => (row, some l)).foldl
      (fun (r : Row × Entries String) (j : Row × Option LabelRow) => (r.1, withLabel r.2 j.2)) (row, labels) =
      (row, labels.putAll (ls.map fun l => (l.name, l.value))) := by
  induction ls generalizing labels with
  | nil => rfl
  | cons l ls ih => exact ih (labels.put l.name l.value)

/-- The blocks are put together into their rows, with the labels under their numbers. -/
theorem assemble_joined {rows : List Row} (h : (rows.map Row.id).Nodup) :
    assemble (rows.flatMap db.joined) = rows.map fun r => (r.id, r, db.labelsAt r) := by
  have hmap : (rows.flatMap db.joined).map (fun j => (j.1.id, j)) = rows.flatMap fun r =>
      (r.id, (r, (db.labelsOf r.id).head?)) ::
        ((db.labelsOf r.id).tail.map fun l => (r, some l)).map fun j => (r.id, j) := by
    rw [List.map_flatMap]
    refine List.flatMap_congr fun r _ => ?_
    rw [joined_eq, List.map_cons, List.map_map, List.map_map]
    rfl
  unfold assemble
  rw [hmap, Keyed.collect_blocks _ _ Row.id _ _ h]
  refine List.map_congr_left fun r _ => ?_
  rw [foldl_withLabel]
  unfold labelsAt Entries.ofList
  cases db.labelsOf r.id with
  | nil => rfl
  | cons l ls => rfl

/-- **What is found are the records of the rows that a query is true of**, in the order of their numbers. -/
theorem Sound.find_rows (h : db.Sound) (query : Query) (collection : Value) : db.find query collection =
    (prepare db.floats (query.within collection)).bind fun cells =>
      (db.rowsWhere (query.within collection).clause cells).mapM fun r => recordOf r (db.labelsAt r) := by
  unfold find
  cases hprepare : prepare db.floats (query.within collection) with
  | error e =>
    simp only [hprepare]
    rfl
  | ok cells =>
    have hids : ((db.rowsWhere (query.within collection).clause cells).map Row.id).Nodup := by
      have hrows : (db.rowsWhere (query.within collection).clause cells).Pairwise fun a b => a.id < b.id :=
        h.ascending.sublist List.filter_sublist
      refine List.pairwise_map.mpr (hrows.imp fun hlt => ?_)
      exact Nat.ne_of_lt hlt
    simp only [hprepare]
    show (assemble (db.select (query.within collection).clause cells)).mapM _ = _
    rw [h.select_eq, assemble_joined hids, List.mapM_map]
    rfl

end ComplianceHistory.Relational
