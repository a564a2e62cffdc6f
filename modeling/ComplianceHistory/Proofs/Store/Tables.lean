import ComplianceHistory.Proofs.Record
import ComplianceHistory.Proofs.Store.Rows

/-!
# The tables of a history

Records that are appended to a database take the numbers after the last one that was given, and their rows and
labels stand behind those that were there (`append`).  Rows that stood in the order of their numbers still do
(`Sound.append`), and under the number of a record that was appended stand its own labels (`labelsOf_new`).  So a
database that was empty at first holds, after any history of added records, one row for each record and one for each
of its labels, and nothing else (`tables`).
-/

namespace ComplianceHistory

/-- Records with the collections they were added to, from the first one to the last. -/
abbrev History := List (String × Record)

namespace Relational

/-- The row of a record. -/
def rowOf (e : (String × Record) × Nat) : Row where
  id := e.2
  collection := e.1.1
  streamId := e.1.2.streamId
  title := e.1.2.title
  status := e.1.2.status
  collected := e.1.2.timestamp.text

/-- The rows of the labels of a record. -/
def labelRowsOf (e : (String × Record) × Nat) : List LabelRow :=
  e.1.2.labels.map fun l => ⟨e.2, l.1, l.2⟩

/-- The records of a history with the numbers that follow a last one. -/
def numberedAfter (last : Nat) (h : History) : List ((String × Record) × Nat) := h.zipIdx (last + 1)

/-- The records of a history with their numbers, which count from 1. -/
def numbered (h : History) : List ((String × Record) × Nat) := h.zipIdx 1

/-- A database with the records of a history behind its own. -/
def append (db : Relational) (h : History) : Relational where
  rows := db.rows ++ (numberedAfter db.lastId h).map rowOf
  labels := db.labels ++ (numberedAfter db.lastId h).flatMap labelRowsOf
  lastId := db.lastId + h.length
  floats := db.floats

/-- The tables of a history. -/
def tables (h : History) : Relational where
  rows := (numbered h).map rowOf
  labels := (numbered h).flatMap labelRowsOf
  lastId := h.length
  floats := empty.floats

theorem empty_append (h : History) : empty.append h = tables h := by
  have hlast : empty.lastId + h.length = h.length := Nat.zero_add _
  unfold append
  rw [hlast]
  rfl

theorem append_append (db : Relational) (h more : History) : (db.append h).append more = db.append (h ++ more) := by
  have hnumbers : numberedAfter db.lastId (h ++ more) =
      numberedAfter db.lastId h ++ numberedAfter (db.lastId + h.length) more := by
    unfold numberedAfter
    rw [List.zipIdx_append, Nat.add_right_comm]
  have hlast : db.lastId + (h ++ more).length = db.lastId + h.length + more.length := by
    rw [List.length_append, Nat.add_assoc]
  unfold append
  rw [hnumbers, hlast, List.map_append, List.flatMap_append, ← List.append_assoc, ← List.append_assoc]

/-! ### Numbers -/

section Numbers

variable {last : Nat} {h : History} {e : (String × Record) × Nat}

theorem numberedAfter_map_fst (last : Nat) (h : History) : (numberedAfter last h).map Prod.fst = h :=
  List.zipIdx_map_fst _ h

theorem mem_of_mem_numbered (he : e ∈ numberedAfter last h) : e.1 ∈ h := by
  rw [← numberedAfter_map_fst last h]
  exact List.mem_map_of_mem he

theorem lt_number (he : e ∈ numberedAfter last h) : last < e.2 := List.le_snd_of_mem_zipIdx he

theorem number_le (he : e ∈ numberedAfter last h) : e.2 ≤ last + h.length := by
  have := List.snd_lt_of_mem_zipIdx he
  omega

theorem numbers_ascending (last : Nat) (h : History) : (numberedAfter last h).Pairwise fun a b => a.2 < b.2 := by
  have hlt : ((numberedAfter last h).map Prod.snd).Pairwise (· < ·) := by
    rw [numberedAfter, List.zipIdx_map_snd]
    exact List.pairwise_lt_range'
  exact List.pairwise_map.mp hlt

end Numbers

/-! ### Labels -/

theorem recordId_of_mem {e : (String × Record) × Nat} {l : LabelRow} (hl : l ∈ labelRowsOf e) :
    l.recordId = e.2 := by
  obtain ⟨l', -, rfl⟩ := List.mem_map.mp hl
  rfl

theorem filter_labelRowsOf_of_ne {e : (String × Record) × Nat} {n : Nat} (h : e.2 ≠ n) :
    (labelRowsOf e).filter (fun l => l.recordId = n) = [] := by
  rw [List.filter_eq_nil_iff]
  intro l hl hid
  rw [decide_eq_true_eq, recordId_of_mem hl] at hid
  exact h hid

/-- The labels under the number of a record are its own. -/
theorem filter_labelRows {es : List ((String × Record) × Nat)} (hes : es.Pairwise fun a b => a.2 < b.2)
    {e : (String × Record) × Nat} (he : e ∈ es) :
    (es.flatMap labelRowsOf).filter (fun l => l.recordId = e.2) = labelRowsOf e := by
  induction es with
  | nil => cases he
  | cons d es ih =>
    rw [List.pairwise_cons] at hes
    rw [List.flatMap_cons, List.filter_append]
    rcases List.mem_cons.mp he with rfl | he
    · have hself : (labelRowsOf e).filter (fun l => l.recordId = e.2) = labelRowsOf e :=
        List.filter_eq_self.mpr fun l hl => decide_eq_true (recordId_of_mem hl)
      have hrest : (es.flatMap labelRowsOf).filter (fun l => l.recordId = e.2) = [] := by
        rw [List.filter_flatMap, List.flatMap_eq_nil_iff]
        exact fun d hd => filter_labelRowsOf_of_ne (Nat.ne_of_gt (hes.1 d hd))
      rw [hself, hrest, List.append_nil]
    · rw [filter_labelRowsOf_of_ne (Nat.ne_of_lt (hes.1 e he)), List.nil_append, ih hes.2 he]

section Append

variable {db : Relational} {h : History}

/-- Under a number that was given before stand the labels that stood there. -/
theorem labelsOf_old (db : Relational) (h : History) {n : Nat} (hn : n ≤ db.lastId) :
    (db.append h).labelsOf n = db.labelsOf n := by
  have hnew : ((numberedAfter db.lastId h).flatMap labelRowsOf).filter (fun l => l.recordId = n) = [] := by
    rw [List.filter_flatMap, List.flatMap_eq_nil_iff]
    intro e he
    have := lt_number he
    exact filter_labelRowsOf_of_ne (by omega)
  show (db.labels ++ _).filter _ = _
  rw [List.filter_append, hnew, List.append_nil]
  rfl

/-- Under the number of a record that was appended stand its own labels. -/
theorem Sound.labelsOf_new (hdb : db.Sound) {e : (String × Record) × Nat} (he : e ∈ numberedAfter db.lastId h) :
    (db.append h).labelsOf e.2 = labelRowsOf e := by
  have hold : db.labels.filter (fun l => l.recordId = e.2) = [] := by
    rw [List.filter_eq_nil_iff]
    intro l hl hid
    rw [decide_eq_true_eq] at hid
    have := hdb.labels l hl
    have := lt_number he
    omega
  show (db.labels ++ _).filter _ = _
  rw [List.filter_append, hold, List.nil_append]
  exact filter_labelRows (numbers_ascending _ _) he

/-- Appended records keep the rows in the order of their numbers. -/
theorem Sound.append (hdb : db.Sound) (h : History) : (db.append h).Sound where
  ascending := by
    refine List.pairwise_append.mpr ⟨hdb.ascending, List.pairwise_map.mpr (numbers_ascending _ _), ?_⟩
    intro r hr r' hr'
    obtain ⟨e, he, rfl⟩ := List.mem_map.mp hr'
    exact Nat.lt_of_le_of_lt (hdb.rows r hr) (lt_number he)
  rows r hr := by
    rcases List.mem_append.mp hr with hr | hr
    · exact Nat.le_trans (hdb.rows r hr) (Nat.le_add_right _ _)
    · obtain ⟨e, he, rfl⟩ := List.mem_map.mp hr
      exact number_le he
  labels l hl := by
    rcases List.mem_append.mp hl with hl | hl
    · exact Nat.le_trans (hdb.labels l hl) (Nat.le_add_right _ _)
    · obtain ⟨e, he, hl⟩ := List.mem_flatMap.mp hl
      rw [recordId_of_mem hl]
      exact number_le he

end Append

end Relational

end ComplianceHistory
