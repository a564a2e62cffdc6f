import ComplianceHistory.Proofs.Store.Answers

/-!
# Batches of records of any shape

The fields of a record that is inserted may be any values, and so may the names and values of its labels.  A column
turns what it can hold into a text, so a record is held as one of texts (`LooseRecord.HeldAs`), or not at all: a field
may be null, or a value that cannot be bound, and the labels may be no mapping.  A record is added exactly if it can be held (`Sound.addRecord_eq_ok`).  So a batch
is inserted exactly if every record of it can be held, and then the records that hold them stand behind those that
were there (`Sound.insert_eq_ok`).
-/

namespace ComplianceHistory

open Sql

/-- The text that a column without nulls holds of a value, if it can hold the value. -/
def Relational.columnText? (floats : Float → String) (v : Value) : Option String :=
  match cellOf floats v with
  | .ok (some s) => some s
  | _ => none

/-- A label is held under the text of its name, with the text of its value. -/
def Relational.HoldsLabel (floats : Float → String) (label : Value × Value) (held : String × String) : Prop :=
  columnText? floats label.1 = some held.1 ∧ columnText? floats label.2 = some held.2

/-- The tables hold a record of any values as a record of texts; its identity is of no account, since it is given a
number. -/
structure LooseRecord.HeldAs (floats : Float → String) (given : LooseRecord) (r : Record) : Prop where
  streamId : Relational.columnText? floats given.streamId = some r.streamId
  title : Relational.columnText? floats given.title = some r.title
  status : Relational.columnText? floats given.status = some r.status
  timestamp : r.timestamp = given.timestamp
  labels : ∃ labels, given.labels = .mapping labels ∧ List.Forall₂ (Relational.HoldsLabel floats) labels r.labels
  distinct : r.DistinctLabels

theorem heldAs_ofRecord (floats : Float → String) {r : Record} (hr : r.DistinctLabels) :
    (LooseRecord.ofRecord r).HeldAs floats r where
  streamId := rfl
  title := rfl
  status := rfl
  timestamp := rfl
  labels := by
    refine ⟨_, rfl, ?_⟩
    rw [Entries.mapValues, List.map_map, List.forall₂_map_left_iff]
    exact List.forall₂_same.mpr fun l _ => ⟨rfl, rfl⟩
  distinct := hr

namespace Relational

/-! ### Binding -/

section Binding

variable {floats : Float → String}

theorem columnText?_eq_some {v : Value} {s : String} :
    columnText? floats v = some s ↔ cellOf floats v = .ok (some s) := by
  unfold columnText?
  split
  · rename_i t ht
    rw [ht]
    simp
  · rename_i hne
    constructor
    · intro h
      cases h
    · intro h
      exact absurd h (hne s)

theorem bindFrom_cons_eq_ok {place : Nat} {v : Value} {vs : List Value} {cells : List Cell} :
    bindFrom floats place (v :: vs) = .ok cells ↔
      ∃ cell rest, cellOf floats v = .ok cell ∧ bindFrom floats (place + 1) vs = .ok rest ∧ cells = cell :: rest := by
  rw [bindFrom]
  cases cellOf floats v with
  | error fault =>
    constructor
    · intro h
      cases fault <;> cases h
    · rintro ⟨cell, rest, hcell, -⟩
      cases hcell
  | ok cell =>
    show (bindFrom floats (place + 1) vs).map (cell :: ·) = _ ↔ _
    cases bindFrom floats (place + 1) vs with
    | error e =>
      constructor
      · intro h
        cases h
      · rintro ⟨cell, rest, -, hrest, -⟩
        cases hrest
    | ok rest =>
      constructor
      · intro h
        cases h
        exact ⟨cell, rest, rfl, rfl, rfl⟩
      · rintro ⟨cell, rest, hcell, hrest, rfl⟩
        cases hcell
        cases hrest
        rfl

end Binding

theorem required_eq_ok {column : String} {cell : Cell} {s : String} : required column cell = .ok s ↔ cell = some s := by
  cases cell with
  | none => exact ⟨nofun, nofun⟩
  | some t => simp [required]

/-! ### One record -/

/-- Adds the row of a record under the next number. -/
def addRow (collection : String) (r : LooseRecord) (db : Relational) : Except RelationalError Relational := do
  let cells ← bindFrom db.floats 2 [r.streamId, r.title, r.status]
  let streamId ← required "records.stream_id" (cells.getD 0 none)
  let title ← required "records.title" (cells.getD 1 none)
  let status ← required "records.status" (cells.getD 2 none)
  let id := db.lastId + 1
  let row : Row := { id, collection, streamId, title, status, collected := r.timestamp.text }
  return { db with rows := db.rows ++ [row], lastId := id }

/-- A record is added as its row, and then its labels under the number of the row. -/
theorem addRecord_eq (collection : String) (db : Relational) (r : LooseRecord) :
    addRecord collection db r = addRow collection r db >>= fun db' => match r.labels with
      | .mapping labels => labels.foldlM (addLabel db'.lastId) db'
      | .other _ => throw (.misuse .noMembers) := by
  simp only [addRow, bind_assoc, pure_bind]
  rfl

theorem addRow_eq_ok {collection : String} {given : LooseRecord} {db db' : Relational} :
    addRow collection given db = .ok db' ↔ ∃ streamId title status,
      columnText? db.floats given.streamId = some streamId ∧ columnText? db.floats given.title = some title ∧
      columnText? db.floats given.status = some status ∧
      db' = { db with
        rows := db.rows ++ [⟨db.lastId + 1, collection, streamId, title, status, given.timestamp.text⟩]
        lastId := db.lastId + 1 } := by
  simp only [addRow, bind_eq_ok, required_eq_ok, columnText?_eq_some]
  constructor
  · rintro ⟨cells, hcells, streamId, hstream, title, htitle, status, hstatus, hdb'⟩
    obtain ⟨cell₁, rest₁, h₁, hrest₁, rfl⟩ := bindFrom_cons_eq_ok.mp hcells
    obtain ⟨cell₂, rest₂, h₂, hrest₂, rfl⟩ := bindFrom_cons_eq_ok.mp hrest₁
    obtain ⟨cell₃, rest₃, h₃, -, rfl⟩ := bindFrom_cons_eq_ok.mp hrest₂
    obtain rfl : cell₁ = some streamId := hstream
    obtain rfl : cell₂ = some title := htitle
    obtain rfl : cell₃ = some status := hstatus
    cases hdb'
    exact ⟨streamId, title, status, h₁, h₂, h₃, rfl⟩
  · rintro ⟨streamId, title, status, h₁, h₂, h₃, rfl⟩
    have hcells : bindFrom db.floats 2 [given.streamId, given.title, given.status] =
        .ok [some streamId, some title, some status] :=
      bindFrom_cons_eq_ok.mpr ⟨_, _, h₁, bindFrom_cons_eq_ok.mpr ⟨_, _, h₂,
        bindFrom_cons_eq_ok.mpr ⟨_, _, h₃, rfl, rfl⟩, rfl⟩, rfl⟩
    exact ⟨_, hcells, streamId, rfl, title, rfl, status, rfl, rfl⟩

/-- A label is added exactly if its name and value can be held and the record has no label of its name. -/
theorem addLabel_eq_ok {id : Nat} {db db' : Relational} {label : Value × Value} :
    addLabel id db label = .ok db' ↔ ∃ held, HoldsLabel db.floats label held ∧
      (∀ l ∈ db.labels, l.recordId = id → l.name ≠ held.1) ∧
      db' = { db with labels := db.labels ++ [⟨id, held.1, held.2⟩] } := by
  have hany : ∀ name, (db.labels.any fun l => l.recordId = id && l.name = name) = false ↔
      ∀ l ∈ db.labels, l.recordId = id → l.name ≠ name := by
    intro name
    rw [List.any_eq_false]
    refine forall₂_congr fun l _ => ?_
    rw [Bool.and_eq_true, decide_eq_true_eq, decide_eq_true_eq, not_and]
  simp only [addLabel, bind_eq_ok, required_eq_ok]
  constructor
  · rintro ⟨cells, hcells, name, hname, value, hvalue, hdb'⟩
    obtain ⟨cell₁, rest₁, h₁, hrest₁, rfl⟩ := bindFrom_cons_eq_ok.mp hcells
    obtain ⟨cell₂, rest₂, h₂, -, rfl⟩ := bindFrom_cons_eq_ok.mp hrest₁
    obtain rfl : cell₁ = some name := hname
    obtain rfl : cell₂ = some value := hvalue
    cases htaken : db.labels.any fun l => l.recordId = id && l.name = name with
    | true =>
      rw [htaken] at hdb'
      cases hdb'
    | false =>
      rw [htaken] at hdb'
      cases hdb'
      exact ⟨(name, value), ⟨columnText?_eq_some.mpr h₁, columnText?_eq_some.mpr h₂⟩, (hany name).mp htaken, rfl⟩
  · rintro ⟨⟨name, value⟩, ⟨hname, hvalue⟩, hfree, rfl⟩
    have hcells : bindFrom db.floats 2 [label.1, label.2] = .ok [some name, some value] :=
      bindFrom_cons_eq_ok.mpr ⟨_, _, columnText?_eq_some.mp hname, bindFrom_cons_eq_ok.mpr
        ⟨_, _, columnText?_eq_some.mp hvalue, rfl, rfl⟩, rfl⟩
    refine ⟨_, hcells, name, rfl, value, rfl, ?_⟩
    rw [(hany name).mpr hfree]
    rfl

/-- Labels are added exactly if they can be held and the texts of their names are different and new to the record.
The induction is on the labels, each of which stands in the table before the next one is added. -/
theorem addLabels_eq_ok {id : Nat} {labels : List (Value × Value)} {db db' : Relational} :
    labels.foldlM (addLabel id) db = .ok db' ↔ ∃ held : Entries String,
      List.Forall₂ (HoldsLabel db.floats) labels held ∧
      (Keyed.keys held).Nodup ∧ (∀ l ∈ db.labels, l.recordId = id → l.name ∉ Keyed.keys held) ∧
      db' = { db with labels := db.labels ++ held.map fun l => ⟨id, l.1, l.2⟩ } := by
  induction labels generalizing db with
  | nil =>
    constructor
    · intro h
      cases h
      exact ⟨[], .nil, List.nodup_nil, fun _ _ _ => List.not_mem_nil, by rw [List.map_nil, List.append_nil]⟩
    · rintro ⟨held, hheld, -, -, rfl⟩
      cases hheld
      rw [List.map_nil, List.append_nil]
      rfl
  | cons label labels ih =>
    rw [List.foldlM_cons, bind_eq_ok]
    constructor
    · rintro ⟨db₁, hfirst, hrest⟩
      obtain ⟨first, hlabel, hfree, rfl⟩ := addLabel_eq_ok.mp hfirst
      obtain ⟨held, hheld, hnodup, hnew, rfl⟩ := ih.mp hrest
      refine ⟨first :: held, .cons hlabel hheld, ?_, ?_, ?_⟩
      · rw [Keyed.keys_cons, List.nodup_cons]
        exact ⟨hnew ⟨id, first.1, first.2⟩ (List.mem_append_right _ List.mem_cons_self) rfl, hnodup⟩
      · intro l hl hid
        rw [Keyed.keys_cons, List.mem_cons, not_or]
        exact ⟨hfree l hl hid, hnew l (List.mem_append_left _ hl) hid⟩
      · rw [List.map_cons, List.append_assoc]
        rfl
    · rintro ⟨held, hheld, hnodup, hnew, rfl⟩
      cases hheld with
      | @cons _ first _ rest hlabel hheld =>
        rw [Keyed.keys_cons, List.nodup_cons] at hnodup
        have hfree : ∀ l ∈ db.labels, l.recordId = id → l.name ≠ first.1 ∧ l.name ∉ Keyed.keys rest := by
          intro l hl hid
          have := hnew l hl hid
          rwa [Keyed.keys_cons, List.mem_cons, not_or] at this
        refine ⟨_, addLabel_eq_ok.mpr ⟨first, hlabel, fun l hl hid => (hfree l hl hid).1, rfl⟩, ?_⟩
        refine ih.mpr ⟨rest, hheld, hnodup.2, fun l hl hid => ?_, ?_⟩
        · rcases List.mem_append.mp hl with hl | hl
          · exact (hfree l hl hid).2
          · obtain rfl := List.mem_singleton.mp hl
            exact hnodup.1
        · rw [List.map_cons, List.append_assoc]
          rfl

variable {db db' : Relational} {collection : String}

/-- **A record is added exactly if it can be held**, and then the record that holds it stands behind the others. -/
theorem Sound.addRecord_eq_ok (hdb : db.Sound) {given : LooseRecord} :
    addRecord collection db given = .ok db' ↔ ∃ r, given.HeldAs db.floats r ∧ db' = db.append [(collection, r)] := by
  have happend : ∀ r : Record, db.append [(collection, r)] = {
      rows := db.rows ++ [rowOf ((collection, r), db.lastId + 1)]
      labels := db.labels ++ labelRowsOf ((collection, r), db.lastId + 1)
      lastId := db.lastId + 1
      floats := db.floats } := by
    intro r
    show Relational.mk _ (db.labels ++ (labelRowsOf _ ++ [])) _ _ = _
    rw [List.append_nil]
    rfl
  rw [addRecord_eq, bind_eq_ok]
  constructor
  · rintro ⟨db₁, hrow, hlabels⟩
    obtain ⟨streamId, title, status, hstream, htitle, hstatus, rfl⟩ := addRow_eq_ok.mp hrow
    split at hlabels
    · rename_i labels hobject
      obtain ⟨held, hheld, hnodup, -, rfl⟩ := addLabels_eq_ok.mp hlabels
      refine ⟨⟨streamId, given.timestamp, status, title, held, none⟩, ?_, ?_⟩
      · exact ⟨hstream, htitle, hstatus, rfl, ⟨labels, hobject, hheld⟩, hnodup⟩
      · rw [happend]
        rfl
    · cases hlabels
  · rintro ⟨r, hr, rfl⟩
    obtain ⟨labels, hobject, hheld⟩ := hr.labels
    refine ⟨_, addRow_eq_ok.mpr ⟨_, _, _, hr.streamId, hr.title, hr.status, rfl⟩, ?_⟩
    rw [hobject]
    refine addLabels_eq_ok.mpr ⟨r.labels, hheld, hr.distinct, fun l hl hid => ?_, ?_⟩
    · -- no label stands under the number that comes next
      have := hdb.labels l hl
      have : l.recordId = db.lastId + 1 := hid
      omega
    · rw [happend, rowOf, hr.timestamp]
      rfl

/-! ### Batches -/

/-- The records of a batch in their collection. -/
def batch (collection : String) (rs : List Record) : History := rs.map fun r => (collection, r)

theorem distinct_batch {floats : Float → String} {given : List LooseRecord} {rs : List Record}
    (h : List.Forall₂ (LooseRecord.HeldAs floats) given rs) (collection : String) : ∀ e ∈ batch collection rs, e.2.DistinctLabels := by
  intro e he
  obtain ⟨r, hr, rfl⟩ := List.mem_map.mp he
  obtain ⟨_, -, hheld⟩ := exists_of_mem_left h.flip hr
  exact hheld.distinct

/-- Records are added one after the other exactly if each of them can be held.  The induction is on the records. -/
theorem Sound.addRecords_eq_ok (hdb : db.Sound) {given : List LooseRecord} :
    given.foldlM (addRecord collection) db = .ok db' ↔
      ∃ rs, List.Forall₂ (LooseRecord.HeldAs db.floats) given rs ∧ db' = db.append (batch collection rs) := by
  induction given generalizing db with
  | nil =>
    have hnil : db.append [] = db := by
      show Relational.mk (db.rows ++ []) (db.labels ++ []) db.lastId db.floats = db
      rw [List.append_nil, List.append_nil]
    constructor
    · intro h
      cases h
      exact ⟨[], .nil, hnil.symm⟩
    · rintro ⟨rs, hrs, rfl⟩
      cases hrs
      exact congrArg Except.ok hnil.symm
  | cons g given ih =>
    rw [List.foldlM_cons, bind_eq_ok]
    constructor
    · rintro ⟨db₁, hfirst, hrest⟩
      obtain ⟨r, hr, rfl⟩ := hdb.addRecord_eq_ok.mp hfirst
      obtain ⟨rs, hrs, rfl⟩ := (ih (hdb.append _)).mp hrest
      refine ⟨r :: rs, .cons hr hrs, ?_⟩
      rw [append_append]
      rfl
    · rintro ⟨rs, hrs, rfl⟩
      cases hrs with
      | @cons _ r _ rs hr hrs =>
        refine ⟨_, hdb.addRecord_eq_ok.mpr ⟨r, hr, rfl⟩, (ih (hdb.append _)).mpr ⟨rs, hrs, ?_⟩⟩
        rw [append_append]
        rfl

/-- **A batch is inserted exactly if every record of it can be held**, and then the records that hold them stand
behind those that were there. -/
theorem Sound.insert_eq_ok (hdb : db.Sound) {given : List LooseRecord} {n : Nat} :
    db.insert collection given = .ok (db', n) ↔ n = given.length ∧
      ∃ rs, List.Forall₂ (LooseRecord.HeldAs db.floats) given rs ∧ db' = db.append (batch collection rs) := by
  rw [← hdb.addRecords_eq_ok, insert]
  cases given.foldlM (addRecord collection) db with
  | error e => exact ⟨nofun, nofun⟩
  | ok db₁ =>
    constructor
    · intro h
      cases h
      exact ⟨rfl, rfl⟩
    · rintro ⟨rfl, h⟩
      cases h
      rfl

/-- A batch of records of texts is inserted into the tables of a history. -/
theorem insert_tables (h : History) (collection : String) {rs : List Record} (hrs : ∀ r ∈ rs, r.DistinctLabels) :
    (tables h).insert collection (rs.map LooseRecord.ofRecord) =
      .ok (tables (h ++ rs.map fun r => (collection, r)), rs.length) := by
  rw [← empty_append, ← empty_append, ← append_append]
  have hheld : List.Forall₂ (LooseRecord.HeldAs (empty.append h).floats) (rs.map LooseRecord.ofRecord) rs := by
    rw [List.forall₂_map_left_iff]
    exact List.forall₂_same.mpr fun r hr => heldAs_ofRecord _ (hrs r hr)
  exact (sound_empty.append h).insert_eq_ok.mpr ⟨(List.length_map _).symm, rs, hheld, rfl⟩

end Relational

end ComplianceHistory
