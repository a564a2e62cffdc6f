import ComplianceHistory.Proofs.RecordFile
import ComplianceHistory.Proofs.Time.Limits

/-!
# Files that give no records

A file gives one record for each of its documents, or the failure of the first one that is no record
(`RecordFile.recordsFrom_of_fault`).  Nearly all failures say that the file or a record in it is not valid, and those of
a record name it by its number.  Two kinds of objects break the reading off instead (`Record.BreaksOff`): those with a
label that is named by a list or an object, and those with an instant that cannot be held (`Time.IsBeyond`).
-/

namespace ComplianceHistory

open Value

/-- Whether a failure says that a file of records, or a record in it, is not valid. -/
def RecordFileError.isInvalid : RecordFileError → Bool
  | file _ => false
  | record _ e => e.isInvalid
  | _ => true

namespace Record

variable {stream : String}

/-! ### Lists of labels -/

/-- An item of a list of labels: an object with a name, which can be a key, and with a value. -/
def IsLabel (item : Value) : Prop := ∃ fields name value, item = .object fields ∧
  Entries.get? fields "name" = some name ∧ Entries.get? fields "value" = some value ∧ name.isKey = true

/-- An item that has a name and a value, but is named by a list or an object. -/
def IsMisnamed (item : Value) : Prop := ∃ fields name value, item = .object fields ∧
  Entries.get? fields "name" = some name ∧ Entries.get? fields "value" = some value ∧ name.isKey = false

theorem exists_labelItem (stream : String) {item : Value} (h : IsLabel item) : ∃ l, labelItem stream item = .ok l := by
  obtain ⟨fields, name, value, rfl, hname, hvalue, hkey⟩ := h
  refine ⟨(name, value), ?_⟩
  rw [labelItem, hname, hvalue]
  exact if_pos hkey

theorem labelItem_misnamed (stream : String) {item : Value} (h : IsMisnamed item) :
    labelItem stream item = .error (.misuse .wrongKind) := by
  obtain ⟨fields, name, value, rfl, hname, hvalue, hkey⟩ := h
  rw [labelItem, hname, hvalue]
  exact if_neg (by rw [hkey]; exact Bool.false_ne_true)

/-- An item is a label, or is misnamed, or does not have both a name and a value. -/
theorem labelItem_cases (stream : String) (item : Value) : IsLabel item ∨ IsMisnamed item ∨
    labelItem stream item = .error (.badLabel stream item.inspect) := by
  cases item with
  | object fields =>
    cases hname : Entries.get? fields "name" with
    | none =>
      refine .inr (.inr ?_)
      rw [labelItem, hname]
    | some name =>
      cases hvalue : Entries.get? fields "value" with
      | none =>
        refine .inr (.inr ?_)
        rw [labelItem, hname, hvalue]
      | some value =>
        cases hkey : name.isKey with
        | true => exact .inl ⟨fields, name, value, rfl, hname, hvalue, hkey⟩
        | false => exact .inr (.inl ⟨fields, name, value, rfl, hname, hvalue, hkey⟩)
  | _ => exact .inr (.inr rfl)

theorem isLabel_of_labelItem {item : Value} {l : Value × Value} (h : labelItem stream item = .ok l) :
    IsLabel item := by
  rcases labelItem_cases stream item with hlabel | hmisnamed | hbad
  · exact hlabel
  · cases (labelItem_misnamed stream hmisnamed).symm.trans h
  · cases hbad.symm.trans h

/-- A list of labels is read to its end. -/
theorem exists_labelItems (stream : String) {items : List Value} (h : ∀ i ∈ items, IsLabel i)
    (before : List (Value × Value)) :
    ∃ es, labelItems stream before items = .ok es := by
  induction items generalizing before with
  | nil => exact ⟨before, rfl⟩
  | cons item items ih =>
    obtain ⟨⟨k, v⟩, hitem⟩ := exists_labelItem stream (h item List.mem_cons_self)
    rw [labelItems, hitem]
    exact ih (fun i hi => h i (List.mem_cons_of_mem item hi)) _

/-- The first item that is no label decides how the reading of a list fails. -/
theorem labelItems_of_fault {front behind : List Value} {item : Value} {e : RecordError}
    (hfront : ∀ i ∈ front, IsLabel i) (hitem : labelItem stream item = .error e) (before : List (Value × Value)) :
    labelItems stream before (front ++ item :: behind) = .error e := by
  induction front generalizing before with
  | nil => rw [List.nil_append, labelItems, hitem]
  | cons first front ih =>
    obtain ⟨⟨k, v⟩, hfirst⟩ := exists_labelItem stream (hfront first List.mem_cons_self)
    rw [List.cons_append, labelItems, hfirst]
    exact ih (fun i hi => hfront i (List.mem_cons_of_mem first hi)) _

/-- A list of labels of which the first item that is no label is misnamed. -/
def HasMisnamed (v : Value) : Prop := ∃ front item behind, v = .array (front ++ item :: behind) ∧
  (∀ i ∈ front, IsLabel i) ∧ IsMisnamed item

theorem labelsOf_misnamed {v : Value} (h : HasMisnamed v) (stream : String) :
    labelsOf stream v = .error (.misuse .wrongKind) := by
  obtain ⟨front, item, behind, rfl, hfront, hitem⟩ := h
  have hgiven : isTruthy (.array (front ++ item :: behind)) = true := by cases front <;> rfl
  have hitems : labelItems stream [] (front ++ item :: behind) = .error (.misuse .wrongKind) :=
    labelItems_of_fault hfront (labelItem_misnamed stream hitem) []
  unfold labelsOf
  rw [hgiven]
  simp only [Bool.not_true, Bool.false_eq_true, if_false, hitems]
  rfl

/-- Labels that cannot be read are refused as invalid, unless a name among them is to blame. -/
theorem misnamed_or_isInvalid {v : Value} {e : RecordError} (h : labelsOf stream v = .error e) :
    HasMisnamed v ∨ e.isInvalid = true := by
  unfold labelsOf at h
  split at h
  · cases h
  · split at h
    · rename_i items _
      rcases exists_first_fault (labelItem stream) items with ⟨ls, hls⟩ | ⟨front, item, behind, e', rfl, hfront, hitem⟩
      · have hlabels : ∀ i ∈ items, IsLabel i := fun i hi =>
          let ⟨_, _, hl⟩ := exists_of_mem_left hls hi
          isLabel_of_labelItem hl
        obtain ⟨es, hes⟩ := exists_labelItems stream hlabels []
        rw [hes] at h
        cases h
      · have hlabels : ∀ i ∈ front, IsLabel i := fun i hi => let ⟨_, hl⟩ := hfront i hi; isLabel_of_labelItem hl
        rw [labelItems_of_fault hlabels hitem] at h
        cases h
        rcases labelItem_cases stream item with hlabel | hmisnamed | hbad
        · obtain ⟨l, hl⟩ := exists_labelItem stream hlabel
          cases hl.symm.trans hitem
        · exact .inl ⟨front, item, behind, rfl, hlabels, hmisnamed⟩
        · cases hbad.symm.trans hitem
          exact .inr rfl
    · cases h
    · cases h
      exact .inr rfl

/-! ### Objects -/

/-- An object that is not refused as an invalid record, although it is none: its list of labels has a misnamed item, or
its labels are fine and its instant cannot be held. -/
inductive BreaksOff : Value → Prop where
  | label {fields : Entries Value} {stream time : Value} (hstream : firstGiven? fields streamNames = some stream)
      (htime : firstGiven? fields timestampNames = some time) (hlabels : HasMisnamed (member fields "labels")) :
      BreaksOff (.object fields)
  | instant {fields : Entries Value} {stream time : Value} {labels : Entries String}
      (hstream : firstGiven? fields streamNames = some stream) (htime : firstGiven? fields timestampNames = some time)
      (hlabels : labelsOf stream.display (member fields "labels") = .ok labels) (hbeyond : Time.IsBeyond time) :
      BreaksOff (.object fields)

theorem ofFields_of_breaksOff {fields : Entries Value} (h : BreaksOff (.object fields)) :
    ∃ e, ofFields fields = .error e ∧ e.isInvalid = false := by
  cases h with
  | label hstream htime hlabels =>
    refine ⟨.misuse .wrongKind, ?_, rfl⟩
    simp only [ofFields, hstream, htime, labelsOf_misnamed hlabels]
  | instant hstream htime hlabels hbeyond =>
    obtain ⟨e, ht, he⟩ := Time.timestamp_isOutOfRange_iff.mpr hbeyond
    refine ⟨.timestamp e, ?_, ?_⟩
    · simp only [ofFields, hstream, htime, hlabels, ht]
    · show (!e.isOutOfRange) = false
      rw [he]
      rfl

theorem breaksOff_or_isInvalid {fields : Entries Value} {e : RecordError} (h : ofFields fields = .error e) :
    BreaksOff (.object fields) ∨ e.isInvalid = true := by
  unfold ofFields at h
  split at h
  · cases h
    exact .inr rfl
  · rename_i stream hstream
    split at h
    · cases h
      exact .inr rfl
    · rename_i time htime
      split at h
      · rename_i hlabels
        cases h
        exact (misnamed_or_isInvalid hlabels).imp_left fun hmisnamed => .label hstream htime hmisnamed
      · rename_i labels hlabels
        split at h
        · rename_i e' ht
          cases h
          cases he : e'.isOutOfRange with
          | true => exact .inl (.instant hstream htime hlabels (Time.timestamp_isOutOfRange_iff.mp ⟨e', ht, he⟩))
          | false =>
            refine .inr ?_
            show (!e'.isOutOfRange) = true
            rw [he]
            rfl
        · cases h

/-- The fault of an object is that of an invalid record exactly if the object does not break the reading off. -/
theorem isInvalid_iff {fields : Entries Value} {e : RecordError} (h : ofFields fields = .error e) :
    e.isInvalid = true ↔ ¬BreaksOff (.object fields) := by
  constructor
  · intro he hbreak
    obtain ⟨e', h', he'⟩ := ofFields_of_breaksOff hbreak
    cases h.symm.trans h'
    rw [he] at he'
    cases he'
  · exact (breaksOff_or_isInvalid h).resolve_left

/-- A fault of an invalid record has a wording. -/
theorem exists_message {e : RecordError} (h : e.isInvalid = true) : ∃ m, e.message? = some m := by
  cases e with
  | misuse m => cases h
  | _ => exact ⟨_, rfl⟩

end Record

namespace RecordFile

/-! ### Documents -/

theorem message_notObject (index : Nat) : (RecordFileError.notObject index).message? =
    some ("Record " ++ toString index ++ ": " ++ "must be a JSON object") := by
  have hwording : (": must be a JSON object" : String) = ": " ++ "must be a JSON object" := by decide
  rw [String.append_assoc, ← hwording]
  rfl

/-- The fault that a document is reported with under a number, if it is no record. -/
theorem exists_fault_of_document {v : Value} (hv : ∀ r, Record.ofValue v ≠ .ok r) (index : Nat) (vs : List Value) :
    ∃ e, recordsFrom index (v :: vs) = .error e ∧ (e.isInvalid = true ↔ ¬Record.BreaksOff v) ∧
      (e.isInvalid = true → ∃ m, e.message? = some ("Record " ++ toString index ++ ": " ++ m)) := by
  cases v with
  | object fields =>
    cases hread : Record.ofFields fields with
    | ok r => exact absurd hread (hv r)
    | error e =>
      refine ⟨.record index e, ?_, Record.isInvalid_iff hread, fun he => ?_⟩
      · rw [recordsFrom, hread]
      · obtain ⟨m, hm⟩ := Record.exists_message he
        refine ⟨m, ?_⟩
        have he : e.isInvalid = true := he
        simp only [RecordFileError.message?, hm, he, if_true, Option.map_some]
  | _ =>
    refine ⟨.notObject index, rfl, iff_of_true rfl fun hbreak => ?_, fun _ => ⟨_, message_notObject index⟩⟩
    cases hbreak

/-- The first document that is no record decides how the reading fails. -/
theorem recordsFrom_of_fault {before behind : List Value} {v : Value} {e : RecordFileError} {index : Nat}
    (hbefore : ∀ b ∈ before, ∃ r, Record.ofValue b = .ok r)
    (hv : recordsFrom (index + before.length) (v :: behind) = .error e) :
    recordsFrom index (before ++ v :: behind) = .error e := by
  induction before generalizing index with
  | nil => exact hv
  | cons b before ih =>
    obtain ⟨r, hr⟩ := hbefore b List.mem_cons_self
    cases b with
    | object fields =>
      have hrest : recordsFrom (index + 1) (before ++ v :: behind) = .error e := by
        refine ih (fun b hb => hbefore b (List.mem_cons_of_mem _ hb)) ?_
        rw [← hv, List.length_cons]
        congr 1
        omega
      have hr : Record.ofFields fields = .ok r := hr
      rw [List.cons_append, recordsFrom, hr]
      simp only [hrest]
      rfl
    | _ => cases hr

/-- Lines that cannot be read are not valid. -/
theorem isInvalid_of_lineDocuments {number : Nat} {lines : List (List Char)} {e : RecordFileError}
    (h : lineDocuments number lines = .error e) : e.isInvalid = true := by
  induction lines generalizing number with
  | nil => cases h
  | cons line lines ih =>
    unfold lineDocuments at h
    split at h
    · exact ih h
    · split at h
      · cases h
        rfl
      · cases hlines : lineDocuments (number + 1) lines with
        | error e' =>
          rw [hlines] at h
          cases h
          exact ih hlines
        | ok vs =>
          rw [hlines] at h
          cases h

/-- A text that cannot be read is not valid. -/
theorem isInvalid_of_documents {text : List Char} {e : RecordFileError} (h : documents text = .error e) :
    e.isInvalid = true := by
  unfold documents at h
  split at h
  · cases h
  · split at h
    · cases h
      rfl
    · cases h
    · cases h
  · exact isInvalid_of_lineDocuments h

/-- The records of a file are those of its text. -/
theorem load_of_read {fs : Files} {path : String} {text : List Char} (h : fs.read path (plainPath path) = .ok text) :
    load fs path = records text := by
  have hhas : fs.has path = true := by
    unfold Files.read at h
    split at h
    · rename_i t htext
      rw [Files.has, htext, Option.isSome_some, Bool.or_true]
    · split at h
      · cases h
      · split at h <;> cases h
  rw [load, hhas, h]
  rfl

/-- **What a file of records gives.**  Nothing is at the path, and the file is reported as missing; or its text cannot
be read, and it is reported as invalid; or it gives one record for each of its documents; or there is a first document
that is no record.  That one is reported as invalid by its number, exactly if it does not break the reading off. -/
theorem load_reports {fs : Files} {path : String} (hfile : fs.isDirectory path = false) :
    (fs.text? path = none ∧ load fs path = .error (.notFound path)) ∨
    ∃ text, fs.text? path = some text ∧
      ((∃ e, documents (Text.plainLines text.toList) = .error e ∧ load fs path = .error e ∧ e.isInvalid = true) ∨
      ∃ vs, documents (Text.plainLines text.toList) = .ok vs ∧
        ((∃ rs, load fs path = .ok rs ∧ List.Forall₂ (fun v r => Record.ofValue v = .ok r) vs rs) ∨
        ∃ before v behind e, vs = before ++ v :: behind ∧ (∀ b ∈ before, ∃ r, Record.ofValue b = .ok r) ∧
          (∀ r, Record.ofValue v ≠ .ok r) ∧ load fs path = .error e ∧
          (e.isInvalid = true ↔ ¬Record.BreaksOff v) ∧
          (e.isInvalid = true → ∃ m, e.message? = some ("Record " ++ toString before.length ++ ": " ++ m)))) := by
  cases htext : fs.text? path with
  | none =>
    refine .inl ⟨rfl, ?_⟩
    rw [load, Files.has, hfile, htext]
    rfl
  | some text =>
    refine .inr ⟨text, rfl, ?_⟩
    have hread : fs.read path (plainPath path) = .ok (Text.plainLines text.toList) := by rw [Files.read, htext]
    rw [load_of_read hread, records]
    cases hdocuments : documents (Text.plainLines text.toList) with
    | error e => exact .inl ⟨e, rfl, rfl, isInvalid_of_documents hdocuments⟩
    | ok vs =>
      refine .inr ⟨vs, rfl, ?_⟩
      rcases exists_first_fault Record.ofValue vs with ⟨rs, hrs⟩ | ⟨before, v, behind, fault, rfl, hbefore, hv⟩
      · exact .inl ⟨rs, recordsFrom_eq_ok.mpr hrs, hrs⟩
      · have hnone : ∀ r, Record.ofValue v ≠ .ok r := fun r hr => by cases hv.symm.trans hr
        obtain ⟨e, he, hkind, hmessage⟩ := exists_fault_of_document hnone before.length behind
        rw [← Nat.zero_add before.length] at he
        exact .inr ⟨before, v, behind, e, rfl, hbefore, hnone, recordsFrom_of_fault hbefore he, hkind, hmessage⟩

/-- A record on the first line, and an object without an instant on the second one. -/
def secondUndated : Files where
  texts := [("records.txt", "\x7b\"streamId\": \"s\", \"ts\": 60\x7d\n\x7b\"streamId\": \"s\"\x7d")]

/-- The object is reported by its number. -/
theorem load_secondUndated : secondUndated.isDirectory "records.txt" = false ∧
    load secondUndated "records.txt" = .error (.record 1 (.noTimestamp "s")) ∧
    ∃ text before v behind m, secondUndated.text? "records.txt" = some text ∧
      documents (Text.plainLines text.toList) = .ok (before ++ v :: behind) ∧
      (∀ b ∈ before, ∃ r, Record.ofValue b = .ok r) ∧ ¬Record.BreaksOff v ∧
      (RecordFileError.record 1 (.noTimestamp "s")).message? =
        some ("Record " ++ toString before.length ++ ": " ++ m) := by
  have hfile : secondUndated.isDirectory "records.txt" = false := by decide +kernel
  have hload : load secondUndated "records.txt" = .error (.record 1 (.noTimestamp "s")) := by decide +kernel
  refine ⟨hfile, hload, ?_⟩
  obtain ⟨-, hmissing⟩ | ⟨text, htext, ⟨e, he, -, -⟩ | ⟨vs, hvs, ⟨rs, hrs, -⟩ |
    ⟨before, v, behind, e, rfl, hbefore, -, he, hkind, hmessage⟩⟩⟩ := load_reports hfile
  · cases hload.symm.trans hmissing
  · have hread : (secondUndated.text? "records.txt").all fun t => (documents (Text.plainLines t.toList)).isOk := by
      decide +kernel
    rw [htext, Option.all_some, he] at hread
    cases hread
  · cases hload.symm.trans hrs
  · cases hload.symm.trans he
    obtain ⟨m, hm⟩ := hmessage rfl
    exact ⟨text, before, v, behind, m, htext, hvs, hbefore, hkind.mp rfl, hm⟩

/-- An instant in front of the first one of the calendar. -/
def early : Files where
  texts := [("records.txt", "\x7b\"streamId\": \"s\", \"ts\": \"0001-01-01T00:00:00+01:00\"\x7d")]

/-- A label that is named by a list. -/
def misnamed : Files where
  texts := [("records.txt",
    "\x7b\"streamId\": \"s\", \"ts\": 60, \"labels\": [\x7b\"name\": [], \"value\": 1\x7d]\x7d")]

/-- These two files give neither a record nor a report that they are invalid. -/
theorem not_reported :
    (early.isDirectory "records.txt" = false ∧
      load early "records.txt" = .error (.record 0 (.timestamp (.field .range))) ∧
      (RecordFileError.record 0 (.timestamp (.field .range))).isInvalid = false) ∧
    misnamed.isDirectory "records.txt" = false ∧
      load misnamed "records.txt" = .error (.record 0 (.misuse .wrongKind)) ∧
      (RecordFileError.record 0 (.misuse .wrongKind)).isInvalid = false :=
  ⟨⟨by decide +kernel, by decide +kernel, rfl⟩, by decide +kernel, by decide +kernel, rfl⟩

end RecordFile

end ComplianceHistory
