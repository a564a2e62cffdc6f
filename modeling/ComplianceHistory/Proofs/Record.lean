import ComplianceHistory.Proofs.Time.RoundTrip
import ComplianceHistory.Record

/-!
# Records that were read

The labels of a record that was read have different names, whether they were given as an object or as a list of
names and values (`Record.distinctLabels_of_ofValue`).  What an answer shows of a record is read as the record, and so
is what a store keeps of it (`Record.ofValue_forms`).
-/

namespace ComplianceHistory

namespace Value

mutual

/-- No object in a value has two members of one name. -/
def distinct : Value → Bool
  | array xs => distinctAll xs
  | object fs => decide (Keyed.keys fs).Nodup && distinctFields fs
  | _ => true

/-- No object in a list of values has two members of one name. -/
def distinctAll : List Value → Bool
  | [] => true
  | x :: xs => distinct x && distinctAll xs

/-- No object in the members of an object has two members of one name. -/
def distinctFields : List (String × Value) → Bool
  | [] => true
  | (_, x) :: fs => distinct x && distinctFields fs

end

theorem distinct_of_mem {fs : List (String × Value)} (h : distinctFields fs = true) {f : String × Value}
    (hf : f ∈ fs) : f.2.distinct = true := by
  induction fs with
  | nil => cases hf
  | cons g fs ih =>
    rw [distinctFields, Bool.and_eq_true] at h
    rcases List.mem_cons.mp hf with rfl | hf
    · exact h.1
    · exact ih h.2 hf

theorem distinct_member {fs : Entries Value} (h : (object fs).distinct = true) (name : String) :
    (member fs name).distinct = true := by
  rw [distinct, Bool.and_eq_true] at h
  unfold member
  cases hv : fs.get? name with
  | none => simp [distinct]
  | some v => exact distinct_of_mem h.2 (Keyed.mem_of_get? hv)

theorem nodup_of_distinct {fs : Entries Value} (h : (object fs).distinct = true) : (Keyed.keys fs).Nodup := by
  rw [distinct, Bool.and_eq_true, decide_eq_true_eq] at h
  exact h.1

end Value

namespace Record

open Value

/-- The names of the labels are different. -/
def DistinctLabels (r : Record) : Prop := (Keyed.keys r.labels).Nodup

theorem nodup_labelsOf {stream : String} {v : Value} {labels : Entries String} (hv : v.distinct = true)
    (h : labelsOf stream v = .ok labels) : (Keyed.keys labels).Nodup := by
  unfold labelsOf at h
  split at h
  · cases h
    exact List.nodup_nil
  · split at h
    · rename_i items _
      cases hitems : labelItems stream [] items with
      | error e =>
        rw [hitems] at h
        cases h
      | ok es =>
        rw [hitems] at h
        cases h
        exact Entries.nodup_keys_ofList _
    · cases h
      rw [Entries.keys_mapValues]
      exact nodup_of_distinct hv
    · cases h

/-- **The labels of a record that was read have different names.** -/
theorem distinctLabels_of_ofValue {v : Value} {r : Record} (hv : v.distinct = true) (h : ofValue v = .ok r) :
    r.DistinctLabels := by
  cases v with
  | object fields =>
    have hlabels := distinct_member hv "labels"
    rw [ofValue, ofFields] at h
    split at h
    · cases h
    · split at h
      · cases h
      · split at h
        · cases h
        · rename_i labels hl
          split at h
          · cases h
          · cases h
            exact nodup_labelsOf hlabels hl
  | _ => cases h

theorem labelsOf_labelsValue (stream : String) (labels : Entries String) :
    labelsOf stream (labelsValue labels) = .ok labels := by
  have hdisplay : Entries.mapValues display (Entries.mapValues .string labels) = labels := by
    unfold Entries.mapValues
    rw [List.map_map]
    exact List.map_id _
  cases labels with
  | nil => rfl
  | cons l labels => exact congrArg Except.ok hdisplay

/-- An object that gives a stream, an instant and labels is read as a record. -/
theorem ofFields_of_given (fields : Entries Value) (stream : Value) {time : Value} {labels : Entries String}
    {t : Time.Instant} (hstream : firstGiven? fields streamNames = some stream)
    (htime : firstGiven? fields timestampNames = some time)
    (hlabels : labelsOf stream.display (member fields "labels") = .ok labels) (ht : Time.timestamp time = .ok t) :
    ofFields fields = .ok ⟨stream.display, t, statusText fields, textOf fields "title", labels, idOf fields⟩ := by
  rw [ofFields, hstream]
  simp only [htime, hlabels, ht]

/-- **What an answer shows of a record is read as the record.** -/
theorem ofValue_toValue (r : Record) : ofValue r.toValue = .ok r := by
  obtain ⟨stream, t, status, title, labels, id⟩ := r
  have hlabels := labelsOf_labelsValue stream labels
  have ht : Time.timestamp (.string t.text) = .ok t := Time.ofText_text t
  have hread := ofFields_of_given [("id", optionalText id), ("streamId", .string stream), ("timestamp", .string t.text),
    ("status", .string status), ("title", .string title), ("labels", labelsValue labels)] (.string stream) rfl rfl
    hlabels ht
  rw [toValue, ofValue, hread]
  cases id <;> rfl

/-- What a store keeps of a record is read as the record: the instant is there as it is, and the state in an object. -/
theorem ofValue_document (r : Record) : ofValue (.object r.document) = .ok r := by
  obtain ⟨stream, t, status, title, labels, id⟩ := r
  have hlabels := labelsOf_labelsValue stream labels
  have hread := ofFields_of_given [("_id", optionalText id), ("streamId", .string stream), ("collected", .moment t),
    ("status", .object [("state", .string status)]), ("title", .string title), ("labels", labelsValue labels)]
    (.string stream) rfl rfl hlabels rfl
  rw [document, ofValue, hread]
  cases id <;> rfl

/-- **Both forms of a record are read as the record**, what an answer shows of it and what a store keeps of it,
whatever its instant, its labels and its texts are and whether or not it has an identity. -/
theorem ofValue_forms (r : Record) : ofValue r.toValue = .ok r ∧ ofValue (.object r.document) = .ok r :=
  ⟨r.ofValue_toValue, r.ofValue_document⟩

end Record

end ComplianceHistory
