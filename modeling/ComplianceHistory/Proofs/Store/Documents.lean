import ComplianceHistory.Proofs.Filter.Compilation
import ComplianceHistory.Store.Basic

/-!
# Filters in the store of documents

A filter becomes a document query whose names are made of the names of labels.  The mark in front of them
keeps every label apart from `$and`, `$or` and all other names with a meaning of their own
(`fieldAt_label`), and is taken off again as a whole, so that points in the name of a label separate nothing.
So the evaluation of a compiled filter never fails and tells what the filter means
(`DocumentQuery.form_sound`), and the store answers with the records that the filter matches
(`Store.question_memory`).
-/

namespace ComplianceHistory

namespace DocumentQuery

open Value

variable (r : Record)

/-! ### Names of labels -/

/-- The name of a label in a query. -/
def labelName (label : String) : String := String.ofList (labelMark ++ label.toList)

theorem toList_labelName (label : String) : (labelName label).toList = labelMark ++ label.toList :=
  String.toList_ofList

theorem labelName_head? (label : String) : (labelName label).toList.head? = some 'l' := by
  rw [toList_labelName]
  rfl

theorem labelName_ne {label name : String} (h : name.toList.head? = some '$') : labelName label ≠ name := by
  rintro rfl
  rw [labelName_head?] at h
  cases h

/-- The field of a label's name is the label, whatever its characters. -/
theorem fieldAt_label (label : String) :
    fieldAt r.document (labelName label) = ((r.labels.get? label).map Value.string).getD .null := by
  have hmark : labelMark.isPrefixOf (labelMark ++ label.toList) = true :=
    List.isPrefixOf_iff_prefix.mpr (List.prefix_append _ _)
  have hlabels : member r.document "labels" = Record.labelsValue r.labels := rfl
  unfold fieldAt
  simp only [toList_labelName, hmark, if_true, hlabels, List.drop_left, String.ofList_toList]
  show (Entries.get? (r.labels.mapValues Value.string) label).getD .null = _
  rw [Entries.get?_mapValues]

/-! ### Evaluation -/

theorem matches?_single (document : Entries Value) (m : String × Value) :
    matches? document (.object [m]) = memberMatches? document m := by
  rw [matches?, membersMatch?]
  cases memberMatches? document m with
  | error e => rfl
  | ok b => cases b <;> rfl

theorem memberMatches?_label (label : String) (expected : Value) :
    memberMatches? r.document (labelName label, expected) =
      fieldMatches (((r.labels.get? label).map Value.string).getD .null) expected := by
  rw [memberMatches?, if_neg (labelName_ne rfl), if_neg (labelName_ne rfl), labelName_head?, fieldAt_label]
  rfl

theorem same_string (v : Option String) (s : String) :
    same ((v.map Value.string).getD .null) (.string s) = decide (v = some s) := by
  cases v with
  | none => rfl
  | some t =>
    show (t == s) = decide (some t = some s)
    simp [beq_eq_decide]

theorem matches?_compare (c : Comparison) (label value : String) :
    matches? r.document (form.compare c label value) = .ok (c.holds r.labels label value) := by
  cases c with
  | equal =>
    show matches? r.document (.object [(labelName label, .string value)]) = _
    rw [matches?_single, memberMatches?_label, fieldMatches, same_string]
    · rfl
    · intro os h
      cases h
  | different =>
    show matches? r.document (.object [(labelName label, .object [("$ne", .string value)])]) = _
    rw [matches?_single, memberMatches?_label, fieldMatches, fieldMeets, if_neg (by decide), if_pos rfl,
      same_string, fieldMeets]
    show _ = Except.ok (decide (r.labels.get? label ≠ some value))
    by_cases h : r.labels.get? label = some value <;> simp [h]

theorem allOf?_eq {document : Entries Value} {qs : List Value} {bs : List Bool}
    (h : List.Forall₂ (fun q b => matches? document q = .ok b) qs bs) :
    allOf? document qs = .ok (bs.all id) := by
  induction h with
  | nil => rfl
  | @cons q b qs bs hq _ ih =>
    rw [allOf?, hq]
    cases b with
    | true => exact ih
    | false => rfl

theorem anyOf?_eq {document : Entries Value} {qs : List Value} {bs : List Bool}
    (h : List.Forall₂ (fun q b => matches? document q = .ok b) qs bs) :
    anyOf? document qs = .ok (bs.any id) := by
  induction h with
  | nil => rfl
  | @cons q b qs bs hq _ ih =>
    rw [anyOf?, hq]
    cases b with
    | true => rfl
    | false => exact ih

/-- Document queries are a sound form: their evaluation never fails and means what they say. -/
theorem form_sound : form.Sound r.labels (fun q b => matches? r.document q = .ok b) where
  everything := rfl
  compare := matches?_compare r
  join connective q qs b bs hq hqs := by
    cases connective with
    | and =>
      show matches? r.document (.object [("$and", .array (q :: qs))]) = _
      rw [matches?_single, memberMatches?, if_pos rfl, allMatch?]
      exact allOf?_eq (.cons hq hqs)
    | or =>
      show matches? r.document (.object [("$or", .array (q :: qs))]) = _
      rw [matches?_single, memberMatches?, if_neg (by decide), if_pos rfl, anyMatches?]
      exact anyOf?_eq (.cons hq hqs)

/-- The query for a stream is true of its records. -/
theorem matches?_ofStream (stream : String) :
    matches? r.document (ofStream stream) = .ok (decide (r.streamId = stream)) := by
  have hmark : labelMark.isPrefixOf "streamId".toList = false := by decide
  have hparts : pathParts "streamId".toList = ["streamId".toList] := by decide
  have hfield : fieldAt r.document "streamId" = .string r.streamId := by
    simp only [fieldAt, hmark, hparts]
    rfl
  rw [ofStream, matches?_single, memberMatches?, if_neg (by decide), if_neg (by decide), if_neg (by decide),
    hfield, fieldMatches]
  · show Except.ok (r.streamId == stream) = _
    rw [beq_eq_decide]
  · intro os h
    cases h

end DocumentQuery

namespace Memory

open DocumentQuery

/-- Records are selected one by one if no document is faulty and no evaluation fails. -/
theorem select_eq {rs : List Record} {query : Value} {chosen : Record → Bool}
    (h : ∀ r ∈ rs, matches? r.document query = .ok (chosen r)) :
    select (fun r => .ok (Record.document r)) query rs = .ok (rs.filter chosen) := by
  induction rs with
  | nil => rfl
  | cons r rs ih =>
    simp only [select]
    rw [h r List.mem_cons_self, ih fun r' hr' => h r' (List.mem_cons_of_mem _ hr')]
    show Except.ok (if chosen r then r :: rs.filter chosen else rs.filter chosen) = _
    rw [List.filter_cons]

/-- The store answers a query that is true of some records with those of the collection, if that can be named. -/
theorem answer_within (m : Memory Record) {query : Value} {chosen : Record → Bool}
    (h : ∀ r, matches? r.document query = .ok (chosen r)) (collection : Value) :
    m.answer query collection = (collectionKey collection).map fun name => (m.records name).filter chosen := by
  unfold answer
  cases collectionKey collection with
  | error e => rfl
  | ok name =>
    show (m.find (fun r => .ok r.document) query name).mapError StoreError.query = _
    rw [find, select_eq fun r _ => h r]
    rfl

theorem answer_eq (m : Memory Record) {query : Value} {chosen : Record → Bool}
    (h : ∀ r, matches? r.document query = .ok (chosen r)) (collection : String) :
    m.answer query (.string collection) = .ok ((m.records collection).filter chosen) :=
  m.answer_within h (.string collection)

end Memory

namespace Store

open DocumentQuery

/-- **Filters in memory.**  Under the permissive policy every filter is put into the form of the store; and
whenever a filter is, under either policy, every collection answers with exactly the records that the filter
matches, in the order of the collection. -/
theorem question_memory (policy : Policy) (m : Memory Record) (f : Filter) :
    (policy = .permissive → ∃ q, (Store.mk policy (.memory m)).question (.matching f) = .ok q) ∧
    ∀ q, (Store.mk policy (.memory m)).question (.matching f) = .ok q → ∀ collection timeout,
      q.answer (.string collection) timeout =
        .ok ((m.records collection).filter fun r => f.holds r.labels) := by
  have hq : (Store.mk policy (.memory m)).question (.matching f) =
      (f.compile form policy).map fun t => ⟨t.warnings, fun collection _ => m.answer t.query collection⟩ := rfl
  rw [hq]
  constructor
  · rintro rfl
    obtain ⟨t, ht⟩ := f.compile_permissive form
    rw [ht]
    exact ⟨_, rfl⟩
  · intro q h collection timeout
    cases ht : f.compile form policy with
    | error u => rw [ht] at h; cases h
    | ok t =>
      rw [ht] at h
      cases h
      exact m.answer_eq (fun r => f.compile_means (form_sound r) ht) collection

/-- A record that only its labels tell from others. -/
def labelledRecord (labels : Entries String) : Record := ⟨"web", .epoch, "satisfied", "", labels, none⟩

/-- Three records, of which two have labels with a point or a dollar sign in their names. -/
def markedMemory : Memory Record :=
  ⟨[("results", [labelledRecord [("app.tier", "$x"), ("$and", "1")], labelledRecord [("$and", "1")],
    labelledRecord []])]⟩

/-- A filter on such names. -/
def markedFilter : Filter :=
  ⟨some (.query "oR" [.condition ⟨"app.tier", "=", "$x"⟩, .condition ⟨"$and", "!=", "1"⟩])⟩

theorem question_memory_marked :
    ∃ q, (Store.mk .strict (.memory markedMemory)).question (.matching markedFilter) = .ok q ∧
      q.answer (.string "results") .null =
        .ok [labelledRecord [("app.tier", "$x"), ("$and", "1")], labelledRecord []] := by
  have hq : (Store.mk .strict (.memory markedMemory)).question (.matching markedFilter) = .ok _ := rfl
  refine ⟨_, hq, ?_⟩
  rw [(question_memory .strict markedMemory markedFilter).2 _ hq]
  exact congrArg Except.ok (by decide +kernel)

end Store

end ComplianceHistory
