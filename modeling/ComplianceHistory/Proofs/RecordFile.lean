import ComplianceHistory.Proofs.Json.RoundTrip
import ComplianceHistory.Proofs.Record
import ComplianceHistory.RecordFile

/-!
# Files of records

The records of a file are those of its documents, one for each and in their order (`recordsFrom_eq_ok`).  So a file with
the list of what an answer shows of records is read as these records (`load_list`).
-/

namespace ComplianceHistory

open Json

variable {P : Float → Prop}

/-- A text can hold a record whose labels have different names. -/
theorem Record.expressible_toValue {r : Record} (h : r.DistinctLabels) : Expressible P r.toValue := by
  have hid : Expressible P (optionalText r.id) := by
    cases r.id with
    | none => exact .null
    | some id => exact .string id
  have hlabels : Expressible P (labelsValue r.labels) := by
    refine .object ?_ fun f hf => ?_
    · rw [Entries.keys_mapValues]
      exact h
    · obtain ⟨l, -, rfl⟩ := List.mem_map.mp hf
      exact .string l.2
  refine .object (by simp) fun f hf => ?_
  simp only [List.mem_cons, List.not_mem_nil, or_false] at hf
  rcases hf with rfl | rfl | rfl | rfl | rfl | rfl
  · exact hid
  · exact .string _
  · exact .string _
  · exact .string _
  · exact .string _
  · exact hlabels

namespace RecordFile

/-- The records are those of the documents, one for each and in their order. -/
theorem recordsFrom_eq_ok {index : Nat} {vs : List Value} {rs : List Record} :
    recordsFrom index vs = .ok rs ↔ List.Forall₂ (fun v r => Record.ofValue v = .ok r) vs rs := by
  induction vs generalizing index rs with
  | nil =>
    rw [recordsFrom, List.forall₂_nil_left_iff]
    exact ⟨fun h => (Except.ok.inj h).symm, fun h => congrArg Except.ok h.symm⟩
  | cons v vs ih =>
    rw [List.forall₂_cons_left_iff]
    cases v with
    | object fields =>
      have hread : Record.ofValue (.object fields) = Record.ofFields fields := rfl
      rw [recordsFrom]
      simp only [hread]
      cases Record.ofFields fields with
      | error e =>
        constructor
        · intro h
          cases h
        · rintro ⟨_, _, h, -⟩
          cases h
      | ok r =>
        constructor
        · intro h
          obtain ⟨rest, hrest, rfl⟩ := map_eq_ok.mp h
          exact ⟨r, rest, rfl, ih.mp hrest, rfl⟩
        · rintro ⟨r', rest, hr, hrest, rfl⟩
          obtain rfl := Except.ok.inj hr
          exact map_eq_ok.mpr ⟨rest, ih.mpr hrest, rfl⟩
    | _ =>
      constructor
      · intro h
        rw [recordsFrom] at h
        · cases h
        · exact nofun
      · rintro ⟨_, _, h, -⟩
        cases h

/-- The documents of a file with a list are its items. -/
theorem documents_list {l : Layout} {vs : List Value} (hl : l.Spaced) (hbreak : ∀ level, '\r' ∉ l.break level)
    (hvs : ∀ v ∈ vs, Expressible Lossless v) :
    documents (Text.plainLines (write l (.array vs)).toList) = .ok vs := by
  have hread : Json.read (String.ofList (render l 0 (.array vs))) = .ok (.array vs) := read_write hl (.array hvs)
  obtain ⟨middle, hmiddle⟩ := exists_render_array l 0 vs
  unfold documents
  rw [trim_plainLines_write hbreak hvs]
  rw [hmiddle] at hread ⊢
  simp only [hread]

/-- **A file with the list of what an answer shows of records is read as these records.** -/
theorem load_list {fs : Files} {path : String} {l : Layout} {rs : List Record} (hl : l.Spaced)
    (hbreak : ∀ level, '\r' ∉ l.break level) (hrs : ∀ r ∈ rs, r.DistinctLabels)
    (htext : fs.text? path = some (write l (.array (rs.map Record.toValue)))) : load fs path = .ok rs := by
  have hexpressible : ∀ v ∈ rs.map Record.toValue, Expressible Lossless v := by
    intro v hv
    obtain ⟨r, hr, rfl⟩ := List.mem_map.mp hv
    exact Record.expressible_toValue (hrs r hr)
  have hrecords : recordsFrom 0 (rs.map Record.toValue) = .ok rs := by
    rw [recordsFrom_eq_ok, List.forall₂_map_left_iff, List.forall₂_same]
    exact fun r _ => Record.ofValue_toValue r
  have hhas : fs.has path = true := by rw [Files.has, htext, Option.isSome_some, Bool.or_true]
  have hread : fs.read path (plainPath path) =
      .ok (Text.plainLines (write l (.array (rs.map Record.toValue))).toList) := by
    rw [Files.read, htext]
  rw [load, hhas, hread]
  simp only [Bool.not_true, Bool.false_eq_true, if_false, records, documents_list hl hbreak hexpressible, hrecords]

end RecordFile

end ComplianceHistory
