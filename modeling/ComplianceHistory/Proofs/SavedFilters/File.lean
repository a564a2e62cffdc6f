import ComplianceHistory.Proofs.Filter.Texts
import ComplianceHistory.Proofs.Json.Reading
import ComplianceHistory.SavedFilters

/-!
# The file of saved filters

What the file is written with is read back from it (`content_fileText`): the text of a list has nothing in it that
ends a line otherwise than by a line feed, and no blanks at its ends.  What is read from it can be written again
(`isJson_of_content`, `rewrite_eq`), also after an entry got other members; so no operation fails while it writes.
-/

namespace ComplianceHistory

open Json Text Value

variable {P : Float → Prop}

namespace SavedFilters

variable {s : SavedFilters}

/-! ### Reading and writing -/

/-- Nothing in the way, the file holds the text of the value. -/
theorem rewrite_eq {v : Value} (h : Expressible P v) : s.rewrite v = (.ok (), { s with text := fileText v }) := by
  unfold rewrite
  rw [written_eq h]
  rfl

/-! Whatever is written, the mark of the file is left. -/

theorem create_halves (clock : Nat → Time.Instant) (s : SavedFilters) (entry : Entries Value) :
    (s.create clock entry).2.halves = s.halves := by
  unfold create
  split
  · rfl
  split
  · rfl
  dsimp only
  split <;> rfl

theorem update_halves (clock : Nat → Time.Instant) (s : SavedFilters) (id : Value) (updates : Entries Value) :
    (s.update clock id updates).2.halves = s.halves := by
  unfold update
  split <;> rfl

theorem delete_halves (s : SavedFilters) (id : Value) : (s.delete id).2.halves = s.halves := by
  unfold delete
  split
  · rfl
  split <;> rfl

theorem isJson_of_content {v : Value} (h : s.content = .ok v) : IsJson v := by
  unfold content at h
  split at h
  · cases h
    exact .nil
  · exact isJson_of_read (mapError_eq_ok.mp h)

/-- **What the file is written with is read back from it.** -/
theorem content_fileText {xs : List Value} (h : ∀ x ∈ xs, Expressible Lossless x) (readings : Nat) (halves : Bool) :
    content ⟨fileText (.array xs), readings, halves⟩ = .ok (.array xs) := by
  have hvalue : Expressible Lossless (.array xs) := .array h
  have htrim : trim (plainLines (fileText (.array xs)).toList) = render (.blanks 2) 0 (.array xs) :=
    trim_plainLines_write (Layout.not_mem_break_blanks 2) h
  have hread : Json.read (String.ofList (render (.blanks 2) 0 (.array xs))) = .ok (.array xs) :=
    read_write (Layout.spaced_blanks 2) hvalue
  unfold content
  rw [htrim]
  split
  · rename_i hempty
    obtain ⟨middle, hmiddle⟩ := exists_render_array (.blanks 2) 0 xs
    rw [hmiddle] at hempty
    cases hempty
  · rw [hread]
    rfl

/-! ### Entries -/

theorem canonical_eq_ok {document d : Value} :
    canonical document = .ok d ↔ ∃ f, Filter.ofValue document = .ok f ∧ f.toValue = d := by
  unfold canonical
  cases Filter.ofValue document with
  | error e => exact ⟨nofun, nofun⟩
  | ok f => exact ⟨fun h => ⟨f, rfl, by cases h; rfl⟩, fun ⟨_, hf, hd⟩ => by cases hf; cases hd; rfl⟩

theorem expressible_canonical {document d : Value} (h : canonical document = .ok d) : Expressible P d := by
  obtain ⟨f, -, rfl⟩ := canonical_eq_ok.mp h
  exact f.expressible_toValue

theorem expressible_prepared {entry prepared' : Entries Value} (h : Expressible P (.object entry))
    (hprepared : prepared entry = .ok prepared') : Expressible P (.object prepared') := by
  unfold prepared at hprepared
  cases hcanonical : canonical (member entry "filter") with
  | error e => rw [hcanonical] at hprepared; cases hprepared
  | ok d =>
    rw [hcanonical] at hprepared
    have hput := h.put "filter" (expressible_canonical hcanonical)
    cases hprepared
    dsimp only
    split
    · exact hput
    · exact hput.put "controls" .nil

theorem expressible_dated {entry : Entries Value} (now : Time.Instant) (h : Expressible P (.object entry)) :
    Expressible P (.object (dated now entry)) :=
  (h.put "created_at" (.string now.text)).put "updated_at" (.string now.text)

theorem expressible_preparedUpdates {updates updates' : Entries Value} (h : Expressible P (.object updates))
    (hprepared : preparedUpdates updates = .ok updates') : Expressible P (.object updates') := by
  unfold preparedUpdates at hprepared
  split at hprepared
  · cases hprepared
    exact h
  · rename_i document _
    cases hcanonical : canonical document with
    | error e => rw [hcanonical] at hprepared; cases hprepared
    | ok d =>
      rw [hcanonical] at hprepared
      cases hprepared
      exact h.put "filter" (expressible_canonical hcanonical)

theorem expressible_updated {updates members : Entries Value} (now : Time.Instant)
    (hupdates : Expressible P (.object updates)) (hmembers : Expressible P (.object members)) :
    Expressible P (.object (updated now updates members)) := by
  refine (hmembers.putAll fun u hu => ?_).put "updated_at" (.string now.text)
  exact hupdates.members u (List.mem_of_mem_filter hu)

/-- What is split off at an entry with an identity is the list with that entry in it. -/
theorem splitAt?_eq_some {id : Value} {items before after : List Value} {found : Entries Value}
    (h : splitAt? id items = .ok (some (before, found, after))) : items = before ++ .object found :: after := by
  induction items generalizing before with
  | nil => cases h
  | cons item items ih =>
    rw [splitAt?] at h
    cases hmembers : membersOf item with
    | error e => rw [hmembers] at h; cases h
    | ok members =>
      obtain rfl : item = .object members := by
        cases item <;> cases hmembers
        rfl
      rw [hmembers] at h
      dsimp only at h
      split at h
      · cases h
        rfl
      · cases hrest : splitAt? id items with
        | error e => rw [hrest] at h; cases h
        | ok r =>
          rw [hrest] at h
          cases r with
          | none => cases h
          | some r =>
            obtain ⟨before', found', after'⟩ := r
            cases h
            rw [ih hrest]
            rfl

theorem without_sublist {id : Value} {items rest : List Value} (h : without id items = .ok rest) :
    rest.Sublist items := by
  induction items generalizing rest with
  | nil => cases h; exact .slnil
  | cons item items ih =>
    rw [without] at h
    cases hmembers : membersOf item with
    | error e => rw [hmembers] at h; cases h
    | ok members =>
      rw [hmembers] at h
      cases hrest : without id items with
      | error e => rw [hrest] at h; cases h
      | ok rest' =>
        rw [hrest] at h
        cases h
        dsimp only
        split
        · exact (ih hrest).cons item
        · exact (ih hrest).cons_cons item

theorem expressible_itemsOf {v : Value} {items : List Value} (h : Expressible P v) (hitems : itemsOf v = .ok items) :
    ∀ x ∈ items, Expressible P x := by
  have hstrings : ∀ (α : Type) (f : α → String) (as : List α), ∀ x ∈ as.map fun a => Value.string (f a),
      Expressible P x := by
    intro α f as x hx
    obtain ⟨a, -, rfl⟩ := List.mem_map.mp hx
    exact .string _
  cases v with
  | array xs =>
    cases hitems
    exact h.items
  | string t =>
    cases hitems
    exact hstrings _ _ _
  | object fields =>
    cases hitems
    exact hstrings _ _ _
  | _ => cases hitems

theorem place_eq_ok {id : Value} {updates updates' : Entries Value}
    {r : Option (List Value × Entries Value × List Value)} : s.place id updates = .ok (updates', r) ↔
      preparedUpdates updates = .ok updates' ∧ ∃ v items, s.content = .ok v ∧ itemsOf v = .ok items ∧
        splitAt? id items = .ok r := by
  simp only [place, bind_eq_ok]
  constructor
  · rintro ⟨u, hu, v, hv, items, hitems, r', hr, h⟩
    cases h
    exact ⟨hu, v, items, hv, hitems, hr⟩
  · rintro ⟨hu, v, items, hv, hitems, hr⟩
    exact ⟨_, hu, v, hv, items, hitems, r, hr, rfl⟩

theorem keep_eq_ok {id : Value} {items rest : List Value} : s.keep id = .ok (items, rest) ↔
    ∃ v, s.content = .ok v ∧ itemsOf v = .ok items ∧ without id items = .ok rest := by
  simp only [keep, bind_eq_ok]
  constructor
  · rintro ⟨v, hv, items', hitems, rest', hrest, h⟩
    cases h
    exact ⟨v, hv, hitems, hrest⟩
  · rintro ⟨v, hv, hitems, hrest⟩
    exact ⟨v, hv, _, hitems, rest, hrest, rfl⟩

end SavedFilters

end ComplianceHistory
