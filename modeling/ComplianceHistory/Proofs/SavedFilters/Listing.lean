import ComplianceHistory.Proofs.SavedFilters.Failures

/-!
# Saved filters as a list of entries

A list of entries in memory takes the steps that operations on saved filters ask for (`Step`).  What a step does to an
entry is told by the values that the entry has under its names and by the order of the names (`Assigned`), and not by
the operations that give it these values.  Beside it stands what the operations on the file do with a list of entries
(`splitAt?_before`, `without_entries`) and with one entry (`creation_of_prepared`, `changes_of_preparedUpdates`).
-/

namespace ComplianceHistory.SavedFilters

open Json Value

/-! ### Values that an entry is given -/

/--
An entry that is another one with values given to names: a name that was there keeps its place, and the others stand
behind them in their order.
-/
structure Assigned (values old new : Entries Value) : Prop where
  value : ∀ name, new.get? name = (values.get? name).or (old.get? name)
  names : Keyed.keys new = Keyed.keys old ++ (Keyed.keys values).filter fun name => name ∉ Keyed.keys old

theorem Assigned.refl (old : Entries Value) : Assigned [] old old where
  value _ := rfl
  names := (List.append_nil _).symm

/-- One more value is given. -/
theorem Assigned.put {values old new : Entries Value} (h : Assigned values old new) (name : String) (v : Value) :
    Assigned (values.put name v) old (new.put name v) where
  value other := by
    by_cases hother : other = name
    · rw [hother, Entries.get?_put_self, Entries.get?_put_self]
      rfl
    · rw [Entries.get?_put_of_ne _ _ hother, Entries.get?_put_of_ne _ _ hother, h.value]
  names := by
    have hmem : name ∈ Keyed.keys new ↔ name ∈ Keyed.keys old ∨ name ∈ Keyed.keys values := by
      rw [h.names, List.mem_append, List.mem_filter]
      by_cases hold : name ∈ Keyed.keys old <;> simp [hold]
    show Keyed.keys (Keyed.put new name v) = _ ++ (Keyed.keys (Keyed.put values name v)).filter _
    rw [Keyed.keys_put, Keyed.keys_put]
    by_cases hvalues : name ∈ Keyed.keys values
    · rw [if_pos (hmem.mpr (.inr hvalues)), if_pos hvalues, h.names]
    · rw [if_neg hvalues, List.filter_append]
      by_cases hold : name ∈ Keyed.keys old
      · rw [if_pos (hmem.mpr (.inl hold)), h.names]
        simp [hold]
      · rw [if_neg (fun hnew => (hmem.mp hnew).elim hold hvalues), h.names]
        simp [hold]

theorem Assigned.putAll {values old new : Entries Value} (h : Assigned values old new) (more : Entries Value) :
    Assigned (values.putAll more) old (new.putAll more) := by
  induction more generalizing values new with
  | nil => exact h
  | cons e more ih => exact ih (h.put e.1 e.2)

/-- The values that an entry is given when it is created. -/
def creation (now : Time.Instant) (given : Entries Value) (f : Filter) : Entries Value :=
  [("filter", f.toValue)] ++ (if given.has "controls" then [] else [("controls", .array [])]) ++
    [("created_at", .string now.text), ("updated_at", .string now.text)]

/--
The values that an entry is given by updates: all of them but its identity and the date of its creation, the filter
in canonical form, and the date of the update.
-/
structure Changes (now : Time.Instant) (updates changes : Entries Value) : Prop where
  id : changes.get? "id" = none
  createdAt : changes.get? "created_at" = none
  updatedAt : changes.get? "updated_at" = some (.string now.text)
  filter : match updates.get? "filter" with
    | none => changes.get? "filter" = none
    | some document => ∃ f, Filter.ofValue document = .ok f ∧ changes.get? "filter" = some f.toValue
  others : ∀ name ∉ ["id", "created_at", "updated_at", "filter"], changes.get? name = updates.get? name
  names : Keyed.keys changes = (Keyed.keys updates).filter (fun name => name ∉ ["id", "created_at"]) ++
    if "updated_at" ∈ Keyed.keys updates then [] else ["updated_at"]

/-! ### Steps of the list -/

/-- Saved filters in memory: the entries in their order, and how often the clock was read. -/
structure Listing where
  entries : List (Entries Value)
  readings : Nat

variable (clock : Nat → Time.Instant)

/-- What an operation answers, and what it leaves of the list. -/
inductive Step : Listing → Request → Except SavedError Answer → Listing → Prop where
  | all {m : Listing} : Step m .all (.ok (.content (.array (m.entries.map .object)))) m
  | get {m : Listing} {id : Value} : Step m (.get id) (.ok (.entry (m.entries.find? (hasId id)))) m
  | filterUnknown {m : Listing} {id : Value} (hnone : m.entries.find? (hasId id) = none) :
      Step m (.filter id) (.ok (.filter none)) m
  | filter {m : Listing} {id : Value} {e : Entries Value} (he : m.entries.find? (hasId id) = some e) :
      Step m (.filter id) (((Filter.ofValue (member e "filter")).mapError .document).map fun f => .filter (some f)) m
  | create {es : List (Entries Value)} {n : Nat} {given stored : Entries Value} {f : Filter}
      (hf : Filter.ofValue (member given "filter") = .ok f)
      (hstored : Assigned (creation (clock n) given f) given stored) :
      Step ⟨es, n⟩ (.create (.object given)) (.ok (.created stored)) ⟨es ++ [stored], n + 1⟩
  | createRefused {m : Listing} {given : Entries Value} {e : DocumentError}
      (hf : Filter.ofValue (member given "filter") = .error e) :
      Step m (.create (.object given)) (.error (.document e)) m
  | createMisused {m : Listing} {v : Value} (hv : ∀ given, v ≠ .object given) :
      Step m (.create v) (.error (.misuse .noMembers)) m
  | update {before after : List (Entries Value)} {n : Nat} {id : Value} {updates changes old new : Entries Value}
      (hchanges : Changes (clock n) updates changes) (hbefore : ∀ e ∈ before, hasId id e = false)
      (hold : hasId id old = true) (hnew : Assigned changes old new) :
      Step ⟨before ++ old :: after, n⟩ (.update id (.object updates)) (.ok (.updated (some new)))
        ⟨before ++ new :: after, n + 1⟩
  | updateUnknown {m : Listing} {id : Value} {updates : Entries Value}
      (hfilter : ∀ d, updates.get? "filter" = some d → ∃ f, Filter.ofValue d = .ok f)
      (hnone : ∀ e ∈ m.entries, hasId id e = false) :
      Step m (.update id (.object updates)) (.ok (.updated none)) m
  | updateRefused {m : Listing} {id d : Value} {updates : Entries Value} {e : DocumentError}
      (hd : updates.get? "filter" = some d) (hf : Filter.ofValue d = .error e) :
      Step m (.update id (.object updates)) (.error (.document e)) m
  | updateMisused {m : Listing} {id v : Value} {misuse : Misuse} (hv : ∀ updates, v ≠ .object updates) :
      Step m (.update id v) (.error (.misuse misuse)) m
  | updateNothing {m : Listing} {id v : Value} (hv : ∀ updates, v ≠ .object updates)
      (hnone : ∀ e ∈ m.entries, hasId id e = false) : Step m (.update id v) (.ok (.updated none)) m
  | delete {m : Listing} {id : Value} : Step m (.delete id) (.ok (.deleted (m.entries.any (hasId id))))
      { m with entries := m.entries.filter fun e => !hasId id e }

/-- What operations one after the other answer and leave of the list. -/
inductive Run : Listing → List Request → List (Except SavedError Answer × Listing) → Prop where
  | nil {m : Listing} : Run m [] []
  | cons {m m' : Listing} {r : Request} {rs : List Request} {answer : Except SavedError Answer}
      {answers : List (Except SavedError Answer × Listing)} (hstep : Step clock m r answer m')
      (hrun : Run m' rs answers) : Run m (r :: rs) ((answer, m') :: answers)

/-! ### Lists of entries -/

theorem find?_hasId {id : Value} {before after : List (Entries Value)} {old : Entries Value}
    (hbefore : ∀ e ∈ before, hasId id e = false) (hold : hasId id old = true) :
    (before ++ old :: after).find? (hasId id) = some old := by
  have hnone : before.find? (hasId id) = none := List.find?_eq_none.mpr fun e he => by simp [hbefore e he]
  rw [List.find?_append, hnone, List.find?_cons_of_pos hold]
  rfl

/-- A list has a first entry with an identity, or none. -/
theorem find_split (id : Value) (es : List (Entries Value)) :
    (∃ before old after, es = before ++ old :: after ∧ (∀ e ∈ before, hasId id e = false) ∧ hasId id old = true) ∨
    ∀ e ∈ es, hasId id e = false := by
  cases hfind : es.find? (hasId id) with
  | none => exact .inr fun e he => by simpa using List.find?_eq_none.mp hfind e he
  | some old =>
    obtain ⟨hold, before, after, hes, hbefore⟩ := List.find?_eq_some_iff_append.mp hfind
    exact .inl ⟨before, old, after, hes, fun e he => by simpa using hbefore e he, hold⟩

theorem splitAt?_cons (id : Value) (e : Entries Value) (es : List (Entries Value)) :
    splitAt? id ((e :: es).map .object) = if hasId id e then .ok (some ([], e, es.map .object))
      else (splitAt? id (es.map .object)).map (Option.map fun r => (.object e :: r.1, r.2)) := rfl

/-- A list of entries is split at the first entry with an identity. -/
theorem splitAt?_before {id : Value} {before after : List (Entries Value)} {old : Entries Value}
    (hbefore : ∀ e ∈ before, hasId id e = false) (hold : hasId id old = true) :
    splitAt? id ((before ++ old :: after).map .object) =
      .ok (some (before.map .object, old, after.map .object)) := by
  induction before with
  | nil =>
    rw [List.nil_append, splitAt?_cons, if_pos hold]
    rfl
  | cons e before ih =>
    rw [List.cons_append, splitAt?_cons, hbefore e List.mem_cons_self,
      ih fun d hd => hbefore d (List.mem_cons_of_mem _ hd)]
    rfl

theorem splitAt?_none {id : Value} {es : List (Entries Value)} (hnone : ∀ e ∈ es, hasId id e = false) :
    splitAt? id (es.map .object) = .ok none := by
  induction es with
  | nil => rfl
  | cons e es ih =>
    rw [splitAt?_cons, hnone e List.mem_cons_self, ih fun d hd => hnone d (List.mem_cons_of_mem _ hd)]
    rfl

/-- The entry with an identity is looked up in a file of entries. -/
theorem get?_entries {s : SavedFilters} {es : List (Entries Value)} (h : s.content = .ok (.array (es.map .object)))
    (id : Value) : s.get? id = .ok (es.find? (hasId id)) := by
  have hget : ∀ r, splitAt? id (es.map .object) = .ok r → s.get? id = .ok (r.map fun r => r.2.1) := fun r hr =>
    bind_eq_ok.mpr ⟨_, h, bind_eq_ok.mpr ⟨_, rfl, bind_eq_ok.mpr ⟨r, hr, rfl⟩⟩⟩
  rcases find_split id es with ⟨before, old, after, rfl, hbefore, hold⟩ | hnone
  · rw [hget _ (splitAt?_before hbefore hold), find?_hasId hbefore hold]
    rfl
  · rw [hget _ (splitAt?_none hnone), List.find?_eq_none.mpr fun e he => by simp [hnone e he]]
    rfl

theorem without_entries (id : Value) (es : List (Entries Value)) :
    without id (es.map .object) = .ok ((es.filter fun e => !hasId id e).map .object) := by
  induction es with
  | nil => rfl
  | cons e es ih =>
    have hwithout : without id ((e :: es).map .object) =
        (without id (es.map .object)).map fun rest => if hasId id e then rest else .object e :: rest := rfl
    rw [hwithout, ih, List.filter_cons]
    cases hasId id e <;> rfl

/-! ### Single entries -/

/-- An entry that is prepared and dated is given the values of a new one. -/
theorem creation_of_prepared {given stored : Entries Value} (now : Time.Instant) (h : prepared given = .ok stored) :
    ∃ f, Filter.ofValue (member given "filter") = .ok f ∧
      Assigned (creation now given f) given (dated now stored) := by
  unfold prepared at h
  cases hcanonical : canonical (member given "filter") with
  | error e => rw [hcanonical] at h; cases h
  | ok d =>
    obtain ⟨f, hf, rfl⟩ := canonical_eq_ok.mp hcanonical
    refine ⟨f, hf, ?_⟩
    rw [hcanonical] at h
    cases h
    have hfilter := (Assigned.refl given).put "filter" f.toValue
    have hhas : (given.put "filter" f.toValue).has "controls" = given.has "controls" := by
      rw [Entries.has, Entries.get?_put_of_ne _ _ (by decide), Entries.has]
    dsimp only
    rw [hhas]
    by_cases hcontrols : given.has "controls" = true
    · have hvalues : creation now given f = [("filter", f.toValue), ("created_at", .string now.text),
          ("updated_at", .string now.text)] := by
        rw [creation, if_pos hcontrols]
        rfl
      rw [if_pos hcontrols, hvalues]
      exact (hfilter.put "created_at" (.string now.text)).put "updated_at" (.string now.text)
    · have hvalues : creation now given f = [("filter", f.toValue), ("controls", .array []),
          ("created_at", .string now.text), ("updated_at", .string now.text)] := by
        rw [creation, if_neg hcontrols]
        rfl
      rw [if_neg hcontrols, hvalues]
      exact ((hfilter.put "controls" (.array [])).put "created_at" (.string now.text)).put "updated_at"
        (.string now.text)

theorem prepared_eq_error {given : Entries Value} {e : SavedError} (h : prepared given = .error e) :
    ∃ e', Filter.ofValue (member given "filter") = .error e' ∧ e = .document e' := by
  unfold prepared canonical at h
  cases hf : Filter.ofValue (member given "filter") with
  | ok f => rw [hf] at h; cases h
  | error e' =>
    rw [hf] at h
    cases h
    exact ⟨e', rfl, rfl⟩

theorem preparedUpdates_spec {updates updates' : Entries Value} (h : preparedUpdates updates = .ok updates') :
    Keyed.keys updates' = Keyed.keys updates ∧ (∀ name ≠ "filter", updates'.get? name = updates.get? name) ∧
      match updates.get? "filter" with
      | none => updates'.get? "filter" = none
      | some document => ∃ f, Filter.ofValue document = .ok f ∧ updates'.get? "filter" = some f.toValue := by
  unfold preparedUpdates at h
  cases hfilter : updates.get? "filter" with
  | none =>
    rw [hfilter] at h
    cases h
    exact ⟨rfl, fun _ _ => rfl, hfilter⟩
  | some document =>
    rw [hfilter] at h
    dsimp only at h
    cases hcanonical : canonical document with
    | error e => rw [hcanonical] at h; cases h
    | ok d =>
      obtain ⟨f, hf, rfl⟩ := canonical_eq_ok.mp hcanonical
      rw [hcanonical] at h
      cases h
      have hmem : "filter" ∈ Keyed.keys updates :=
        List.mem_map.mpr ⟨_, Keyed.mem_of_get? hfilter, rfl⟩
      refine ⟨?_, fun name hname => Entries.get?_put_of_ne _ _ hname, f, hf, Entries.get?_put_self _ _ _⟩
      show Keyed.keys (Keyed.put updates "filter" f.toValue) = _
      rw [Keyed.keys_put, if_pos hmem]

theorem preparedUpdates_eq_error {updates : Entries Value} {e : SavedError} (h : preparedUpdates updates = .error e) :
    ∃ d e', updates.get? "filter" = some d ∧ Filter.ofValue d = .error e' ∧ e = .document e' := by
  unfold preparedUpdates canonical at h
  cases hfilter : updates.get? "filter" with
  | none => rw [hfilter] at h; cases h
  | some d =>
    rw [hfilter] at h
    dsimp only at h
    cases hf : Filter.ofValue d with
    | ok f => rw [hf] at h; cases h
    | error e' =>
      rw [hf] at h
      cases h
      exact ⟨d, e', rfl, hf, rfl⟩

theorem filter_of_preparedUpdates {updates updates' : Entries Value} (h : preparedUpdates updates = .ok updates') :
    ∀ d, updates.get? "filter" = some d → ∃ f, Filter.ofValue d = .ok f := by
  intro d hd
  obtain ⟨-, -, hfilter⟩ := preparedUpdates_spec h
  rw [hd] at hfilter
  obtain ⟨f, hf, -⟩ := hfilter
  exact ⟨f, hf⟩

/-- An entry that is updated is given the changes that the updates make. -/
theorem changes_of_preparedUpdates {updates updates' : Entries Value} (hnames : (Keyed.keys updates).Nodup)
    (now : Time.Instant) (h : preparedUpdates updates = .ok updates') (old : Entries Value) :
    ∃ changes, Changes now updates changes ∧ Assigned changes old (updated now updates' old) := by
  obtain ⟨hkeys, hothers, hfilter⟩ := preparedUpdates_spec h
  let free : String → Bool := fun name => name ≠ "id" && name ≠ "created_at"
  let kept : Entries Value := updates'.filter fun u => free u.1
  have hkept : ∀ name, kept.get? name = if free name then updates'.get? name else none :=
    fun name => Keyed.get?_filter free updates' name
  have hkeptkeys : Keyed.keys kept = (Keyed.keys updates).filter free := by
    rw [← hkeys]
    exact Keyed.keys_filter free updates'
  have hnodup : (Keyed.keys kept).Nodup := by
    rw [hkeptkeys]
    exact hnames.sublist List.filter_sublist
  refine ⟨kept.put "updated_at" (.string now.text), ⟨?_, ?_, ?_, ?_, ?_, ?_⟩, ?_⟩
  · rw [Entries.get?_put_of_ne _ _ (by decide), hkept]
    rfl
  · rw [Entries.get?_put_of_ne _ _ (by decide), hkept]
    rfl
  · exact Entries.get?_put_self _ _ _
  · rw [Entries.get?_put_of_ne _ _ (by decide), hkept]
    exact hfilter
  · intro name hname
    simp only [List.mem_cons, List.not_mem_nil, or_false, not_or] at hname
    obtain ⟨hid, hcreated, hupdated, hother⟩ := hname
    have hfree : free name = true := by simp [free, hid, hcreated]
    rw [Entries.get?_put_of_ne _ _ hupdated, hkept, if_pos hfree, hothers name hother]
  · have hfree : ∀ name, free name = decide (name ∉ ["id", "created_at"]) := by simp [free]
    have hmem : "updated_at" ∈ Keyed.keys kept ↔ "updated_at" ∈ Keyed.keys updates := by
      rw [hkeptkeys, List.mem_filter]
      exact and_iff_left rfl
    show Keyed.keys (Keyed.put kept "updated_at" _) = _
    rw [Keyed.keys_put, ← funext hfree, ← hkeptkeys]
    by_cases hupdated : "updated_at" ∈ Keyed.keys updates
    · rw [if_pos (hmem.mpr hupdated), if_pos hupdated, List.append_nil]
    · rw [if_neg (fun hkeeps => hupdated (hmem.mp hkeeps)), if_neg hupdated]
  · have hgiven := ((Assigned.refl old).putAll kept).put "updated_at" (.string now.text)
    rwa [Entries.putAll_of_nodup [] hnodup, List.nil_append] at hgiven

end ComplianceHistory.SavedFilters
