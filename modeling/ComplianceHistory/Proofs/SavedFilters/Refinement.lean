import ComplianceHistory.Proofs.SavedFilters.Listing

/-!
# The file refines the list

The file holds the entries of a list in memory (`Holds`), and goes on holding them: an operation on the file is a step
of the list with the same answer (`perform_step`).  The operations that change something read the whole file and write
it anew, so the step lemma rests on the file giving back what it is written with.  By induction a run on the file,
from its making on or from a list of objects that it holds, is a run of the list (`run_listing`).
-/

namespace ComplianceHistory.SavedFilters

open Json Value

/-- The file holds the entries of the list. -/
structure Holds (s : SavedFilters) (m : Listing) : Prop where
  content : s.content = .ok (.array (m.entries.map .object))
  readings : s.readings = m.readings
  entries : ∀ e ∈ m.entries, Expressible Lossless (.object e)

variable {clock : Nat → Time.Instant} {s : SavedFilters} {m : Listing}

theorem holds_initial : Holds (initial none) ⟨[], 0⟩ where
  content := content_fileText (List.forall_mem_nil _) 0 _
  readings := rfl
  entries := List.forall_mem_nil _

/-- Files with the same text hold the same entries. -/
theorem Holds.entries_eq {s' : SavedFilters} {m' : Listing} (h : Holds s m) (h' : Holds s' m')
    (htext : s.text = s'.text) : m.entries = m'.entries := by
  have hcontent : s.content = s'.content := by
    unfold SavedFilters.content
    rw [htext]
  rw [h.content, h'.content] at hcontent
  exact List.map_injective_iff.mpr (fun _ _ => object.inj) (array.inj (Except.ok.inj hcontent))

/-- A file that is written anew holds the new list. -/
theorem rewrite_entries {es : List (Entries Value)} (hes : ∀ e ∈ es, Expressible Lossless (.object e)) (text : String)
    (n : Nat) (b : Bool) :
    rewrite ⟨text, n, b⟩ (.array (es.map .object)) = (.ok (), ⟨fileText (.array (es.map .object)), n, b⟩) ∧
      Holds ⟨fileText (.array (es.map .object)), n, b⟩ ⟨es, n⟩ := by
  have hitems : ∀ x ∈ es.map Value.object, Expressible Lossless x := by
    intro x hx
    obtain ⟨e, he, rfl⟩ := List.mem_map.mp hx
    exact hes e he
  exact ⟨rewrite_eq (.array hitems), content_fileText hitems n b, rfl, hes⟩

/-! ### What operations write -/

theorem create_refused {given : Entries Value} {e : SavedError} (h : prepared given = .error e) (clock : Nat → Time.Instant)
    (s : SavedFilters) : s.create clock given = (.error e, s) := by
  unfold create
  rw [h]

theorem update_refused {updates : Entries Value} {e : SavedError} (h : preparedUpdates updates = .error e)
    (clock : Nat → Time.Instant) (s : SavedFilters) (id : Value) : s.update clock id updates = (.error e, s) := by
  unfold update place
  rw [h]
  rfl

section Operations

variable (h : Holds s m)
include h

/-- An entry that is created stands behind the others, with the date of the next reading. -/
theorem create_holds (clock : Nat → Time.Instant) {given stored : Entries Value}
    (hprepared : prepared given = .ok stored)
    (hstored : Expressible Lossless (.object (dated (clock m.readings) stored))) :
    (s.create clock given).1 = .ok (dated (clock m.readings) stored) ∧
      Holds (s.create clock given).2 ⟨m.entries ++ [dated (clock m.readings) stored], m.readings + 1⟩ := by
  obtain ⟨text, n, b⟩ := s
  obtain ⟨es, n'⟩ := m
  obtain ⟨hcontent, hreadings, hentries⟩ := h
  obtain rfl : n = n' := hreadings
  have hnew : ∀ e ∈ es ++ [dated (clock n) stored], Expressible Lossless (.object e) := by
    intro e he
    rcases List.mem_append.mp he with he | he
    · exact hentries e he
    · rw [List.mem_singleton.mp he]
      exact hstored
  obtain ⟨hrewrite, hholds⟩ := rewrite_entries hnew text (n + 1) b
  have hcreate : create clock ⟨text, n, b⟩ given = (.ok (dated (clock n) stored),
      ⟨fileText (.array ((es ++ [dated (clock n) stored]).map .object)), n + 1, b⟩) := by
    unfold create
    rw [hprepared, hcontent]
    rw [List.map_append, List.map_cons, List.map_nil] at hrewrite ⊢
    dsimp only
    rw [hrewrite]
    rfl
  rw [hcreate]
  exact ⟨rfl, hholds⟩

/-- An entry that is updated keeps its place. -/
theorem update_holds (clock : Nat → Time.Instant) {id : Value} {updates updates' old : Entries Value}
    {before after : List (Entries Value)}
    (hentries : m.entries = before ++ old :: after) (hbefore : ∀ e ∈ before, hasId id e = false)
    (hold : hasId id old = true) (hprepared : preparedUpdates updates = .ok updates')
    (hnew : Expressible Lossless (.object (updated (clock m.readings) updates' old))) :
    (s.update clock id updates).1 = .ok (some (updated (clock m.readings) updates' old)) ∧
      Holds (s.update clock id updates).2
        ⟨before ++ updated (clock m.readings) updates' old :: after, m.readings + 1⟩ := by
  obtain ⟨text, n, b⟩ := s
  obtain ⟨es, n'⟩ := m
  obtain ⟨hcontent, hreadings, hexpressible⟩ := h
  obtain rfl : n = n' := hreadings
  obtain rfl : es = before ++ old :: after := hentries
  have hall : ∀ e ∈ before ++ updated (clock n) updates' old :: after, Expressible Lossless (.object e) := by
    intro e he
    rcases List.mem_append.mp he with he | he
    · exact hexpressible e (List.mem_append_left _ he)
    · rcases List.mem_cons.mp he with rfl | he
      · exact hnew
      · exact hexpressible e (List.mem_append_right _ (List.mem_cons_of_mem _ he))
  obtain ⟨hrewrite, hholds⟩ := rewrite_entries hall text (n + 1) b
  have hplace : place ⟨text, n, b⟩ id updates =
      .ok (updates', some (before.map .object, old, after.map .object)) :=
    place_eq_ok.mpr ⟨hprepared, _, _, hcontent, rfl, splitAt?_before hbefore hold⟩
  have hupdate : update clock ⟨text, n, b⟩ id updates = (.ok (some (updated (clock n) updates' old)),
      ⟨fileText (.array ((before ++ updated (clock n) updates' old :: after).map .object)), n + 1, b⟩) := by
    unfold update
    rw [hplace]
    rw [List.map_append, List.map_cons] at hrewrite ⊢
    dsimp only
    rw [hrewrite]
    rfl
  rw [hupdate]
  exact ⟨rfl, hholds⟩

theorem update_unknown {id : Value} {updates updates' : Entries Value} (hnone : ∀ e ∈ m.entries, hasId id e = false)
    (hprepared : preparedUpdates updates = .ok updates') : s.update clock id updates = (.ok none, s) := by
  have hplace : s.place id updates = .ok (updates', none) :=
    place_eq_ok.mpr ⟨hprepared, _, _, h.content, rfl, splitAt?_none hnone⟩
  unfold update
  rw [hplace]

/-- All entries with an identity are deleted; the file is only written if there are any. -/
theorem delete_holds (id : Value) : (s.delete id).1 = .ok (m.entries.any (hasId id)) ∧
    Holds (s.delete id).2 { m with entries := m.entries.filter fun e => !hasId id e } := by
  obtain ⟨text, n, b⟩ := s
  obtain ⟨es, n'⟩ := m
  obtain ⟨hcontent, hreadings, hentries⟩ := h
  obtain rfl : n = n' := hreadings
  have hkeep : keep ⟨text, n, b⟩ id = .ok (es.map .object, (es.filter fun e => !hasId id e).map .object) :=
    keep_eq_ok.mpr ⟨_, hcontent, rfl, without_entries id es⟩
  have hfewer : ((es.filter fun e => !hasId id e).map Value.object).length < (es.map Value.object).length ↔
      es.any (hasId id) = true := by
    rw [List.length_map, List.length_map, List.length_filter_lt_length_iff_exists, List.any_eq_true]
    simp
  by_cases hany : es.any (hasId id) = true
  · have hrest : ∀ e ∈ es.filter fun e => !hasId id e, Expressible Lossless (.object e) := fun e he =>
      hentries e (List.mem_of_mem_filter he)
    obtain ⟨hrewrite, hholds⟩ := rewrite_entries hrest text n b
    have hdelete : delete ⟨text, n, b⟩ id =
        (.ok true, ⟨fileText (.array ((es.filter fun e => !hasId id e).map .object)), n, b⟩) := by
      unfold delete
      rw [hkeep]
      dsimp only
      rw [if_pos (hfewer.mpr hany), hrewrite]
      rfl
    rw [hdelete]
    exact ⟨congrArg Except.ok hany.symm, hholds⟩
  · have hdelete : delete ⟨text, n, b⟩ id = (.ok false, ⟨text, n, b⟩) := by
      unfold delete
      rw [hkeep]
      dsimp only
      rw [if_neg (fun hless => hany (hfewer.mp hless))]
    have hall : (es.filter fun e => !hasId id e) = es := by
      refine List.filter_eq_self.mpr fun e he => ?_
      simpa using fun hid => hany (List.any_eq_true.mpr ⟨e, he, hid⟩)
    rw [hdelete]
    refine ⟨congrArg Except.ok (Bool.eq_false_iff.mpr hany).symm, ?_⟩
    dsimp only
    rw [hall]
    exact ⟨hcontent, rfl, hentries⟩

/-! ### Single operations -/

theorem get?_holds (id : Value) : s.get? id = .ok (m.entries.find? (hasId id)) := get?_entries h.content id

theorem filter_step (id : Value) : Step clock m (.filter id) ((s.filter? id).map .filter) m := by
  rw [filter?, get?_holds h]
  cases hfind : m.entries.find? (hasId id) with
  | none => exact .filterUnknown hfind
  | some e =>
    have hstep : Step clock m (.filter id) _ m := .filter hfind
    show Step clock m (.filter id) ((((Filter.ofValue (member e "filter")).mapError .document).bind fun f =>
      .ok (some f)).map .filter) m
    cases hf : Filter.ofValue (member e "filter") <;> rwa [hf] at hstep

theorem create_step {given : Entries Value} (hgiven : Expressible Lossless (.object given)) :
    ∃ m', Step clock m (.create (.object given)) ((s.create clock given).1.map .created) m' ∧
      Holds (s.create clock given).2 m' := by
  cases hprepared : prepared given with
  | error e =>
    obtain ⟨e', he', rfl⟩ := prepared_eq_error hprepared
    rw [create_refused hprepared]
    exact ⟨m, .createRefused he', h⟩
  | ok stored =>
    obtain ⟨f, hf, hassigned⟩ := creation_of_prepared (clock m.readings) hprepared
    obtain ⟨hcreate, hholds⟩ := create_holds h clock hprepared
      (expressible_dated _ (expressible_prepared hgiven hprepared))
    rw [hcreate]
    exact ⟨_, .create hf hassigned, hholds⟩

theorem update_step {id : Value} {updates : Entries Value} (hupdates : Expressible Lossless (.object updates)) :
    ∃ m', Step clock m (.update id (.object updates)) ((s.update clock id updates).1.map .updated) m' ∧
      Holds (s.update clock id updates).2 m' := by
  cases hprepared : preparedUpdates updates with
  | error e =>
    obtain ⟨d, e', hd, hf, rfl⟩ := preparedUpdates_eq_error hprepared
    rw [update_refused hprepared]
    exact ⟨m, .updateRefused hd hf, h⟩
  | ok updates' =>
    rcases find_split id m.entries with ⟨before, old, after, hentries, hbefore, hold⟩ | hnone
    · obtain ⟨changes, hchanges, hassigned⟩ :=
        changes_of_preparedUpdates hupdates.nodup (clock m.readings) hprepared old
      have hmember : Expressible Lossless (.object old) := h.entries old (by rw [hentries]; simp)
      obtain ⟨hupdate, hholds⟩ := update_holds h clock hentries hbefore hold hprepared
        (expressible_updated _ (expressible_preparedUpdates hupdates hprepared) hmember)
      obtain ⟨es, n⟩ := m
      obtain rfl : es = before ++ old :: after := hentries
      rw [hupdate]
      exact ⟨_, .update hchanges hbefore hold hassigned, hholds⟩
    · rw [update_unknown h hnone hprepared]
      exact ⟨m, .updateUnknown (filter_of_preparedUpdates hprepared) hnone, h⟩

theorem misused_step {id v : Value} (hv : ∀ updates, v ≠ .object updates) :
    Step clock m (.update id v) ((s.refuseUpdates id v).map .updated) m := by
  have hmentions : ∀ e, mentionsFilter v = .error e → e = .misuse .wrongKind := by
    intro e he
    unfold mentionsFilter at he
    split at he <;> cases he
    rfl
  unfold refuseUpdates
  cases hmentions' : mentionsFilter v with
  | error e =>
    rw [hmentions e hmentions']
    exact .updateMisused hv
  | ok any =>
    cases any with
    | true => exact .updateMisused hv
    | false =>
      rw [get?_holds h]
      cases hfind : m.entries.find? (hasId id) with
      | some e => exact .updateMisused hv
      | none =>
        refine .updateNothing hv fun e he => ?_
        simpa using List.find?_eq_none.mp hfind e he

theorem delete_step (id : Value) :
    ∃ m', Step clock m (.delete id) ((s.delete id).1.map .deleted) m' ∧ Holds (s.delete id).2 m' := by
  obtain ⟨hdelete, hholds⟩ := delete_holds h id
  rw [hdelete]
  exact ⟨_, .delete, hholds⟩

variable (clock)

/-- **An operation on the file is a step of the list**, and the file holds what the step leaves. -/
theorem perform_step {r : Request} (hr : ∀ v ∈ r.arguments, Expressible Lossless v) :
    ∃ m', Step clock m r (s.perform clock r).1 m' ∧ Holds (s.perform clock r).2 m' := by
  cases r with
  | all =>
    refine ⟨m, ?_, h⟩
    show Step clock m .all (s.content.map Answer.content) m
    rw [h.content]
    exact .all
  | get id =>
    refine ⟨m, ?_, h⟩
    show Step clock m (.get id) ((s.get? id).map Answer.entry) m
    rw [get?_holds h]
    exact .get
  | filter id => exact ⟨m, filter_step h id, h⟩
  | create v =>
    cases v with
    | object given => exact create_step h (hr _ List.mem_cons_self)
    | _ => exact ⟨m, .createMisused nofun, h⟩
  | update id v =>
    cases v with
    | object updates => exact update_step h (hr _ (by simp [Request.arguments]))
    | _ => exact ⟨m, misused_step h nofun, h⟩
  | delete id => exact delete_step h id

end Operations

/-! ### Runs -/

variable (clock)

/-- What the file answers and holds behind each operation is what the list does. -/
theorem exists_run (h : Holds s m) {rs : List Request} (hrs : ∀ r ∈ rs, ∀ v ∈ r.arguments, Expressible Lossless v) :
    ∃ answers, Run clock m rs answers ∧ List.Forall₂ (fun real listed => real.1 = listed.1 ∧ Holds real.2 listed.2)
      (s.run clock rs) answers := by
  induction rs generalizing s m with
  | nil => exact ⟨[], .nil, .nil⟩
  | cons r rs ih =>
    obtain ⟨m', hstep, hholds⟩ := perform_step clock h (hrs r List.mem_cons_self)
    obtain ⟨answers, hrun, hanswers⟩ := ih hholds fun r' hr' => hrs r' (List.mem_cons_of_mem r hr')
    exact ⟨_, .cons hstep hrun, .cons ⟨rfl, hholds⟩ hanswers⟩

/--
**A run on the file is a run of the list.**  The file is absent, or holds a list of objects; its floating-point
numbers and those of the arguments are read back from their texts.
-/
theorem run_listing (file : Option String) {es : List (Entries Value)}
    (hfile : match file with
      | none => es = []
      | some text => (initial (some text)).content = .ok (.array (es.map .object)))
    (hfloats : ∀ e ∈ es, ∀ x, FloatIn x (.object e) → Lossless x) {rs : List Request}
    (hrs : ∀ r ∈ rs, ∀ v ∈ r.arguments, IsJson v ∧ ∀ x, FloatIn x v → Lossless x) :
    ∃ answers, Run clock ⟨es, 0⟩ rs answers ∧ List.Forall₂ (fun real listed =>
      real.1 = listed.1 ∧ real.2.content = .ok (.array (listed.2.entries.map .object)))
        ((initial file).run clock rs) answers := by
  have hholds : Holds (initial file) ⟨es, 0⟩ := by
    cases file with
    | none =>
      obtain rfl : es = [] := hfile
      exact holds_initial
    | some text =>
      refine ⟨hfile, rfl, fun e he => expressible_iff.mpr ⟨?_, hfloats e he⟩⟩
      exact (isJson_of_content hfile).items _ (List.mem_map_of_mem he)
  obtain ⟨answers, hrun, hanswers⟩ := exists_run clock hholds fun r hr v hv => expressible_iff.mpr (hrs r hr v hv)
  exact ⟨answers, hrun, hanswers.imp fun _ _ ⟨hanswer, hreal⟩ => ⟨hanswer, hreal.content⟩⟩

/-- An entry with a number that is no whole one. -/
def weighted (id : String) : Entries Value := [("id", .string id), ("weight", .float 1.5)]

theorem expressible_weighted (id : String) : Expressible Lossless (.object (weighted id)) := by
  refine .object (by simp [weighted]) fun f hf => ?_
  simp only [weighted, List.mem_cons, List.not_mem_nil, or_false] at hf
  rcases hf with rfl | rfl
  · exact .string id
  · exact .float lossless_oneAndHalf

/-- An entry is created, the one before it updated, and the new one deleted. -/
theorem run_listing_weighted :
    (initial (some (fileText (.array [.object (weighted "a")])))).content = .ok (.array ([weighted "a"].map .object)) ∧
      ∃ answers, Run (fun _ => .epoch) ⟨[weighted "a"], 0⟩
        [.create (.object (weighted "b")), .update (.string "a") (.object (weighted "c")), .delete (.string "b")]
        answers ∧ List.Forall₂ (fun real listed =>
          real.1 = listed.1 ∧ real.2.content = .ok (.array (listed.2.entries.map .object)))
          ((initial (some (fileText (.array [.object (weighted "a")])))).run (fun _ => .epoch)
            [.create (.object (weighted "b")), .update (.string "a") (.object (weighted "c")), .delete (.string "b")])
          answers := by
  have hfile : (initial (some (fileText (.array [.object (weighted "a")])))).content =
      .ok (.array ([weighted "a"].map .object)) := by
    refine content_fileText (fun x hx => ?_) 0 _
    rw [List.mem_singleton.mp hx]
    exact expressible_weighted "a"
  refine ⟨hfile, run_listing _ (some _) hfile (fun e he => ?_) fun r hr v hv => expressible_iff.mp ?_⟩
  · rw [List.mem_singleton.mp he]
    exact (expressible_iff.mp (expressible_weighted "a")).2
  · simp only [List.mem_cons, List.not_mem_nil, or_false] at hr
    rcases hr with rfl | rfl | rfl
    · rw [List.mem_singleton.mp hv]
      exact expressible_weighted "b"
    · simp only [Request.arguments, List.mem_cons, List.not_mem_nil, or_false] at hv
      rcases hv with rfl | rfl
      · exact .string "a"
      · exact expressible_weighted "c"
    · rw [List.mem_singleton.mp hv]
      exact .string "b"

end ComplianceHistory.SavedFilters
