import ComplianceHistory.Proofs.SavedFilters.File

/-!
# Operations that leave the file alone

Writing empties the file first, so what fails while it writes loses what the file held.  Nothing does: what an
operation writes was read from the file or given to it as a value that a text can hold, and is written to the end.
So the text of the file stays, whatever it is, unless the operation tells that an entry was created, updated or
deleted (`text_perform`).
-/

namespace ComplianceHistory.SavedFilters

open Json Value

/-- The arguments of an operation. -/
def Request.arguments : Request → List Value
  | all => []
  | get id | filter id | delete id => [id]
  | create entry => [entry]
  | update id updates => [id, updates]

/-- Whether an answer tells that an entry was created, updated or deleted. -/
def Answer.tellsChange : Answer → Bool
  | created _ | updated (some _) | deleted true => true
  | _ => false

variable (clock : Nat → Time.Instant) {s : SavedFilters}

theorem text_create {entry : Entries Value} (h : IsJson (.object entry))
    (hnone : ∀ e, (s.create clock entry).1 ≠ .ok e) : (s.create clock entry).2.text = s.text := by
  unfold create at hnone ⊢
  cases hprepared : prepared entry with
  | error e => rfl
  | ok e =>
    rw [hprepared] at hnone
    cases hcontent : s.content with
    | error e => rfl
    | ok v =>
      rw [hcontent] at hnone
      cases v with
      | array items =>
        have hentry : IsJson (.object (dated (clock s.readings) e)) :=
          expressible_dated _ (expressible_prepared h hprepared)
        have hlist : IsJson (.array (items ++ [.object (dated (clock s.readings) e)])) := by
          refine .array fun x hx => ?_
          rcases List.mem_append.mp hx with hx | hx
          · exact (isJson_of_content hcontent).items x hx
          · rw [List.mem_singleton.mp hx]
            exact hentry
        simp only [rewrite_eq hlist] at hnone
        exact absurd rfl (hnone _)
      | _ => rfl

theorem text_update {id : Value} {updates : Entries Value} (h : IsJson (.object updates))
    (hnone : ∀ e, (s.update clock id updates).1 ≠ .ok (some e)) : (s.update clock id updates).2.text = s.text := by
  unfold update at hnone ⊢
  cases hplace : s.place id updates with
  | error e => rfl
  | ok r =>
    rw [hplace] at hnone
    obtain ⟨updates', _ | ⟨before, members, after⟩⟩ := r
    · rfl
    · obtain ⟨hupdates, v, items, hcontent, hitems, hsplit⟩ := place_eq_ok.mp hplace
      have hitem : ∀ x ∈ before ++ .object members :: after, IsJson x := by
        rw [← splitAt?_eq_some hsplit]
        exact expressible_itemsOf (isJson_of_content hcontent) hitems
      have hmembers : IsJson (.object (updated (clock s.readings) updates' members)) :=
        expressible_updated _ (expressible_preparedUpdates h hupdates) (hitem _ (by simp))
      have hlist : IsJson (.array (before ++ .object (updated (clock s.readings) updates' members) :: after)) := by
        refine .array fun x hx => ?_
        rcases List.mem_append.mp hx with hx | hx
        · exact hitem x (List.mem_append_left _ hx)
        · rcases List.mem_cons.mp hx with rfl | hx
          · exact hmembers
          · exact hitem x (List.mem_append_right _ (List.mem_cons_of_mem _ hx))
      simp only [rewrite_eq hlist] at hnone
      exact absurd rfl (hnone _)

theorem text_delete {id : Value} (hnone : (s.delete id).1 ≠ .ok true) : (s.delete id).2.text = s.text := by
  unfold delete at hnone ⊢
  cases hkeep : s.keep id with
  | error e => rfl
  | ok r =>
    rw [hkeep] at hnone
    obtain ⟨items, rest⟩ := r
    dsimp only at hnone ⊢
    split
    · rename_i hfewer
      obtain ⟨v, hcontent, hitems, hrest⟩ := keep_eq_ok.mp hkeep
      have hlist : IsJson (.array rest) := .array fun x hx =>
        expressible_itemsOf (isJson_of_content hcontent) hitems x ((without_sublist hrest).subset hx)
      rw [if_pos hfewer] at hnone
      simp only [rewrite_eq hlist] at hnone
      exact absurd rfl hnone
    · rfl

/-- **An operation leaves the file alone unless it tells of a change**, whatever text the file holds. -/
theorem text_perform {r : Request} (hr : ∀ v ∈ r.arguments, IsJson v)
    (hnone : ∀ a, (s.perform clock r).1 = .ok a → a.tellsChange = false) : (s.perform clock r).2.text = s.text := by
  cases r with
  | all => rfl
  | get id => rfl
  | filter id => rfl
  | create entry =>
    cases entry with
    | object entry =>
      refine text_create clock (hr _ List.mem_cons_self) fun e he => ?_
      have hanswer : (s.perform clock (.create (.object entry))).1 = .ok (.created e) := by
        show (s.create clock entry).1.map Answer.created = _
        rw [he]
        rfl
      cases hnone _ hanswer
    | _ => rfl
  | update id updates =>
    cases updates with
    | object updates =>
      refine text_update clock (hr _ (by simp [Request.arguments])) fun e he => ?_
      have hanswer : (s.perform clock (.update id (.object updates))).1 = .ok (.updated (some e)) := by
        show (s.update clock id updates).1.map Answer.updated = _
        rw [he]
        rfl
      cases hnone _ hanswer
    | _ => rfl
  | delete id =>
    refine text_delete fun he => ?_
    have hanswer : (s.perform clock (.delete id)).1 = .ok (.deleted true) := by
      show (s.delete id).1.map Answer.deleted = _
      rw [he]
      rfl
    cases hnone _ hanswer

/-- A file with an entry and a number behind it. -/
def mixedFile : SavedFilters := initial (some (fileText (.array [.object [("id", .string "a")], .int 3])))

/-- The entry could be deleted, but the number is met before anything is written. -/
theorem text_perform_mixed :
    (mixedFile.perform (fun _ => .epoch) (.delete (.string "a"))).1 = .error (.misuse .noMembers) ∧
      (mixedFile.perform (fun _ => .epoch) (.delete (.string "a"))).2.text = mixedFile.text := by
  have hcontent : mixedFile.content = .ok (.array [.object [("id", .string "a")], .int 3]) := by
    refine content_fileText (fun x hx => ?_) 0 _
    simp only [List.mem_cons, List.not_mem_nil, or_false] at hx
    rcases hx with rfl | rfl
    · refine .object (by simp) fun f hf => ?_
      rw [List.mem_singleton.mp hf]
      exact .string "a"
    · exact .int (by decide)
  have hkeep : mixedFile.keep (.string "a") = .error (.misuse .noMembers) := by
    rw [keep, hcontent]
    rfl
  have hfails : (mixedFile.perform (fun _ => .epoch) (.delete (.string "a"))).1 = .error (.misuse .noMembers) := by
    rw [perform, delete, hkeep]
    rfl
  refine ⟨hfails, text_perform _ (fun v hv => ?_) fun a ha => ?_⟩
  · rw [List.mem_singleton.mp hv]
    exact .string "a"
  · rw [hfails] at ha
    cases ha

end ComplianceHistory.SavedFilters
