import ComplianceHistory.Proofs.Json.Reading
import ComplianceHistory.Proofs.SavedFilters.Refinement
import ComplianceHistory.Web.Api

/-!
# Bodies of requests that save filters

The body of a request that creates or updates a saved filter is read as an object, of which three members count: the
name, the filter and the controls.  A filter that is created from a body is one of texts and of a document in canonical
form (`Saved`), whatever else the body holds, so it can be written, read back and shown as it is (`savedView?_entry`).
The same is true of what an update makes of it (`updated_entry`).
-/

namespace ComplianceHistory.Web

open Json SavedFilters Value

/-! ### Saved filters -/

/-- A filter that was saved. -/
structure Saved where
  id : String
  name : String
  filter : Filter
  controls : List String
  createdAt : Time.Instant
  updatedAt : Time.Instant

/-- The members of the entry of a saved filter. -/
def Saved.entry (s : Saved) : Entries Value := [
  ("id", .string s.id), ("name", .string s.name), ("filter", s.filter.toValue), ("controls", textsValue s.controls),
  ("created_at", .string s.createdAt.text), ("updated_at", .string s.updatedAt.text)]

/-- A saved filter as it is shown. -/
def Saved.view (s : Saved) : Value := .object s.entry

/-- What an update gives to a saved filter. -/
structure Amendment where
  name : Option String
  filter : Option Filter
  controls : Option (List String)

/-- The members that an update gives to an entry, besides its date. -/
def Amendment.entries (a : Amendment) : Entries Value :=
  (a.name.map fun s => ("name", .string s)).toList ++ (a.filter.map fun f => ("filter", f.toValue)).toList ++
    (a.controls.map fun ss => ("controls", textsValue ss)).toList

/-- A saved filter with an update. -/
def Saved.amended (s : Saved) (now : Time.Instant) (a : Amendment) : Saved where
  id := s.id
  name := a.name.getD s.name
  filter := a.filter.getD s.filter
  controls := a.controls.getD s.controls
  createdAt := s.createdAt
  updatedAt := now

/-- A filter is saved as the members of a body say; without controls it has none. -/
structure Saved.CreatedFrom (s : Saved) (id : String) (now : Time.Instant) (members : Entries Value) : Prop where
  id : s.id = id
  name : member members "name" = .string s.name
  filter : ∃ fields, member members "filter" = .object fields ∧ Filter.ofValue (.object fields) = .ok s.filter
  controls : (members.get? "controls" = none ∧ s.controls = []) ∨
    members.get? "controls" = some (textsValue s.controls)
  createdAt : s.createdAt = now
  updatedAt : s.updatedAt = now

/-- An update gives what the members of a body say; null gives nothing. -/
structure Amendment.ReadFrom (a : Amendment) (members : Entries Value) : Prop where
  name : member members "name" = (a.name.map Value.string).getD .null
  filter : match a.filter with
    | none => member members "filter" = .null
    | some f => ∃ fields, member members "filter" = .object fields ∧ Filter.ofValue (.object fields) = .ok f
  controls : member members "controls" = (a.controls.map textsValue).getD .null

/-! ### Values without numbers -/

section Values

variable {P : Float → Prop}

theorem expressible_textsValue (ss : List String) : Expressible P (textsValue ss) := by
  refine .array fun v hv => ?_
  obtain ⟨s, -, rfl⟩ := List.mem_map.mp hv
  exact .string s

theorem Saved.expressible_entry (s : Saved) : Expressible P (.object s.entry) := by
  refine .object ?_ fun e he => ?_
  · show ["id", "name", "filter", "controls", "created_at", "updated_at"].Nodup
    decide
  · simp only [entry, List.mem_cons, List.not_mem_nil, or_false] at he
    rcases he with rfl | rfl | rfl | rfl | rfl | rfl
    · exact .string s.id
    · exact .string s.name
    · exact s.filter.expressible_toValue
    · exact expressible_textsValue s.controls
    · exact .string s.createdAt.text
    · exact .string s.updatedAt.text

theorem Amendment.expressible_entries (a : Amendment) : Expressible P (.object a.entries) := by
  obtain ⟨name, filter, controls⟩ := a
  refine .object ?_ fun e he => ?_
  · cases name <;> cases filter <;> cases controls <;>
      simp [entries, Keyed.keys]
  · simp only [entries, List.mem_append, Option.mem_toList, Option.map_eq_some_iff] at he
    rcases he with (⟨s, -, rfl⟩ | ⟨f, -, rfl⟩) | ⟨ss, -, rfl⟩
    · exact .string s
    · exact f.expressible_toValue
    · exact expressible_textsValue ss

theorem finiteItems_eq (vs : List Value) : finiteItems vs = vs.map finite := by
  induction vs with
  | nil => rfl
  | cons v vs ih => rw [finiteItems, ih, List.map_cons]

theorem finiteMembers_eq (fs : List (String × Value)) : finiteMembers fs = fs.map fun f => (f.1, finite f.2) := by
  induction fs with
  | nil => rfl
  | cons f fs ih => rw [finiteMembers, ih, List.map_cons]

/-- A value without floating-point numbers is shown as it is. -/
theorem finite_eq {v : Value} (h : Expressible (fun _ => False) v) : finite v = v := by
  induction h with
  | float hx => exact hx.elim
  | @array xs _ ih =>
    have hitems : xs.map finite = xs := (List.map_congr_left ih).trans (List.map_id xs)
    rw [finite, finiteItems_eq, hitems]
  | @object fs _ _ ih =>
    have hmembers : (fs.map fun f => (f.1, finite f.2)) = fs := by
      refine (List.map_congr_left fun f hf => ?_).trans (List.map_id fs)
      rw [ih f hf]
      rfl
    rw [finite, finiteMembers_eq, hmembers]
  | _ => rfl

end Values

/-- A saved filter is shown as it is. -/
theorem savedView?_entry (s : Saved) : savedView? s.entry = some s.view := by
  have hfilter : finite s.filter.toValue = s.filter.toValue := finite_eq s.filter.expressible_toValue
  have htexts : areTexts (textsValue s.controls) = true := by
    show (s.controls.map Value.string).all isText = true
    rw [List.all_map, List.all_eq_true]
    exact fun _ _ => rfl
  have hcontrols : ((some (textsValue s.controls)).filter areTexts).map (fun v => ("controls", finite v)) =
      some ("controls", textsValue s.controls) := by
    rw [Option.filter_some, if_pos htexts, Option.map_some, finite_eq (expressible_textsValue _)]
  have hshown : (savedMembers.mapM fun m => ((s.entry.get? m.1).filter m.2).map fun v => (m.1, finite v)) =
      some s.entry := by
    show (do
      let id ← some ("id", finite (.string s.id))
      let name ← some ("name", finite (.string s.name))
      let filter ← some ("filter", finite s.filter.toValue)
      let controls ← ((some (textsValue s.controls)).filter areTexts).map fun v => ("controls", finite v)
      let created ← some ("created_at", finite (.string s.createdAt.text))
      let updated ← some ("updated_at", finite (.string s.updatedAt.text))
      some [id, name, filter, controls, created, updated]) = _
    rw [hcontrols, hfilter]
    rfl
  show Option.map Value.object (savedMembers.mapM fun m => _) = _
  rw [hshown]
  rfl

/-- An entry has a text for its identity if that is its member of that name. -/
theorem hasId_string {id : String} {members : Entries Value} :
    hasId (.string id) members = true ↔ member members "id" = .string id := by
  unfold hasId
  cases member members "id" with
  | string s => rw [same, beq_iff_eq, Value.string.injEq]
  | _ =>
    refine iff_of_false Bool.false_ne_true fun h => ?_
    cases h

theorem hasId_entry (id : String) (s : Saved) : hasId (.string id) s.entry = decide (s.id = id) := by
  show Value.same (.string s.id) (.string id) = _
  rw [Value.same]
  exact Bool.beq_eq_decide_eq _ _

/-! ### Parts of bodies -/

section Parts

variable {steps : List Step} {v : Value} {members : Entries Value} {name : String} {α : Type} {x : α}

theorem textAt_eq_ok {s : String} : textAt steps v = .ok s ↔ v = .string s := by
  cases v with
  | string t =>
    show Except.ok t = Except.ok s ↔ _
    rw [Except.ok.injEq, Value.string.injEq]
  | _ => exact ⟨nofun, nofun⟩

theorem objectAt_eq_ok {w : Value} : objectAt steps v = .ok w ↔ ∃ fields, v = .object fields ∧ w = .object fields := by
  cases v with
  | object fields =>
    constructor
    · intro h
      cases h
      exact ⟨fields, rfl, rfl⟩
    · rintro ⟨_, h, rfl⟩
      cases h
      rfl
  | _ => exact ⟨nofun, fun ⟨_, h, _⟩ => nomatch h⟩

theorem textsFrom_eq_ok {index : Nat} {vs : List Value} {ss : List String} (h : textsFrom name index vs = .ok ss) :
    vs = ss.map .string := by
  induction vs generalizing index ss with
  | nil =>
    cases h
    rfl
  | cons v vs ih =>
    rw [textsFrom] at h
    split at h
    · rename_i s ss' hs hss
      cases h
      rw [textAt_eq_ok.mp hs, ih hss]
      rfl
    · cases h

theorem textsAt_eq_ok {ss : List String} (h : textsAt name v = .ok ss) : v = textsValue ss := by
  cases v with
  | array vs => exact congrArg Value.array (textsFrom_eq_ok h)
  | _ => cases h

theorem required_eq_ok {read : List Step → Value → Checked α} (h : Web.required members [name] read = .ok x) :
    ∃ v, members.get? name = some v ∧ read [.member name] v = .ok x := by
  unfold Web.required at h
  rw [List.findSome?_singleton] at h
  cases hv : members.get? name with
  | none =>
    rw [hv] at h
    cases h
  | some v =>
    rw [hv] at h
    exact ⟨v, rfl, h⟩

theorem optional_eq_none {read : Value → Checked α} (h : optional members name read = .ok none) :
    member members name = .null := by
  unfold optional at h
  split at h
  · assumption
  · rename_i v _
    cases hv : read (member members name) with
    | error e => rw [hv] at h; cases h
    | ok y => rw [hv] at h; cases h

theorem optional_eq_some {read : Value → Checked α} (h : optional members name read = .ok (some x)) :
    read (member members name) = .ok x := by
  unfold optional at h
  split at h
  · cases h
  · cases hv : read (member members name) with
    | error e => rw [hv] at h; cases h
    | ok y =>
      rw [hv] at h
      cases h
      rfl

end Parts

/-! ### Bodies -/

section Bodies

variable {body : Option String} {members : Entries Value}

theorem readBody_eq_ok {α : Type} {form : Value → Checked α} {x : α} :
    readBody form body = .ok x ↔ ∃ v, bodyValue body = .ok v ∧ form v = .ok x := by
  unfold readBody
  rw [bind_eq_ok]
  simp only [mapError_eq_ok]

/-- The text of a value is a body with that value. -/
theorem bodyValue_write {v : Value} (h : Expressible Lossless v) : bodyValue (some (write (.blanks 2) v)) = .ok v := by
  obtain ⟨c, cs, hc, hstart⟩ := render_head (l := .blanks 2) h 0
  have htext : (write (.blanks 2) v).toList = c :: cs := by rw [write, String.toList_ofList, hc]
  have hmark : (c :: cs).head? ≠ some '\ufeff' := by
    rw [List.head?_cons]
    exact fun hmark => startsValue_ne hstart (by decide) (Option.some.inj hmark)
  have hread : read (String.ofList (c :: cs)) = .ok v := by
    rw [← htext, String.ofList_toList]
    exact read_write (Layout.spaced_blanks 2) h
  unfold bodyValue
  simp only [Option.getD_some, htext, List.isEmpty_cons, if_neg hmark, hread]
  rfl

/-- A body that stops at a number of too many digits is refused without naming it. -/
theorem bodyValue_tooManyDigits {body : String} {n : Nat} (h : read body = .error (.tooManyDigits n)) :
    bodyValue (some body) = .error (.refusal 400 "There was an error parsing the body") := by
  have hmark : body.toList.head? ≠ some '\ufeff' := fun hmark => by
    obtain ⟨_, _, _, hfault⟩ := read_of_mark hmark
    rw [hfault] at h
    cases h
  cases htext : body.toList with
  | nil =>
    have hempty : body = "" := String.toList_eq_nil_iff.mp htext
    rw [hempty, read_empty] at h
    cases h
  | cons c cs =>
    have hread : read (String.ofList (c :: cs)) = .error (.tooManyDigits n) := by rw [← htext, String.ofList_toList, h]
    rw [htext] at hmark
    unfold bodyValue
    simp only [Option.getD_some, htext, List.isEmpty_cons, if_neg hmark, hread]
    rfl

theorem Reply.status_ofFlaws (flaws : List Flaw) : 400 ≤ (Reply.ofFlaws flaws).status := by
  unfold Reply.ofFlaws
  split
  · exact (by decide : 400 ≤ 500)
  · exact (by decide : 400 ≤ 422)

theorem status_of_bodyValue {r : Reply} (h : bodyValue body = .error r) : 400 ≤ r.status := by
  unfold bodyValue at h
  dsimp only at h
  split at h
  · cases h
    exact Reply.status_ofFlaws _
  · split at h <;> cases h
    · exact Reply.status_ofFlaws _
    · exact Nat.le_refl 400

/-- A body that is not read is refused. -/
theorem status_of_readBody {α : Type} {form : Value → Checked α} {r : Reply} (h : readBody form body = .error r) :
    400 ≤ r.status := by
  unfold readBody at h
  cases hv : bodyValue body with
  | error refusal =>
    rw [hv] at h
    cases h
    exact status_of_bodyValue hv
  | ok v =>
    have hform : (form v).mapError Reply.ofFlaws = .error r := by
      rw [hv] at h
      exact h
    cases hflaws : form v with
    | error flaws =>
      rw [hflaws] at hform
      cases hform
      exact Reply.status_ofFlaws flaws
    | ok x =>
      rw [hflaws] at hform
      cases hform

/-- What is read of a new filter: its name, the document of its filter and its controls. -/
theorem readBody_newFilterForm {given : Entries Value} (h : readBody newFilterForm body = .ok given) :
    ∃ (members fields : Entries Value) (name : String) (controls : List String),
      bodyValue body = .ok (.object members) ∧
      given = [("name", .string name), ("filter", .object fields), ("controls", textsValue controls)] ∧
      member members "name" = .string name ∧ member members "filter" = .object fields ∧
      ((members.get? "controls" = none ∧ controls = []) ∨ members.get? "controls" = some (textsValue controls)) := by
  obtain ⟨v, hv, hread⟩ := readBody_eq_ok.mp h
  obtain ⟨members, hmembers, hform⟩ := bind_eq_ok.mp hread
  obtain rfl : v = .object members := by
    cases v <;> cases hmembers
    rfl
  dsimp only at hform
  split at hform
  · rename_i name filter controls hname hfilter hcontrols
    cases hform
    obtain ⟨w, hw, hname⟩ := required_eq_ok hname
    obtain rfl := textAt_eq_ok.mp hname
    obtain ⟨w, hdocument, hfilter⟩ := required_eq_ok hfilter
    obtain ⟨fields, rfl, rfl⟩ := objectAt_eq_ok.mp hfilter
    refine ⟨members, fields, name, controls, hv, rfl, member_eq hw, member_eq hdocument, ?_⟩
    have htexts := textsAt_eq_ok hcontrols
    cases hgiven : members.get? "controls" with
    | none =>
      rw [hgiven] at htexts
      refine .inl ⟨rfl, ?_⟩
      cases controls with
      | nil => rfl
      | cons s ss => cases htexts
    | some c =>
      rw [hgiven] at htexts
      exact .inr (congrArg some htexts)
  · cases hform

/-- What is read of an update: a name, the document of a filter and controls, each of which may be missing. -/
theorem readBody_updateForm {updates : Entries Value} (h : readBody updateForm body = .ok updates) :
    ∃ (members : Entries Value) (name : Option String) (document : Option (Entries Value))
      (controls : Option (List String)), bodyValue body = .ok (.object members) ∧
      updates = (name.map fun s => ("name", .string s)).toList ++
        (document.map fun fields => ("filter", .object fields)).toList ++
        (controls.map fun ss => ("controls", textsValue ss)).toList ∧
      member members "name" = (name.map Value.string).getD .null ∧
      member members "filter" = (document.map Value.object).getD .null ∧
      member members "controls" = (controls.map textsValue).getD .null := by
  obtain ⟨v, hv, hread⟩ := readBody_eq_ok.mp h
  obtain ⟨members, hmembers, hform⟩ := bind_eq_ok.mp hread
  obtain rfl : v = .object members := by
    cases v <;> cases hmembers
    rfl
  dsimp only at hform
  split at hform
  · rename_i name filter controls hname hfilter hcontrols
    cases hform
    have hname' : member members "name" = (name.map Value.string).getD .null := by
      cases name with
      | none => exact optional_eq_none hname
      | some s => exact textAt_eq_ok.mp (optional_eq_some hname)
    have hcontrols' : member members "controls" = (controls.map textsValue).getD .null := by
      cases controls with
      | none => exact optional_eq_none hcontrols
      | some ss => exact textsAt_eq_ok (optional_eq_some hcontrols)
    cases filter with
    | none => exact ⟨members, name, none, controls, hv, rfl, hname', optional_eq_none hfilter, hcontrols'⟩
    | some d =>
      obtain ⟨fields, hfields, rfl⟩ := objectAt_eq_ok.mp (optional_eq_some hfilter)
      exact ⟨members, name, some fields, controls, hv, rfl, hname', hfields, hcontrols'⟩
  · cases hform

/-! ### Entries from bodies -/

/-- The entry of a new filter holds its document in canonical form. -/
theorem prepared_given (id name : String) (d : Value) (controls : List String) :
    prepared [("id", .string id), ("name", .string name), ("filter", d), ("controls", textsValue controls)] =
      (canonical d).map fun document =>
        [("id", .string id), ("name", .string name), ("filter", document), ("controls", textsValue controls)] := rfl

/-- What is written of an update is the update with its filter in canonical form. -/
theorem preparedUpdates_given (name : Option String) (document : Option (Entries Value))
    (controls : Option (List String)) : preparedUpdates ((name.map fun s => ("name", .string s)).toList ++
        (document.map fun fields => ("filter", .object fields)).toList ++
        (controls.map fun ss => ("controls", textsValue ss)).toList) =
      match document with
      | none => .ok (Amendment.mk name none controls).entries
      | some fields => ((Filter.ofValue (.object fields)).mapError .document).map fun f =>
          (Amendment.mk name (some f) controls).entries := by
  cases document with
  | none => cases name <;> cases controls <;> rfl
  | some fields =>
    have hprepared : preparedUpdates ((name.map fun s => ("name", Value.string s)).toList ++
        [("filter", .object fields)] ++ (controls.map fun ss => ("controls", textsValue ss)).toList) =
        (canonical (.object fields)).map fun d => (name.map fun s => ("name", Value.string s)).toList ++
          [("filter", d)] ++ (controls.map fun ss => ("controls", textsValue ss)).toList := by
      cases name <;> cases controls <;> rfl
    refine hprepared.trans ?_
    unfold canonical
    dsimp only
    cases Filter.ofValue (.object fields) <;> rfl

/-- A new filter is refused for its document, or its entry is the one of a filter that is created from the body. -/
theorem prepared_of_newFilterForm {given : Entries Value} (h : readBody newFilterForm body = .ok given) (id : String) :
    ∃ members, bodyValue body = .ok (.object members) ∧
      ((∃ e, prepared (("id", .string id) :: given) = .error (.document e)) ∨
        ∃ stored, prepared (("id", .string id) :: given) = .ok stored ∧ ∀ now, ∃ s : Saved,
          dated now stored = s.entry ∧ s.CreatedFrom id now members) := by
  obtain ⟨members, fields, name, controls, hbody, rfl, hname, hfilter, hcontrols⟩ := readBody_newFilterForm h
  have hprepared := prepared_given id name (.object fields) controls
  unfold canonical at hprepared
  refine ⟨members, hbody, ?_⟩
  cases hf : Filter.ofValue (.object fields) with
  | error e =>
    rw [hf] at hprepared
    exact .inl ⟨e, hprepared⟩
  | ok f =>
    rw [hf] at hprepared
    exact .inr ⟨_, hprepared, fun now => ⟨⟨id, name, f, controls, now, now⟩, rfl, rfl, hname, ⟨fields, hfilter, hf⟩,
      hcontrols, rfl, rfl⟩⟩

/-- An update is refused for its document, or it is one that the body says. -/
theorem preparedUpdates_of_updateForm {updates : Entries Value} (h : readBody updateForm body = .ok updates) :
    ∃ members, bodyValue body = .ok (.object members) ∧
      ((∃ e, preparedUpdates updates = .error (.document e)) ∨
        ∃ a : Amendment, preparedUpdates updates = .ok a.entries ∧ a.ReadFrom members) := by
  obtain ⟨members, name, document, controls, hbody, rfl, hname, hfilter, hcontrols⟩ := readBody_updateForm h
  refine ⟨members, hbody, ?_⟩
  rw [preparedUpdates_given]
  cases document with
  | none => exact .inr ⟨⟨name, none, controls⟩, rfl, hname, hfilter, hcontrols⟩
  | some fields =>
    dsimp only
    cases hf : Filter.ofValue (.object fields) with
    | error e => exact .inl ⟨e, rfl⟩
    | ok f => exact .inr ⟨⟨name, some f, controls⟩, rfl, hname, ⟨fields, hfilter, hf⟩, hcontrols⟩

end Bodies

/-- The entry of a saved filter with an update is the one of the filter with the update. -/
theorem updated_entry (s : Saved) (now : Time.Instant) (a : Amendment) :
    updated now a.entries s.entry = (s.amended now a).entry := by
  obtain ⟨name, filter, controls⟩ := a
  cases name <;> cases filter <;> cases controls <;> rfl

end ComplianceHistory.Web
