import ComplianceHistory.Proofs.Sql.Words

/-!
# Reading the text of a clause back

The words of a clause are one factor, whatever its shape: a comparison, a negation of a factor, or a group
in parentheses.  So the reader never meets a connective between the words of a clause that binds tighter or
looser than the ones around them, and reads the clause itself (`ofText?_text`), also where the text stands in
the condition of a statement (`ofText?_conditionText`).  The only thing that the text does not keep is a join
of a single clause, which means the same as the clause.
-/

namespace ComplianceHistory.Sql

namespace Clause

/-! ### The steps of the reader -/

/-- What was read and what is left, as plain words. -/
def Taken.forget {ws : List Word} {α : Type} (t : Taken ws α) : Option (α × List Word) :=
  t.map fun p => (p.1, p.2.1)

theorem Taken.forget_eq_some {ws : List Word} {α : Type} {t : Taken ws α} {a : α} {rest : List Word}
    (h : t.forget = some (a, rest)) : ∃ hlen, t = some (a, ⟨rest, hlen⟩) := by
  cases t with
  | none => cases h
  | some p =>
    obtain ⟨b, rest', hlen⟩ := p
    cases h
    exact ⟨hlen, rfl⟩

theorem takeFactor_leaf (c : Clause) (rest : List Word) :
    (takeFactor (.leaf c :: rest)).forget = some (c, rest) := by
  rw [takeFactor.eq_def]
  rfl

theorem takeFactor_not {more rest : List Word} {c : Clause}
    (h : (takeFactor more).forget = some (c, rest)) :
    (takeFactor (.not :: more)).forget = some (.not c, rest) := by
  obtain ⟨_, h⟩ := Taken.forget_eq_some h
  rw [takeFactor.eq_def]
  simp only [h]
  rfl

theorem takeFactor_group {more rest : List Word} {cs : List Clause}
    (h : (takeAlternatives more).forget = some (cs, .closing :: rest)) :
    (takeFactor (.opening :: more)).forget = some (joined .or cs, rest) := by
  obtain ⟨_, h⟩ := Taken.forget_eq_some h
  rw [takeFactor.eq_def]
  simp only [h]
  rfl

theorem takeFactors_last {ws rest : List Word} {c : Clause} (h : (takeFactor ws).forget = some (c, rest))
    (hrest : rest.head? ≠ some (.connective .and)) : (takeFactors ws).forget = some ([c], rest) := by
  obtain ⟨_, h⟩ := Taken.forget_eq_some h
  rw [takeFactors.eq_def]
  split
  · rename_i he
    rw [h] at he
    cases he
  · rename_i he
    rw [h] at he
    cases he
    exact absurd rfl hrest
  · rename_i he
    rw [h] at he
    cases he
    rfl

theorem takeFactors_and {ws rest rest' : List Word} {c : Clause} {cs : List Clause}
    (h : (takeFactor ws).forget = some (c, .connective .and :: rest))
    (h' : (takeFactors rest).forget = some (cs, rest')) : (takeFactors ws).forget = some (c :: cs, rest') := by
  obtain ⟨_, h⟩ := Taken.forget_eq_some h
  obtain ⟨_, h'⟩ := Taken.forget_eq_some h'
  rw [takeFactors.eq_def]
  simp only [h, h']
  rfl

theorem takeAlternatives_last {ws rest : List Word} {cs : List Clause}
    (h : (takeFactors ws).forget = some (cs, rest)) (hrest : rest.head? ≠ some (.connective .or)) :
    (takeAlternatives ws).forget = some ([joined .and cs], rest) := by
  obtain ⟨_, h⟩ := Taken.forget_eq_some h
  rw [takeAlternatives.eq_def]
  split
  · rename_i he
    rw [h] at he
    cases he
  · rename_i he
    rw [h] at he
    cases he
    exact absurd rfl hrest
  · rename_i he
    rw [h] at he
    cases he
    rfl

theorem takeAlternatives_or {ws rest rest' : List Word} {cs ds : List Clause}
    (h : (takeFactors ws).forget = some (cs, .connective .or :: rest))
    (h' : (takeAlternatives rest).forget = some (ds, rest')) :
    (takeAlternatives ws).forget = some (joined .and cs :: ds, rest') := by
  obtain ⟨_, h⟩ := Taken.forget_eq_some h
  obtain ⟨_, h'⟩ := Taken.forget_eq_some h'
  rw [takeAlternatives.eq_def]
  simp only [h, h']
  rfl

/-! ### The clause that is read -/

mutual

/-- A clause without the joins of single clauses. -/
def plain : Clause → Clause
  | constant b => .constant b
  | column name => .column name
  | hasLabel => .hasLabel
  | not c => .not (plain c)
  | join connective cs => joined connective (plainAll cs)

/-- Clauses without the joins of single clauses. -/
def plainAll : List Clause → List Clause
  | [] => []
  | c :: cs => plain c :: plainAll cs

end

/-- The words of a clause read as one factor. -/
def ReadsBack (c : Clause) : Prop := ∀ rest, (takeFactor (words c ++ rest)).forget = some (plain c, rest)

/-- A factor that no connective follows is a run of its own. -/
theorem ReadsBack.alone {c : Clause} (h : ReadsBack c) {rest : List Word}
    (hrest : ∀ connective, rest.head? ≠ some (.connective connective)) :
    (takeAlternatives (words c ++ rest)).forget = some ([plain c], rest) :=
  takeAlternatives_last (takeFactors_last (h rest) (hrest .and)) (hrest .or)

theorem takeFactors_words {cs : List Clause} (hne : cs ≠ []) (ih : ∀ c ∈ cs, ReadsBack c) {rest : List Word}
    (hrest : rest.head? ≠ some (.connective .and)) :
    (takeFactors (wordsOfAll .and cs ++ rest)).forget = some (plainAll cs, rest) := by
  induction cs with
  | nil => exact absurd rfl hne
  | cons c cs ihs =>
    have hc := ih c List.mem_cons_self
    cases cs with
    | nil => exact takeFactors_last (hc rest) hrest
    | cons d cs =>
      rw [wordsOfAll, List.append_assoc, List.cons_append]
      · exact takeFactors_and (hc _) (ihs (List.cons_ne_nil _ _) fun e he => ih e (List.mem_cons_of_mem _ he))
      · exact List.cons_ne_nil _ _

theorem takeAlternatives_words {cs : List Clause} (hne : cs ≠ []) (ih : ∀ c ∈ cs, ReadsBack c)
    {rest : List Word} (hrest : ∀ connective, rest.head? ≠ some (.connective connective)) :
    (takeAlternatives (wordsOfAll .or cs ++ rest)).forget = some (plainAll cs, rest) := by
  induction cs with
  | nil => exact absurd rfl hne
  | cons c cs ihs =>
    have hc := ih c List.mem_cons_self
    cases cs with
    | nil => exact hc.alone hrest
    | cons d cs =>
      have hor : ∀ rest, (Word.connective .or :: rest).head? ≠ some (.connective .and) := by
        intro rest h
        cases h
      rw [wordsOfAll, List.append_assoc, List.cons_append]
      · exact takeAlternatives_or (takeFactors_last (hc _) (hor _))
          (ihs (List.cons_ne_nil _ _) fun e he => ih e (List.mem_cons_of_mem _ he))
      · exact List.cons_ne_nil _ _

/-- The words of a clause are one factor, whatever follows them. -/
theorem readsBack {c : Clause} (hc : Readable c) : ReadsBack c := by
  induction c using Clause.induct with
  | constant b => exact takeFactor_leaf _
  | column name => exact takeFactor_leaf _
  | hasLabel => exact takeFactor_leaf _
  | not c ih =>
    cases hc with
    | not h => exact fun rest => takeFactor_not (ih h rest)
  | join connective cs ih =>
    cases hc with
    | join _ hne h =>
      have ih' : ∀ c ∈ cs, ReadsBack c := fun c hc => ih c hc (h c hc)
      intro rest
      have hclosing : ∀ connective, (Word.closing :: rest).head? ≠ some (.connective connective) :=
        fun _ h => nomatch h
      rw [words, List.cons_append, List.append_assoc, List.singleton_append]
      cases connective with
      | and =>
        -- the run of factors is the only alternative of the group
        have hrun := takeFactors_words hne ih' (hclosing .and)
        exact takeFactor_group (takeAlternatives_last hrun (hclosing .or))
      | or => exact takeFactor_group (takeAlternatives_words hne ih' hclosing)

/-- The text of a clause is read as the clause. -/
theorem ofText?_text {c : Clause} (hc : Readable c) : ofText? c.text = some (plain c) := by
  have hwords : Word.split? c.text.toList = some (words c) := by
    have h := Word.split?_render hc []
    rw [List.append_nil, Word.split?_nil] at h
    rw [text, String.toList_ofList, h, Option.map_some, List.append_nil]
  have htake : (takeAlternatives (words c ++ [])).forget = some ([plain c], []) :=
    (readsBack hc).alone fun _ h => nomatch h
  rw [List.append_nil] at htake
  obtain ⟨_, htake⟩ := Taken.forget_eq_some htake
  unfold ofText?
  rw [hwords]
  simp only [htake]
  rfl

theorem readable_collectionColumn : Readable collectionColumn := .column (by decide)

/-- In the condition of a statement the text of a clause is read as the clause, behind the comparison of the
collection. -/
theorem ofText?_conditionText {c : Clause} (hc : Readable c) :
    ofText? (conditionText c) = some (.join .and [collectionColumn, plain c]) := by
  have hwords : Word.split? (conditionText c).toList =
      some (words collectionColumn ++ .connective .and :: .opening :: (words c ++ [.closing])) := by
    rw [conditionText, String.toList_ofList, List.append_assoc, Word.split?_render readable_collectionColumn,
      Word.split?_connective, Word.split?_opening, Word.split?_render hc]
    have hend : Word.split? [')'] = some [.closing] := by
      rw [Word.split?_closing, Word.split?_nil]
      rfl
    rw [hend]
    rfl
  have hgroup : (takeFactor (.opening :: (words c ++ [.closing]))).forget = some (plain c, []) :=
    takeFactor_group ((readsBack hc).alone fun _ h => nomatch h)
  have htake : (takeAlternatives
      (words collectionColumn ++ .connective .and :: .opening :: (words c ++ [.closing]))).forget =
      some ([.join .and [collectionColumn, plain c]], []) :=
    takeAlternatives_last (takeFactors_and (readsBack readable_collectionColumn _)
      (takeFactors_last hgroup fun h => nomatch h)) fun h => nomatch h
  obtain ⟨_, htake⟩ := Taken.forget_eq_some htake
  unfold ofText?
  rw [hwords]
  simp only [htake]
  rfl

/-! ### What the clause that is read means -/

section Truth

variable (s : Subject)

theorem truth_joined (connective : Connective) (cs : List Clause) (cells : List Cell) :
    truth s (joined connective cs) cells = truthOfAll s connective cs cells := by
  unfold joined
  split
  · rename_i c
    rw [truthOfAll, truthOfAll]
    cases connective with
    | and => rcases truth s c cells with _ | _ | _ <;> rfl
    | or => rcases truth s c cells with _ | _ | _ <;> rfl
  · rw [truth]

theorem placeholders_joined (connective : Connective) (cs : List Clause) :
    placeholders (joined connective cs) = placeholdersOfAll cs := by
  unfold joined
  split
  · rw [placeholdersOfAll, placeholdersOfAll, Nat.add_zero]
  · rw [placeholders]

theorem placeholdersOfAll_plainAll {cs : List Clause} (ih : ∀ c ∈ cs, placeholders (plain c) = placeholders c) :
    placeholdersOfAll (plainAll cs) = placeholdersOfAll cs := by
  induction cs with
  | nil => rfl
  | cons c cs ihs =>
    rw [plainAll, placeholdersOfAll, placeholdersOfAll, ih c List.mem_cons_self,
      ihs fun d hd => ih d (List.mem_cons_of_mem _ hd)]

theorem placeholders_plain (c : Clause) : placeholders (plain c) = placeholders c := by
  induction c using Clause.induct with
  | constant b => rfl
  | column name => rfl
  | hasLabel => rfl
  | not c ih => exact ih
  | join connective cs ih => rw [plain, placeholders_joined, placeholders, placeholdersOfAll_plainAll ih]

theorem truthOfAll_plainAll (connective : Connective) {cs : List Clause}
    (ih : ∀ c ∈ cs, ∀ cells, truth s (plain c) cells = truth s c cells) (cells : List Cell) :
    truthOfAll s connective (plainAll cs) cells = truthOfAll s connective cs cells := by
  induction cs generalizing cells with
  | nil => rfl
  | cons c cs ihs =>
    rw [plainAll, truthOfAll, truthOfAll, placeholders_plain, ih c List.mem_cons_self,
      ihs fun d hd => ih d (List.mem_cons_of_mem _ hd)]

/-- Joins of single clauses make no difference to the truth of a clause. -/
theorem truth_plain (c : Clause) (cells : List Cell) : truth s (plain c) cells = truth s c cells := by
  induction c using Clause.induct generalizing cells with
  | constant b => rfl
  | column name => rfl
  | hasLabel => rfl
  | not c ih => rw [plain, truth, truth, ih]
  | join connective cs ih => rw [plain, truth_joined, truth, truthOfAll_plainAll s connective ih]

end Truth

end Clause

end ComplianceHistory.Sql
