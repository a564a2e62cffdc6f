import ComplianceHistory.Filter.Expression

/-!
# The grammar of filter expressions

An expression is a run of alternatives joined by `OR`, an alternative a run of terms joined by `AND`, and a term a
condition or an expression in parentheses.  A derivation is a tree of these forms with its tokens at the leaves, and
has the filter's tree as its meaning.

One lemma for each reader says when it succeeds (`readTerm_eq_ok`, `readFactors_eq_ok`, `readAlternatives_eq_ok`).
So what a derivation yields is read as its meaning, whatever follows that cannot belong to it, and whatever is read
has a derivation; and since no token fits two forms at one place, there is only one.  Hence a list of tokens is read
exactly if it has a derivation (`ofTokens_grammar`).
-/

namespace ComplianceHistory

/-- A token of one kind. -/
abbrev TokenOf (k : TokenKind) := { t : Token // t.kind = k }

namespace Filter

/-! ### Derivations -/

/-- The token between a label and a value. -/
inductive Comparator where
  | equal (t : TokenOf .equal)
  | colon (t : TokenOf .colon)
  | notEqual (t : TokenOf .notEqual)

/-- The token of a comparison. -/
def Comparator.token : Comparator → Token
  | equal t => t.1
  | colon t => t.1
  | notEqual t => t.1

/-- The operator of a comparison. -/
def Comparator.operator : Comparator → String
  | equal _ => "="
  | colon _ => "="
  | notEqual _ => "!="

/-- The token of a value. -/
inductive Operand where
  | word (t : TokenOf .word)
  | string (t : TokenOf .string)

/-- The token of a value. -/
def Operand.token : Operand → Token
  | word t => t.1
  | string t => t.1

/-- The value: a word as it stands, a string without its first and last character, the quotes. -/
def Operand.value : Operand → List Char
  | word t => t.1.text
  | string t => t.1.text.tail.dropLast

mutual

/-- A condition, or an expression in parentheses. -/
inductive Term where
  | condition (label : TokenOf .word) (comparator : Comparator) (operand : Operand)
  | group (opening : TokenOf .opening) (e : Alternatives) (closing : TokenOf .closing)

/-- Terms joined by `AND`. -/
inductive Factors where
  | one (t : Term)
  | and (t : Term) (keyword : TokenOf .and) (fs : Factors)

/-- Runs of terms joined by `OR`: an expression. -/
inductive Alternatives where
  | one (fs : Factors)
  | or (fs : Factors) (keyword : TokenOf .or) (e : Alternatives)

end

mutual

/-- The tokens of a term. -/
def Term.tokens : Term → List Token
  | .condition label comparator operand => [label.1, comparator.token, operand.token]
  | .group opening e closing => opening.1 :: (e.tokens ++ [closing.1])

/-- The tokens of a run of terms. -/
def Factors.tokens : Factors → List Token
  | .one t => t.tokens
  | .and t keyword fs => t.tokens ++ keyword.1 :: fs.tokens

/-- The tokens of an expression. -/
def Alternatives.tokens : Alternatives → List Token
  | .one fs => fs.tokens
  | .or fs keyword e => fs.tokens ++ keyword.1 :: e.tokens

end

mutual

/-- What a term means; parentheses leave no trace. -/
def Term.scope : Term → Scope
  | .condition label comparator operand =>
    .condition ⟨String.ofList label.1.text, comparator.operator, String.ofList operand.value⟩
  | .group _ e _ => e.scope

/-- What the terms of a run mean, in their order. -/
def Factors.scopes : Factors → List Scope
  | .one t => [t.scope]
  | .and t _ fs => t.scope :: fs.scopes

/-- What a run of terms means: a single term itself, several terms one query. -/
def Factors.scope : Factors → Scope
  | .one t => t.scope
  | .and t _ fs => .query "AND" (t.scope :: fs.scopes)

/-- What the runs of an expression mean, in their order. -/
def Alternatives.scopes : Alternatives → List Scope
  | .one fs => [fs.scope]
  | .or fs _ e => fs.scope :: e.scopes

/-- What an expression means: a single run itself, several runs one query. -/
def Alternatives.scope : Alternatives → Scope
  | .one fs => fs.scope
  | .or fs _ e => .query "OR" (fs.scope :: e.scopes)

end

theorem Factors.joined_scopes (fs : Factors) : joined "AND" fs.scopes = fs.scope := by
  cases fs with
  | one t => rw [Factors.scopes, Factors.scope, joined]
  | and t keyword fs => cases fs <;> rfl

theorem Alternatives.joined_scopes (e : Alternatives) : joined "OR" e.scopes = e.scope := by
  cases e with
  | one fs => rw [Alternatives.scopes, Alternatives.scope, joined]
  | or fs keyword e => cases e <;> rfl

/-! ### The readers -/

/-- The kind of the next token. -/
def next? (ts : List Token) : Option TokenKind := ts.head?.map Token.kind

@[simp] theorem next?_nil : next? [] = none := rfl

@[simp] theorem next?_cons (t : Token) (ts : List Token) : next? (t :: ts) = some t.kind := rfl

/-- What was read and what is left, as plain tokens. -/
def Reading.forget {ts : List Token} {α : Type} (r : Reading ts α) : Except ExpressionError (α × List Token) :=
  r.map fun p => (p.1, p.2.1)

theorem Reading.forget_eq_ok {ts rest : List Token} {α : Type} {r : Reading ts α} {a : α} :
    r.forget = .ok (a, rest) ↔ ∃ h, r = .ok (a, ⟨rest, h⟩) := by
  constructor
  · intro hr
    cases r with
    | error e => cases hr
    | ok p =>
      obtain ⟨b, rest', h⟩ := p
      cases hr
      exact ⟨h, rfl⟩
  · rintro ⟨h, rfl⟩
    rfl

/-- Reading takes at least one token. -/
theorem Reading.length_lt {ts rest : List Token} {α : Type} {r : Reading ts α} {a : α}
    (h : r.forget = .ok (a, rest)) : rest.length < ts.length := by
  obtain ⟨hlt, -⟩ := Reading.forget_eq_ok.mp h
  exact hlt

theorem exists_comparator {t : Token} {operator : String} (h : comparisonOperator? t.kind = some operator) :
    ∃ c : Comparator, c.token = t ∧ c.operator = operator := by
  unfold comparisonOperator? at h
  split at h
  · exact ⟨.equal ⟨t, ‹_›⟩, rfl, Option.some.inj h⟩
  · exact ⟨.colon ⟨t, ‹_›⟩, rfl, Option.some.inj h⟩
  · exact ⟨.notEqual ⟨t, ‹_›⟩, rfl, Option.some.inj h⟩
  · cases h

theorem Comparator.operator_eq (c : Comparator) : comparisonOperator? c.token.kind = some c.operator := by
  cases c with
  | equal t => rw [token, t.2]; rfl
  | colon t => rw [token, t.2]; rfl
  | notEqual t => rw [token, t.2]; rfl

theorem exists_operand {t : Token} {value : List Char} (h : tokenValue? t = some value) :
    ∃ v : Operand, v.token = t ∧ v.value = value := by
  unfold tokenValue? at h
  split at h
  · exact ⟨.string ⟨t, ‹_›⟩, rfl, Option.some.inj h⟩
  · exact ⟨.word ⟨t, ‹_›⟩, rfl, Option.some.inj h⟩
  · cases h

theorem Operand.value_eq (v : Operand) : tokenValue? v.token = some v.value := by
  cases v with
  | word t => simp only [tokenValue?, token, t.2, value]
  | string t => simp only [tokenValue?, token, t.2, value]

/-- A condition is read from a word, a token of comparison and a value. -/
theorem readCondition_eq_ok {ts rest : List Token} {s : Scope} :
    (readCondition ts).forget = .ok (s, rest) ↔
      ∃ label comparator operand, ts = (Term.condition label comparator operand).tokens ++ rest ∧
        s = (Term.condition label comparator operand).scope := by
  constructor
  · intro h
    unfold readCondition at h
    split at h
    · cases h
    rename_i l ts
    by_cases hl : l.kind = .word
    · rw [if_neg (not_not_intro hl)] at h
      cases ts with
      | nil => cases h
      | cons o ts =>
        cases ho : comparisonOperator? o.kind with
        | none => simp only [ho] at h; cases h
        | some operator =>
          simp only [ho] at h
          cases ts with
          | nil => cases h
          | cons v ts =>
            cases hv : tokenValue? v with
            | none => simp only [hv] at h; cases h
            | some value =>
              simp only [hv] at h
              obtain ⟨c, rfl, rfl⟩ := exists_comparator ho
              obtain ⟨w, rfl, rfl⟩ := exists_operand hv
              cases h
              exact ⟨⟨l, hl⟩, c, w, rfl, rfl⟩
    · rw [if_pos hl] at h
      cases h
  · rintro ⟨label, comparator, operand, rfl, rfl⟩
    unfold readCondition
    simp only [Term.tokens, List.cons_append, List.nil_append, label.2, not_true_eq_false, ne_eq, if_false,
      comparator.operator_eq, operand.value_eq]
    rfl

/-- A term is read from a condition, or from an expression between parentheses. -/
theorem readTerm_eq_ok {ts rest : List Token} {s : Scope} :
    (readTerm ts).forget = .ok (s, rest) ↔
      (readCondition ts).forget = .ok (s, rest) ∨
      ∃ (opening : TokenOf .opening) (more : List Token) (ss : List Scope) (closing : TokenOf .closing),
        ts = opening.1 :: more ∧ (readAlternatives more).forget = .ok (ss, closing.1 :: rest) ∧
        s = joined "OR" ss := by
  constructor
  · intro h
    rw [readTerm.eq_def] at h
    cases ts with
    | nil => exact .inl h
    | cons t more =>
      by_cases ht : t.kind = .opening
      · simp only [ht, if_true] at h
        refine .inr ?_
        split at h
        · cases h
        · cases h
        · rename_i ss u rest' hlt hmore
          by_cases hu : u.kind = .closing
          · rw [if_pos hu] at h
            cases h
            exact ⟨⟨t, ht⟩, more, ss, ⟨u, hu⟩, rfl, Reading.forget_eq_ok.mpr ⟨_, hmore⟩, rfl⟩
          · rw [if_neg hu] at h
            cases h
      · simp only [ht, if_false] at h
        exact .inl h
  · rintro (h | ⟨opening, more, ss, closing, rfl, hmore, rfl⟩)
    · rw [readTerm.eq_def]
      obtain ⟨label, comparator, operand, rfl, rfl⟩ := readCondition_eq_ok.mp h
      have hkind : label.1.kind ≠ .opening := by
        rw [label.2]
        decide
      simp only [Term.tokens, List.cons_append, List.nil_append, hkind, if_false] at h ⊢
      exact h
    · obtain ⟨hlt, hmore⟩ := Reading.forget_eq_ok.mp hmore
      rw [readTerm.eq_def]
      simp only [opening.2, if_true, hmore, closing.2]
      rfl

theorem length_lt_behind {t : Token} {ts rest rest' : List Token} (h : (t :: rest).length < ts.length)
    (h' : rest'.length < rest.length) : rest'.length < ts.length := by
  rw [List.length_cons] at h
  omega

/-- Reads a run of items: one item, and behind a keyword a further run. -/
def readRun {ts : List Token} {α β : Type} (kind : TokenKind) (item : α → β) (first : Reading ts α)
    (again : (more : List Token) → Reading more (List β)) : Reading ts (List β) :=
  match first with
  | .error e => .error e
  | .ok (a, ⟨[], h⟩) => .ok ([item a], ⟨[], h⟩)
  | .ok (a, ⟨t :: rest, h⟩) =>
    if t.kind = kind then
      match again rest with
      | .error e => .error e
      | .ok (bs, ⟨rest', h'⟩) => .ok (item a :: bs, ⟨rest', length_lt_behind h h'⟩)
    else .ok ([item a], ⟨t :: rest, h⟩)

theorem readFactors_eq (ts : List Token) : readFactors ts = readRun .and id (readTerm ts) readFactors := by
  rw [readFactors.eq_def]
  unfold readRun
  rcases readTerm ts with e | ⟨s, _ | ⟨t, rest⟩, h⟩
  · rfl
  · rfl
  · dsimp only
    rcases readFactors rest with e | ⟨ss, rest', h'⟩ <;> rfl

theorem readAlternatives_eq (ts : List Token) :
    readAlternatives ts = readRun .or (joined "AND") (readFactors ts) readAlternatives := by
  rw [readAlternatives.eq_def]
  unfold readRun
  rcases readFactors ts with e | ⟨fs, _ | ⟨t, rest⟩, h⟩
  · rfl
  · rfl
  · dsimp only
    rcases readAlternatives rest with e | ⟨ss, rest', h'⟩ <;> rfl

/-- A run is read up to the first item that no keyword follows. -/
theorem readRun_eq_ok {ts rest : List Token} {α β : Type} {kind : TokenKind} {item : α → β} {first : Reading ts α}
    {again : (more : List Token) → Reading more (List β)} {bs : List β} :
    (readRun kind item first again).forget = .ok (bs, rest) ↔
      ∃ a rest', first.forget = .ok (a, rest') ∧
        (next? rest' ≠ some kind ∧ bs = [item a] ∧ rest = rest' ∨
        ∃ (keyword : TokenOf kind) (more : List Token) (bs' : List β), rest' = keyword.1 :: more ∧
          (again more).forget = .ok (bs', rest) ∧ bs = item a :: bs') := by
  constructor
  · intro h
    unfold readRun at h
    split at h
    · cases h
    · rename_i a hlt
      cases h
      exact ⟨a, [], rfl, .inl ⟨nofun, rfl, rfl⟩⟩
    · rename_i a t rest' hlt
      refine ⟨a, t :: rest', rfl, ?_⟩
      by_cases ht : t.kind = kind
      · rw [if_pos ht] at h
        refine .inr ⟨⟨t, ht⟩, rest', ?_⟩
        split at h
        · cases h
        · rename_i bs' rest'' hlt' hmore
          cases h
          exact ⟨bs', rfl, Reading.forget_eq_ok.mpr ⟨_, hmore⟩, rfl⟩
      · rw [if_neg ht] at h
        cases h
        exact .inl ⟨fun hnext => ht (Option.some.inj hnext), rfl, rfl⟩
  · rintro ⟨a, rest', hfirst, hrest⟩
    obtain ⟨hlt, rfl⟩ := Reading.forget_eq_ok.mp hfirst
    unfold readRun
    rcases hrest with ⟨hnext, rfl, rfl⟩ | ⟨keyword, more, bs', rfl, hmore, rfl⟩
    · cases rest with
      | nil => rfl
      | cons t rest =>
        have ht : t.kind ≠ kind := fun ht => hnext (congrArg some ht)
        simp only [ht, if_false]
        rfl
    · obtain ⟨hlt', hmore⟩ := Reading.forget_eq_ok.mp hmore
      simp only [keyword.2, if_true, hmore]
      rfl

/-- A run of terms is read up to the first term that no `AND` follows. -/
theorem readFactors_eq_ok {ts rest : List Token} {ss : List Scope} :
    (readFactors ts).forget = .ok (ss, rest) ↔
      ∃ s rest', (readTerm ts).forget = .ok (s, rest') ∧
        (next? rest' ≠ some .and ∧ ss = [s] ∧ rest = rest' ∨
        ∃ (keyword : TokenOf .and) (more : List Token) (ss' : List Scope), rest' = keyword.1 :: more ∧
          (readFactors more).forget = .ok (ss', rest) ∧ ss = s :: ss') := by
  rw [readFactors_eq]
  exact readRun_eq_ok

/-- An expression is read up to the first run of terms that no `OR` follows. -/
theorem readAlternatives_eq_ok {ts rest : List Token} {ss : List Scope} :
    (readAlternatives ts).forget = .ok (ss, rest) ↔
      ∃ fs rest', (readFactors ts).forget = .ok (fs, rest') ∧
        (next? rest' ≠ some .or ∧ ss = [joined "AND" fs] ∧ rest = rest' ∨
        ∃ (keyword : TokenOf .or) (more : List Token) (ss' : List Scope), rest' = keyword.1 :: more ∧
          (readAlternatives more).forget = .ok (ss', rest) ∧ ss = joined "AND" fs :: ss') := by
  rw [readAlternatives_eq]
  exact readRun_eq_ok

/-! ### What a derivation yields is read -/

mutual

/-- The tokens of a term are read as what it means, whatever follows them. -/
theorem Term.read (t : Term) (rest : List Token) : (readTerm (t.tokens ++ rest)).forget = .ok (t.scope, rest) := by
  cases t with
  | condition label comparator operand =>
    exact readTerm_eq_ok.mpr (.inl (readCondition_eq_ok.mpr ⟨label, comparator, operand, rfl, rfl⟩))
  | group opening e closing =>
    have hclosing : next? (closing.1 :: rest) = some .closing := congrArg some closing.2
    refine readTerm_eq_ok.mpr (.inr ⟨opening, e.tokens ++ closing.1 :: rest, e.scopes, closing, ?_, ?_, ?_⟩)
    · simp [Term.tokens]
    · refine e.read _ ?_ ?_
      · rw [hclosing]
        decide
      · rw [hclosing]
        decide
    · rw [e.joined_scopes, Term.scope]

/-- The tokens of a run of terms are read as what they mean, if no `AND` follows. -/
theorem Factors.read (fs : Factors) (rest : List Token) (hrest : next? rest ≠ some .and) :
    (readFactors (fs.tokens ++ rest)).forget = .ok (fs.scopes, rest) := by
  cases fs with
  | one t => exact readFactors_eq_ok.mpr ⟨t.scope, rest, t.read rest, .inl ⟨hrest, rfl, rfl⟩⟩
  | and t keyword fs =>
    refine readFactors_eq_ok.mpr ⟨t.scope, keyword.1 :: (fs.tokens ++ rest), ?_, .inr ⟨keyword, _, fs.scopes,
      rfl, fs.read rest hrest, rfl⟩⟩
    rw [Factors.tokens, List.append_assoc, List.cons_append]
    exact t.read _

/-- The tokens of an expression are read as what its runs mean, if no keyword follows. -/
theorem Alternatives.read (e : Alternatives) (rest : List Token) (hand : next? rest ≠ some .and)
    (hor : next? rest ≠ some .or) : (readAlternatives (e.tokens ++ rest)).forget = .ok (e.scopes, rest) := by
  cases e with
  | one fs =>
    refine readAlternatives_eq_ok.mpr ⟨fs.scopes, rest, fs.read rest hand, .inl ⟨hor, ?_, rfl⟩⟩
    rw [fs.joined_scopes, Alternatives.scopes]
  | or fs keyword e =>
    have hkeyword : next? (keyword.1 :: (e.tokens ++ rest)) = some .or := congrArg some keyword.2
    refine readAlternatives_eq_ok.mpr ⟨fs.scopes, keyword.1 :: (e.tokens ++ rest), ?_, .inr ⟨keyword, _, e.scopes,
      rfl, e.read rest hand hor, ?_⟩⟩
    · rw [Alternatives.tokens, List.append_assoc, List.cons_append]
      refine fs.read _ ?_
      rw [hkeyword]
      decide
    · rw [fs.joined_scopes, Alternatives.scopes]

end

/-! ### What is read has a derivation -/

mutual

theorem Term.exists_of_read {ts rest : List Token} {s : Scope} (h : (readTerm ts).forget = .ok (s, rest)) :
    ∃ t : Term, t.tokens ++ rest = ts ∧ t.scope = s := by
  rcases readTerm_eq_ok.mp h with h | ⟨opening, more, ss, closing, rfl, hmore, rfl⟩
  · obtain ⟨label, comparator, operand, rfl, rfl⟩ := readCondition_eq_ok.mp h
    exact ⟨.condition label comparator operand, rfl, rfl⟩
  · obtain ⟨e, htokens, rfl⟩ := Alternatives.exists_of_read hmore
    refine ⟨.group opening e closing, ?_, ?_⟩
    · rw [← htokens]
      simp [Term.tokens]
    · rw [e.joined_scopes, Term.scope]
termination_by (ts.length, 0)
decreasing_by
  subst_vars
  exact Prod.Lex.left _ _ (by simp)

theorem Factors.exists_of_read {ts rest : List Token} {ss : List Scope}
    (h : (readFactors ts).forget = .ok (ss, rest)) : ∃ fs : Factors, fs.tokens ++ rest = ts ∧ fs.scopes = ss := by
  obtain ⟨s, rest', hs, hrest⟩ := readFactors_eq_ok.mp h
  obtain ⟨t, rfl, rfl⟩ := Term.exists_of_read hs
  rcases hrest with ⟨-, rfl, rfl⟩ | ⟨keyword, more, ss', rfl, hmore, rfl⟩
  · exact ⟨.one t, rfl, rfl⟩
  · have hlt := Reading.length_lt hs
    obtain ⟨fs, rfl, rfl⟩ := Factors.exists_of_read hmore
    refine ⟨.and t keyword fs, ?_, rfl⟩
    simp [Factors.tokens]
termination_by (ts.length, 1)

theorem Alternatives.exists_of_read {ts rest : List Token} {ss : List Scope}
    (h : (readAlternatives ts).forget = .ok (ss, rest)) :
    ∃ e : Alternatives, e.tokens ++ rest = ts ∧ e.scopes = ss := by
  obtain ⟨ss', rest', hs, hrest⟩ := readAlternatives_eq_ok.mp h
  obtain ⟨fs, rfl, rfl⟩ := Factors.exists_of_read hs
  rcases hrest with ⟨-, rfl, rfl⟩ | ⟨keyword, more, ss', rfl, hmore, rfl⟩
  · refine ⟨.one fs, rfl, ?_⟩
    rw [fs.joined_scopes, Alternatives.scopes]
  · have hlt := Reading.length_lt hs
    obtain ⟨e, rfl, rfl⟩ := Alternatives.exists_of_read hmore
    refine ⟨.or fs keyword e, ?_, ?_⟩
    · simp [Alternatives.tokens]
    · rw [fs.joined_scopes, Alternatives.scopes]
termination_by (ts.length, 2)

end

/-! ### One derivation -/

/-- Tokens of different kinds are different. -/
theorem ne_of_kind {k l : TokenKind} (hkl : k ≠ l) (t : TokenOf k) (u : TokenOf l) : t.1 ≠ u.1 := by
  intro h
  have hkind : t.1.kind = u.1.kind := congrArg Token.kind h
  rw [t.2, u.2] at hkind
  exact hkl hkind

/-- What is next is no keyword of another kind. -/
theorem next?_keyword {k l : TokenKind} (hkl : k ≠ l) (t : TokenOf k) (ts : List Token) :
    next? (t.1 :: ts) ≠ some l := by
  rw [next?_cons, t.2]
  exact fun h => hkl (Option.some.inj h)

theorem Comparator.token_inj {c c' : Comparator} (h : c.token = c'.token) : c = c' := by
  cases c <;> cases c'
  case equal.equal t t' => exact congrArg equal (Subtype.ext h)
  case colon.colon t t' => exact congrArg colon (Subtype.ext h)
  case notEqual.notEqual t t' => exact congrArg notEqual (Subtype.ext h)
  all_goals exact absurd h (ne_of_kind (by decide) _ _)

theorem Operand.token_inj {v v' : Operand} (h : v.token = v'.token) : v = v' := by
  cases v <;> cases v'
  case word.word t t' => exact congrArg word (Subtype.ext h)
  case string.string t t' => exact congrArg string (Subtype.ext h)
  all_goals exact absurd h (ne_of_kind (by decide) _ _)

mutual

/-- Terms that a list of tokens starts with are one term. -/
theorem Term.eq_of_append (t t' : Term) {rest rest' : List Token}
    (h : t.tokens ++ rest = t'.tokens ++ rest') : t = t' ∧ rest = rest' := by
  cases t with
  | condition label comparator operand =>
    cases t' with
    | condition label' comparator' operand' =>
      simp only [Term.tokens, List.cons_append, List.nil_append, List.cons.injEq] at h
      obtain ⟨hlabel, hcomparator, hoperand, hrest⟩ := h
      obtain rfl := Subtype.ext hlabel
      obtain rfl := Comparator.token_inj hcomparator
      obtain rfl := Operand.token_inj hoperand
      exact ⟨rfl, hrest⟩
    | group opening' e' closing' =>
      exact absurd (List.cons.inj h).1 (ne_of_kind (by decide) label opening')
  | group opening e closing =>
    cases t' with
    | condition label' comparator' operand' =>
      exact absurd (List.cons.inj h).1 (ne_of_kind (by decide) opening label')
    | group opening' e' closing' =>
      simp only [Term.tokens, List.cons_append, List.append_assoc, List.nil_append, List.cons.injEq] at h
      obtain ⟨hopening, h⟩ := h
      obtain rfl := Subtype.ext hopening
      obtain ⟨rfl, hrest⟩ := e.eq_of_append e' h (next?_keyword (by decide) _ _) (next?_keyword (by decide) _ _)
        (next?_keyword (by decide) _ _) (next?_keyword (by decide) _ _)
      obtain ⟨hclosing, hend⟩ := List.cons.inj hrest
      obtain rfl := Subtype.ext hclosing
      exact ⟨rfl, hend⟩

/-- Runs of terms that a list of tokens starts with, and that no `AND` follows, are one run. -/
theorem Factors.eq_of_append (fs fs' : Factors) {rest rest' : List Token}
    (h : fs.tokens ++ rest = fs'.tokens ++ rest') (hrest : next? rest ≠ some .and)
    (hrest' : next? rest' ≠ some .and) : fs = fs' ∧ rest = rest' := by
  cases fs with
  | one t =>
    cases fs' with
    | one t' =>
      obtain ⟨rfl, hrest⟩ := t.eq_of_append t' h
      exact ⟨rfl, hrest⟩
    | and t' keyword' fs' =>
      rw [Factors.tokens, Factors.tokens, List.append_assoc] at h
      obtain ⟨-, rfl⟩ := t.eq_of_append t' h
      exact absurd (congrArg some keyword'.2) hrest
  | and t keyword fs =>
    cases fs' with
    | one t' =>
      rw [Factors.tokens, Factors.tokens, List.append_assoc] at h
      obtain ⟨-, rfl⟩ := t.eq_of_append t' h
      exact absurd (congrArg some keyword.2) hrest'
    | and t' keyword' fs' =>
      rw [Factors.tokens, Factors.tokens, List.append_assoc, List.append_assoc] at h
      obtain ⟨rfl, hmore⟩ := t.eq_of_append t' h
      obtain ⟨hkeyword, hfs⟩ := List.cons.inj hmore
      obtain rfl := Subtype.ext hkeyword
      obtain ⟨rfl, hend⟩ := fs.eq_of_append fs' hfs hrest hrest'
      exact ⟨rfl, hend⟩

/-- Expressions that a list of tokens starts with, and that no keyword follows, are one expression. -/
theorem Alternatives.eq_of_append (e e' : Alternatives) {rest rest' : List Token}
    (h : e.tokens ++ rest = e'.tokens ++ rest') (hand : next? rest ≠ some .and) (hor : next? rest ≠ some .or)
    (hand' : next? rest' ≠ some .and) (hor' : next? rest' ≠ some .or) : e = e' ∧ rest = rest' := by
  cases e with
  | one fs =>
    cases e' with
    | one fs' =>
      obtain ⟨rfl, hrest⟩ := fs.eq_of_append fs' h hand hand'
      exact ⟨rfl, hrest⟩
    | or fs' keyword' e' =>
      rw [Alternatives.tokens, Alternatives.tokens, List.append_assoc] at h
      obtain ⟨-, rfl⟩ := fs.eq_of_append fs' h hand (next?_keyword (by decide) _ _)
      exact absurd (congrArg some keyword'.2) hor
  | or fs keyword e =>
    cases e' with
    | one fs' =>
      rw [Alternatives.tokens, Alternatives.tokens, List.append_assoc] at h
      obtain ⟨-, rfl⟩ := fs.eq_of_append fs' h (next?_keyword (by decide) _ _) hand'
      exact absurd (congrArg some keyword.2) hor'
    | or fs' keyword' e' =>
      rw [Alternatives.tokens, Alternatives.tokens, List.append_assoc, List.append_assoc] at h
      obtain ⟨rfl, hmore⟩ := fs.eq_of_append fs' h (next?_keyword (by decide) _ _) (next?_keyword (by decide) _ _)
      obtain ⟨hkeyword, he⟩ := List.cons.inj hmore
      obtain rfl := Subtype.ext hkeyword
      obtain ⟨rfl, hend⟩ := e.eq_of_append e' he hand hor hand' hor'
      exact ⟨rfl, hend⟩

end

/-! ### All tokens -/

theorem ofTokens_of_read {ts : List Token} {ss : List Scope} (h : (readAlternatives ts).forget = .ok (ss, [])) :
    ofTokens ts = .ok ⟨some (joined "OR" ss)⟩ := by
  obtain ⟨hlt, hread⟩ := Reading.forget_eq_ok.mp h
  cases ts with
  | nil => cases hlt
  | cons t ts =>
    unfold ofTokens
    simp only [hread]

/-- Where no term can be read, nothing can. -/
theorem ofTokens_of_readTerm {t : Token} {ts : List Token} {e : ExpressionError} (h : readTerm (t :: ts) = .error e) :
    ofTokens (t :: ts) = .error e := by
  have hread : readAlternatives (t :: ts) = .error e := by
    rw [readAlternatives_eq, readFactors_eq, h]
    rfl
  unfold ofTokens
  simp only [hread]

/-- All tokens of an expression are read as what it means. -/
theorem ofTokens_tokens (e : Alternatives) : ofTokens e.tokens = .ok ⟨some e.scope⟩ := by
  have hread := e.read [] nofun nofun
  rw [List.append_nil] at hread
  rw [ofTokens_of_read hread, e.joined_scopes]

/-- Tokens that make a filter are none at all or the ones of an expression. -/
theorem exists_of_ofTokens {ts : List Token} {f : Filter} (h : ofTokens ts = .ok f) :
    ts = [] ∧ f = ⟨none⟩ ∨ ∃ e : Alternatives, e.tokens = ts ∧ f = ⟨some e.scope⟩ := by
  unfold ofTokens at h
  split at h
  · cases h
    exact .inl ⟨rfl, rfl⟩
  · split at h
    · cases h
    · rename_i ss hlt hread
      cases h
      obtain ⟨e, htokens, rfl⟩ := Alternatives.exists_of_read (Reading.forget_eq_ok.mpr ⟨hlt, hread⟩)
      rw [List.append_nil] at htokens
      rw [e.joined_scopes]
      exact .inr ⟨e, htokens, rfl⟩
    · cases h

/-- **The tokens that are read are those of the grammar.**  No tokens make the filter that matches all; the tokens
of an expression make what it means; no other tokens make a filter; and tokens have one derivation at most. -/
theorem ofTokens_grammar (ts : List Token) :
    (∀ f, ofTokens ts = .ok f ↔
      ts = [] ∧ f = ⟨none⟩ ∨ ∃ e : Alternatives, e.tokens = ts ∧ f = ⟨some e.scope⟩) ∧
    ((∃ fault, ofTokens ts = .error fault) ↔ ts ≠ [] ∧ ∀ e : Alternatives, e.tokens ≠ ts) ∧
    ∀ e e' : Alternatives, e.tokens = ts → e'.tokens = ts → e = e' := by
  have hok : ∀ f, ofTokens ts = .ok f ↔
      ts = [] ∧ f = ⟨none⟩ ∨ ∃ e : Alternatives, e.tokens = ts ∧ f = ⟨some e.scope⟩ := by
    intro f
    constructor
    · exact exists_of_ofTokens
    · rintro (⟨rfl, rfl⟩ | ⟨e, rfl, rfl⟩)
      · rfl
      · exact ofTokens_tokens e
  refine ⟨hok, ⟨?_, ?_⟩, ?_⟩
  · rintro ⟨fault, hfault⟩
    constructor
    · rintro rfl
      cases hfault
    · rintro e rfl
      rw [ofTokens_tokens] at hfault
      cases hfault
  · rintro ⟨hne, hnone⟩
    cases hread : ofTokens ts with
    | error fault => exact ⟨fault, rfl⟩
    | ok f =>
      rcases (hok f).mp hread with ⟨hnil, -⟩ | ⟨e, he, -⟩
      · exact absurd hnil hne
      · exact absurd he (hnone e)
  · rintro e e' rfl he'
    have h : e.tokens ++ [] = e'.tokens ++ [] := by rw [he']
    exact (e.eq_of_append e' h nofun nofun nofun nofun).1

end Filter

end ComplianceHistory
