import ComplianceHistory.Proofs.Filter.Grammar

/-!
# Tokens that stand elsewhere

What is read from tokens is told by their kinds and texts.  Where they stand is only repeated in a fault that names a
token.  So if tokens are moved to other places, every reader does the same as before: it reads the same, and leaves the
same tokens, or finds the same fault, where the tokens now stand (`ofTokens_moved`).
-/

namespace ComplianceHistory

/-- A token that stands elsewhere. -/
def Token.moved (place : Nat → Nat) (t : Token) : Token := { t with position := place t.position }

@[simp] theorem Token.kind_moved (place : Nat → Nat) (t : Token) : (t.moved place).kind = t.kind := rfl

/-- A fault of an expression whose tokens and characters stand elsewhere. -/
def ExpressionError.moved (place : Nat → Nat) : ExpressionError → ExpressionError
  | stray s => stray ⟨place s.position, s.char⟩
  | unexpectedEnd => unexpectedEnd
  | expected kind got => expected kind (got.moved place)
  | noComparison label got => noComparison label got
  | noValue => noValue
  | notAValue got => notAValue got
  | leftover t => leftover (t.moved place)

namespace Filter

section Moved

variable (place : Nat → Nat)

/-- What a reader yields if the tokens stand elsewhere: the tokens that are left, or the one that is at fault, do too. -/
def relocated {α : Type} (r : Except ExpressionError (α × List Token)) : Except ExpressionError (α × List Token) :=
  (r.map fun p => (p.1, p.2.map (Token.moved place))).mapError (ExpressionError.moved place)

theorem tokenValue?_moved (t : Token) : tokenValue? (t.moved place) = tokenValue? t := rfl

theorem readCondition_moved (ts : List Token) :
    (readCondition (ts.map (Token.moved place))).forget = relocated place (readCondition ts).forget := by
  cases ts with
  | nil => rfl
  | cons l ts =>
    by_cases hl : l.kind = .word
    · rcases ts with _ | ⟨o, _ | ⟨v, ts⟩⟩
      · show (readCondition [l.moved place]).forget = _
        simp only [readCondition, Token.kind_moved, hl, ne_eq, not_true_eq_false, if_false]
        rfl
      · show (readCondition [l.moved place, o.moved place]).forget = _
        simp only [readCondition, Token.kind_moved, hl, ne_eq, not_true_eq_false, if_false]
        cases comparisonOperator? o.kind <;> rfl
      · show (readCondition (l.moved place :: o.moved place :: v.moved place :: ts.map (Token.moved place))).forget = _
        simp only [readCondition, Token.kind_moved, tokenValue?_moved, hl, ne_eq, not_true_eq_false, if_false]
        cases comparisonOperator? o.kind
        · rfl
        · cases tokenValue? v <;> rfl
    · show (readCondition (l.moved place :: ts.map (Token.moved place))).forget = _
      simp only [readCondition, Token.kind_moved, hl, ne_eq, not_false_eq_true, if_true]
      rfl

/-- A run is read as before if its first item is, and the runs behind its keywords are. -/
theorem readRun_moved {ts : List Token} {α β : Type} {kind : TokenKind} {item : α → β} {first : Reading ts α}
    {first' : Reading (ts.map (Token.moved place)) α} {again : (more : List Token) → Reading more (List β)}
    (hfirst : first'.forget = relocated place first.forget)
    (hagain : ∀ more : List Token, more.length < ts.length →
      (again (more.map (Token.moved place))).forget = relocated place (again more).forget) :
    (readRun kind item first' again).forget = relocated place (readRun kind item first again).forget := by
  rcases first with e | ⟨a, _ | ⟨t, rest⟩, h⟩ <;>
    rcases first' with e' | ⟨a', _ | ⟨t', rest'⟩, h'⟩ <;> cases hfirst
  · rfl
  · rfl
  · simp only [readRun, Token.kind_moved]
    by_cases ht : t.kind = kind
    · have hmore := hagain rest (by rw [List.length_cons] at h; omega)
      simp only [ht, if_true]
      generalize again rest = r at hmore ⊢
      generalize again (rest.map (Token.moved place)) = r' at hmore ⊢
      rcases r with e | ⟨bs, left, hlt⟩ <;> rcases r' with e' | ⟨bs', left', hlt'⟩ <;> cases hmore <;> rfl
    · simp only [ht, if_false]
      rfl

mutual

theorem readTerm_moved (ts : List Token) :
    (readTerm (ts.map (Token.moved place))).forget = relocated place (readTerm ts).forget := by
  cases ts with
  | nil =>
    rw [readTerm.eq_def, readTerm.eq_def []]
    rfl
  | cons t more =>
    have hcondition := readCondition_moved place (t :: more)
    have hmore := readAlternatives_moved more
    rw [List.map_cons] at hcondition
    show (readTerm (t.moved place :: more.map (Token.moved place))).forget = _
    rw [readTerm.eq_def, readTerm.eq_def (t :: more)]
    by_cases ht : t.kind = .opening
    · simp only [Token.kind_moved, ht, if_true]
      generalize readAlternatives more = r at hmore ⊢
      generalize readAlternatives (more.map (Token.moved place)) = r' at hmore ⊢
      rcases r with e | ⟨ss, _ | ⟨u, left⟩, hlt⟩ <;>
        rcases r' with e' | ⟨ss', _ | ⟨u', left'⟩, hlt'⟩ <;> cases hmore
      · rfl
      · rfl
      · by_cases hu : u.kind = .closing
        · simp only [Token.kind_moved, hu, if_true]
          rfl
        · simp only [Token.kind_moved, hu, if_false]
          rfl
    · simp only [Token.kind_moved, ht, if_false]
      exact hcondition
termination_by (ts.length, 0)

theorem readFactors_moved (ts : List Token) :
    (readFactors (ts.map (Token.moved place))).forget = relocated place (readFactors ts).forget := by
  rw [readFactors_eq, readFactors_eq]
  exact readRun_moved place (readTerm_moved ts) fun more _ => readFactors_moved more
termination_by (ts.length, 1)

theorem readAlternatives_moved (ts : List Token) :
    (readAlternatives (ts.map (Token.moved place))).forget = relocated place (readAlternatives ts).forget := by
  rw [readAlternatives_eq, readAlternatives_eq]
  exact readRun_moved place (readFactors_moved ts) fun more _ => readAlternatives_moved more
termination_by (ts.length, 2)

end

/-- Tokens that stand elsewhere make the same filter, or have the same fault. -/
theorem ofTokens_moved (ts : List Token) :
    ofTokens (ts.map (Token.moved place)) = (ofTokens ts).mapError (ExpressionError.moved place) := by
  cases ts with
  | nil => rfl
  | cons t ts =>
    have hread := readAlternatives_moved place (t :: ts)
    rw [List.map_cons] at hread ⊢
    simp only [ofTokens]
    generalize readAlternatives (t :: ts) = r at hread ⊢
    generalize readAlternatives (t.moved place :: ts.map (Token.moved place)) = r' at hread ⊢
    rcases r with e | ⟨ss, _ | ⟨u, left⟩, hlt⟩ <;>
      rcases r' with e' | ⟨ss', _ | ⟨u', left'⟩, hlt'⟩ <;> cases hread <;> rfl

end Moved

end Filter

end ComplianceHistory
