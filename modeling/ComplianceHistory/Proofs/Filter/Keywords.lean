import ComplianceHistory.Proofs.Filter.Spelling

/-!
# Words that begin like keywords

The value of a condition may be a word without quotes (`SpellsBare`).  Words are tried after the keywords, and a
keyword ends in front of every character that is no letter, digit or underscore, although words go on with `.`, `-`
and `/`.  So `android` is a word, but of `and.roid` the keyword is taken off (`exists_keyword`), and no condition has
a keyword as its label or value.  Hence a condition of two words is read as it stands exactly if neither of them
resembles a keyword (`ofExpression_bare`).
-/

namespace ComplianceHistory

open Text Token

namespace Filter

open Scope

/-- The expressions that write a condition with a word as its value, with any blanks around the sign. -/
def SpellsBare (expression : String) (c : Condition) : Prop :=
  ∃ sign b b', Sign c.operator sign ∧ Blanks b ∧ Blanks b' ∧
    expression.toList = c.label.toList ++ b ++ sign ++ b' ++ c.value.toList

/-! ### Keywords in the place of words -/

/-- What resembles a keyword has the lexeme of the keyword in front, whatever follows but letters. -/
theorem exists_keyword {text : List Char} (h : ResemblesKeyword text) (behind : List Char)
    (hbehind : behind.head?.any startsWord = false) : ∃ (k : Connective) (letters rest : List Char),
      text = letters ++ rest ∧ Lexeme k.kind letters ∧ endsBefore k.kind (rest ++ behind) = true := by
  obtain ⟨k, letters, rest, rfl, hlower, hrest⟩ := h
  refine ⟨k, letters, rest, rfl, lexeme_of_keyword hlower, endsBefore_keyword ?_ k⟩
  rcases hrest with rfl | ⟨c, more, rfl, rfl | rfl | rfl⟩
  · exact hbehind
  all_goals rfl

/-- No term starts with a keyword. -/
theorem readTerm_keyword {t : Token} {k : Connective} (ht : t.kind = k.kind) (ts : List Token) :
    readTerm (t :: ts) = .error (.expected .word t) := by
  have hopening : t.kind ≠ .opening := by
    rw [ht]
    cases k <;> decide
  have hword : t.kind ≠ .word := by
    rw [ht]
    cases k <;> decide
  rw [readTerm.eq_def]
  simp only [if_neg hopening, readCondition, if_pos hword]

/-- No condition has a keyword as its value. -/
theorem readTerm_noValue (l : TokenOf .word) (comparator : Comparator) {v : Token} {k : Connective}
    (hv : v.kind = k.kind) (ts : List Token) :
    readTerm (l.1 :: comparator.token :: v :: ts) = .error (.notAValue v.kind) := by
  have hnone : tokenValue? v = none := by
    unfold tokenValue?
    rw [hv]
    cases k <;> rfl
  rw [readTerm.eq_def]
  simp only [l.2, reduceCtorEq, if_false, readCondition, ne_eq, not_true_eq_false, comparator.operator_eq, hnone]

/-- An expression whose first tokens cannot be read is faulty, whatever follows them. -/
theorem exists_fault_of_cut {expression : String} {t : Token} {ts : List Token} {q : Nat} {rest : List Char}
    (h : Cut 0 expression.toList (t :: ts) q rest) (hfault : ∀ more, ∃ e, readTerm (t :: ts ++ more) = .error e) :
    ∃ e, ofExpression expression = .error e := by
  unfold ofExpression scan
  rw [h.scanFrom_eq]
  cases scanFrom q rest with
  | error s => exact ⟨.stray s, rfl⟩
  | ok more =>
    obtain ⟨e, he⟩ := hfault more
    exact ⟨e, ofTokens_of_readTerm he⟩

/-! ### Conditions of two words -/

section Bare

variable {expression : String} {c : Condition} (h : SpellsBare expression c)
include h

/-- Words that resemble no keyword are the label and the value. -/
theorem ofExpression_of_words (hlabel : IsWord c.label.toList) (hvalue : IsWord c.value.toList)
    (hlabel' : ¬ResemblesKeyword c.label.toList) (hvalue' : ¬ResemblesKeyword c.value.toList) :
    ofExpression expression = .ok ⟨some (.condition c)⟩ := by
  obtain ⟨sign, b, b', hsign, hb, hb', htext⟩ := h
  obtain ⟨l, comparator, v, q, hcut, hl, hoperator, hv⟩ := exists_cut_condition
    (lexeme_of_word hlabel hlabel') hb hsign hb' (lexeme_of_word hvalue hvalue') 0 [] rfl
  rw [List.append_nil, ← htext] at hcut
  have htokens := ofTokens_tokens (.one (.one (.condition l comparator (.word v))))
  simp only [Alternatives.tokens, Factors.tokens, Term.tokens, Operand.token, Alternatives.scope, Factors.scope,
    Term.scope, Operand.value, hl, hoperator, hv, String.ofList_toList] at htokens
  unfold ofExpression
  rw [hcut.scan]
  exact htokens

/-- The label cannot be read if it resembles a keyword. -/
theorem exists_fault_of_label (hlabel : ResemblesKeyword c.label.toList) :
    ∃ e, ofExpression expression = .error e := by
  obtain ⟨sign, b, b', hsign, hb, -, htext⟩ := h
  have hbehind := startsWord_of_stops (stops_blanks hb (stops_sign hsign (b' ++ c.value.toList)))
  obtain ⟨k, letters, rest, hsplit, hlexeme, hend⟩ := exists_keyword hlabel _ hbehind
  have hcut := Cut.lexeme (p := 0) hlexeme hend
  simp only [hsplit, List.append_assoc] at htext
  rw [← htext] at hcut
  exact exists_fault_of_cut hcut fun more => ⟨_, readTerm_keyword rfl _⟩

/-- The value cannot be read if it resembles a keyword. -/
theorem exists_fault_of_value (hlabel : IsWord c.label.toList) (hlabel' : ¬ResemblesKeyword c.label.toList)
    (hvalue : ResemblesKeyword c.value.toList) : ∃ e, ofExpression expression = .error e := by
  obtain ⟨sign, b, b', hsign, hb, hb', htext⟩ := h
  obtain ⟨k, letters, rest, hsplit, hlexeme, hend⟩ := exists_keyword hvalue [] rfl
  rw [List.append_nil] at hend
  obtain ⟨l, comparator, v, q, hcut, -⟩ := exists_cut_condition (lexeme_of_word hlabel hlabel') hb hsign hb' hlexeme
    0 rest hend
  rw [List.append_assoc _ letters, ← hsplit, ← htext] at hcut
  exact exists_fault_of_cut hcut fun more => ⟨_, readTerm_noValue l comparator v.2 more⟩

/-- **Which words are read as words.**  Let a condition be written with words as its label and its value, under any
of the three signs and with any blanks around it.  If neither word is a keyword, nor starts with one in front of `.`,
`-` or `/`, the expression is read as the condition; otherwise it cannot be read. -/
theorem ofExpression_bare (hlabel : IsWord c.label.toList) (hvalue : IsWord c.value.toList) :
    (¬ResemblesKeyword c.label.toList ∧ ¬ResemblesKeyword c.value.toList →
      ofExpression expression = .ok ⟨some (.condition c)⟩) ∧
    (ResemblesKeyword c.label.toList ∨ ResemblesKeyword c.value.toList →
      ∃ e, ofExpression expression = .error e) := by
  refine ⟨fun ⟨hlabel', hvalue'⟩ => ofExpression_of_words h hlabel hvalue hlabel' hvalue', fun hkeyword => ?_⟩
  by_cases hlabel' : ResemblesKeyword c.label.toList
  · exact exists_fault_of_label h hlabel'
  · exact exists_fault_of_value h hlabel hlabel' (hkeyword.resolve_left hlabel')

end Bare

theorem ofExpression_bare_android :
    ofExpression "order :\tandroid.v1" = .ok ⟨some (.condition ⟨"order", "=", "android.v1"⟩)⟩ ∧
      ∃ e, ofExpression "env!=OR-x" = .error e := by
  have horder : ¬ResemblesKeyword "order".toList :=
    (not_resemblesKeyword_iff (by decide)).mpr fun k => by cases k <;> rfl
  have handroid : ¬ResemblesKeyword "android.v1".toList :=
    (not_resemblesKeyword_iff (by decide)).mpr fun k => by cases k <;> rfl
  have hor : ResemblesKeyword "OR-x".toList := ⟨.or, ['O', 'R'], ['-', 'x'], rfl, rfl, .inr ⟨'-', ['x'], rfl, by simp⟩⟩
  have hspells : SpellsBare "order :\tandroid.v1" ⟨"order", "=", "android.v1"⟩ :=
    ⟨[':'], [' '], ['\t'], .colon, by decide, by decide, rfl⟩
  have hspells' : SpellsBare "env!=OR-x" ⟨"env", "!=", "OR-x"⟩ := ⟨['!', '='], [], [], .notEqual, nofun, nofun, rfl⟩
  exact ⟨(ofExpression_bare hspells (by decide) (by decide)).1 ⟨horder, handroid⟩,
    (ofExpression_bare hspells' (by decide) (by decide)).2 (.inr hor)⟩

/-- **A word that is not read as a word.**  The label `and.team` is a word and no keyword, but the keyword in front of
it is taken off, and no lexeme starts with the point that is left. -/
theorem ofExpression_bare_split :
    IsWord "and.team".toList ∧ IsWord "web".toList ∧
    (∀ k : Connective, "and.team".toList.map Char.toLower ≠ k.keyword ∧ "web".toList.map Char.toLower ≠ k.keyword) ∧
    SpellsBare "and.team=web" ⟨"and.team", "=", "web"⟩ ∧
    ofExpression "and.team=web" = .error (.stray ⟨3, '.'⟩) := by
  refine ⟨by decide, by decide, fun k => by cases k <;> decide, ⟨['='], [], [], .equal, nofun, nofun, rfl⟩, ?_⟩
  have hlexeme : Lexeme .and ['a', 'n', 'd'] := .and rfl
  have hscan : scanFrom 0 "and.team=web".toList =
      (scanFrom 3 ".team=web".toList).map ([⟨.and, ['a', 'n', 'd'], 0⟩] ++ ·) := (Cut.lexeme hlexeme rfl).scanFrom_eq
  have hstray : scanFrom 3 ".team=web".toList = .error ⟨3, '.'⟩ := by
    rw [scanFrom.eq_def]
    rfl
  unfold ofExpression scan
  rw [hscan, hstray]
  rfl

end Filter

end ComplianceHistory
