import ComplianceHistory.Proofs.Filter.Grammar
import ComplianceHistory.Proofs.Filter.Scanning

/-!
# Spellings of filters

A scope is spelled as a text: a condition as its label, a sign of comparison and its value in quotes, a query as its
scopes with its keyword between them.  Below a query a query stands in parentheses, unless it is `AND` below `OR`,
which binds tighter anyway.  Blanks may stand between all parts, and stand around every keyword.

However a scope is spelled, the tokens of a derivation of it are cut from the text, whatever follows there
(`Derives`): of a term for a condition or a group, of a run of terms for `AND`, of a run of those for `OR`.  So
every spelling of a printable scope is read as that scope (`ofExpression_spelling`).
-/

namespace ComplianceHistory

open Text Token

/-- The operator of the queries that a connective makes. -/
def Connective.operator : Connective → String
  | and => "AND"
  | or => "OR"

namespace Scope

/-- The scopes that can be spelled: labels are words that no keyword is seen in, no value holds both quotes, and
every query joins two scopes or more. -/
inductive Printable : Scope → Prop
  | condition {c : Condition} (hword : IsWord c.label.toList) (hlabel : ¬ResemblesKeyword c.label.toList)
      (hoperator : c.operator = "=" ∨ c.operator = "!=") (hvalue : '"' ∉ c.value.toList ∨ '\'' ∉ c.value.toList) :
      Printable (.condition c)
  | query (k : Connective) {scopes : List Scope} (htwo : 2 ≤ scopes.length) (hscopes : ∀ s ∈ scopes, Printable s) :
      Printable (.query k.operator scopes)

theorem Printable.two_le {operator : String} {scopes : List Scope} (h : Printable (.query operator scopes)) :
    2 ≤ scopes.length := by
  cases h with
  | query k htwo _ => exact htwo

theorem Printable.of_mem {operator : String} {scopes : List Scope} (h : Printable (.query operator scopes)) :
    ∀ s ∈ scopes, Printable s := by
  cases h with
  | query k _ hscopes => exact hscopes

/-- The signs of a comparison by the operator that is kept for them. -/
inductive Sign : String → List Char → Prop
  | equal : Sign "=" ['=']
  | colon : Sign "=" [':']
  | notEqual : Sign "!=" ['!', '=']

/-- Whether a scope stands in parentheses below a query: if it is a query itself, but for `AND` below `OR`. -/
def grouped : Connective → Scope → Bool
  | .and, .query _ _ => true
  | .or, .query operator _ => operator ≠ "AND"
  | _, _ => false

mutual

/-- The spellings of a scope. -/
inductive Spelled : Scope → List Char → Prop
  | condition {c : Condition} {sign b b' : List Char} {quote : Char} (hsign : Sign c.operator sign)
      (hquote : quote = '"' ∨ quote = '\'') (hvalue : quote ∉ c.value.toList) (hb : Blanks b) (hb' : Blanks b') :
      Spelled (.condition c) (c.label.toList ++ b ++ sign ++ b' ++ quote :: (c.value.toList ++ [quote]))
  | query (k : Connective) {scopes : List Scope} {cs : List Char} (h : SpelledRun k scopes cs) :
      Spelled (.query k.operator scopes) cs

/-- The spellings of a scope below a query. -/
inductive SpelledPart : Connective → Scope → List Char → Prop
  | bare {k : Connective} {s : Scope} {cs : List Char} (hs : grouped k s = false) (h : Spelled s cs) :
      SpelledPart k s cs
  | group {k : Connective} {s : Scope} {cs b b' : List Char} (hs : grouped k s = true) (h : Spelled s cs)
      (hb : Blanks b) (hb' : Blanks b') : SpelledPart k s ('(' :: (b ++ cs ++ b' ++ [')']))

/-- The spellings of the scopes of a query. -/
inductive SpelledRun : Connective → List Scope → List Char → Prop
  | last {k : Connective} {s : Scope} {cs : List Char} (h : SpelledPart k s cs) : SpelledRun k [s] cs
  | more {k : Connective} {s : Scope} {scopes : List Scope} {part b keyword b' run : List Char}
      (h : SpelledPart k s part) (hb : Blanks b) (hne : b ≠ []) (hkeyword : keyword.map Char.toLower = k.keyword)
      (hb' : Blanks b') (hne' : b' ≠ []) (hrun : SpelledRun k scopes run) :
      SpelledRun k (s :: scopes) (part ++ b ++ keyword ++ b' ++ run)

end

/-- The expressions that a scope is spelled as; blanks may stand at both ends. -/
def Spells (expression : String) (s : Scope) : Prop :=
  ∃ b cs b', Blanks b ∧ Spelled s cs ∧ Blanks b' ∧ expression.toList = b ++ cs ++ b'

end Scope

/-! ### The tokens of a spelling -/

namespace Filter

open Scope

/-- Nothing goes on with a word behind blanks, if nothing does behind no blanks. -/
theorem stops_blanks {b rest : List Char} (hb : Blanks b) (hrest : rest.head?.any continuesWord = false) :
    (b ++ rest).head?.any continuesWord = false := by
  cases b with
  | nil => exact hrest
  | cons c b => exact continuesWord_of_isBlank (hb c List.mem_cons_self)

theorem stops_sign {operator : String} {sign : List Char} (h : Sign operator sign) (rest : List Char) :
    (sign ++ rest).head?.any continuesWord = false := by
  cases h <;> simp only [List.cons_append, List.head?_cons, Option.any_some] <;> decide

theorem exists_cut_sign {operator : String} {sign : List Char} (h : Sign operator sign) (p : Nat)
    (rest : List Char) : ∃ comparator : Comparator,
      Cut p (sign ++ rest) [comparator.token] (p + sign.length) rest ∧ comparator.operator = operator := by
  cases h with
  | equal => exact ⟨.equal ⟨⟨.equal, ['='], p⟩, rfl⟩, Cut.lexeme .equal rfl, rfl⟩
  | colon => exact ⟨.colon ⟨⟨.colon, [':'], p⟩, rfl⟩, Cut.lexeme .colon rfl, rfl⟩
  | notEqual => exact ⟨.notEqual ⟨⟨.notEqual, ['!', '='], p⟩, rfl⟩, Cut.lexeme .notEqual rfl, rfl⟩

/-- The three tokens of a condition, or of what is in the place of one. -/
theorem exists_cut_condition {operator : String} {kind : TokenKind} {label b sign b' value : List Char}
    (hlabel : Lexeme .word label) (hb : Blanks b) (hsign : Sign operator sign) (hb' : Blanks b')
    (hvalue : Lexeme kind value) (p : Nat) (rest : List Char) (hrest : endsBefore kind rest = true) :
    ∃ (l : TokenOf .word) (comparator : Comparator) (v : TokenOf kind) (q : Nat),
      Cut p (label ++ b ++ sign ++ b' ++ value ++ rest) [l.1, comparator.token, v.1] q rest ∧
        l.1.text = label ∧ comparator.operator = operator ∧ v.1.text = value := by
  obtain ⟨comparator, hcomparator, hoperator⟩ :=
    exists_cut_sign hsign (p + label.length + b.length) (b' ++ (value ++ rest))
  have hend : endsBefore .word (b ++ (sign ++ (b' ++ (value ++ rest)))) = true := by
    rw [endsBefore, stops_blanks hb (stops_sign hsign _)]
    rfl
  have hlast := (Cut.blanks hb' (p + label.length + b.length + sign.length) (value ++ rest)).trans
    (Cut.lexeme hvalue hrest)
  have hcut := Cut.token hlabel hend ((Cut.blanks hb _ _).trans (hcomparator.trans hlast))
  simp only [List.append_assoc]
  exact ⟨⟨⟨.word, label, p⟩, rfl⟩, comparator, ⟨⟨kind, value, _⟩, rfl⟩, _, hcut, rfl, hoperator, rfl⟩

/-- From a text, whatever stands behind it, the tokens are cut of something that means what is wanted. -/
def Derives {α β : Type} (tokens : α → List Token) (meaning : α → β) (b : β) (cs : List Char) : Prop :=
  ∀ p rest, ∃ a q, Cut p (cs ++ rest) (tokens a) q rest ∧ meaning a = b

/-- What is derived may be seen as something else with the same tokens. -/
theorem Derives.map {α α' β β' : Type} {tokens : α → List Token} {tokens' : α' → List Token} {meaning : α → β}
    {meaning' : α' → β'} {b : β} {cs : List Char} (f : α → α') (g : β → β') (htokens : ∀ a, tokens' (f a) = tokens a)
    (hmeaning : ∀ a, meaning' (f a) = g (meaning a)) (h : Derives tokens meaning b cs) :
    Derives tokens' meaning' (g b) cs := by
  intro p rest
  obtain ⟨a, q, hcut, rfl⟩ := h p rest
  refine ⟨f a, q, ?_, hmeaning a⟩
  rw [htokens]
  exact hcut

/-- A spelled condition is a term. -/
theorem derives_condition {c : Condition} {cs : List Char} (hc : Printable (.condition c))
    (h : Spelled (.condition c) cs) : Derives Term.tokens Term.scope (.condition c) cs := by
  intro p rest
  cases hc with
  | condition hword hlabel _ _ =>
    cases h with
    | condition hsign hquote hvalue hb hb' =>
      obtain ⟨l, comparator, v, q, hcut, hl, hoperator, hv⟩ := exists_cut_condition (lexeme_of_word hword hlabel) hb
        hsign hb' (.string hquote hvalue) p rest rfl
      refine ⟨.condition l comparator (.string v), q, hcut, ?_⟩
      simp [Term.scope, Operand.value, hl, hoperator, hv]

/-- A spelled expression in parentheses is a term. -/
theorem Derives.group {s : Scope} {cs b b' : List Char} (h : Derives Alternatives.tokens Alternatives.scope s cs)
    (hb : Blanks b) (hb' : Blanks b') :
    Derives Term.tokens Term.scope s ('(' :: (b ++ cs ++ b' ++ [')'])) := by
  intro p rest
  obtain ⟨e, q, hcut, he⟩ := h (p + 1 + b.length) (b' ++ ([')'] ++ rest))
  have hclosing := (Cut.blanks hb' q ([')'] ++ rest)).trans (Cut.lexeme .closing rfl)
  have hgroup := Cut.token (p := p) .opening rfl ((Cut.blanks hb (p + 1) _).trans (hcut.trans hclosing))
  simp only [List.cons_append, List.append_assoc]
  exact ⟨.group ⟨⟨.opening, ['('], p⟩, rfl⟩ e ⟨⟨.closing, [')'], _⟩, rfl⟩, _, hgroup, he⟩

/-- A spelled part, a keyword and a spelled run make a longer run, if derivations are put together in that way. -/
theorem Derives.more {α β : Type} {tokens : α → List Token} {tokens' : β → List Token} {meaning : α → Scope}
    {meaning' : β → List Scope} {k : Connective} (build : α → TokenOf k.kind → β → β)
    (htokens : ∀ a t b, tokens' (build a t b) = tokens a ++ t.1 :: tokens' b)
    (hmeaning : ∀ a t b, meaning' (build a t b) = meaning a :: meaning' b) {s : Scope} {scopes : List Scope}
    {part b keyword b' run : List Char} (h : Derives tokens meaning s part) (hb : Blanks b)
    (hkeyword : keyword.map Char.toLower = k.keyword) (hb' : Blanks b') (hne' : b' ≠ [])
    (hrun : Derives tokens' meaning' scopes run) :
    Derives tokens' meaning' (s :: scopes) (part ++ b ++ keyword ++ b' ++ run) := by
  intro p rest
  have hend : endsBefore k.kind (b' ++ (run ++ rest)) = true := by
    cases b' with
    | nil => exact absurd rfl hne'
    | cons c b' => exact endsBefore_blank (hb' c List.mem_cons_self) k.kind _
  obtain ⟨a, q, hcut, rfl⟩ := h p (b ++ (keyword ++ (b' ++ (run ++ rest))))
  obtain ⟨more, r, hmore, rfl⟩ := hrun (q + b.length + keyword.length + b'.length) rest
  refine ⟨build a ⟨⟨k.kind, keyword, q + b.length⟩, rfl⟩ more, r, ?_, hmeaning _ _ _⟩
  rw [htokens]
  simp only [List.append_assoc]
  exact hcut.trans ((Cut.blanks hb _ _).trans
    (.token (lexeme_of_keyword hkeyword) hend ((Cut.blanks hb' _ _).trans hmore)))

/-- What a spelling below a query yields. -/
def DerivesPart : Connective → Scope → List Char → Prop
  | .and => Derives Term.tokens Term.scope
  | .or => Derives Factors.tokens Factors.scope

/-- What the spellings of the scopes of a query yield. -/
def DerivesRun : Connective → List Scope → List Char → Prop
  | .and => Derives Factors.tokens Factors.scopes
  | .or => Derives Alternatives.tokens Alternatives.scopes

theorem Derives.factors {s : Scope} {cs : List Char} (h : Derives Term.tokens Term.scope s cs) :
    Derives Factors.tokens Factors.scope s cs :=
  h.map .one id (fun _ => rfl) fun _ => rfl

theorem Derives.alternatives {s : Scope} {cs : List Char} (h : Derives Factors.tokens Factors.scope s cs) :
    Derives Alternatives.tokens Alternatives.scope s cs :=
  h.map .one id (fun _ => rfl) fun _ => rfl

/-- A run of one part. -/
theorem DerivesPart.last {k : Connective} {s : Scope} {cs : List Char} (h : DerivesPart k s cs) :
    DerivesRun k [s] cs := by
  cases k with
  | and =>
    have hterm : Derives Term.tokens Term.scope s cs := h
    exact hterm.map .one (fun s => [s]) (fun _ => rfl) fun _ => rfl
  | or =>
    have hfactors : Derives Factors.tokens Factors.scope s cs := h
    exact hfactors.map .one (fun s => [s]) (fun _ => rfl) fun _ => rfl

/-- A part, a keyword and a run make a longer run. -/
theorem DerivesPart.more {k : Connective} {s : Scope} {scopes : List Scope} {part b keyword b' run : List Char}
    (h : DerivesPart k s part) (hb : Blanks b) (hkeyword : keyword.map Char.toLower = k.keyword) (hb' : Blanks b')
    (hne' : b' ≠ []) (hrun : DerivesRun k scopes run) :
    DerivesRun k (s :: scopes) (part ++ b ++ keyword ++ b' ++ run) := by
  cases k with
  | and => exact Derives.more .and (fun _ _ _ => rfl) (fun _ _ _ => rfl) h hb hkeyword hb' hne' hrun
  | or => exact Derives.more .or (fun _ _ _ => rfl) (fun _ _ _ => rfl) h hb hkeyword hb' hne' hrun

theorem joined_of_two_le {operator : String} {scopes : List Scope} (h : 2 ≤ scopes.length) :
    joined operator scopes = .query operator scopes := by
  match scopes, h with
  | s :: s' :: scopes, _ => rfl

/-- A run of two terms or more means a query. -/
theorem DerivesRun.and_query {scopes : List Scope} {cs : List Char} (h : DerivesRun .and scopes cs)
    (htwo : 2 ≤ scopes.length) : Derives Factors.tokens Factors.scope (.query "AND" scopes) cs := by
  have hfactors : Derives Factors.tokens Factors.scopes scopes cs := h
  rw [← joined_of_two_le htwo]
  exact hfactors.map id (joined "AND") (fun _ => rfl) fun fs => fs.joined_scopes.symm

/-- A run of two runs of terms or more means a query. -/
theorem DerivesRun.or_query {scopes : List Scope} {cs : List Char} (h : DerivesRun .or scopes cs)
    (htwo : 2 ≤ scopes.length) : Derives Alternatives.tokens Alternatives.scope (.query "OR" scopes) cs := by
  have halternatives : Derives Alternatives.tokens Alternatives.scopes scopes cs := h
  rw [← joined_of_two_le htwo]
  exact halternatives.map id (joined "OR") (fun _ => rfl) fun e => e.joined_scopes.symm

mutual

/-- A spelled scope is an expression; if it needs no parentheses below `OR`, a run of terms; and if it needs none
below `AND`, a term. -/
theorem derives_spelled {s : Scope} {cs : List Char} (h : Spelled s cs) (hs : s.Printable) :
    Derives Alternatives.tokens Alternatives.scope s cs ∧
      ∀ k, grouped k s = false → DerivesPart k s cs := by
  cases h with
  | condition hsign hquote hvalue hb hb' =>
    have hterm := derives_condition hs (.condition hsign hquote hvalue hb hb')
    refine ⟨hterm.factors.alternatives, fun k _ => ?_⟩
    cases k with
    | and => exact hterm
    | or => exact hterm.factors
  | query k hrun =>
    have hscopes := derives_run hrun hs.of_mem
    cases k with
    | and =>
      have hfactors := hscopes.and_query hs.two_le
      refine ⟨hfactors.alternatives, fun k hk => ?_⟩
      cases k with
      | and => cases hk
      | or => exact hfactors
    | or =>
      refine ⟨hscopes.or_query hs.two_le, fun k hk => ?_⟩
      cases k <;> cases hk

/-- What stands below a query, in parentheses or not, is derived as the query needs it. -/
theorem derives_part {k : Connective} {s : Scope} {cs : List Char} (h : SpelledPart k s cs) (hs : s.Printable) :
    DerivesPart k s cs := by
  cases h with
  | bare hbare h => exact (derives_spelled h hs).2 k hbare
  | group _ h hb hb' =>
    have hterm := (derives_spelled h hs).1.group hb hb'
    cases k with
    | and => exact hterm
    | or => exact hterm.factors

/-- The scopes of a query are derived as a run. -/
theorem derives_run {k : Connective} {scopes : List Scope} {cs : List Char} (h : SpelledRun k scopes cs)
    (hscopes : ∀ s ∈ scopes, s.Printable) : DerivesRun k scopes cs := by
  cases h with
  | last h => exact (derives_part h (hscopes _ List.mem_cons_self)).last
  | more h hb _ hkeyword hb' hne' hrun =>
    have hpart := derives_part h (hscopes _ List.mem_cons_self)
    exact hpart.more hb hkeyword hb' hne' (derives_run hrun fun s hs => hscopes s (List.mem_cons_of_mem _ hs))

end

/-- Every spelling of a printable scope is read as that scope. -/
theorem ofExpression_of_spells {expression : String} {s : Scope} (hs : s.Printable) (h : Spells expression s) :
    ofExpression expression = .ok ⟨some s⟩ := by
  obtain ⟨b, cs, b', hb, hcs, hb', htext⟩ := h
  obtain ⟨e, q, hcut, rfl⟩ := (derives_spelled hcs hs).1 (0 + b.length) (b' ++ [])
  have hcut' := ((Cut.blanks hb 0 _).trans hcut).trans (.blanks hb' _ _)
  rw [List.nil_append, List.append_nil, List.append_nil, ← List.append_assoc, ← htext] at hcut'
  unfold ofExpression
  rw [hcut'.scan]
  exact ofTokens_tokens e

/-! ### Every printable scope has a spelling -/

theorem exists_spelledPart {k : Connective} {s : Scope} (h : ∃ cs, Spelled s cs) : ∃ cs, SpelledPart k s cs := by
  have hnone : Blanks [] := nofun
  obtain ⟨cs, hcs⟩ := h
  by_cases hs : grouped k s = true
  · exact ⟨_, .group hs hcs hnone hnone⟩
  · exact ⟨cs, .bare (Bool.eq_false_iff.mpr hs) hcs⟩

theorem exists_spelledRun {k : Connective} {scopes : List Scope} (hne : scopes ≠ [])
    (h : ∀ s ∈ scopes, ∃ cs, Spelled s cs) : ∃ cs, SpelledRun k scopes cs := by
  have hblank : Blanks [' '] := by decide
  induction scopes with
  | nil => exact absurd rfl hne
  | cons s scopes ih =>
    obtain ⟨part, hpart⟩ := exists_spelledPart (k := k) (h s List.mem_cons_self)
    by_cases hlast : scopes = []
    · subst hlast
      exact ⟨part, .last hpart⟩
    · obtain ⟨run, hrun⟩ := ih hlast fun t ht => h t (List.mem_cons_of_mem s ht)
      have hkeyword : k.keyword.map Char.toLower = k.keyword := by
        cases k <;> decide
      exact ⟨_, .more hpart hblank (by simp) hkeyword hblank (by simp) hrun⟩

theorem exists_spelled {s : Scope} (hs : s.Printable) : ∃ cs, Spelled s cs := by
  induction hs with
  | @condition c hword hlabel hoperator hvalue =>
    have hnone : Blanks [] := nofun
    have hsign : ∃ sign, Sign c.operator sign := by
      rcases hoperator with h | h
      · rw [h]
        exact ⟨_, .equal⟩
      · rw [h]
        exact ⟨_, .notEqual⟩
    obtain ⟨sign, hsign⟩ := hsign
    rcases hvalue with h | h
    · exact ⟨_, .condition hsign (.inl rfl) h hnone hnone⟩
    · exact ⟨_, .condition hsign (.inr rfl) h hnone hnone⟩
  | query k htwo _ ih =>
    obtain ⟨cs, hcs⟩ := exists_spelledRun (k := k) (List.ne_nil_of_length_pos (by omega)) ih
    exact ⟨cs, .query k hcs⟩

/-- **Spelling and reading are inverse.**  Every printable scope has a spelling, and however it is spelled, the
expression is read as the filter of that scope: with the same nesting, order and values, at any depth. -/
theorem ofExpression_spelling {s : Scope} (hs : s.Printable) :
    (∃ expression, Spells expression s) ∧
      ∀ expression, Spells expression s → ofExpression expression = .ok ⟨some s⟩ := by
  refine ⟨?_, fun expression h => ofExpression_of_spells hs h⟩
  obtain ⟨cs, hcs⟩ := exists_spelled hs
  exact ⟨String.ofList cs, [], cs, [], nofun, hcs, nofun, by simp⟩

/-- A run of `OR` over one of `AND` over one of `OR`, with values that hold signs, keywords and a quote. -/
def nestedScope : Scope :=
  .query "OR" [
    .query "AND" [.condition ⟨"env", "=", "prod"⟩,
      .query "OR" [.condition ⟨"order", "=", "(web) OR x"⟩, .condition ⟨"tier", "!=", "a \"b\"=c"⟩]],
    .condition ⟨"android-x", "=", ""⟩]

theorem ofExpression_spelling_nested :
    ofExpression " env : \"prod\" AND (order='(web) OR x'\tor tier != 'a \"b\"=c' ) Or android-x=\"\"" =
      .ok ⟨some nestedScope⟩ := by
  have hconditions : ∀ c ∈ [Condition.mk "env" "=" "prod", ⟨"order", "=", "(web) OR x"⟩,
      ⟨"tier", "!=", "a \"b\"=c"⟩, ⟨"android-x", "=", ""⟩], Printable (.condition c) := by
    intro c hc
    simp only [List.mem_cons, List.not_mem_nil, or_false] at hc
    rcases hc with rfl | rfl | rfl | rfl
    all_goals
      refine .condition (by decide) (fun h => ?_) (by decide) (by decide)
      obtain ⟨k, hk⟩ := (resemblesKeyword_iff (by decide)).mp h
      cases k <;> cases hk
  have hpair : ∀ (k : Connective) (s t : Scope), s.Printable → t.Printable →
      (Scope.query k.operator [s, t]).Printable := by
    intro k s t hs ht
    exact .query k (by simp) (by simpa using ⟨hs, ht⟩)
  have hprintable : nestedScope.Printable := by
    simp only [List.forall_mem_cons] at hconditions
    obtain ⟨henv, horder, htier, handroid, -⟩ := hconditions
    exact hpair .or _ _ (hpair .and _ _ henv (hpair .or _ _ horder htier)) handroid
  have hnone : Blanks [] := nofun
  have hblank : Blanks [' '] := by decide
  have htab : Blanks ['\t'] := by decide
  have hand : ['A', 'N', 'D'].map Char.toLower = Connective.and.keyword := rfl
  have hor : ['o', 'r'].map Char.toLower = Connective.or.keyword := rfl
  have hOr : ['O', 'r'].map Char.toLower = Connective.or.keyword := rfl
  have henv : Spelled (.condition ⟨"env", "=", "prod"⟩) _ :=
    .condition (c := ⟨"env", "=", "prod"⟩) .colon (.inl rfl) (by decide) hblank hblank
  have horder : Spelled (.condition ⟨"order", "=", "(web) OR x"⟩) _ :=
    .condition (c := ⟨"order", "=", "(web) OR x"⟩) .equal (.inr rfl) (by decide) hnone hnone
  have htier : Spelled (.condition ⟨"tier", "!=", "a \"b\"=c"⟩) _ :=
    .condition (c := ⟨"tier", "!=", "a \"b\"=c"⟩) .notEqual (.inr rfl) (by decide) hblank hblank
  have handroid : Spelled (.condition ⟨"android-x", "=", ""⟩) _ :=
    .condition (c := ⟨"android-x", "=", ""⟩) .equal (.inl rfl) (by decide) hnone hnone
  have hinner := Spelled.query .or
    (.more (.bare rfl horder) htab nofun hor hblank nofun (.last (.bare rfl htier)))
  have hmiddle := Spelled.query .and
    (.more (.bare rfl henv) hblank nofun hand hblank nofun (.last (.group rfl hinner hnone hblank)))
  have houter := Spelled.query .or
    (.more (.bare rfl hmiddle) hblank nofun hOr hblank nofun (.last (.bare rfl handroid)))
  exact (ofExpression_spelling hprintable).2 _ ⟨[' '], _, [], hblank, houter, hnone, rfl⟩

end Filter

end ComplianceHistory
