import ComplianceHistory.Proofs.Filter.Relocation
import ComplianceHistory.Proofs.Filter.Scanning

/-!
# Tokens and the blanks around them

The tokens of an expression are slices of it with nothing but blanks around them (`Slices`), so nothing of it is lost.
The blanks themselves mean nothing.  An expression may be widened by further blanks, at any places that do not lie
inside of a token: every token ends in front of a blank, and where none is put behind it, in front of the same
character as before, so the same tokens are cut (`Cut.exists_widen`).  Hence the same is read (`scan_lossless`).
-/

namespace ComplianceHistory

open Text

namespace Token

/-- The place behind a token. -/
def stop (t : Token) : Nat := t.position + t.text.length

/-- Tokens that are slices of a text, one behind the other, with nothing but blanks around them. -/
structure Slices (cs : List Char) (ts : List Token) : Prop where
  nonempty : ∀ t ∈ ts, t.text ≠ []
  slice : ∀ t ∈ ts, cs.extract t.position t.stop = t.text
  ascending : ts.Pairwise fun t u => t.position < u.position
  apart : ts.Pairwise fun t u => t.stop ≤ u.position
  blank : ∀ i c, cs[i]? = some c → (∀ t ∈ ts, i < t.position ∨ t.stop ≤ i) → isBlank c = true

/-! ### Slices -/

section Slices

variable {p q : Nat} {cs rest : List Char} {ts : List Token} (h : Cut p cs ts q rest)
include h

theorem Cut.le_position : ∀ t ∈ ts, p ≤ t.position := by
  induction h with
  | done => nofun
  | blank _ _ ih => exact fun t ht => Nat.le_of_succ_le (ih t ht)
  | token _ _ _ ih => exact List.forall_mem_cons.mpr ⟨Nat.le_refl _, fun t ht => Nat.le_of_add_right_le (ih t ht)⟩

theorem Cut.exists_slice :
    ∀ t ∈ ts, ∃ before behind, cs = before ++ (t.text ++ behind) ∧ t.position = p + before.length := by
  induction h with
  | done => nofun
  | @blank p q c cs rest ts _ _ ih =>
    intro t ht
    obtain ⟨before, behind, rfl, hposition⟩ := ih t ht
    exact ⟨c :: before, behind, rfl, by rw [hposition, List.length_cons]; omega⟩
  | @token p q kind text cs rest ts _ _ _ ih =>
    refine List.forall_mem_cons.mpr ⟨⟨[], cs, rfl, rfl⟩, fun t ht => ?_⟩
    obtain ⟨before, behind, rfl, hposition⟩ := ih t ht
    exact ⟨text ++ before, behind, by simp, by rw [hposition, List.length_append, Nat.add_assoc]⟩

theorem Cut.apart : ts.Pairwise fun t u => t.stop ≤ u.position := by
  induction h with
  | done => exact .nil
  | blank _ _ ih => exact ih
  | token _ _ hmore ih => exact .cons hmore.le_position ih

/-- A character in front of the end of the cut that lies in no token is blank. -/
theorem Cut.isBlank_outside {i : Nat} {c : Char} (hc : cs[i]? = some c) (hi : i + rest.length < cs.length)
    (houtside : ∀ t ∈ ts, p + i < t.position ∨ t.stop ≤ p + i) : isBlank c = true := by
  induction h generalizing i with
  | done => omega
  | @blank p q d cs rest ts hd _ ih =>
    cases i with
    | zero =>
      cases hc
      exact hd
    | succ i =>
      have hplace : p + (i + 1) = p + 1 + i := by omega
      rw [hplace] at houtside
      exact ih hc (by rw [List.length_cons] at hi; omega) houtside
  | @token p q kind text cs rest ts _ _ _ ih =>
    obtain ⟨hhead, htail⟩ := List.forall_mem_cons.mp houtside
    have hbehind : text.length ≤ i := by
      simp only [stop] at hhead
      omega
    have hplace : p + i = p + text.length + (i - text.length) := by omega
    rw [List.getElem?_append_right hbehind] at hc
    rw [hplace] at htail
    exact ih hc (by rw [List.length_append] at hi; omega) htail

end Slices

/-- What is cut to its end, from its start, is cut into slices. -/
theorem Cut.slices {cs : List Char} {ts : List Token} {q : Nat} (h : Cut 0 cs ts q []) : Slices cs ts := by
  have hnonempty : ∀ t ∈ ts, t.text ≠ [] := fun t ht => (h.lexemes t ht).ne_nil
  refine ⟨hnonempty, fun t ht => ?_, ?_, h.apart, fun i c hc houtside => ?_⟩
  · obtain ⟨before, behind, rfl, hposition⟩ := h.exists_slice t ht
    rw [Nat.zero_add] at hposition
    simp [List.extract, stop, hposition]
  · refine h.apart.imp_of_mem fun {t u} ht _ htu => ?_
    have hlength := List.length_pos_iff.mpr (hnonempty t ht)
    simp only [stop] at htu
    omega
  · obtain ⟨hi, -⟩ := List.getElem?_eq_some_iff.mp hc
    exact h.isBlank_outside hc hi (by simpa using houtside)

/-! ### Texts with further blanks -/

/-- A text with gaps put in: the gap of a place goes in front of the character there, and that of the last place behind
the text.  The text starts at the place `p`. -/
def widen (gap : Nat → List Char) (p : Nat) : List Char → List Char
  | [] => gap p
  | c :: cs => gap p ++ c :: widen gap (p + 1) cs

/-- An expression with gaps put in. -/
def widened (gap : Nat → List Char) (expression : String) : String := String.ofList (widen gap 0 expression.toList)

/-- The place of a character after the gaps were put in. -/
def placeIn (gap : Nat → List Char) : Nat → Nat
  | 0 => (gap 0).length
  | p + 1 => placeIn gap p + 1 + (gap (p + 1)).length

/-- Gaps of blanks only, none of which splits a token. -/
structure FitsAround (ts : List Token) (gap : Nat → List Char) : Prop where
  blanks : ∀ p, Blanks (gap p)
  outside : ∀ t ∈ ts, ∀ p < t.stop, t.position < p → gap p = []

theorem FitsAround.tail {t : Token} {ts : List Token} {gap : Nat → List Char} (h : FitsAround (t :: ts) gap) :
    FitsAround ts gap :=
  ⟨h.blanks, fun u hu => h.outside u (List.mem_cons_of_mem t hu)⟩

/-- A text that no gap splits stays together. -/
theorem widen_append {gap : Nat → List Char} {p : Nat} {text : List Char} (hne : text ≠ [])
    (hinside : ∀ r < p + text.length, p < r → gap r = []) (cs : List Char) :
    widen gap p (text ++ cs) = gap p ++ (text ++ widen gap (p + text.length) cs) := by
  induction text generalizing p with
  | nil => exact absurd rfl hne
  | cons c text ih =>
    by_cases htext : text = []
    · subst htext
      rfl
    · have hlength : p + (c :: text).length = p + 1 + text.length := by rw [List.length_cons]; omega
      have hnext : gap (p + 1) = [] := by
        have hpos := List.length_pos_iff.mpr htext
        exact hinside (p + 1) (by omega) (by omega)
      rw [hlength] at hinside ⊢
      rw [List.cons_append, widen, ih htext fun r hr hp => hinside r hr (by omega), hnext]
      rfl

/-- Places that no gap separates stay together. -/
theorem placeIn_add {gap : Nat → List Char} {p n : Nat} (hn : 0 < n) (hinside : ∀ r < p + n, p < r → gap r = []) :
    placeIn gap (p + n) = placeIn gap p + n + (gap (p + n)).length := by
  induction n with
  | zero => omega
  | succ n ih =>
    cases n with
    | zero => rfl
    | succ n =>
      have hlast : gap (p + (n + 1)) = [] := hinside _ (by omega) (by omega)
      have hplace := ih (by omega) fun r hr hp => hinside r (by omega) hp
      rw [hlast, List.length_nil, Nat.add_zero] at hplace
      rw [← Nat.add_assoc p (n + 1) 1, placeIn, hplace]
      omega

/-- A token that ends in front of a text ends in front of the text with blanks put in. -/
theorem endsBefore_widen {gap : Nat → List Char} {p : Nat} (hgap : Blanks (gap p)) {kind : TokenKind} {cs : List Char}
    (h : endsBefore kind cs = true) : endsBefore kind (widen gap p cs) = true := by
  cases hp : gap p with
  | nil =>
    cases cs with
    | nil => rwa [widen, hp]
    | cons c cs =>
      rw [widen, hp]
      cases kind <;> exact h
  | cons b bs =>
    have hb : isBlank b = true := hgap b (by rw [hp]; exact List.mem_cons_self)
    cases cs <;> rw [widen, hp] <;> exact endsBefore_blank hb kind _

/-- What is cut to its end is cut into the same tokens after blanks were put in, each where it stands now. -/
theorem Cut.exists_widen {gap : Nat → List Char} {p q s : Nat} {cs rest : List Char} {ts : List Token}
    (h : Cut p cs ts q rest) (hrest : rest = []) (hgap : FitsAround ts gap) (hs : s + (gap p).length = placeIn gap p) :
    ∃ r, Cut s (widen gap p cs) (ts.map (moved (placeIn gap))) r [] := by
  induction h generalizing s with
  | done p rest =>
    subst hrest
    have hblanks := Cut.blanks (hgap.blanks p) s []
    rw [List.append_nil] at hblanks
    exact ⟨_, hblanks⟩
  | @blank p q c cs rest ts hc _ ih =>
    obtain ⟨r, hcut⟩ := ih hrest hgap rfl
    have hblanks := Cut.blanks (hgap.blanks p) s (c :: widen gap (p + 1) cs)
    rw [hs] at hblanks
    exact ⟨r, hblanks.trans (.blank hc hcut)⟩
  | @token p q kind text cs rest ts hlexeme hend _ ih =>
    have hinside : ∀ r < p + text.length, p < r → gap r = [] := hgap.outside _ List.mem_cons_self
    have hplace := placeIn_add (List.length_pos_iff.mpr hlexeme.ne_nil) hinside
    obtain ⟨r, hcut⟩ := ih hrest hgap.tail hplace.symm
    have hend' := endsBefore_widen (hgap.blanks (p + text.length)) hend
    have hblanks := Cut.blanks (hgap.blanks p) s (text ++ widen gap (p + text.length) cs)
    rw [hs] at hblanks
    rw [widen_append hlexeme.ne_nil hinside]
    exact ⟨r, hblanks.trans (.token hlexeme hend' hcut)⟩

/-! ### Expressions -/

theorem scan_widened {expression : String} {ts : List Token} (h : scan expression = .ok ts) {gap : Nat → List Char}
    (hgap : FitsAround ts gap) : scan (widened gap expression) = .ok (ts.map (moved (placeIn gap))) := by
  obtain ⟨q, hcut⟩ := exists_cut_of_scanFrom h
  obtain ⟨r, hwide⟩ := hcut.exists_widen rfl hgap (Nat.zero_add _)
  refine Cut.scan (q := r) ?_
  rw [widened, String.toList_ofList]
  exact hwide

/-- **Nothing but blanks is lost, and blanks mean nothing.**  The tokens of an expression are slices of it, in
ascending order and without overlap, and what lies outside of them is blank.  If blanks are put in, however many and at
any places but those inside of a token, the expression has the same tokens, of the same kinds and with the same texts,
where their characters stand now; and it is read as the same filter, or refused for the same fault there. -/
theorem scan_lossless {expression : String} {ts : List Token} (h : scan expression = .ok ts) :
    Slices expression.toList ts ∧
      ∀ gap, FitsAround ts gap →
        scan (widened gap expression) = .ok (ts.map (moved (placeIn gap))) ∧
        Filter.ofExpression (widened gap expression) =
          (Filter.ofExpression expression).mapError (ExpressionError.moved (placeIn gap)) := by
  obtain ⟨q, hcut⟩ := exists_cut_of_scanFrom h
  refine ⟨hcut.slices, fun gap hgap => ?_⟩
  have hwide := scan_widened h hgap
  refine ⟨hwide, ?_⟩
  unfold Filter.ofExpression
  rw [h, hwide]
  exact Filter.ofTokens_moved (placeIn gap) ts

/-- An expression with tokens that touch each other, one of them a string with a blank in it. -/
def gluedExpression : String := "a=\"x y\"OR (b!=or1)"

/-- The tokens of the expression. -/
def gluedTokens : List Token :=
  [⟨.word, ['a'], 0⟩, ⟨.equal, ['='], 1⟩, ⟨.string, ['"', 'x', ' ', 'y', '"'], 2⟩, ⟨.or, ['O', 'R'], 7⟩,
    ⟨.opening, ['('], 10⟩, ⟨.word, ['b'], 11⟩, ⟨.notEqual, ['!', '='], 12⟩, ⟨.word, ['o', 'r', '1'], 14⟩,
    ⟨.closing, [')'], 17⟩]

/-- Blanks in front of the expression, behind it, between tokens that touch each other and beside a blank. -/
def gluedGap : Nat → List Char
  | 0 => [' ']
  | 1 => ['\t']
  | 7 => ['\u3000']
  | 10 => ['\n', ' ']
  | 18 => [' ']
  | _ => []

theorem scan_lossless_glued :
    scan gluedExpression = .ok gluedTokens ∧ FitsAround gluedTokens gluedGap ∧
      Slices gluedExpression.toList gluedTokens ∧
      widened gluedGap gluedExpression = " a\t=\"x y\"\u3000OR \n (b!=or1) " ∧
      scan (widened gluedGap gluedExpression) = .ok (gluedTokens.map (moved (placeIn gluedGap))) ∧
      Filter.ofExpression (widened gluedGap gluedExpression) =
        .ok ⟨some (.query "OR" [.condition ⟨"a", "=", "x y"⟩, .condition ⟨"b", "!=", "or1"⟩])⟩ := by
  have hplain : ∀ k : Connective, ∀ text ∈ [['a'], ['b'], ['o', 'r', '1']],
      startsWithKeyword k.keyword text = false := by
    intro k
    cases k <;> decide
  have ha : Lexeme .word ['a'] := .word (by decide) fun k => hplain k _ (by decide)
  have hb : Lexeme .word ['b'] := .word (by decide) fun k => hplain k _ (by decide)
  have hvalue : Lexeme .word ['o', 'r', '1'] := .word (by decide) fun k => hplain k _ (by decide)
  have hstring : Lexeme .string ['"', 'x', ' ', 'y', '"'] :=
    @Lexeme.string '"' ['x', ' ', 'y'] (.inl rfl) (by decide)
  have hor : Lexeme .or ['O', 'R'] := .or rfl
  have hcondition := Cut.token (p := 11) hb rfl (.token .notEqual rfl (.token hvalue rfl
    (.token .closing rfl (.done _ []))))
  have hgroup := Cut.token (p := 7) hor rfl (.blank (c := ' ') (by decide) (.token .opening rfl hcondition))
  have hcut := Cut.token (p := 0) ha rfl (.token .equal rfl (.token hstring rfl hgroup))
  have hscan : scan gluedExpression = .ok gluedTokens := Cut.scan hcut
  have hgap : FitsAround gluedTokens gluedGap := by
    refine ⟨fun p => ?_, by decide⟩
    unfold gluedGap
    split <;> decide
  have hfilter : Filter.ofExpression gluedExpression =
      .ok ⟨some (.query "OR" [.condition ⟨"a", "=", "x y"⟩, .condition ⟨"b", "!=", "or1"⟩])⟩ := by
    unfold Filter.ofExpression
    rw [hscan]
    exact Filter.ofTokens_tokens (.or
      (.one (.condition ⟨⟨.word, ['a'], 0⟩, rfl⟩ (.equal ⟨⟨.equal, ['='], 1⟩, rfl⟩) (.string ⟨⟨.string, _, 2⟩, rfl⟩)))
      ⟨⟨.or, ['O', 'R'], 7⟩, rfl⟩
      (.one (.one (.group ⟨⟨.opening, ['('], 10⟩, rfl⟩
        (.one (.one (.condition ⟨⟨.word, ['b'], 11⟩, rfl⟩ (.notEqual ⟨⟨.notEqual, ['!', '='], 12⟩, rfl⟩)
          (.word ⟨⟨.word, ['o', 'r', '1'], 14⟩, rfl⟩))))
        ⟨⟨.closing, [')'], 17⟩, rfl⟩))))
  obtain ⟨hslices, hwidened⟩ := scan_lossless hscan
  obtain ⟨hwide, hread⟩ := hwidened gluedGap hgap
  rw [hfilter] at hread
  exact ⟨hscan, hgap, hslices, rfl, hwide, hread⟩

end Token

end ComplianceHistory
