import ComplianceHistory.Filter.Token
import ComplianceHistory.Proofs.Filter.Operators
import ComplianceHistory.Proofs.Lists

/-!
# How an expression is cut into tokens

Every token is read with the text behind it in sight: a word ends where no character of words follows, a keyword
where no letter, digit or underscore does, and the other tokens end by themselves.  `Cut` says which tokens lie
between two places of a text under these rules, with any blanks between them; as the text behind them is always at
hand, cuts that follow one another make one (`Cut.trans`).  What is cut is scanned (`Cut.scanFrom_eq`).
-/

namespace ComplianceHistory

open Text

/-- The letters of the keyword of a connective, in lower case. -/
def Connective.keyword : Connective → List Char
  | and => ['a', 'n', 'd']
  | or => ['o', 'r']

/-- The kind of the keyword of a connective. -/
def Connective.kind : Connective → TokenKind
  | and => .and
  | or => .or

namespace Token

/-- A letter, digit or underscore, and further characters of words. -/
def IsWord : List Char → Prop
  | [] => False
  | c :: more => startsWord c = true ∧ ∀ d ∈ more, continuesWord d = true

instance : DecidablePred IsWord
  | [] => inferInstanceAs (Decidable False)
  | _ :: more => @instDecidableAnd _ _ inferInstance (List.decidableBAll _ more)

/-- A text that might be taken for a keyword: `and` or `or` in any case, alone or in front of `.`, `-` or `/`. -/
def ResemblesKeyword (text : List Char) : Prop :=
  ∃ (k : Connective) (letters rest : List Char), text = letters ++ rest ∧ letters.map Char.toLower = k.keyword ∧
    (rest = [] ∨ ∃ c more, rest = c :: more ∧ (c = '.' ∨ c = '-' ∨ c = '/'))

/-- The texts of the tokens of a kind. -/
inductive Lexeme : TokenKind → List Char → Prop
  | and {text : List Char} (h : text.map Char.toLower = Connective.and.keyword) : Lexeme .and text
  | or {text : List Char} (h : text.map Char.toLower = Connective.or.keyword) : Lexeme .or text
  | notEqual : Lexeme .notEqual ['!', '=']
  | equal : Lexeme .equal ['=']
  | colon : Lexeme .colon [':']
  | opening : Lexeme .opening ['(']
  | closing : Lexeme .closing [')']
  | string {quote : Char} {value : List Char} (hquote : quote = '"' ∨ quote = '\'') (hvalue : quote ∉ value) :
      Lexeme .string (quote :: (value ++ [quote]))
  | word {text : List Char} (hword : IsWord text)
      (hkeyword : ∀ k : Connective, startsWithKeyword k.keyword text = false) : Lexeme .word text

/-- Whether a token of a kind ends in front of a text. -/
def endsBefore : TokenKind → List Char → Bool
  | .and, rest | .or, rest => !rest.head?.any startsWord
  | .word, rest => !rest.head?.any continuesWord
  | _, _ => true

/-- The tokens between a place of a text and a later one; a place is a position with the text behind it. -/
inductive Cut : Nat → List Char → List Token → Nat → List Char → Prop
  | done (p : Nat) (rest : List Char) : Cut p rest [] p rest
  | blank {p q : Nat} {c : Char} {cs rest : List Char} {ts : List Token} (hc : isBlank c = true)
      (h : Cut (p + 1) cs ts q rest) : Cut p (c :: cs) ts q rest
  | token {p q : Nat} {kind : TokenKind} {text cs rest : List Char} {ts : List Token} (hlexeme : Lexeme kind text)
      (hend : endsBefore kind cs = true) (h : Cut (p + text.length) cs ts q rest) :
      Cut p (text ++ cs) (⟨kind, text, p⟩ :: ts) q rest

/-- A text of blanks only. -/
def Blanks (b : List Char) : Prop := ∀ c ∈ b, isBlank c = true

instance (b : List Char) : Decidable (Blanks b) := List.decidableBAll _ b

/-- Cuts that follow one another make one. -/
theorem Cut.trans {p q r : Nat} {cs rest rest' : List Char} {ts ts' : List Token} (h : Cut p cs ts q rest)
    (h' : Cut q rest ts' r rest') : Cut p cs (ts ++ ts') r rest' := by
  induction h with
  | done => exact h'
  | blank hc _ ih => exact .blank hc (ih h')
  | token hlexeme hend _ ih => exact .token hlexeme hend (ih h')

/-- Blanks hold no token. -/
theorem Cut.blanks {b : List Char} (hb : Blanks b) (p : Nat) (rest : List Char) :
    Cut p (b ++ rest) [] (p + b.length) rest := by
  induction b generalizing p with
  | nil => exact .done p rest
  | cons c b ih =>
    refine .blank (hb c List.mem_cons_self) ?_
    rw [List.length_cons, Nat.add_comm b.length, ← Nat.add_assoc]
    exact ih (fun d hd => hb d (List.mem_cons_of_mem c hd)) (p + 1)

/-- A lexeme is a token. -/
theorem Cut.lexeme {p : Nat} {kind : TokenKind} {text rest : List Char} (h : Lexeme kind text)
    (hend : endsBefore kind rest = true) : Cut p (text ++ rest) [⟨kind, text, p⟩] (p + text.length) rest :=
  .token h hend (.done _ _)

/-! ### Classes of characters -/

/-- The code points of letters, digits and the underscore. -/
theorem startsWord_iff {c : Char} : startsWord c = true ↔
    65 ≤ c.toNat ∧ c.toNat ≤ 90 ∨ 97 ≤ c.toNat ∧ c.toNat ≤ 122 ∨ 48 ≤ c.toNat ∧ c.toNat ≤ 57 ∨ c.toNat = 95 := by
  have hunderscore : c = '_' ↔ c.toNat = 95 := Char.toNat_inj.symm
  have hstart : startsWord c = (decide (c.val ≥ 65 ∧ c.val ≤ 90) || (c.val ≥ 97 && c.val ≤ 122) ||
      (c.val ≥ 48 && c.val ≤ 57) || c = '_') := rfl
  simp only [hstart, Bool.or_eq_true, Bool.and_eq_true, decide_eq_true_eq, ge_iff_le, UInt32.le_iff_toNat_le,
    hunderscore]
  change ((65 ≤ c.toNat ∧ c.toNat ≤ 90 ∨ 97 ≤ c.toNat ∧ c.toNat ≤ 122) ∨ 48 ≤ c.toNat ∧ c.toNat ≤ 57) ∨ _ ↔ _
  omega

theorem startsWord_of_toLower {c : Char} (h : startsWord c.toLower = true) : startsWord c = true := by
  rw [startsWord_iff, toNat_toLower] at h
  rw [startsWord_iff]
  split at h
  · omega
  · exact h

theorem continuesWord_of_startsWord {c : Char} (h : startsWord c = true) : continuesWord c = true := by
  simp [continuesWord, h]

/-- All characters of a word are characters of words. -/
theorem IsWord.continuesWord {text : List Char} (hword : IsWord text) : ∀ c ∈ text, Token.continuesWord c = true := by
  cases text with
  | nil => exact absurd hword id
  | cons c more =>
    intro d hd
    rcases List.mem_cons.mp hd with rfl | hd
    · exact continuesWord_of_startsWord hword.1
    · exact hword.2 d hd

/-- A blank is another character than one that is not blank. -/
theorem ne_of_isBlank {c d : Char} (hc : isBlank c = true) (hd : isBlank d = false) : c ≠ d := by
  rintro rfl
  rw [hc] at hd
  cases hd

/-- No blank is a character of words. -/
theorem continuesWord_of_isBlank {c : Char} (h : isBlank c = true) : continuesWord c = false := by
  have hstart : startsWord c = false := by
    rw [Bool.eq_false_iff, ne_eq, startsWord_iff]
    simp only [isBlank, blanks, CodeSet.contains, List.any_cons, List.any_nil, Bool.or_eq_true, Bool.and_eq_true,
      decide_eq_true_eq, Bool.false_eq_true, or_false] at h
    omega
  have hdot : c ≠ '.' := ne_of_isBlank h (by decide)
  have hdash : c ≠ '-' := ne_of_isBlank h (by decide)
  have hslash : c ≠ '/' := ne_of_isBlank h (by decide)
  simp [continuesWord, hstart, hdot, hdash, hslash]

theorem startsWord_of_isBlank {c : Char} (h : isBlank c = true) : startsWord c = false := by
  refine Bool.eq_false_iff.mpr fun hstart => ?_
  have hmore := continuesWord_of_startsWord hstart
  rw [continuesWord_of_isBlank h] at hmore
  cases hmore

/-- What does not go on with a word does not start one. -/
theorem startsWord_of_stops {rest : List Char} (h : rest.head?.any continuesWord = false) :
    rest.head?.any startsWord = false := by
  cases rest with
  | nil => rfl
  | cons c rest => exact Bool.eq_false_iff.mpr fun hc => Bool.eq_false_iff.mp h (continuesWord_of_startsWord hc)

/-- Every token ends in front of a blank. -/
theorem endsBefore_blank {c : Char} (hc : isBlank c = true) (kind : TokenKind) (rest : List Char) :
    endsBefore kind (c :: rest) = true := by
  cases kind <;> simp [endsBefore, startsWord_of_isBlank hc, continuesWord_of_isBlank hc]

/-! ### Keywords -/

/-- A text starts with a keyword if its first characters are the keyword's, and no further letter, digit or
underscore follows. -/
theorem startsWithKeyword_iff {keyword cs : List Char} : startsWithKeyword keyword cs = true ↔
    ∃ letters rest, cs = letters ++ rest ∧ letters.map Char.toLower = keyword ∧
      rest.head?.any startsWord = false := by
  unfold startsWithKeyword
  constructor
  · intro h
    rw [Bool.and_eq_true, decide_eq_true_eq, Bool.not_eq_true'] at h
    exact ⟨_, _, (List.take_append_drop keyword.length cs).symm, h.1, h.2⟩
  · rintro ⟨letters, rest, rfl, rfl, hrest⟩
    rw [List.length_map, List.take_left' rfl, List.drop_left' rfl, hrest]
    simp

/-- The letters that make a keyword are characters that words start with. -/
theorem startsWord_of_keyword {k : Connective} {letters : List Char} (h : letters.map Char.toLower = k.keyword) :
    ∀ c ∈ letters, startsWord c = true := by
  have hkeyword : k.keyword.all startsWord = true := by
    cases k <;> decide
  intro c hc
  refine startsWord_of_toLower (List.all_eq_true.mp hkeyword _ ?_)
  rw [← h]
  exact List.mem_map_of_mem hc

/-- The letters that make a keyword are its lexeme. -/
theorem lexeme_of_keyword {k : Connective} {letters : List Char} (h : letters.map Char.toLower = k.keyword) :
    Lexeme k.kind letters := by
  cases k with
  | and => exact .and h
  | or => exact .or h

/-- A keyword ends where no letter, digit or underscore follows. -/
theorem endsBefore_keyword {rest : List Char} (h : rest.head?.any startsWord = false) (k : Connective) :
    endsBefore k.kind rest = true := by
  cases k <;> simp [Connective.kind, endsBefore, h]

theorem startsWithKeyword_of_head {c : Char} (hc : startsWord c = false) (k : Connective) (cs : List Char) :
    startsWithKeyword k.keyword (c :: cs) = false := by
  refine Bool.eq_false_iff.mpr fun h => ?_
  obtain ⟨letters, rest, happend, hlower, -⟩ := startsWithKeyword_iff.mp h
  cases letters with
  | nil => cases k <;> cases hlower
  | cons d letters =>
    obtain ⟨rfl, -⟩ := List.cons.inj happend
    rw [startsWord_of_keyword hlower c List.mem_cons_self] at hc
    cases hc

/-- What follows a word does not make it a keyword. -/
theorem startsWithKeyword_append {k : Connective} {text rest : List Char}
    (h : startsWithKeyword k.keyword text = false) (hrest : rest.head?.any continuesWord = false) :
    startsWithKeyword k.keyword (text ++ rest) = false := by
  refine Bool.eq_false_iff.mpr fun hne => Bool.eq_false_iff.mp h ?_
  obtain ⟨letters, more, happend, hlower, hmore⟩ := startsWithKeyword_iff.mp hne
  rcases List.append_eq_append_iff.mp happend with ⟨behind, rfl, rfl⟩ | ⟨behind, rfl, rfl⟩
  · -- the keyword would reach into the rest, whose first character then is a letter of it
    cases behind with
    | nil => exact startsWithKeyword_iff.mpr ⟨text, [], by simp, by simpa using hlower, rfl⟩
    | cons c behind =>
      have hc : startsWord c = true := startsWord_of_keyword hlower c (by simp)
      rw [List.cons_append, List.head?_cons, Option.any_some, continuesWord_of_startsWord hc] at hrest
      cases hrest
  · refine startsWithKeyword_iff.mpr ⟨letters, behind, rfl, hlower, ?_⟩
    cases behind with
    | nil => rfl
    | cons c behind => exact hmore

/-- What ends a word takes no keyword away from it. -/
theorem startsWithKeyword_of_append {k : Connective} {text rest : List Char}
    (h : startsWithKeyword k.keyword (text ++ rest) = false) (hrest : rest.head?.any startsWord = false) :
    startsWithKeyword k.keyword text = false := by
  refine Bool.eq_false_iff.mpr fun hne => Bool.eq_false_iff.mp h ?_
  obtain ⟨letters, more, rfl, hlower, hmore⟩ := startsWithKeyword_iff.mp hne
  refine startsWithKeyword_iff.mpr ⟨letters, more ++ rest, List.append_assoc _ _ _, hlower, ?_⟩
  cases more with
  | nil => exact hrest
  | cons c more => exact hmore

/-- The lexeme of a keyword that a text starts with, and what is behind it. -/
theorem exists_lexeme_of_keyword {k : Connective} {c : Char} {rest : List Char}
    (h : startsWithKeyword k.keyword (c :: rest) = true) : ∃ cs behind, rest = cs ++ behind ∧
      (c :: cs).length = k.keyword.length ∧ Lexeme k.kind (c :: cs) ∧ endsBefore k.kind behind = true := by
  obtain ⟨letters, behind, happend, hlower, hbehind⟩ := startsWithKeyword_iff.mp h
  cases letters with
  | nil => cases k <;> cases hlower
  | cons d cs =>
    obtain ⟨rfl, rfl⟩ := List.cons.inj happend
    have hlength : (c :: cs).length = k.keyword.length := by rw [← hlower, List.length_map]
    exact ⟨cs, behind, rfl, hlength, lexeme_of_keyword hlower, endsBefore_keyword hbehind k⟩

/-! ### One lexeme -/

/-- A word resembles a keyword if it starts with one. -/
theorem resemblesKeyword_iff {text : List Char} (hword : IsWord text) :
    ResemblesKeyword text ↔ ∃ k : Connective, startsWithKeyword k.keyword text = true := by
  constructor
  · rintro ⟨k, letters, rest, rfl, hlower, hrest⟩
    refine ⟨k, startsWithKeyword_iff.mpr ⟨letters, rest, rfl, hlower, ?_⟩⟩
    rcases hrest with rfl | ⟨c, more, rfl, rfl | rfl | rfl⟩ <;> rfl
  · rintro ⟨k, hstart⟩
    obtain ⟨letters, rest, rfl, hlower, hrest⟩ := startsWithKeyword_iff.mp hstart
    refine ⟨k, letters, rest, rfl, hlower, ?_⟩
    cases rest with
    | nil => exact .inl rfl
    | cons c more =>
      have hc : startsWord c = false := hrest
      have hmore := hword.continuesWord c (by simp)
      simp only [continuesWord, hc, Bool.false_or, Bool.or_eq_true, decide_eq_true_eq] at hmore
      exact .inr ⟨c, more, rfl, or_assoc.mp hmore⟩

/-- A word resembles no keyword if it starts with none. -/
theorem not_resemblesKeyword_iff {text : List Char} (hword : IsWord text) :
    ¬ResemblesKeyword text ↔ ∀ k : Connective, startsWithKeyword k.keyword text = false := by
  rw [resemblesKeyword_iff hword, not_exists]
  exact forall_congr' fun _ => Bool.eq_false_iff.symm

/-- A word that resembles no keyword is a lexeme. -/
theorem lexeme_of_word {text : List Char} (hword : IsWord text) (h : ¬ResemblesKeyword text) :
    Lexeme .word text := by
  exact .word hword ((not_resemblesKeyword_iff hword).mp h)

theorem Lexeme.ne_nil {kind : TokenKind} {text : List Char} (h : Lexeme kind text) : text ≠ [] := by
  rintro rfl
  cases h with
  | and h => cases h
  | or h => cases h
  | word hword hkeyword => exact hword

/-- What does not start with a letter, digit or underscore is told by its first character. -/
theorem lexeme?_of_head {c : Char} (hc : startsWord c = false) (rest : List Char) :
    lexeme? c rest =
      if c = '!' ∧ rest.head? = some '=' then some (some .notEqual, 1)
      else if c = '=' then some (some .equal, 0)
      else if c = ':' then some (some .colon, 0)
      else if c = '(' then some (some .opening, 0)
      else if c = ')' then some (some .closing, 0)
      else if (c = '"' ∨ c = '\'') ∧ c ∈ rest then some (some .string, (rest.takeWhile (· ≠ c)).length + 1)
      else if isBlank c then some (none, (rest.takeWhile isBlank).length)
      else none := by
  have hand := startsWithKeyword_of_head hc .and rest
  have hor := startsWithKeyword_of_head hc .or rest
  simp only [Connective.keyword] at hand hor
  unfold lexeme?
  simp only [hand, hor, hc, Bool.false_eq_true, if_false]

theorem lexeme?_blank {c : Char} (hc : isBlank c = true) (rest : List Char) :
    lexeme? c rest = some (none, (rest.takeWhile isBlank).length) := by
  have hne : ∀ d, isBlank d = false → c ≠ d := fun d hd => ne_of_isBlank hc hd
  rw [lexeme?_of_head (startsWord_of_isBlank hc)]
  simp [hc, hne '!' (by decide), hne '=' (by decide), hne ':' (by decide), hne '(' (by decide),
    hne ')' (by decide), hne '"' (by decide), hne '\'' (by decide)]

/-- A lexeme in front of a text that ends it is found, with its kind and its length. -/
theorem lexeme?_append {kind : TokenKind} {c : Char} {cs rest : List Char} (h : Lexeme kind (c :: cs))
    (hend : endsBefore kind rest = true) : lexeme? c (cs ++ rest) = some (some kind, cs.length) := by
  cases h with
  | and h =>
    have hkeyword : startsWithKeyword ['a', 'n', 'd'] (c :: (cs ++ rest)) = true :=
      startsWithKeyword_iff.mpr ⟨c :: cs, rest, rfl, h, by simpa [endsBefore] using hend⟩
    have hlength : (c :: cs).length = 3 := by
      rw [← List.length_map (f := Char.toLower), h]
      rfl
    unfold lexeme?
    rw [if_pos hkeyword, ← Nat.succ.inj hlength]
  | or h =>
    have hkeyword : startsWithKeyword ['o', 'r'] (c :: (cs ++ rest)) = true :=
      startsWithKeyword_iff.mpr ⟨c :: cs, rest, rfl, h, by simpa [endsBefore] using hend⟩
    have hlength : (c :: cs).length = 2 := by
      rw [← List.length_map (f := Char.toLower), h]
      rfl
    have hand : startsWithKeyword ['a', 'n', 'd'] (c :: (cs ++ rest)) = false := by
      have hc : c.toLower = 'o' := (List.cons.inj h).1
      simp [startsWithKeyword, hc]
    unfold lexeme?
    rw [if_neg (Bool.eq_false_iff.mp hand), if_pos hkeyword, ← Nat.succ.inj hlength]
  | notEqual => exact lexeme?_of_head (by decide) _
  | equal => exact lexeme?_of_head (by decide) _
  | colon => exact lexeme?_of_head (by decide) _
  | opening => exact lexeme?_of_head (by decide) _
  | closing => exact lexeme?_of_head (by decide) _
  | @string _ value hquote hvalue =>
    have hspan : (value ++ c :: rest).takeWhile (· ≠ c) = value :=
      takeWhile_exact (by rintro d hd; simpa using ne_of_mem_of_not_mem hd hvalue) (by simp)
    have hstart : startsWord c = false := by
      rcases hquote with rfl | rfl <;> decide
    rw [List.append_assoc, List.singleton_append, lexeme?_of_head hstart, hspan]
    rcases hquote with rfl | rfl <;> simp
  | word hword hkeyword =>
    obtain ⟨hstart, hmore⟩ := hword
    have hrest : rest.head?.any continuesWord = false := by simpa [endsBefore] using hend
    have hand : startsWithKeyword ['a', 'n', 'd'] (c :: (cs ++ rest)) = false :=
      startsWithKeyword_append (hkeyword .and) hrest
    have hor : startsWithKeyword ['o', 'r'] (c :: (cs ++ rest)) = false :=
      startsWithKeyword_append (hkeyword .or) hrest
    have hne : ∀ d, startsWord d = false → c ≠ d := by
      rintro d hd rfl
      rw [hstart] at hd
      cases hd
    unfold lexeme?
    simp [hand, hor, hstart, hne '!' (by decide), hne '=' (by decide), hne ':' (by decide), hne '(' (by decide),
      hne ')' (by decide), hne '"' (by decide), hne '\'' (by decide), takeWhile_exact hmore hrest]

/-- What is found is a lexeme of its kind and length, in front of a text that ends it, or a run of blanks. -/
theorem lexeme?_eq_some {kind? : Option TokenKind} {c : Char} {rest : List Char} {n : Nat}
    (h : lexeme? c rest = some (kind?, n)) :
    (∃ kind cs behind, kind? = some kind ∧ rest = cs ++ behind ∧ n = cs.length ∧
      Lexeme kind (c :: cs) ∧ endsBefore kind behind = true) ∨
    kind? = none ∧ isBlank c = true ∧ n = (rest.takeWhile isBlank).length := by
  unfold lexeme? at h
  by_cases hand : startsWithKeyword ['a', 'n', 'd'] (c :: rest) = true
  · rw [if_pos hand] at h
    cases h
    obtain ⟨cs, behind, rfl, hlength, hlexeme, hend⟩ := exists_lexeme_of_keyword (k := .and) hand
    exact .inl ⟨.and, cs, behind, rfl, rfl, (Nat.succ.inj hlength).symm, hlexeme, hend⟩
  rw [if_neg hand] at h
  by_cases hor : startsWithKeyword ['o', 'r'] (c :: rest) = true
  · rw [if_pos hor] at h
    cases h
    obtain ⟨cs, behind, rfl, hlength, hlexeme, hend⟩ := exists_lexeme_of_keyword (k := .or) hor
    exact .inl ⟨.or, cs, behind, rfl, rfl, (Nat.succ.inj hlength).symm, hlexeme, hend⟩
  rw [if_neg hor] at h
  by_cases hsign : c = '!' ∧ rest.head? = some '='
  · rw [if_pos hsign] at h
    cases h
    obtain ⟨rfl, hhead⟩ := hsign
    obtain ⟨behind, rfl⟩ := List.head?_eq_some_iff.mp hhead
    exact .inl ⟨.notEqual, ['='], behind, rfl, rfl, rfl, .notEqual, rfl⟩
  rw [if_neg hsign] at h
  by_cases hequal : c = '='
  · rw [if_pos hequal] at h
    cases h
    subst hequal
    exact .inl ⟨.equal, [], rest, rfl, rfl, rfl, .equal, rfl⟩
  rw [if_neg hequal] at h
  by_cases hcolon : c = ':'
  · rw [if_pos hcolon] at h
    cases h
    subst hcolon
    exact .inl ⟨.colon, [], rest, rfl, rfl, rfl, .colon, rfl⟩
  rw [if_neg hcolon] at h
  by_cases hopening : c = '('
  · rw [if_pos hopening] at h
    cases h
    subst hopening
    exact .inl ⟨.opening, [], rest, rfl, rfl, rfl, .opening, rfl⟩
  rw [if_neg hopening] at h
  by_cases hclosing : c = ')'
  · rw [if_pos hclosing] at h
    cases h
    subst hclosing
    exact .inl ⟨.closing, [], rest, rfl, rfl, rfl, .closing, rfl⟩
  rw [if_neg hclosing] at h
  by_cases hquote : (c = '"' ∨ c = '\'') ∧ c ∈ rest
  · rw [if_pos hquote] at h
    cases h
    obtain ⟨value, behind, rfl, hvalue⟩ := List.eq_append_cons_of_mem hquote.2
    have hspan : (value ++ c :: behind).takeWhile (· ≠ c) = value :=
      takeWhile_exact (by rintro d hd; simpa using ne_of_mem_of_not_mem hd hvalue) (by simp)
    refine .inl ⟨.string, value ++ [c], behind, rfl, by simp, ?_, .string hquote.1 hvalue, rfl⟩
    rw [hspan, List.length_append]
    rfl
  rw [if_neg hquote] at h
  by_cases hstart : startsWord c = true
  · rw [if_pos hstart] at h
    cases h
    obtain ⟨behind, hsplit, hbehind⟩ := exists_takeWhile continuesWord rest
    have hword : IsWord (c :: rest.takeWhile continuesWord) :=
      ⟨hstart, List.all_eq_true.mp List.all_takeWhile⟩
    have hkeyword : ∀ k : Connective, startsWithKeyword k.keyword (c :: rest.takeWhile continuesWord ++ behind) =
        false := by
      rw [List.cons_append, ← hsplit]
      intro k
      cases k with
      | and => exact Bool.eq_false_iff.mpr hand
      | or => exact Bool.eq_false_iff.mpr hor
    have hplain : ∀ k : Connective, startsWithKeyword k.keyword (c :: rest.takeWhile continuesWord) = false :=
      fun k => startsWithKeyword_of_append (hkeyword k) (startsWord_of_stops hbehind)
    exact .inl ⟨.word, _, behind, rfl, hsplit, rfl, .word hword hplain, by simp [endsBefore, hbehind]⟩
  rw [if_neg hstart] at h
  by_cases hblank : isBlank c = true
  · rw [if_pos hblank] at h
    cases h
    exact .inr ⟨rfl, hblank, rfl⟩
  · rw [if_neg hblank] at h
    cases h

/-! ### The scan -/

theorem scanFrom_nil (p : Nat) : scanFrom p [] = .ok [] := by
  rw [scanFrom.eq_def]

/-- A lexeme makes a token. -/
theorem scanFrom_lexeme {p : Nat} {kind : TokenKind} {text rest : List Char} (h : Lexeme kind text)
    (hend : endsBefore kind rest = true) :
    scanFrom p (text ++ rest) = (scanFrom (p + text.length) rest).map (⟨kind, text, p⟩ :: ·) := by
  cases text with
  | nil => exact absurd rfl h.ne_nil
  | cons c cs =>
    rw [List.cons_append, scanFrom.eq_def]
    simp only [lexeme?_append h hend, List.drop_left' rfl, List.take_left' rfl, List.length_cons]
    cases scanFrom (p + (cs.length + 1)) rest <;> rfl

/-- A blank starts a run of blanks, which makes no token. -/
theorem scanFrom_blanks {p : Nat} {c : Char} (hc : isBlank c = true) (cs : List Char) :
    scanFrom p (c :: cs) =
      scanFrom (p + ((cs.takeWhile isBlank).length + 1)) (cs.drop (cs.takeWhile isBlank).length) := by
  rw [scanFrom.eq_def]
  simp only [lexeme?_blank hc]
  cases scanFrom _ (cs.drop (cs.takeWhile isBlank).length) <;> rfl

/-- One blank more or less in front of a text makes no difference but to the positions. -/
theorem scanFrom_blank {p : Nat} {c : Char} (hc : isBlank c = true) (cs : List Char) :
    scanFrom p (c :: cs) = scanFrom (p + 1) cs := by
  rw [scanFrom_blanks hc]
  cases cs with
  | nil => rfl
  | cons d ds =>
    by_cases hd : isBlank d = true
    · rw [scanFrom_blanks hd, List.takeWhile_cons_of_pos hd, List.length_cons, List.drop_succ_cons]
      congr 1
      omega
    · rw [List.takeWhile_cons_of_neg hd]
      rfl

/-- What is cut from a text is scanned, and the scan goes on behind it. -/
theorem Cut.scanFrom_eq {p q : Nat} {cs rest : List Char} {ts : List Token} (h : Cut p cs ts q rest) :
    scanFrom p cs = (scanFrom q rest).map (ts ++ ·) := by
  induction h with
  | done p rest => cases scanFrom p rest <;> rfl
  | blank hc _ ih => rw [scanFrom_blank hc, ih]
  | @token p q kind text cs rest ts hlexeme hend _ ih =>
    rw [scanFrom_lexeme hlexeme hend, ih]
    cases scanFrom q rest <;> rfl

/-- An expression that is cut to its end is scanned into the tokens of the cut. -/
theorem Cut.scan {expression : String} {ts : List Token} {q : Nat} (h : Cut 0 expression.toList ts q []) :
    scan expression = .ok ts := by
  rw [Token.scan, h.scanFrom_eq, scanFrom_nil]
  simp [Except.map]

/-- Every token of a cut is a lexeme of its kind. -/
theorem Cut.lexemes {p q : Nat} {cs rest : List Char} {ts : List Token} (h : Cut p cs ts q rest) :
    ∀ t ∈ ts, Lexeme t.kind t.text := by
  induction h with
  | done => nofun
  | blank _ _ ih => exact ih
  | token hlexeme _ _ ih => exact List.forall_mem_cons.mpr ⟨hlexeme, ih⟩

/-- What is scanned is cut. -/
theorem exists_cut_of_scanFrom {p : Nat} {cs : List Char} {ts : List Token} (h : scanFrom p cs = .ok ts) :
    ∃ q, Cut p cs ts q [] := by
  fun_induction scanFrom p cs generalizing ts with
  | case1 p =>
    cases h
    exact ⟨p, .done p []⟩
  | case2 => cases h
  | case3 => cases h
  | case4 p c rest kind n hlexeme more hmore ih =>
    cases h
    obtain ⟨q, hcut⟩ := ih hmore
    refine ⟨q, ?_⟩
    rcases lexeme?_eq_some hlexeme with ⟨kind, text, behind, rfl, rfl, rfl, hkind, hend⟩ | ⟨rfl, hblank, rfl⟩
    · rw [List.drop_left' rfl] at hcut
      rw [List.take_left' rfl]
      exact .token hkind hend hcut
    · obtain ⟨behind, hsplit, -⟩ := exists_takeWhile isBlank rest
      have hb : Blanks (rest.takeWhile isBlank) := List.all_eq_true.mp List.all_takeWhile
      generalize rest.takeWhile isBlank = b at hsplit hb hcut
      subst hsplit
      rw [List.drop_left' rfl, Nat.add_comm b.length, ← Nat.add_assoc] at hcut
      exact .blank hblank ((Cut.blanks hb (p + 1) behind).trans hcut)

/-- Every token of an expression is a lexeme of its kind. -/
theorem lexeme_of_scan {expression : String} {ts : List Token} (h : scan expression = .ok ts) :
    ∀ t ∈ ts, Lexeme t.kind t.text := by
  obtain ⟨q, hcut⟩ := exists_cut_of_scanFrom h
  exact hcut.lexemes

end Token

end ComplianceHistory
