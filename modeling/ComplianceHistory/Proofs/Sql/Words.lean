import ComplianceHistory.Sql.Reader
import ComplianceHistory.Sql.Truth

/-!
# The words of a clause's text

The text of a clause splits into the words of the clause (`split?_render`).  No word needs to know what
follows it: the fixed words end by themselves, and the name of a column ends with the blank behind it.
-/

namespace ComplianceHistory.Sql

namespace Clause

mutual

/-- The words of a clause. -/
def words : Clause → List Word
  | not c => .not :: words c
  | join connective cs => .opening :: (wordsOfAll connective cs ++ [.closing])
  | c => [.leaf c]

/-- The words of clauses with a connective between them. -/
def wordsOfAll (connective : Connective) : List Clause → List Word
  | [] => []
  | [c] => words c
  | c :: cs => words c ++ .connective connective :: wordsOfAll connective cs

end

/-- A clause that has a text: it names known columns and joins at least one clause at each place. -/
inductive Readable : Clause → Prop
  | constant (b : Bool) : Readable (.constant b)
  | column {name : List Char} (h : isColumn name = true) : Readable (.column name)
  | hasLabel : Readable .hasLabel
  | not {c : Clause} (h : Readable c) : Readable (.not c)
  | join (connective : Connective) {cs : List Clause} (hne : cs ≠ []) (h : ∀ c ∈ cs, Readable c) :
      Readable (.join connective cs)

end Clause

namespace Word

/-! ### One word -/

theorem split?_nil : split? [] = some [] := by
  rw [split?.eq_def]

theorem split?_blank (cs : List Char) : split? (' ' :: cs) = split? cs := by
  rw [split?.eq_def]
  rfl

theorem split?_word {w : Word} {text : List Char} (rest : List Char) (hne : text ≠ [])
    (hblank : text.head? ≠ some ' ') (h : first? (text ++ rest) = some (w, text.length)) :
    split? (text ++ rest) = (split? rest).map (w :: ·) := by
  cases text with
  | nil => exact absurd rfl hne
  | cons c text =>
    rw [List.cons_append] at h ⊢
    rw [split?.eq_def]
    split
    · rename_i he
      cases he
    · rename_i he
      exact absurd (congrArg some (List.cons.inj he).1) hblank
    · rename_i he
      obtain ⟨rfl, rfl⟩ := List.cons.inj he
      rw [h]
      simp

theorem labelExists_head? : labelExists.head? = some 'E' := by decide +kernel

theorem not_labelExists {c : Char} (h : c ≠ 'E') (cs : List Char) : labelExists.isPrefixOf (c :: cs) = false := by
  have hE := labelExists_head?
  cases hl : labelExists with
  | nil => rw [hl] at hE; cases hE
  | cons d ds =>
    rw [hl] at hE
    obtain rfl := Option.some.inj hE
    rw [List.isPrefixOf, beq_false_of_ne (Ne.symm h)]
    rfl

/-- A text that does not start like the look for a label starts with one of the other words. -/
theorem first?_of_ne {c : Char} (h : c ≠ 'E') (cs : List Char) :
    first? (c :: cs) = match fixed.tail.find? fun w => w.1.isPrefixOf (c :: cs) with
      | some (text, w) => some (w, text.length)
      | none =>
        let name := (c :: cs).takeWhile isNameChar
        if !name.isEmpty && " = ?".toList.isPrefixOf ((c :: cs).drop name.length) then
          some (.leaf (.column name), name.length + 4)
        else none := by
  unfold first? fixed
  rw [List.find?_cons, not_labelExists h]
  rfl

theorem first?_labelExists (rest : List Char) :
    first? (labelExists ++ rest) = some (.leaf .hasLabel, labelExists.length) := by
  have hp : labelExists.isPrefixOf (labelExists ++ rest) = true :=
    List.isPrefixOf_iff_prefix.mpr (List.prefix_append _ _)
  unfold first? fixed
  rw [List.find?_cons, hp]

theorem first?_constant (b : Bool) (rest : List Char) :
    first? (Clause.render (.constant b) ++ rest) = some (.leaf (.constant b), 5) := by
  cases b with
  | true => exact first?_of_ne (c := '1') (by decide) (" = 1".toList ++ rest)
  | false => exact first?_of_ne (c := '1') (by decide) (" = 0".toList ++ rest)

theorem first?_not (rest : List Char) : first? ("NOT ".toList ++ rest) = some (.not, 4) :=
  first?_of_ne (c := 'N') (by decide) ("OT ".toList ++ rest)

theorem first?_and (rest : List Char) : first? ("AND ".toList ++ rest) = some (.connective .and, 4) :=
  first?_of_ne (c := 'A') (by decide) ("ND ".toList ++ rest)

theorem first?_or (rest : List Char) : first? ("OR ".toList ++ rest) = some (.connective .or, 3) :=
  first?_of_ne (c := 'O') (by decide) ("R ".toList ++ rest)

theorem first?_opening (rest : List Char) : first? ('(' :: rest) = some (.opening, 1) :=
  first?_of_ne (c := '(') (by decide) rest

theorem first?_closing (rest : List Char) : first? (')' :: rest) = some (.closing, 1) :=
  first?_of_ne (c := ')') (by decide) rest

/-- The names of columns start with the name of their table, and are names. -/
theorem columnNames_shape : ∀ s ∈ columnNames,
    s.toList.head? = some 'r' ∧ s.toList.all isNameChar = true := by decide

theorem isColumn_shape {name : List Char} (h : isColumn name = true) :
    name.head? = some 'r' ∧ ∀ c ∈ name, isNameChar c = true := by
  have := columnNames_shape _ (List.contains_iff_mem.mp h)
  rwa [String.toList_ofList, List.all_eq_true] at this

theorem first?_column {name : List Char} (h : isColumn name = true) (rest : List Char) :
    first? (name ++ " = ?".toList ++ rest) =
      some (.leaf (.column name), (name ++ " = ?".toList).length) := by
  obtain ⟨hr, hname⟩ := isColumn_shape h
  have hspan : (name ++ " = ?".toList ++ rest).takeWhile isNameChar = name := by
    rw [List.append_assoc, List.takeWhile_append_of_pos hname]
    show name ++ [] = name
    exact List.append_nil name
  have hdrop : (name ++ " = ?".toList ++ rest).drop name.length = " = ?".toList ++ rest := by
    rw [List.append_assoc, List.drop_left]
  cases name with
  | nil => cases hr
  | cons c name =>
    obtain rfl := Option.some.inj hr
    rw [List.cons_append, List.cons_append] at hspan hdrop ⊢
    rw [first?_of_ne (by decide)]
    have hfixed : (fixed.tail.find? fun w => w.1.isPrefixOf ('r' :: (name ++ " = ?".toList ++ rest))) = none := rfl
    rw [hfixed]
    have hlen : ('r' :: (name ++ " = ?".toList)).length = ('r' :: name).length + 4 := by
      rw [← List.cons_append, List.length_append]
      rfl
    have hp : " = ?".toList.isPrefixOf (" = ?".toList ++ rest) = true := rfl
    simp only [hspan, hdrop, hp, hlen, List.isEmpty_cons, Bool.not_false, Bool.and_self, if_true]

/-! ### The text of a clause -/

theorem split?_connective (connective : Connective) (rest : List Char) :
    split? (separator connective ++ rest) = (split? rest).map (.connective connective :: ·) := by
  cases connective with
  | and =>
    show split? (' ' :: ("AND ".toList ++ rest)) = _
    rw [split?_blank, split?_word rest (by decide) (by decide) (first?_and rest)]
  | or =>
    show split? (' ' :: ("OR ".toList ++ rest)) = _
    rw [split?_blank, split?_word rest (by decide) (by decide) (first?_or rest)]

theorem split?_opening (rest : List Char) : split? ('(' :: rest) = (split? rest).map (.opening :: ·) :=
  split?_word rest (List.cons_ne_nil '(' []) (by decide) (first?_opening rest)

theorem split?_closing (rest : List Char) : split? (')' :: rest) = (split? rest).map (.closing :: ·) :=
  split?_word rest (List.cons_ne_nil ')' []) (by decide) (first?_closing rest)

open Clause in
theorem split?_renderAll (connective : Connective) {cs : List Clause}
    (ih : ∀ c ∈ cs, ∀ rest, split? (render c ++ rest) = (split? rest).map (words c ++ ·)) (rest : List Char) :
    split? (renderAll (separator connective) cs ++ rest) =
      (split? rest).map (wordsOfAll connective cs ++ ·) := by
  induction cs with
  | nil => simp [renderAll, wordsOfAll]
  | cons c cs ihs =>
    have ihs' := ihs fun d hd => ih d (List.mem_cons_of_mem _ hd)
    have hc := ih c List.mem_cons_self
    cases cs with
    | nil => exact hc rest
    | cons d cs =>
      rw [renderAll, wordsOfAll, List.append_assoc, List.append_assoc, hc, split?_connective, ihs']
      · simp only [Option.map_map]
        congr 1
        funext ws
        simp
      · exact fun h => nomatch h
      · exact fun h => nomatch h

open Clause in
/-- The text of a clause splits into its words, whatever follows it. -/
theorem split?_render {c : Clause} (hc : Readable c) (rest : List Char) :
    split? (render c ++ rest) = (split? rest).map (words c ++ ·) := by
  induction c using Clause.induct generalizing rest with
  | constant b =>
    have hlen : (render (.constant b)).length = 5 := by cases b <;> rfl
    refine split?_word rest ?_ ?_ ?_
    · exact List.ne_nil_of_length_pos (by omega)
    · cases b <;> decide
    · rw [first?_constant, hlen]
  | column name =>
    cases hc with
    | column h =>
      have hr := (isColumn_shape h).1
      refine split?_word rest ?_ ?_ (first?_column h rest)
      · exact List.append_ne_nil_of_right_ne_nil _ (by decide)
      · cases name with
        | nil => cases hr
        | cons c name =>
          show some c ≠ some ' '
          rw [← List.head?_cons, hr]
          decide
  | hasLabel =>
    refine split?_word rest ?_ ?_ (first?_labelExists rest)
    · rintro (h : labelExists = [])
      have hE := labelExists_head?
      rw [h] at hE
      cases hE
    · show labelExists.head? ≠ some ' '
      rw [labelExists_head?]
      decide
  | not c ih =>
    cases hc with
    | not h =>
      rw [render, List.append_assoc, split?_word _ (by decide) (by decide) (first?_not _), ih h, Option.map_map]
      rfl
  | join connective cs ih =>
    cases hc with
    | join _ _ h =>
      rw [render, List.cons_append, List.append_assoc, split?_opening,
        split?_renderAll connective fun c hc rest => ih c hc (h c hc) rest]
      rw [List.singleton_append, split?_closing]
      simp only [Option.map_map]
      congr 1
      funext ws
      simp [words]

end Word

end ComplianceHistory.Sql
