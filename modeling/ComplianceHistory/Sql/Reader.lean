import ComplianceHistory.Sql.Clause

/-!
# Reading relational clauses

The text of a clause is read with the precedence of the database language: a negation binds tighter than
`AND`, `AND` tighter than `OR`, and parentheses group.  The sub-select that looks for a label is read as
one word.
-/

namespace ComplianceHistory.Sql

/-- A word of a clause. -/
inductive Word where
  | leaf (c : Clause)
  | not
  | connective (c : Connective)
  | opening
  | closing
deriving Repr

namespace Word

/-- The words with one spelling. -/
def fixed : List (List Char × Word) := [
  (labelExists, .leaf .hasLabel),
  ("1 = 1".toList, .leaf (.constant true)),
  ("1 = 0".toList, .leaf (.constant false)),
  ("NOT ".toList, .not),
  ("AND ".toList, .connective .and),
  ("OR ".toList, .connective .or),
  (['('], .opening),
  ([')'], .closing)]

/-- The characters of the name of a column. -/
def isNameChar (c : Char) : Bool := c.isAlphanum || c = '_' || c = '.'

/-- The word that a text starts with, and its length. -/
def first? (cs : List Char) : Option (Word × Nat) :=
  match fixed.find? fun w => w.1.isPrefixOf cs with
  | some (text, w) => some (w, text.length)
  | none =>
    let name := cs.takeWhile isNameChar
    if !name.isEmpty && " = ?".toList.isPrefixOf (cs.drop name.length) then
      some (.leaf (.column name), name.length + 4)
    else none

/-- The words of a text. -/
def split? (cs : List Char) : Option (List Word) :=
  match cs with
  | [] => some []
  | ' ' :: cs => split? cs
  | c :: cs => match first? (c :: cs) with
    | none => none
    | some (w, n) => (split? (cs.drop (n - 1))).map (w :: ·)
termination_by cs.length
decreasing_by
  · simp
  · simp only [List.length_drop, List.length_cons]; omega

end Word

namespace Clause

/-- What was read from the start of words, and the words that are left, which are fewer. -/
abbrev Taken (ws : List Word) (α : Type) :=
  Option (α × { rest : List Word // rest.length < ws.length })

/-- The clause of a run: itself if it is the only one. -/
def joined (connective : Connective) : List Clause → Clause
  | [c] => c
  | cs => .join connective cs

mutual

/-- Reads a negation, a group or a single comparison. -/
def takeFactor (ws : List Word) : Taken ws Clause :=
  match ws with
  | .leaf c :: rest => some (c, ⟨rest, by simp⟩)
  | .not :: more => match takeFactor more with
    | some (c, ⟨rest, h⟩) => some (.not c, ⟨rest, by simp only [List.length_cons]; omega⟩)
    | none => none
  | .opening :: more => match takeAlternatives more with
    | some (cs, ⟨.closing :: rest, h⟩) =>
      some (joined .or cs, ⟨rest, by simp only [List.length_cons] at h ⊢; omega⟩)
    | _ => none
  | _ => none
termination_by (ws.length, 0)

/-- Reads the clauses of a run joined by `AND`. -/
def takeFactors (ws : List Word) : Taken ws (List Clause) :=
  match takeFactor ws with
  | none => none
  | some (c, ⟨.connective .and :: rest, h⟩) => match takeFactors rest with
    | some (cs, ⟨rest', h'⟩) =>
      some (c :: cs, ⟨rest', by simp only [List.length_cons] at h; omega⟩)
    | none => none
  | some (c, rest) => some ([c], rest)
termination_by (ws.length, 1)
decreasing_by
  · exact Prod.Lex.right _ (by omega)
  · exact Prod.Lex.left _ _ (by simp only [List.length_cons] at h; omega)

/-- Reads the runs of a clause joined by `OR`. -/
def takeAlternatives (ws : List Word) : Taken ws (List Clause) :=
  match takeFactors ws with
  | none => none
  | some (cs, ⟨.connective .or :: rest, h⟩) => match takeAlternatives rest with
    | some (ds, ⟨rest', h'⟩) =>
      some (joined .and cs :: ds, ⟨rest', by simp only [List.length_cons] at h; omega⟩)
    | none => none
  | some (cs, rest) => some ([joined .and cs], rest)
termination_by (ws.length, 2)
decreasing_by
  · exact Prod.Lex.right _ (by omega)
  · exact Prod.Lex.left _ _ (by simp only [List.length_cons] at h; omega)

end

/-- The clause of a text. -/
def ofText? (text : String) : Option Clause :=
  match Word.split? text.toList with
  | none => none
  | some ws => match takeAlternatives ws with
    | some (cs, ⟨[], _⟩) => some (joined .or cs)
    | _ => none

end Clause

end ComplianceHistory.Sql
