import ComplianceHistory.Filter.Basic
import ComplianceHistory.Filter.Token

/-!
# Filter expressions

The written form of filters: conditions `label=value`, `label:value` and `label!=value`, joined by `AND`
and `OR` and grouped by parentheses.  `AND` binds tighter than `OR`.  A run of one keyword makes one
query; a run of one scope is that scope.  An expression without tokens is the filter that matches all.
-/

namespace ComplianceHistory

/-- Why a text is no filter expression. -/
inductive ExpressionError where
  | stray (place : StrayCharacter)
  | unexpectedEnd
  | expected (kind : TokenKind) (got : Token)
  | noComparison (label : List Char) (got : Option TokenKind)
  | noValue
  | notAValue (got : TokenKind)
  | leftover (token : Token)
deriving DecidableEq, Repr

/-- The wording of a fault of an expression. -/
def ExpressionError.message : ExpressionError → String
  | stray s => "Invalid character at position " ++ toString s.position ++ ": '" ++ s.char.toString ++ "'"
  | unexpectedEnd => "Unexpected end of input"
  | expected k t =>
    "Expected " ++ k.name ++ ", got " ++ t.kind.name ++ ": " ++ String.ofList t.text
  | noComparison label got => "Expected comparison operator after '" ++ String.ofList label ++
      "', got " ++ ((got.map TokenKind.name).getD "EOF")
  | noValue => "Expected value after operator"
  | notAValue k => "Expected value, got " ++ k.name
  | leftover t => "Unexpected " ++ t.kind.name ++ " at position " ++ toString t.position ++ ": " ++
      String.ofList t.text

namespace Filter

/-- What was read from the start of a list of tokens, and the tokens that are left, which are fewer. -/
abbrev Reading (ts : List Token) (α : Type) :=
  Except ExpressionError (α × { rest : List Token // rest.length < ts.length })

/-- The operator that a token of comparison is kept as. -/
def comparisonOperator? : TokenKind → Option String
  | .equal | .colon => some "="
  | .notEqual => some "!="
  | _ => none

/-- The value that a token stands for: a string without its quotes or a word. -/
def tokenValue? (t : Token) : Option (List Char) :=
  match t.kind with
  | .string => some t.text.tail.dropLast
  | .word => some t.text
  | _ => none

/-- Reads a condition. -/
def readCondition : (ts : List Token) → Reading ts Scope
  | [] => .error .unexpectedEnd
  | l :: ts =>
    if l.kind ≠ .word then .error (.expected .word l)
    else match ts with
      | [] => .error (.noComparison l.text none)
      | o :: ts => match comparisonOperator? o.kind with
        | none => .error (.noComparison l.text (some o.kind))
        | some operator => match ts with
          | [] => .error .noValue
          | v :: rest => match tokenValue? v with
            | none => .error (.notAValue v.kind)
            | some value =>
              .ok (.condition ⟨String.ofList l.text, operator, String.ofList value⟩,
                ⟨rest, by simp only [List.length_cons]; omega⟩)

/-- The scope of a run: itself if it is the only one. -/
def joined (operator : String) : List Scope → Scope
  | [s] => s
  | ss => .query operator ss

mutual

/-- Reads an expression in parentheses or a condition. -/
def readTerm (ts : List Token) : Reading ts Scope :=
  match ts with
  | [] => readCondition []
  | t :: more =>
    if t.kind = .opening then
      match readAlternatives more with
      | .error e => .error e
      | .ok (ss, ⟨[], _⟩) => .error .unexpectedEnd
      | .ok (ss, ⟨u :: rest, h⟩) =>
        if u.kind = .closing then
          .ok (joined "OR" ss, ⟨rest, by simp only [List.length_cons] at h ⊢; omega⟩)
        else .error (.expected .closing u)
    else readCondition (t :: more)
termination_by (ts.length, 0)

/-- Reads the terms of a run joined by `AND`. -/
def readFactors (ts : List Token) : Reading ts (List Scope) :=
  match readTerm ts with
  | .error e => .error e
  | .ok (s, ⟨[], h⟩) => .ok ([s], ⟨[], h⟩)
  | .ok (s, ⟨t :: rest, h⟩) =>
    if t.kind = .and then
      match readFactors rest with
      | .error e => .error e
      | .ok (ss, ⟨rest', h'⟩) =>
        .ok (s :: ss, ⟨rest', by simp only [List.length_cons] at h; omega⟩)
    else .ok ([s], ⟨t :: rest, h⟩)
termination_by (ts.length, 1)
decreasing_by
  · exact Prod.Lex.right _ (by omega)
  · exact Prod.Lex.left _ _ (by simp only [List.length_cons] at h; omega)

/-- Reads the runs of an expression joined by `OR`. -/
def readAlternatives (ts : List Token) : Reading ts (List Scope) :=
  match readFactors ts with
  | .error e => .error e
  | .ok (fs, ⟨[], h⟩) => .ok ([joined "AND" fs], ⟨[], h⟩)
  | .ok (fs, ⟨t :: rest, h⟩) =>
    if t.kind = .or then
      match readAlternatives rest with
      | .error e => .error e
      | .ok (ss, ⟨rest', h'⟩) =>
        .ok (joined "AND" fs :: ss, ⟨rest', by simp only [List.length_cons] at h; omega⟩)
    else .ok ([joined "AND" fs], ⟨t :: rest, h⟩)
termination_by (ts.length, 2)
decreasing_by
  · exact Prod.Lex.right _ (by omega)
  · exact Prod.Lex.left _ _ (by simp only [List.length_cons] at h; omega)

end

/-- The filter of a list of tokens, all of which must be used. -/
def ofTokens (ts : List Token) : Except ExpressionError Filter :=
  match ts with
  | [] => .ok ⟨none⟩
  | ts => match readAlternatives ts with
    | .error e => .error e
    | .ok (ss, ⟨[], _⟩) => .ok ⟨some (joined "OR" ss)⟩
    | .ok (_, ⟨t :: _, _⟩) => .error (.leftover t)

/-- The filter of an expression. -/
def ofExpression (expression : String) : Except ExpressionError Filter :=
  match Token.scan expression with
  | .error s => .error (.stray s)
  | .ok ts => ofTokens ts

end Filter

end ComplianceHistory
