import ComplianceHistory.Text.Classes

/-!
# Tokens of filter expressions

An expression is cut into tokens from its start.  At each place the lexemes are tried in a fixed order:
the keywords before words, so that a keyword needs a letter, digit or underscore behind it to be the
start of a word.  Blanks separate tokens and are dropped.
-/

namespace ComplianceHistory

open Text

/-- What a token is. -/
inductive TokenKind where
  | and
  | or
  | notEqual
  | equal
  | colon
  | opening
  | closing
  | string
  | word
deriving DecidableEq, Repr

/-- The name of a kind of token in messages. -/
def TokenKind.name : TokenKind → String
  | and => "AND"
  | or => "OR"
  | notEqual => "NEQ"
  | equal => "EQ"
  | colon => "COLON"
  | opening => "LPAREN"
  | closing => "RPAREN"
  | string => "STRING"
  | word => "WORD"

/-- A token: its kind, its characters and where they start in the expression. -/
structure Token where
  kind : TokenKind
  text : List Char
  position : Nat
deriving DecidableEq, Repr

/-- A character that no lexeme starts with. -/
structure StrayCharacter where
  position : Nat
  char : Char
deriving DecidableEq, Repr

namespace Token

/-- Letters, digits and the underscore: the characters that a word starts with. -/
def startsWord (c : Char) : Bool := c.isAlphanum || c = '_'

/-- The characters that a word goes on with. -/
def continuesWord (c : Char) : Bool := startsWord c || c = '.' || c = '-' || c = '/'

/-- Whether a text starts with a keyword, in any case, that no letter, digit or underscore follows. -/
def startsWithKeyword (keyword cs : List Char) : Bool :=
  (cs.take keyword.length).map Char.toLower = keyword && !((cs.drop keyword.length).head?.any startsWord)

/--
The lexeme that a text starts with: its kind, or none for blanks, and the number of characters after its
first one.
-/
def lexeme? (c : Char) (rest : List Char) : Option (Option TokenKind × Nat) :=
  if startsWithKeyword ['a', 'n', 'd'] (c :: rest) then some (some .and, 2)
  else if startsWithKeyword ['o', 'r'] (c :: rest) then some (some .or, 1)
  else if c = '!' ∧ rest.head? = some '=' then some (some .notEqual, 1)
  else if c = '=' then some (some .equal, 0)
  else if c = ':' then some (some .colon, 0)
  else if c = '(' then some (some .opening, 0)
  else if c = ')' then some (some .closing, 0)
  else if (c = '"' ∨ c = '\'') ∧ c ∈ rest then
    some (some .string, (rest.takeWhile (· ≠ c)).length + 1)
  else if startsWord c then some (some .word, (rest.takeWhile continuesWord).length)
  else if isBlank c then some (none, (rest.takeWhile isBlank).length)
  else none

/-- The tokens of a text that starts at a position. -/
def scanFrom (position : Nat) : List Char → Except StrayCharacter (List Token)
  | [] => .ok []
  | c :: rest =>
    match lexeme? c rest with
    | none => .error ⟨position, c⟩
    | some (kind, n) =>
      match scanFrom (position + (n + 1)) (rest.drop n) with
      | .error e => .error e
      | .ok ts => .ok ((kind.map fun k => ⟨k, c :: rest.take n, position⟩).toList ++ ts)
termination_by cs => cs.length
decreasing_by simp only [List.length_drop, List.length_cons]; omega

/-- The tokens of an expression. -/
def scan (expression : String) : Except StrayCharacter (List Token) := scanFrom 0 expression.toList

end Token

end ComplianceHistory
