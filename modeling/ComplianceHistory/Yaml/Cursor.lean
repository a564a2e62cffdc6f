/-!
# Places in a YAML text

A cursor holds what is left of a text and where it starts: the number of characters before it, its line
and its column.  Line feeds, next-line characters and the two Unicode separators end lines.  The end of
the text is seen as a NUL, which no text holds.
-/

namespace ComplianceHistory.Yaml

/-- Whether a character ends a line. -/
def isBreak (c : Char) : Bool := c = '\n' || c = '\x85' || c = '\u2028' || c = '\u2029'

/-- Whether a character ends a line or the text. -/
def isBreakOrEnd (c : Char) : Bool := isBreak c || c = '\x00'

/-- Whether a character ends a line or the text or is a space. -/
def isSpaceOrEnd (c : Char) : Bool := isBreakOrEnd c || c = ' '

/-- Whether a character separates tokens: a space, a tab, or the end of a line or of the text. -/
def isSeparator (c : Char) : Bool := isSpaceOrEnd c || c = '\t'

/-- The characters that a YAML text may hold. -/
def isAllowed (c : Char) : Bool :=
  c = '\t' || c = '\n' || c = '\r' || (' ' ≤ c && c ≤ '~') || c = '\x85' ||
    ('\xa0' ≤ c && c ≤ '\ufffd') || 0x10000 ≤ c.toNat

/-- A place in a text. -/
structure Cursor where
  rest : List Char
  index : Nat
  line : Nat
  column : Nat

namespace Cursor

/-- The start of a text. -/
def ofText (cs : List Char) : Cursor := ⟨cs, 0, 0, 0⟩

/-- The character at a place. -/
def peek (c : Cursor) : Char := c.rest.headD '\x00'

/-- The character some characters behind a place. -/
def peekAt (c : Cursor) (n : Nat) : Char := (c.rest.drop n).headD '\x00'

/-- The next place; a byte order mark takes no column. -/
def next (c : Cursor) : Cursor :=
  match c.rest with
  | [] => c
  | ch :: rest =>
    if isBreak ch then ⟨rest, c.index + 1, c.line + 1, 0⟩
    else if ch = '\ufeff' then ⟨rest, c.index + 1, c.line, c.column⟩
    else ⟨rest, c.index + 1, c.line, c.column + 1⟩

/-- The place some characters behind. -/
def skip (c : Cursor) : Nat → Cursor
  | 0 => c
  | n + 1 => c.next.skip n

/-- The characters from a place on that have a property, and the place behind them. -/
def span (p : Char → Bool) (c : Cursor) : List Char × Cursor :=
  let cs := c.rest.takeWhile p
  (cs, c.skip cs.length)

/-- The place behind the spaces. -/
def skipSpaces (c : Cursor) : Cursor := (c.span (· = ' ')).2

/-- The place at the end of the line. -/
def skipLine (c : Cursor) : Cursor := (c.span fun ch => !isBreakOrEnd ch).2

/-- The end of a line at a place, as it counts in a scalar. -/
def lineBreak? (c : Cursor) : Option (Char × Cursor) :=
  let ch := c.peek
  if isBreak ch then some (if ch = '\x85' then '\n' else ch, c.next) else none

/-- Whether three equal characters stand at a place with a separator behind them. -/
def hasMark (c : Cursor) (ch : Char) : Bool :=
  c.peek = ch && c.peekAt 1 = ch && c.peekAt 2 = ch && isSeparator (c.peekAt 3)

/-- Whether a mark of the start or the end of a document stands at a place. -/
def atMark (c : Cursor) : Bool := c.hasMark '-' || c.hasMark '.'

/-- A bound for loops that go on by at least one character. -/
def fuel (c : Cursor) : Nat := c.rest.length + 1

end Cursor

end ComplianceHistory.Yaml
