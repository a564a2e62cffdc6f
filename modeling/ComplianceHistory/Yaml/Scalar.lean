import ComplianceHistory.Json.Reader
import ComplianceHistory.Yaml.Cursor

/-!
# The texts of YAML scalars

Plain scalars end where a comment, a mapping or a list goes on; quoted ones end at their quote; block
scalars end where their indentation does.  In the first two the end of a line counts as a space, unless
blank lines follow, which then count as ends of lines; a folded block scalar does so between lines that
are not indented further.
-/

namespace ComplianceHistory.Yaml

/-- A text that was read, and the place behind it. -/
abbrev Scanned := List Char × Cursor

/-- What a break followed by blank lines stands for. -/
def folded (b : Char) (more : List Char) : List Char :=
  (if b ≠ '\n' then [b] else if more.isEmpty then [' '] else []) ++ more

/-- The ends of the blank lines from a place on; none if a mark of a document follows. -/
def plainBreaks : Nat → Cursor → Option (List Char) × Cursor
  | 0, c => (some [], c)
  | fuel + 1, c =>
    if c.peek = ' ' then plainBreaks fuel c.next
    else match c.lineBreak? with
      | none => (some [], c)
      | some (b, c) =>
        if c.atMark then (none, c)
        else
          let (more, c) := plainBreaks fuel c
          (more.map (b :: ·), c)

/-- What stands between two parts of a plain scalar; none if it ends, and whether a line ended. -/
def plainSpaces (c : Cursor) : Option (List Char) × Bool × Cursor :=
  let (spaces, c) := c.span (· = ' ')
  match c.lineBreak? with
  | none => (if spaces.isEmpty then none else some spaces, false, c)
  | some (b, c) =>
    if c.atMark then (none, true, c)
    else
      let (more, c) := plainBreaks c.fuel c
      (more.map (folded b), true, c)

/-- The number of characters that go on with a plain scalar; `flow` tells whether brackets are open. -/
def plainLength (flow : Bool) : List Char → Nat
  | [] => 0
  | ch :: rest =>
    let after := rest.headD '\x00'
    if isSeparator ch then 0
    else if ch = ':' && (isSeparator after || (flow && after ∈ [',', '[', ']', '\x7b', '\x7d'])) then 0
    else if flow && ch ∈ [',', '?', '[', ']', '\x7b', '\x7d'] then 0
    else plainLength flow rest + 1

/--
Reads a plain scalar that must stay right of the given column, and tells whether a line ended behind it.
`before` is what stands between the parts read so far and the next one.
-/
def plainScalar (flow : Bool) (margin : Nat) : Nat → List Char → Bool → Cursor → List Char × Bool × Cursor
  | 0, _, ended, c => ([], ended, c)
  | fuel + 1, before, ended, c =>
    let n := if c.peek = '#' then 0 else plainLength flow c.rest
    if n = 0 then ([], ended, c)
    else
      let part := before ++ c.rest.take n
      match plainSpaces (c.skip n) with
      | (none, ended, c) => (part, ended, c)
      | (some between, ended, c) =>
        if c.peek = '#' || (!flow && c.column < margin) then (part, ended, c)
        else
          let (more, ended, c) := plainScalar flow margin fuel between ended c
          (part ++ more, ended, c)

/-- The characters that a letter after a backslash stands for. -/
def escapes : List (Char × Char) := [
  ('0', '\x00'), ('a', '\x07'), ('b', '\x08'), ('t', '\t'), ('\t', '\t'), ('n', '\n'), ('v', '\x0b'),
  ('f', '\x0c'), ('r', '\r'), ('e', '\x1b'), (' ', ' '), ('"', '"'), ('\\', '\\'), ('/', '/'),
  ('N', '\x85'), ('_', '\xa0'), ('L', '\u2028'), ('P', '\u2029')]

/-- The number of hexadecimal digits behind a letter after a backslash. -/
def codeLengths : List (Char × Nat) := [('x', 2), ('u', 4), ('U', 8)]

/-- The character of a code in hexadecimal digits. -/
def charOfCode? (ds : List Char) : Option Char :=
  (ds.mapM Json.hexValue?).map fun vs => Char.ofNat (vs.foldl (fun n v => n * 16 + v) 0)

/-- The ends of blank lines in a quoted scalar, in which no mark of a document may stand. -/
def quotedBreaks : Nat → Cursor → Option Scanned
  | 0, _ => none
  | fuel + 1, c =>
    if c.atMark then none
    else
      let (_, c) := c.span fun ch => ch = ' ' || ch = '\t'
      match c.lineBreak? with
      | none => some ([], c)
      | some (b, c) => (quotedBreaks fuel c).map fun (more, c) => (b :: more, c)

/-- Reads an escape, of which the backslash has been read. -/
def escape (c : Cursor) : Option Scanned :=
  match escapes.lookup c.peek with
  | some ch => some ([ch], c.next)
  | none => match codeLengths.lookup c.peek with
    | some n =>
      let ds := c.next.rest.take n
      if ds.length < n then none
      else (charOfCode? ds).map fun ch => ([ch], c.next.skip n)
    | none => match c.lineBreak? with
      | some (_, c) => quotedBreaks c.fuel c
      | none => none

/-- Reads a quoted scalar after its opening quote. -/
def quotedScalar (double : Bool) : Nat → Cursor → Option Scanned
  | 0, _ => none
  | fuel + 1, c =>
    let quote := if double then '"' else '\''
    let goOn := fun (text : List Char) (c : Cursor) =>
      (quotedScalar double fuel c).map fun (more, c) => (text ++ more, c)
    let ch := c.peek
    if ch = '\x00' then none
    else if !double && ch = '\'' && c.peekAt 1 = '\'' then goOn ['\''] (c.skip 2)
    else if ch = quote then some ([], c.next)
    else if double && ch = '\\' then
      match escape c.next with
      | none => none
      | some (text, c) => goOn text c
    else if ch = ' ' || ch = '\t' || isBreak ch then
      let (spaces, c) := c.span fun ch => ch = ' ' || ch = '\t'
      if c.peek = '\x00' then none
      else match c.lineBreak? with
        | none => goOn spaces c
        | some (b, c) => match quotedBreaks c.fuel c with
          | none => none
          | some (more, c) => goOn (folded b more) c
    else goOn [ch] c.next

/-- What is kept of the ends of lines at the end of a block scalar. -/
inductive Chomping where
  | strip
  | clip
  | keep
deriving DecidableEq

/-- What a sign in the head of a block scalar says. -/
def Chomping.ofChar? : Char → Option Chomping
  | '+' => some .keep
  | '-' => some .strip
  | _ => none

/-- Reads a digit of indentation other than zero. -/
def indentDigit (c : Cursor) : Option (Option Nat × Cursor) :=
  if c.peek = '0' then none
  else if c.peek.isDigit then some (some (c.peek.toNat - '0'.toNat), c.next)
  else some (none, c)

/-- Reads the head of a block scalar: its sign and its indentation, in any order. -/
def blockHead (c : Cursor) : Option (Chomping × Option Nat × Cursor) := do
  let (chomping, indent, c) ← match Chomping.ofChar? c.peek with
    | some chomping => do
      let (indent, c) ← indentDigit c.next
      pure (chomping, indent, c)
    | none => do
      let (indent, c) ← indentDigit c
      match indent, Chomping.ofChar? c.peek with
      | some _, some chomping => pure (chomping, indent, c.next)
      | _, _ => pure (.clip, indent, c)
  if isSpaceOrEnd c.peek then return (chomping, indent, c) else none

/-- Goes to the next line, past spaces and a comment. -/
def endLine (c : Cursor) : Option Cursor :=
  let c := c.skipSpaces
  let c := if c.peek = '#' then c.skipLine else c
  if isBreakOrEnd c.peek then some c.next else none

/-- The ends of the blank lines at the start of a block scalar, and the widest column they reach. -/
def blockIndent : Nat → Nat → Cursor → List Char × Nat × Cursor
  | 0, widest, c => ([], widest, c)
  | fuel + 1, widest, c =>
    if c.peek = ' ' then
      let c := c.next
      blockIndent fuel (max widest c.column) c
    else match c.lineBreak? with
      | none => ([], widest, c)
      | some (b, c) =>
        let (more, widest, c) := blockIndent fuel widest c
        (b :: more, widest, c)

/-- Goes on to a column over spaces. -/
def toColumn (column : Nat) (c : Cursor) : Cursor :=
  c.skip (min (column - c.column) (c.rest.takeWhile (· = ' ')).length)

/-- The ends of blank lines in a block scalar of an indentation. -/
def blockBreaks (indent : Nat) : Nat → Cursor → Scanned
  | 0, c => ([], c)
  | fuel + 1, c =>
    let c := toColumn indent c
    match c.lineBreak? with
    | none => ([], c)
    | some (b, c) =>
      let (more, c) := blockBreaks indent fuel c
      (b :: more, c)

/-- Reads the lines of a block scalar; `breaks` are the ends of the blank lines before the next line. -/
def blockLines (fold : Bool) (chomping : Chomping) (indent : Nat) :
    Nat → List Char → Cursor → Scanned
  | 0, _, c => ([], c)
  | fuel + 1, breaks, c =>
    let flush := !(c.peek = ' ' || c.peek = '\t')
    let (line, c) := c.span fun ch => !isBreakOrEnd ch
    let (ending, c) := match c.lineBreak? with
      | some (b, c) => ([b], c)
      | none => ([], c)
    let (more, c) := blockBreaks indent c.fuel c
    if c.column = indent && c.peek ≠ '\x00' then
      let between :=
        if fold && ending = ['\n'] && flush && !(c.peek = ' ' || c.peek = '\t') then
          (if more.isEmpty then [' '] else [])
        else ending
      let (lines, c) := blockLines fold chomping indent fuel more c
      (breaks ++ line ++ between ++ lines, c)
    else
      let tail := match chomping with
        | .strip => []
        | .clip => ending
        | .keep => ending ++ more
      (breaks ++ line ++ tail, c)

/-- Reads a block scalar after its indicator; `margin` is the least indentation. -/
def blockScalar (fold : Bool) (margin : Nat) (c : Cursor) : Option Scanned := do
  let (chomping, indent, c) ← blockHead c
  let c ← endLine c
  let (breaks, indent, c) := match indent with
    | some n =>
      let indent := margin + n - 1
      let (breaks, c) := blockBreaks indent c.fuel c
      (breaks, indent, c)
    | none =>
      let (breaks, widest, c) := blockIndent c.fuel 0 c
      (breaks, max margin widest, c)
  if c.column = indent && c.peek ≠ '\x00' then return blockLines fold chomping indent c.fuel breaks c
  else return (if chomping = .keep then breaks else [], c)

end ComplianceHistory.Yaml
