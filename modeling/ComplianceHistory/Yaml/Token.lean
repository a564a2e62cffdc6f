import ComplianceHistory.Yaml.Scalar

/-!
# Tokens of YAML texts

The tokens of a text tell its structure: where lists and mappings start and end, in blocks by their
indentation and in flow style by their brackets.  That a scalar is a key is seen only at the colon behind
it; so the place of everything that may be a key is remembered until its line ends, and the tokens of the
key are put in there when the colon comes.
-/

namespace ComplianceHistory.Yaml

/-- A token. -/
inductive Token where
  | version (major minor : Nat)
  | tagDirective (handle leading : List Char)
  | otherDirective
  | documentStart
  | documentEnd
  | blockSequence
  | blockMapping
  | blockEnd
  | flowSequence
  | flowSequenceEnd
  | flowMapping
  | flowMappingEnd
  | blockEntry
  | flowEntry
  | key
  | value
  | alias (name : List Char)
  | anchor (name : List Char)
  | tag (handle : Option (List Char)) (suffix : List Char)
  | scalar (plain : Bool) (text : List Char)
deriving DecidableEq, Repr

/-- Something that may turn out to be a key: where it starts, and whether it must be one. -/
structure KeyPlace where
  token : Nat
  required : Bool
  index : Nat
  line : Nat
  column : Nat

/-- What is known while tokens are read. -/
structure Layout where
  cursor : Cursor
  /-- The column of the innermost block. -/
  indent : Int
  /-- The columns of the blocks around it. -/
  outer : List Int
  /-- Whether a key may start here. -/
  keyAllowed : Bool
  /-- What may be a key in the innermost brackets, and in the ones around them. -/
  places : List (Option KeyPlace)
  tokens : List Token

namespace Layout

/-- The start of a text. -/
def ofText (cs : List Char) : Layout := ⟨.ofText cs, -1, [], true, [none], []⟩

/-- Whether brackets are open. -/
def inFlow (s : Layout) : Bool := s.places.length > 1

/-- Adds a token. -/
def push (s : Layout) (t : Token) : Layout := { s with tokens := s.tokens ++ [t] }

/-- Puts tokens in at a place. -/
def insert (s : Layout) (place : Nat) (ts : List Token) : Layout :=
  { s with tokens := s.tokens.take place ++ ts ++ s.tokens.drop place }

/-- Goes on by some characters. -/
def skip (s : Layout) (n : Nat) : Layout := { s with cursor := s.cursor.skip n }

/-- Forgets what may be a key here, which must not be required. -/
def dropPlace (s : Layout) : Option Layout :=
  match s.places with
  | some k :: ps => if k.required then none else some { s with places := none :: ps }
  | _ => some s

/-- Remembers that a key may start here. -/
def savePlace (s : Layout) : Option Layout :=
  if !s.keyAllowed then some s
  else s.dropPlace.map fun s =>
    let c := s.cursor
    let k : KeyPlace := ⟨s.tokens.length, !s.inFlow && s.indent = c.column, c.index, c.line, c.column⟩
    { s with places := some k :: s.places.tail }

/-- Forgets what cannot be a key any more, as its line has ended or it is too long. -/
def dropStale (s : Layout) : Option Layout :=
  let stale := fun (k : KeyPlace) => k.line ≠ s.cursor.line || s.cursor.index - k.index > 1024
  if s.places.any fun p => p.any fun k => stale k && k.required then none
  else some { s with places := s.places.map fun p => p.filter fun k => !stale k }

/-- Ends the blocks right of a column. -/
def unwind (column : Int) : Nat → Layout → Layout
  | 0, s => s
  | fuel + 1, s =>
    if s.inFlow || s.indent ≤ column then s
    else unwind column fuel { (s.push .blockEnd) with indent := s.outer.headD (-1), outer := s.outer.tail }

/-- Ends the blocks right of a column, as many as there are. -/
def unwindTo (s : Layout) (column : Int) : Layout := unwind column (s.outer.length + 1) s

/-- Starts a block at a column right of the innermost one; none if it is not right of it. -/
def indentTo? (s : Layout) (column : Nat) : Option Layout :=
  if s.indent < column then some { s with indent := column, outer := s.indent :: s.outer } else none

/-- Goes to the next token, past spaces, comments and ends of lines. -/
def toToken : Nat → Layout → Layout
  | 0, s => s
  | fuel + 1, s =>
    let c := s.cursor.skipSpaces
    let c := if c.peek = '#' then c.skipLine else c
    match c.lineBreak? with
    | none => { s with cursor := c }
    | some (_, c) => toToken fuel { s with cursor := c, keyAllowed := s.keyAllowed || !s.inFlow }

/-- The characters of the names of anchors and directives. -/
def isNameChar (c : Char) : Bool := c.isAlphanum || c = '-' || c = '_'

/-- The characters of tags. -/
def isTagChar (c : Char) : Bool := c.isAlphanum || "-;/?:@&=+$,_.!~*'()[]".toList.contains c

/-- Reads the octets of escapes in a tag. -/
def tagEscapes : Nat → Cursor → Option (List Nat × Cursor)
  | 0, _ => none
  | fuel + 1, c =>
    if c.peek ≠ '%' then some ([], c)
    else match Json.hexValue? (c.peekAt 1), Json.hexValue? (c.peekAt 2) with
      | some a, some b => (tagEscapes fuel (c.skip 3)).map fun (more, c) => ((a * 16 + b) :: more, c)
      | _, _ => none

/-- The characters that octets encode. -/
def decodeOctets? (octets : List Nat) : Option (List Char) :=
  (String.fromUTF8? ⟨(octets.map UInt8.ofNat).toArray⟩).map String.toList

/-- Reads the characters of a tag. -/
def tagText : Nat → Cursor → Option Scanned
  | 0, _ => none
  | fuel + 1, c =>
    if c.peek = '%' then do
      let (octets, c) ← tagEscapes c.fuel c
      let text ← decodeOctets? octets
      let (more, c) ← tagText fuel c
      return (text ++ more, c)
    else if isTagChar c.peek then (tagText fuel c.next).map fun (more, d) => (c.peek :: more, d)
    else some ([], c)

/-- Reads the characters of a tag, of which there must be some. -/
def someTagText (c : Cursor) : Option Scanned :=
  match tagText c.fuel c with
  | some ([], _) | none => none
  | found => found

/-- Reads a handle: an exclamation mark alone or two around a name. -/
def tagHandle (c : Cursor) : Option Scanned :=
  if c.peek ≠ '!' then none
  else
    let (name, d) := c.next.span isNameChar
    if c.peekAt 1 = ' ' then some (['!'], c.next)
    else if d.peek = '!' then some ('!' :: (name ++ ['!']), d.next)
    else if name.isEmpty then some (['!'], c.next)
    else none

/-- Whether a handle of its own stands at a tag: another exclamation mark before the next space. -/
def hasHandle (c : Cursor) : Bool := (c.next.rest.takeWhile fun ch => !isSpaceOrEnd ch).contains '!'

/-- Reads a tag. -/
def scanTag (c : Cursor) : Option (Token × Cursor) := do
  let (t, c) ←
    if c.peekAt 1 = '<' then do
      let (text, c) ← someTagText (c.skip 2)
      if c.peek ≠ '>' then none
      pure (Token.tag none text, c.next)
    else if isSeparator (c.peekAt 1) then pure (Token.tag none ['!'], c.next)
    else do
      let (handle, c) ← if hasHandle c then tagHandle c else pure (['!'], c.next)
      let (text, c) ← someTagText c
      pure (Token.tag (some handle) text, c)
  if isSpaceOrEnd c.peek then return (t, c) else none

/-- Reads the name of an anchor or alias after its indicator. -/
def scanName (c : Cursor) : Option Scanned :=
  let (name, c) := c.next.span isNameChar
  let after := c.peek
  if name.isEmpty then none
  else if isSeparator after || "?:,]\x7d%@".toList.contains after || after = '\x60' then some (name, c)
  else none

/-- Reads a number of a version. -/
def versionNumber (c : Cursor) : Option (Nat × Cursor) :=
  let (ds, c) := c.span Char.isDigit
  if ds.isEmpty then none else some (Decimal.natOf ds, c)

/-- Reads a directive. -/
def scanDirective (c : Cursor) : Option (Token × Cursor) := do
  let (name, c) := c.next.span isNameChar
  if name.isEmpty || !isSpaceOrEnd c.peek then none
  let (t, c) ←
    if name = "YAML".toList then do
      let (major, c) ← versionNumber c.skipSpaces
      if c.peek ≠ '.' then none
      let (minor, c) ← versionNumber c.next
      if !isSpaceOrEnd c.peek then none
      pure (Token.version major minor, c)
    else if name = "TAG".toList then do
      let (handle, c) ← tagHandle c.skipSpaces
      if c.peek ≠ ' ' then none
      let (leading, c) ← someTagText c.skipSpaces
      if !isSpaceOrEnd c.peek then none
      pure (Token.tagDirective handle leading, c)
    else pure (Token.otherDirective, c.skipLine)
  let c ← endLine c
  return (t, c)

/-- A token that ends all blocks: a directive, or the start or end of a document. -/
def fetchMark (s : Layout) (read : Cursor → Option (Token × Cursor)) : Option Layout := do
  let s ← (s.unwindTo (-1)).dropPlace
  let (t, c) ← read s.cursor
  return { (s.push t) with cursor := c, keyAllowed := false }

/-- An opening bracket. -/
def fetchOpening (s : Layout) (t : Token) : Option Layout := do
  let s ← s.savePlace
  return { ((s.push t).skip 1) with places := none :: s.places, keyAllowed := true }

/-- A closing bracket, which must have an opening one. -/
def fetchClosing (s : Layout) (t : Token) : Option Layout := do
  if !s.inFlow then none
  let s ← s.dropPlace
  return { ((s.push t).skip 1) with places := s.places.tail, keyAllowed := false }

/-- A comma between brackets. -/
def fetchFlowEntry (s : Layout) : Option Layout := do
  let s ← s.dropPlace
  return { ((s.push .flowEntry).skip 1) with keyAllowed := true }

/-- Starts a block with a token if the column is right of the innermost block. -/
def startBlock (s : Layout) (t : Token) : Layout :=
  if s.inFlow then s else ((s.indentTo? s.cursor.column).map fun s => s.push t).getD s

/-- The dash of an item of a list. -/
def fetchBlockEntry (s : Layout) : Option Layout := do
  if !s.inFlow && !s.keyAllowed then none
  let s ← (s.startBlock .blockSequence).dropPlace
  return { ((s.push .blockEntry).skip 1) with keyAllowed := true }

/-- The question mark of a key. -/
def fetchKey (s : Layout) : Option Layout := do
  if !s.inFlow && !s.keyAllowed then none
  let s ← (s.startBlock .blockMapping).dropPlace
  return { ((s.push .key).skip 1) with keyAllowed := !s.inFlow }

/-- The colon behind a key, which may have been remembered. -/
def fetchValue (s : Layout) : Option Layout := do
  match s.places with
  | some k :: ps =>
    let s := { s with places := none :: ps, keyAllowed := false }
    let s := match if s.inFlow then none else s.indentTo? k.column with
      | some s => s.insert k.token [.blockMapping, .key]
      | none => s.insert k.token [.key]
    return (s.push .value).skip 1
  | _ =>
    if !s.inFlow && !s.keyAllowed then none
    let s := s.startBlock .blockMapping
    return { ((s.push .value).skip 1) with keyAllowed := !s.inFlow }

/-- A token that a key may start with. -/
def fetchKeyPart (s : Layout) (read : Cursor → Option (Token × Cursor)) : Option Layout := do
  let s ← s.savePlace
  let (t, c) ← read s.cursor
  return { (s.push t) with cursor := c, keyAllowed := false }

/-- The first column right of the innermost block. -/
def margin (s : Layout) : Nat := (s.indent + 1).toNat

/-- A block scalar. -/
def fetchBlockScalar (s : Layout) (fold : Bool) : Option Layout := do
  let s ← s.dropPlace
  let (text, c) ← blockScalar fold (max s.margin 1) s.cursor.next
  return { (s.push (.scalar false text)) with cursor := c, keyAllowed := true }

/-- A quoted scalar. -/
def scanQuoted (double : Bool) (c : Cursor) : Option (Token × Cursor) :=
  (quotedScalar double c.fuel c.next).map fun (text, c) => (.scalar false text, c)

/-- A plain scalar. -/
def fetchPlain (s : Layout) : Option Layout := do
  let s ← s.savePlace
  let (text, ended, c) := plainScalar s.inFlow s.margin s.cursor.fuel [] false s.cursor
  return { (s.push (.scalar true text)) with cursor := c, keyAllowed := ended }

/-- Whether a plain scalar starts at a place. -/
def startsPlain (s : Layout) : Bool :=
  let ch := s.cursor.peek
  let blankNext := isSeparator (s.cursor.peekAt 1)
  if isSeparator ch || ch = '\x60' then false
  else if ch = '-' then !blankNext
  else if ch = '?' || ch = ':' then !blankNext && !s.inFlow
  else !(",[]\x7b\x7d#&*!|>'\"%@".toList.contains ch)

/-- Reads the next token; none if no token can stand here. -/
def fetch (s : Layout) : Option Layout := do
  let c := s.cursor
  let ch := c.peek
  let blankNext := isSeparator (c.peekAt 1)
  if ch = '%' && c.column = 0 then s.fetchMark scanDirective
  else if c.column = 0 && c.hasMark '-' then s.fetchMark fun c => some (.documentStart, c.skip 3)
  else if c.column = 0 && c.hasMark '.' then s.fetchMark fun c => some (.documentEnd, c.skip 3)
  else if ch = '[' then s.fetchOpening .flowSequence
  else if ch = '\x7b' then s.fetchOpening .flowMapping
  else if ch = ']' then s.fetchClosing .flowSequenceEnd
  else if ch = '\x7d' then s.fetchClosing .flowMappingEnd
  else if ch = ',' then s.fetchFlowEntry
  else if ch = '-' && blankNext then s.fetchBlockEntry
  else if ch = '?' && (s.inFlow || blankNext) then s.fetchKey
  else if ch = ':' && (s.inFlow || blankNext) then s.fetchValue
  else if ch = '*' then s.fetchKeyPart fun c => (scanName c).map fun (n, c) => (.alias n, c)
  else if ch = '&' then s.fetchKeyPart fun c => (scanName c).map fun (n, c) => (.anchor n, c)
  else if ch = '!' then s.fetchKeyPart scanTag
  else if ch = '|' && !s.inFlow then s.fetchBlockScalar false
  else if ch = '>' && !s.inFlow then s.fetchBlockScalar true
  else if ch = '\'' then s.fetchKeyPart (scanQuoted false)
  else if ch = '"' then s.fetchKeyPart (scanQuoted true)
  else if s.startsPlain then s.fetchPlain
  else none

/-- Reads all tokens. -/
def run : Nat → Layout → Option (List Token)
  | 0, _ => none
  | fuel + 1, s => do
    let s ← (s.toToken s.cursor.fuel).dropStale
    let s := s.unwindTo s.cursor.column
    if s.cursor.rest.isEmpty then
      let s ← (s.unwindTo (-1)).dropPlace
      return s.tokens
    else run fuel (← s.fetch)

end Layout

/-- The tokens of a text; none if it has none. -/
def tokens? (text : List Char) : Option (List Token) :=
  if !text.all isAllowed then none
  else
    let text := if text.head? = some '\ufeff' then text.tail else text
    Layout.run (text.length + 2) (.ofText text)

end ComplianceHistory.Yaml
