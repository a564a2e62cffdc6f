import ComplianceHistory.Yaml.Kind
import ComplianceHistory.Yaml.Token

/-!
# Nodes of YAML texts

The tokens of a text are put together to a tree of scalars, lists and mappings.  A node may be given a
name, under which it can be used again behind it; a name is given once, and inside its own node it stands
for nothing.  A text holds at most one document.
-/

namespace ComplianceHistory.Yaml

/-- A node of a document. -/
inductive Node where
  | scalar (kind : Kind) (text : List Char)
  | sequence (kind : Kind) (items : List Node)
  | mapping (kind : Kind) (pairs : List (Node × Node))

/-- The node where a text has none. -/
def Node.empty : Node := .scalar .null []

/-- What is known while nodes are read. -/
structure Reading where
  tokens : List Token
  /-- The handles of tags with what they stand for. -/
  handles : List (List Char × List Char)
  anchors : List (List Char × Node)

/-- Reads from the tokens; none if they do not go together. -/
abbrev Parse := StateT Reading Option

namespace Parse

/-- The next token. -/
def peek : Parse (Option Token) := do return (← get).tokens.head?

/-- Goes past a token. -/
def drop : Parse Unit := modify fun s => { s with tokens := s.tokens.tail }

/-- Goes past a token that must be the given one. -/
def expect (t : Token) : Parse Unit := do
  if (← peek) = some t then drop else failure

/-- Whether the next token is one of some. -/
def isNext (ts : List Token) : Parse Bool := do return (← peek).any ts.contains

/-- Goes past the next token if it is the given one, and tells whether it was. -/
def accept (t : Token) : Parse Bool := do
  if (← peek) = some t then
    drop
    return true
  else return false

/-- The tag that a handle and a suffix make. -/
def fullTag (handle : Option (List Char)) (suffix : List Char) : Parse (List Char) := do
  match handle with
  | none => return suffix
  | some h => match (← get).handles.lookup h with
    | some leading => return leading ++ suffix
    | none => failure

/-- Reads the name and the tag of a node, in any order. -/
def properties : Parse (Option (List Char) × Option (List Char)) := do
  match ← peek with
  | some (.anchor name) =>
    drop
    match ← peek with
    | some (.tag handle suffix) =>
      drop
      return (some name, some (← fullTag handle suffix))
    | _ => return (some name, none)
  | some (.tag handle suffix) =>
    drop
    match ← peek with
    | some (.anchor name) =>
      drop
      return (some name, some (← fullTag handle suffix))
    | _ => return (none, some (← fullTag handle suffix))
  | _ => return (none, none)

/-- The kind of a node that has a tag, or the given one if its tag says nothing. -/
def kindOf (tag : Option (List Char)) (implied : Kind) : Kind :=
  match tag with
  | none | some ['!'] => implied
  | some tag => .ofTag tag

/-- The kind of a scalar. -/
def scalarKind (tag : Option (List Char)) (plain : Bool) (text : List Char) : Kind :=
  if tag.isNone && !plain then .text else kindOf tag (.ofPlain text)

/-- Gives a node a name, which must be new. -/
def name (anchor : List Char) : Parse Unit := do
  if ((← get).anchors.lookup anchor).isSome then failure
  modify fun s => { s with anchors := (anchor, Node.empty) :: s.anchors }

/-- Says which node a name stands for. -/
def define (anchor : List Char) (n : Node) : Parse Unit :=
  modify fun s => { s with anchors := (anchor, n) :: s.anchors }

mutual

/-- Reads a node; `block` allows blocks, and `level` a list at the indentation of its mapping. -/
def node : Nat → (block level : Bool) → Parse Node
  | 0, _, _ => failure
  | fuel + 1, block, level => do
    if let some (.alias name) ← peek then
      drop
      match (← get).anchors.lookup name with
      | some n => return n
      | none => failure
    let (anchor, tag) ← properties
    if let some a := anchor then name a
    let n ← content fuel block level (anchor.isSome || tag.isSome) tag
    if let some a := anchor then define a n
    return n

/-- Reads what a node holds. -/
def content : Nat → (block level hasProperties : Bool) → Option (List Char) → Parse Node
  | 0, _, _, _, _ => failure
  | fuel + 1, block, level, hasProperties, tag => do
    match ← peek with
    | some (.scalar plain text) =>
      drop
      return .scalar (scalarKind tag plain text) text
    | some .flowSequence =>
      drop
      return .sequence (kindOf tag .sequence) (← flowItems fuel true)
    | some .flowMapping =>
      drop
      return .mapping (kindOf tag .mapping) (← flowPairs fuel true)
    | some .blockEntry =>
      if level then return .sequence (kindOf tag .sequence) (← levelItems fuel)
      else if hasProperties then return .scalar (kindOf tag .null) []
      else failure
    | some .blockSequence =>
      if block then
        drop
        return .sequence (kindOf tag .sequence) (← blockItems fuel)
      else if hasProperties then return .scalar (kindOf tag .null) []
      else failure
    | some .blockMapping =>
      if block then
        drop
        return .mapping (kindOf tag .mapping) (← blockPairs fuel)
      else if hasProperties then return .scalar (kindOf tag .null) []
      else failure
    | _ => if hasProperties then return .scalar (kindOf tag .null) [] else failure

/-- Reads a node, or none if one of some tokens follows. -/
def nodeUnless : Nat → (block level : Bool) → List Token → Parse Node
  | 0, _, _, _ => failure
  | fuel + 1, block, level, stops => do
    if ← isNext stops then return .empty else node fuel block level

/-- Reads the value behind a key, or none if there is no colon. -/
def valueUnless : Nat → (block : Bool) → List Token → Parse Node
  | 0, _, _ => failure
  | fuel + 1, block, stops => do
    if ← accept .value then nodeUnless fuel block block stops else return .empty

/-- Reads the items of a list in a block. -/
def blockItems : Nat → Parse (List Node)
  | 0 => failure
  | fuel + 1 => do
    if ← accept .blockEntry then
      let n ← nodeUnless fuel true false [.blockEntry, .blockEnd]
      return n :: (← blockItems fuel)
    else
      expect .blockEnd
      return []

/-- Reads the items of a list at the indentation of its mapping. -/
def levelItems : Nat → Parse (List Node)
  | 0 => failure
  | fuel + 1 => do
    if ← accept .blockEntry then
      let n ← nodeUnless fuel true false [.blockEntry, .key, .value, .blockEnd]
      return n :: (← levelItems fuel)
    else return []

/-- Reads the members of a mapping in a block. -/
def blockPairs : Nat → Parse (List (Node × Node))
  | 0 => failure
  | fuel + 1 => do
    if ← accept .key then
      let k ← nodeUnless fuel true true [.key, .value, .blockEnd]
      let v ← valueUnless fuel true [.key, .value, .blockEnd]
      return (k, v) :: (← blockPairs fuel)
    else
      expect .blockEnd
      return []

/-- Reads the items of a list in brackets. -/
def flowItems : Nat → (first : Bool) → Parse (List Node)
  | 0, _ => failure
  | fuel + 1, first => do
    if ← accept .flowSequenceEnd then return []
    if !first then expect .flowEntry
    if ← accept .flowSequenceEnd then return []
    if ← accept .key then
      let k ← nodeUnless fuel false false [.value, .flowEntry, .flowSequenceEnd]
      let v ← valueUnless fuel false [.flowEntry, .flowSequenceEnd]
      return .mapping .mapping [(k, v)] :: (← flowItems fuel false)
    else
      let n ← node fuel false false
      return n :: (← flowItems fuel false)

/-- Reads the members of a mapping in braces. -/
def flowPairs : Nat → (first : Bool) → Parse (List (Node × Node))
  | 0, _ => failure
  | fuel + 1, first => do
    if ← accept .flowMappingEnd then return []
    if !first then expect .flowEntry
    if ← accept .flowMappingEnd then return []
    if ← accept .key then
      let k ← nodeUnless fuel false false [.value, .flowEntry, .flowMappingEnd]
      let v ← valueUnless fuel false [.flowEntry, .flowMappingEnd]
      return (k, v) :: (← flowPairs fuel false)
    else
      let k ← node fuel false false
      return (k, .empty) :: (← flowPairs fuel false)

end

/-- Goes past the ends of documents. -/
def dropEnds : Nat → Parse Unit
  | 0 => return ()
  | fuel + 1 => do if ← accept .documentEnd then dropEnds fuel

/-- Reads the directives of a document: its version, and handles of tags, each once. -/
def directives : Nat → (version : Bool) → List (List Char × List Char) →
    Parse (List (List Char × List Char))
  | 0, _, _ => failure
  | fuel + 1, version, handles => do
    match ← peek with
    | some (.version major _) =>
      if version || major ≠ 1 then failure
      drop
      directives fuel true handles
    | some (.tagDirective handle leading) =>
      if (handles.lookup handle).isSome then failure
      drop
      directives fuel version ((handle, leading) :: handles)
    | some .otherDirective =>
      drop
      directives fuel version handles
    | _ => return handles

/-- The handles that need no directive. -/
def standardHandles : List (List Char × List Char) := [(['!'], ['!']), (['!', '!'], standardTag)]

/-- Whether a directive is next. -/
def isDirectiveNext : Parse Bool := do
  match ← peek with
  | some (.version ..) | some (.tagDirective ..) | some .otherDirective => return true
  | _ => return false

/-- Reads the only document; none if there is none. -/
def document (fuel : Nat) : Parse (Option Node) := do
  if (← get).tokens.isEmpty then return none
  if (← isDirectiveNext) || (← isNext [.documentStart]) then
    let handles ← directives fuel false []
    expect .documentStart
    modify fun s => { s with handles := handles ++ standardHandles }
    let bare := (← get).tokens.isEmpty || (← isDirectiveNext) || (← isNext [.documentStart, .documentEnd])
    let n ← if bare then pure .empty else node fuel true false
    dropEnds fuel
    if (← get).tokens.isEmpty then return some n else failure
  else
    let n ← node fuel true false
    dropEnds fuel
    if (← get).tokens.isEmpty then return some n else failure

end Parse

/-- The node that tokens make; the outer result is none if they do not go together. -/
def node? (ts : List Token) : Option (Option Node) :=
  ((Parse.document (4 * ts.length + 8)).run ⟨ts, Parse.standardHandles, []⟩).map Prod.fst

end ComplianceHistory.Yaml
