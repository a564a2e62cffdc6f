import ComplianceHistory.Sql.Clause

/-!
# What clauses hold of

A value is bound to a placeholder and compared with a column of texts, or kept in it.  Such a column
turns numbers into texts, and the values true and false into `1` and `0`; null stays null, and so becomes
the non-number.  Instants and dates are bound as their texts, with a blank between date and time.  Lists
and objects cannot be bound, nor integers of more than 64 bits.

Clauses are evaluated in the three-valued logic of relational databases: a comparison with null is
neither true nor false, and a row is chosen only if the clause is true of it.  A clause asks for the
columns of a record, and whether the record has a label with a name and a value.
-/

namespace ComplianceHistory.Sql

/-- What a column of texts holds: a text or null. -/
abbrev Cell := Option String

/-- Why a value cannot be bound. -/
inductive BindingFault where
  | unsupported (kind : String)
  | integerTooLarge
deriving DecidableEq, Repr

/-- The cell of a value; numbers that are not whole are turned into texts as the engine does it. -/
def cellOf (floats : Float → String) : Value → Except BindingFault Cell
  | .null => .ok none
  | .bool b => .ok (some (if b then "1" else "0"))
  | .int n =>
    if -0x8000000000000000 ≤ n ∧ n < 0x8000000000000000 then .ok (some (toString n))
    else .error .integerTooLarge
  | .float x => .ok (if x.isNaN then none else some (floats x))
  | .string s => .ok (some s)
  | .moment t => .ok (some (t.text.map fun c => if c = 'T' then ' ' else c))
  | .date text => .ok (some text)
  | v => .error (.unsupported v.kindName)

/-- A truth value; none is unknown. -/
abbrev Truth := Option Bool

/-- Conjunction: false if one side is false, else unknown if one side is. -/
def Truth.and : Truth → Truth → Truth
  | some false, _ | _, some false => some false
  | some true, some true => some true
  | _, _ => none

/-- Disjunction: true if one side is true, else unknown if one side is. -/
def Truth.or : Truth → Truth → Truth
  | some true, _ | _, some true => some true
  | some false, some false => some false
  | _, _ => none

/-- Negation, which keeps unknown. -/
def Truth.not : Truth → Truth := Option.map Bool.not

/-- The neutral truth value of a connective. -/
def Truth.unit : Connective → Truth
  | .and => some true
  | .or => some false

/-- Two truth values under a connective. -/
def Truth.join : Connective → Truth → Truth → Truth
  | .and => Truth.and
  | .or => Truth.or

/-- What a clause is asked about. -/
structure Subject where
  /-- The text of a column, if there is one of that name. -/
  column? : String → Option String
  /-- Whether there is a label with a name and a value. -/
  hasLabel : (name value : String) → Bool

/-- The columns of the table of records that hold texts. -/
def columnNames : List String := ["r.collection", "r.stream_id", "r.title", "r.status", "r.collected"]

/-- Whether the name of a column is one of the table of records. -/
def isColumn (name : List Char) : Bool := columnNames.contains (String.ofList name)

namespace Clause

mutual

/-- The number of placeholders of a clause. -/
def placeholders : Clause → Nat
  | constant _ => 0
  | column _ => 1
  | hasLabel => 2
  | not c => placeholders c
  | join _ cs => placeholdersOfAll cs

/-- The number of placeholders of clauses. -/
def placeholdersOfAll : List Clause → Nat
  | [] => 0
  | c :: cs => placeholders c + placeholdersOfAll cs

end

mutual

/-- The columns that a clause names, from left to right. -/
def columns : Clause → List (List Char)
  | column name => [name]
  | not c => columns c
  | join _ cs => columnsOfAll cs
  | _ => []

/-- The columns that clauses name. -/
def columnsOfAll : List Clause → List (List Char)
  | [] => []
  | c :: cs => columns c ++ columnsOfAll cs

end

/-- Whether a column equals a cell. -/
def compares (column : Option String) (cell : Cell) : Truth :=
  match column, cell with
  | some s, some t => some (s = t)
  | _, _ => none

/-- Whether there is a label; a name or value that is null is the one of no label. -/
def labelled (s : Subject) (name value : Cell) : Bool :=
  match name, value with
  | some n, some v => s.hasLabel n v
  | _, _ => false

mutual

/-- The truth value of a clause for a subject; the cells are bound to the placeholders in their order. -/
def truth (s : Subject) : Clause → List Cell → Truth
  | constant b, _ => some b
  | column name, cells => compares (s.column? (String.ofList name)) (cells.headD none)
  | hasLabel, cells => some (labelled s (cells.headD none) (cells.tail.headD none))
  | not c, cells => (truth s c cells).not
  | join connective cs, cells => truthOfAll s connective cs cells

/-- The truth value of clauses under a connective. -/
def truthOfAll (s : Subject) (connective : Connective) : List Clause → List Cell → Truth
  | [], _ => Truth.unit connective
  | c :: cs, cells =>
    (truth s c cells).join connective (truthOfAll s connective cs (cells.drop (placeholders c)))

end

end Clause

end ComplianceHistory.Sql
