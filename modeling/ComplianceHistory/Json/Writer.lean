import ComplianceHistory.Decimal.Numeral
import ComplianceHistory.Value

/-!
# Writing JSON texts

Texts are written in ASCII: characters beyond it are escaped by their code units.  Without an indent
all stands on one line with a blank after each comma and colon; with one, every item and member stands
on a line of its own.

Instants, dates and whole numbers of very many digits have no text that can be read back.  A writer that
hands on the parts of a text one after the other stops at the first of them; `written` tells what it has
handed on by then.
-/

namespace ComplianceHistory.Json

open Decimal Text

/-- A code unit as an escape. -/
def codeEscape (n : Nat) : List Char := '\\' :: 'u' :: hex 4 n

/-- A character inside a JSON string. -/
def escapedChar (c : Char) : List Char :=
  if c = '"' ∨ c = '\\' then ['\\', c]
  else if c = '\n' then ['\\', 'n']
  else if c = '\r' then ['\\', 'r']
  else if c = '\t' then ['\\', 't']
  else if c = '\x0c' then ['\\', 'f']
  else if c = '\x08' then ['\\', 'b']
  else if ' ' ≤ c ∧ c ≤ '~' then [c]
  else if c.toNat < 0x10000 then codeEscape c.toNat
  else
    let n := c.toNat - 0x10000
    codeEscape (0xD800 + n / 0x400) ++ codeEscape (0xDC00 + n % 0x400)

/-- A JSON string. -/
def stringText (s : String) : List Char := '"' :: (s.toList.flatMap escapedChar ++ ['"'])

/-- How a text is laid out: on one line, or with one more copy of an indent on each level. -/
abbrev Layout := Option (List Char)

/-- A layout that indents by a number of blanks. -/
def Layout.blanks (n : Int) : Layout := some (List.replicate n.toNat ' ')

/-- What stands in front of the first item of a level and after its last one. -/
def Layout.break (l : Layout) (level : Nat) : List Char :=
  match l with
  | none => []
  | some indent => '\n' :: (List.replicate level indent).flatten

/-- What stands between two items of a level. -/
def Layout.separator (l : Layout) (level : Nat) : List Char :=
  match l with
  | none => [',', ' ']
  | some _ => ',' :: l.break level

mutual

/-- The text of a value on a level. -/
def render (l : Layout) (level : Nat) : Value → List Char
  | .null => "null".toList
  | .bool true => "true".toList
  | .bool false => "false".toList
  | .int n => (toString n).toList
  | .float x => (floatText .json x).toList
  | .string s => stringText s
  | .moment t => stringText t.text
  | .date t => stringText t
  | .array [] => ['[', ']']
  | .array (x :: xs) =>
    '[' :: (l.break (level + 1) ++ render l (level + 1) x ++ renderItems l (level + 1) xs ++
      l.break level ++ [']'])
  | .object [] => ['\x7b', '\x7d']
  | .object (f :: fs) =>
    '\x7b' :: (l.break (level + 1) ++ renderMember l (level + 1) f ++ renderMembers l (level + 1) fs ++
      l.break level ++ ['\x7d'])

/-- The texts of further items, each after its separator. -/
def renderItems (l : Layout) (level : Nat) : List Value → List Char
  | [] => []
  | x :: xs => l.separator level ++ render l level x ++ renderItems l level xs

/-- The text of a member. -/
def renderMember (l : Layout) (level : Nat) : String × Value → List Char
  | (k, x) => stringText k ++ [':', ' '] ++ render l level x

/-- The texts of further members, each after its separator. -/
def renderMembers (l : Layout) (level : Nat) : List (String × Value) → List Char
  | [] => []
  | f :: fs => l.separator level ++ renderMember l level f ++ renderMembers l level fs

end

/-- The text of a value. -/
def write (l : Layout) (v : Value) : String := String.ofList (render l 0 v)

/-- Why a value has no text. -/
inductive WriteError where
  | tooManyDigits
  | noText (kind : String)
deriving DecidableEq, Repr

/-- The wording of a failed writing; a value of a kind without texts has none. -/
def WriteError.message? : WriteError → Option String
  | tooManyDigits => some ("Exceeds the limit (" ++ toString maxDigits ++
      " digits) for integer string conversion; use sys.set_int_max_str_digits() to increase the limit")
  | noText _ => none

/-- What is written of a value, and what the writing stopped at, if it did. -/
structure Written where
  text : List Char
  stop : Option WriteError

namespace Written

/-- A text that is written as a whole. -/
def whole (cs : List Char) : Written := ⟨cs, none⟩

/-- What is written if more is to follow: nothing does behind a stop. -/
def append (w more : Written) : Written :=
  match w.stop with
  | none => ⟨w.text ++ more.text, more.stop⟩
  | some _ => w

/-- What is written of an item behind its front; a whole number is one part with it. -/
def behind (front : List Char) (item : Value) (w : Written) : Written :=
  match item, w.stop with
  | .int _, some e => ⟨[], some e⟩
  | _, _ => (whole front).append w

end Written

mutual

/-- What is written of a value on a level; it ends before the first value without a text. -/
def written (l : Layout) (level : Nat) : Value → Written
  | .int n => if (Nat.toDigits 10 n.natAbs).length > maxDigits then ⟨[], some .tooManyDigits⟩
    else .whole (toString n).toList
  | .moment t => ⟨[], some (.noText (Value.moment t).kindName)⟩
  | .date t => ⟨[], some (.noText (Value.date t).kindName)⟩
  | .array (x :: xs) =>
    (((written l (level + 1) x).behind ('[' :: l.break (level + 1)) x).append
      (writtenItems l (level + 1) xs)).append (.whole (l.break level ++ [']']))
  | .object (f :: fs) =>
    (((Written.whole ('\x7b' :: l.break (level + 1))).append (writtenMember l (level + 1) f)).append
      (writtenMembers l (level + 1) fs)).append (.whole (l.break level ++ ['\x7d']))
  | v => .whole (render l level v)

/-- What is written of further items. -/
def writtenItems (l : Layout) (level : Nat) : List Value → Written
  | [] => .whole []
  | x :: xs => ((written l level x).behind (l.separator level) x).append (writtenItems l level xs)

/-- What is written of a member. -/
def writtenMember (l : Layout) (level : Nat) : String × Value → Written
  | (k, x) => (Written.whole (stringText k ++ [':', ' '])).append (written l level x)

/-- What is written of further members. -/
def writtenMembers (l : Layout) (level : Nat) : List (String × Value) → Written
  | [] => .whole []
  | f :: fs => ((Written.whole (l.separator level)).append (writtenMember l level f)).append
      (writtenMembers l level fs)

end

end ComplianceHistory.Json
