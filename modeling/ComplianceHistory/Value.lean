import ComplianceHistory.Entries
import ComplianceHistory.Decimal.FloatText
import ComplianceHistory.Text.Quoted
import ComplianceHistory.Time.Instant

/-!
# Values of documents

Documents, configurations and query objects are trees of values.  Whole and floating-point numbers are
told apart; the members of an object keep their order.  Two kinds of values have no text in a document:
the instants of records, and the dates of a configuration, which are known by their text.

The file holds the text of a value in messages and fields (`display`), its name of kind, which values
count as absent (`isTruthy`), and equality of values (`same`).
-/

namespace ComplianceHistory

/-- A value of a document or configuration. -/
inductive Value where
  | null
  | bool (b : Bool)
  | int (n : Int)
  | float (x : Float)
  | string (s : String)
  | array (xs : List Value)
  | object (fields : List (String × Value))
  | moment (t : Time.Instant)
  /-- A date of a configuration, by its text. -/
  | date (text : String)
deriving Inhabited

/-- How a value was used although its kind does not allow that. -/
inductive Misuse where
  /-- A member was asked of a value that is no object. -/
  | noMembers
  /-- A value took part in an operation that its kind does not have. -/
  | wrongKind
deriving DecidableEq, Repr

namespace Value

open Text Decimal

/-- The name of a value's kind. -/
def kindName : Value → String
  | null => "NoneType"
  | bool _ => "bool"
  | int _ => "int"
  | float _ => "float"
  | string _ => "str"
  | array _ => "list"
  | object _ => "dict"
  | moment _ => "datetime"
  | date _ => "date"

/-- Whether a value counts as given: not null, false, zero or empty. -/
def isTruthy : Value → Bool
  | null => false
  | bool b => b
  | int n => n != 0
  | float x => x != 0
  | string s => s != ""
  | array xs => !xs.isEmpty
  | object fs => !fs.isEmpty
  | moment _ | date _ => true

/-- Texts with a comma and a space between them. -/
def joinComma : List String → String := String.intercalate ", "

mutual

/-- The text of a value inside a list, an object or a message: strings are quoted. -/
def inspect : Value → String
  | null => "None"
  | bool true => "True"
  | bool false => "False"
  | int n => toString n
  | float x => floatText .plain x
  | string s => quoted s
  | array xs => "[" ++ joinComma (inspectAll xs) ++ "]"
  | object fs => "\x7b" ++ joinComma (inspectFields fs) ++ "\x7d"
  | moment t => t.text
  | date t => t

/-- The texts of the values of a list. -/
def inspectAll : List Value → List String
  | [] => []
  | x :: xs => inspect x :: inspectAll xs

/-- The texts of the members of an object. -/
def inspectFields : List (String × Value) → List String
  | [] => []
  | (k, x) :: fs => (quoted k ++ ": " ++ inspect x) :: inspectFields fs

end

/-- The text of a value as a field: a string stands for itself. -/
def display : Value → String
  | string s => s
  | v => inspect v

/-- The number a value counts as: true is one and false is zero. -/
def asInt? : Value → Option Int
  | bool b => some (if b then 1 else 0)
  | int n => some n
  | _ => none

/-- Equality of two floating-point numbers or of one and an integer. -/
def sameNumber (x : Float) : Value → Bool
  | float y => x == y
  | v => match v.asInt?, Binary.ofFloat? x with
    | some n, some b => b.isInt n
    | _, _ => false

mutual

/--
Equality of values: numbers and truth values by their number, lists by their items in order, objects by
their members in any order.
-/
def same : Value → Value → Bool
  | null, null => true
  | bool b, v => match v with
    | float x => sameNumber x (bool b)
    | _ => v.asInt? == some (if b then 1 else 0)
  | int n, v => match v with
    | float x => sameNumber x (int n)
    | _ => v.asInt? == some n
  | float x, v => sameNumber x v
  | string s, string t => s == t
  | array xs, array ys => sameAll xs ys
  | object fs, object gs => fs.length == gs.length && sameFields fs gs
  | moment t, moment u => t == u
  | date s, date t => s == t
  | _, _ => false

/-- Equality of lists of values. -/
def sameAll : List Value → List Value → Bool
  | [], [] => true
  | x :: xs, y :: ys => same x y && sameAll xs ys
  | _, _ => false

/-- Whether every member of the first list is in the second one, with an equal value. -/
def sameFields : List (String × Value) → List (String × Value) → Bool
  | [], _ => true
  | (k, x) :: fs, gs => (match gs.lookup k with
      | some y => same x y
      | none => false) && sameFields fs gs

end

/-- The member of an object, or null if there is none. -/
def member (fields : Entries Value) (name : String) : Value := (fields.get? name).getD null

/-- The members of an object. -/
def fields : Value → Except Misuse (Entries Value)
  | object fs => .ok fs
  | _ => .error .noMembers

/-- Whether a value can be a key: lists and objects cannot. -/
def isKey : Value → Bool
  | array _ | object _ => false
  | _ => true

end Value

end ComplianceHistory
