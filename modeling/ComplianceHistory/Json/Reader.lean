import ComplianceHistory.Decimal.Numeral
import ComplianceHistory.Value

/-!
# Reading JSON texts

A reader takes what is left of the text and gives a value and what is left after it.  A fault is
reported where it was met, as the number of characters from there to the end, so that the readers need
no positions; the line, column and offset are worked out at the end.  Besides the standard's values the
words `NaN`, `Infinity` and `-Infinity` are read.  Of members with one name the last one counts, at the
place of the first.  Half of a pair of code units may be escaped without its other half; it is read as
the character that stands for it (`Text.standIn`).
-/

namespace ComplianceHistory.Json

open Decimal Text

/-- What a reader met that it could not go on with. -/
inductive Fault where
  | expectedValue
  | expectedName
  | expectedColon
  | expectedComma
  | unterminatedString
  | controlCharacter
  | badEscape
  | badCodeEscape
  | extraData
  | byteOrderMark
deriving DecidableEq, Repr

/-- The wording of a fault. -/
def Fault.message : Fault → String
  | expectedValue => "Expecting value"
  | expectedName => "Expecting property name enclosed in double quotes"
  | expectedColon => "Expecting ':' delimiter"
  | expectedComma => "Expecting ',' delimiter"
  | unterminatedString => "Unterminated string starting at"
  | controlCharacter => "Invalid control character at"
  | badEscape => "Invalid \\escape"
  | badCodeEscape => "Invalid \\uXXXX escape"
  | extraData => "Extra data"
  | byteOrderMark => "Unexpected UTF-8 BOM (decode using utf-8-sig)"

/-- A fault with the number of characters from it to the end, or a number of too many digits. -/
inductive Stop where
  | fault (what : Fault) (remaining : Nat)
  | tooManyDigits (count : Nat)
deriving DecidableEq, Repr

/-- White space between the tokens of a JSON text. -/
def isSpace (c : Char) : Bool := c = ' ' || c = '\t' || c = '\n' || c = '\r'

/-- The text after the white space at its start. -/
def skipSpace (cs : List Char) : List Char := cs.dropWhile isSpace

/-- The value of a hexadecimal digit. -/
def hexValue? (c : Char) : Option Nat :=
  if c.isDigit then some (c.toNat - '0'.toNat)
  else if 'a' ≤ c ∧ c ≤ 'f' then some (c.toNat - 'a'.toNat + 10)
  else if 'A' ≤ c ∧ c ≤ 'F' then some (c.toNat - 'A'.toNat + 10)
  else none

/-- The code unit that four hexadecimal digits spell. -/
def codeUnit? (a b c d : Char) : Option Nat := do
  return (((← hexValue? a) * 16 + (← hexValue? b)) * 16 + (← hexValue? c)) * 16 + (← hexValue? d)

/-- Whether a code unit is the first half of a pair. -/
def isHighHalf (n : Nat) : Bool := 0xD800 ≤ n && n ≤ 0xDBFF

/-- Whether a code unit is the second half of a pair. -/
def isLowHalf (n : Nat) : Bool := 0xDC00 ≤ n && n ≤ 0xDFFF

/-- The character of a code unit; a half without its other half is no character, and has a stand-in. -/
def charOfUnit (n : Nat) : Char :=
  if isHighHalf n || isLowHalf n then standIn n else Char.ofNat n

/-- The character of a pair of code units. -/
def charOfPair (high low : Nat) : Char := Char.ofNat (0x10000 + (high - 0xD800) * 0x400 + (low - 0xDC00))

/-- The character that a letter after a backslash stands for. -/
def escapeChar? : Char → Option Char
  | '"' => some '"'
  | '\\' => some '\\'
  | '/' => some '/'
  | 'b' => some '\x08'
  | 'f' => some '\x0c'
  | 'n' => some '\n'
  | 'r' => some '\r'
  | 't' => some '\t'
  | _ => none

/-- Puts a character in front of what a string reader read. -/
def prepend (c : Char) :
    Except Stop (List Char × List Char) → Except Stop (List Char × List Char)
  | .ok (cs, rest) => .ok (c :: cs, rest)
  | .error e => .error e

/-- Reads a string after its opening quote; `opening` is the text from that quote on. -/
def stringBody (opening : List Char) : List Char → Except Stop (List Char × List Char)
  | [] => .error (.fault .unterminatedString opening.length)
  | '"' :: rest => .ok ([], rest)
  | ['\\'] => .error (.fault .unterminatedString opening.length)
  | '\\' :: 'u' :: a :: b :: c :: d :: rest =>
    match rest, codeUnit? a b c d with
    | [], _ | _, none => .error (.fault .badCodeEscape (rest.length + 5))
    | '\\' :: 'u' :: e :: f :: g :: h :: x :: more, some n =>
      if isHighHalf n then
        match codeUnit? e f g h with
        | none => .error (.fault .badCodeEscape (more.length + 6))
        | some m =>
          if isLowHalf m then prepend (charOfPair n m) (stringBody opening (x :: more))
          else prepend (charOfUnit n) (stringBody opening ('\\' :: 'u' :: e :: f :: g :: h :: x :: more))
      else prepend (charOfUnit n) (stringBody opening ('\\' :: 'u' :: e :: f :: g :: h :: x :: more))
    | y :: more, some n => prepend (charOfUnit n) (stringBody opening (y :: more))
  | '\\' :: c :: rest =>
    if c = 'u' then .error (.fault .badCodeEscape (rest.length + 1))
    else match escapeChar? c with
      | some e => prepend e (stringBody opening rest)
      | none => .error (.fault .badEscape (rest.length + 2))
  | c :: rest =>
    if c.toNat < 0x20 then .error (.fault .controlCharacter (rest.length + 1))
    else prepend c (stringBody opening rest)

/-- Reads the fraction of a number, if a point with a digit follows. -/
def fraction? : List Char → Option (List Char × List Char)
  | '.' :: cs => match cs.span Char.isDigit with
    | ([], _) => none
    | (ds, rest) => some (ds, rest)
  | _ => none

/-- Reads the exponent of a number, if one with a digit follows. -/
def exponent? : List Char → Option (Int × List Char)
  | c :: cs =>
    if c = 'e' ∨ c = 'E' then
      let (negative, ds) := takeSign cs
      match ds.span Char.isDigit with
      | ([], _) => none
      | (ds, rest) => some ((if negative then -natOf ds else natOf ds), rest)
    else none
  | [] => none

/-- Reads the digits of a number in front of its point; a zero stands alone. -/
def whole? : List Char → Option (List Char × List Char)
  | '0' :: rest => some (['0'], rest)
  | cs => match cs.span Char.isDigit with
    | ([], _) => none
    | (ds, rest) => some (ds, rest)

/-- The number that starts with digits, with what is left after it. -/
def numberOf (negative : Bool) (ds rest : List Char) : Except Stop (Value × List Char) :=
  match fraction? rest, exponent? rest with
  | some (fs, rest), _ =>
    let (e, rest) := (exponent? rest).getD (0, rest)
    .ok (.float (floatOf negative ds fs e), rest)
  | none, some (e, rest) => .ok (.float (floatOf negative ds [] e), rest)
  | none, none =>
    if ds.length > maxDigits then .error (.tooManyDigits ds.length)
    else .ok (.int (if negative then -natOf ds else natOf ds), rest)

/-- Reads a number, of which the sign has been read. -/
def number? (negative : Bool) (cs : List Char) : Option (Except Stop (Value × List Char)) :=
  (whole? cs).map fun (ds, rest) => numberOf negative ds rest

/-- What is left after a word, if the text starts with it. -/
def afterWord? (word : String) (cs : List Char) : Option (List Char) :=
  if word.toList.isPrefixOf cs then some (cs.drop word.length) else none

/-- The words that stand for values. -/
def words : List (String × Value) := [("null", .null), ("true", .bool true), ("false", .bool false),
  ("NaN", .float (0 / 0)), ("Infinity", .float (1 / 0)), ("-Infinity", .float (-(1 / 0)))]

/-- Reads a word that stands for a value. -/
def word? (cs : List Char) : Option (Value × List Char) :=
  words.findSome? fun w => (afterWord? w.1 cs).map (w.2, ·)

/-- Reads a number with its sign. -/
def signed? : List Char → Option (Except Stop (Value × List Char))
  | '-' :: cs => number? true cs
  | cs => number? false cs

/-- Reads a word that stands for a value, or a number. -/
def scalar (cs : List Char) : Except Stop (Value × List Char) :=
  match word? cs with
  | some r => .ok r
  | none => (signed? cs).getD (.error (.fault .expectedValue cs.length))

mutual

/-- Reads a value; the first argument bounds the nesting and the number of items. -/
def value : Nat → List Char → Except Stop (Value × List Char)
  | 0, cs => .error (.fault .expectedValue cs.length)
  | fuel + 1, cs =>
    match cs with
    | '"' :: rest => do
      let (s, rest) ← stringBody cs rest
      return (.string (String.ofList s), rest)
    | '[' :: rest =>
      match skipSpace rest with
      | ']' :: rest => .ok (.array [], rest)
      | rest => do
        let (xs, rest) ← items fuel rest
        return (.array xs, rest)
    | '\x7b' :: rest =>
      match skipSpace rest with
      | '\x7d' :: rest => .ok (.object [], rest)
      | rest => do
        let (fs, rest) ← members fuel rest
        return (.object (Entries.ofList fs), rest)
    | _ => scalar cs

/-- Reads the items of a list up to its closing bracket. -/
def items : Nat → List Char → Except Stop (List Value × List Char)
  | 0, cs => .error (.fault .expectedValue cs.length)
  | fuel + 1, cs => do
    let (x, rest) ← value fuel cs
    match skipSpace rest with
    | ']' :: rest => return ([x], rest)
    | ',' :: rest =>
      let (xs, rest) ← items fuel (skipSpace rest)
      return (x :: xs, rest)
    | rest => .error (.fault .expectedComma rest.length)

/-- Reads the members of an object up to its closing brace. -/
def members : Nat → List Char → Except Stop (List (String × Value) × List Char)
  | 0, cs => .error (.fault .expectedValue cs.length)
  | fuel + 1, cs =>
    match cs with
    | '"' :: rest => do
      let (name, rest) ← stringBody cs rest
      match skipSpace rest with
      | ':' :: rest =>
        let (x, rest) ← value fuel (skipSpace rest)
        match skipSpace rest with
        | '\x7d' :: rest => return ([(String.ofList name, x)], rest)
        | ',' :: rest =>
          let (fs, rest) ← members fuel (skipSpace rest)
          return ((String.ofList name, x) :: fs, rest)
        | rest => .error (.fault .expectedComma rest.length)
      | rest => .error (.fault .expectedColon rest.length)
    | _ => .error (.fault .expectedName cs.length)

end

/-- Why a text is no JSON text. -/
inductive ReadError where
  | malformed (fault : Fault) (line column offset : Nat)
  | tooManyDigits (count : Nat)
deriving DecidableEq, Repr

/-- The wording of a failed reading. -/
def ReadError.message : ReadError → String
  | malformed f line column offset => f.message ++ ": line " ++ toString line ++ " column " ++
      toString column ++ " (char " ++ toString offset ++ ")"
  | tooManyDigits n => (NumeralError.tooManyDigits n).message

/-- A fault with its place in the whole text. -/
def locate (text : List Char) : Stop → ReadError
  | .tooManyDigits n => .tooManyDigits n
  | .fault f remaining =>
    let before := text.take (text.length - remaining)
    let line := before.reverse.takeWhile (· ≠ '\n')
    .malformed f (before.count '\n' + 1) (line.length + 1) before.length

/-- Reads a text that holds one value and nothing else. -/
def read (text : String) : Except ReadError Value :=
  let cs := text.toList
  let result : Except Stop Value :=
    if cs.head? = some '\ufeff' then .error (.fault .byteOrderMark cs.length)
    else do
      let (v, rest) ← value (cs.length + 1) (skipSpace cs)
      match skipSpace rest with
      | [] => return v
      | rest => .error (.fault .extraData rest.length)
  result.mapError (locate cs)

end ComplianceHistory.Json
