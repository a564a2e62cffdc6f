import ComplianceHistory.Text.Lines
import ComplianceHistory.Time.Iso
import ComplianceHistory.Value
import ComplianceHistory.Yaml.Node

/-!
# Values of YAML texts

The scalars of a text become numbers, truth values, dates and texts by their kinds.  The names of a
mapping's members become texts, the last of equal ones counts, and lists and mappings cannot be names.
A mapping takes the members of others that it merges, unless it has them itself.
-/

namespace ComplianceHistory.Yaml

open Decimal

/-- Why a text is no value. -/
inductive YamlError where
  /-- The text breaks the rules of the format. -/
  | malformed
  /-- A scalar that is said to be a number has no digits of its base. -/
  | notWhole (text : List Char) (base : Nat)
  | numeral (e : NumeralError)
  | date (e : Time.Iso.FieldError)
  /-- A scalar that is said to be a truth value is no such word. -/
  | unknownWord
  /-- A scalar that is said to be a number is empty. -/
  | emptyNumber
deriving DecidableEq, Repr

/-- The wording of a failure, where it has one. -/
def YamlError.message? : YamlError → Option String
  | malformed | unknownWord | emptyNumber => none
  | notWhole cs base => some ("invalid literal for int() with base " ++ toString base ++ ": " ++
      Text.quoted (String.ofList cs))
  | numeral e => some e.message
  | date e => some e.message

/-- The digits that a digit stands for in a base. -/
def digitOf? (base : Nat) (c : Char) : Option Nat :=
  (Json.hexValue? c).filter fun v => v < base

/-- The number of digits in a base. -/
def wholeOf (base : Nat) (cs : List Char) : Except YamlError Int :=
  match cs with
  | [] => .error (.notWhole cs base)
  | _ => match cs.mapM (digitOf? base) with
    | some ds => .ok (ds.foldl (fun n d => n * base + d) 0 : Nat)
    | none => .error (.notWhole cs base)

/-- The number of the parts of a number in sixties. -/
def sixties (parts : List Int) : Int := parts.foldl (fun n p => n * 60 + p) 0

/-- A whole number in base ten, as texts are read. -/
def decimalWhole (cs : List Char) : Except YamlError Int :=
  (readInt (String.ofList cs)).mapError .numeral

/-- The value of a whole number. -/
def wholeValue (text : List Char) : Except YamlError Value := do
  let cs := text.filter (· ≠ '_')
  let body := withoutSign cs
  let n ← match body with
    | [] => .error .emptyNumber
    | ['0'] => .ok 0
    | '0' :: 'b' :: ds => wholeOf 2 ds
    | '0' :: 'x' :: ds => wholeOf 16 ds
    | '0' :: _ => wholeOf 8 body
    | _ =>
      if body.contains ':' then (colonParts body).mapM decimalWhole |>.map sixties
      else decimalWhole body
  return .int (if cs.head? = some '-' then -n else n)

/-- The double of a text. -/
def floatOfText (cs : List Char) : Except YamlError Float :=
  (readFloat (String.ofList cs)).mapError .numeral

/-- The value of a floating-point number. -/
def floatValue (text : List Char) : Except YamlError Value := do
  let cs := (text.filter (· ≠ '_')).map Char.toLower
  let negative := cs.head? = some '-'
  let body := withoutSign cs
  let x ←
    if cs.isEmpty then .error .emptyNumber
    else if body = ".inf".toList then .ok (1 / 0)
    else if body = ".nan".toList then .ok (0 / 0)
    else if body.contains ':' then do
      let parts ← (colonParts body).mapM floatOfText
      pure ((parts.reverse.foldl (fun (sum, base) p => (sum + p * base, base * 60)) ((0.0 : Float), (1.0 : Float))).1)
    else floatOfText body
  return .float (if negative then -x else x)

/-- A number of digits with zeros in front. -/
def pad (width : Nat) (n : Nat) : String := Time.Duration.padded width n

/-- An offset of which hours and minutes are given, in microseconds. -/
def offsetMicros (sign : Char) (hour minute : List Char) : Int :=
  let n : Int := (natOf hour * 60 + natOf minute : Nat) * 60 * Time.microsPerSecond
  if sign = '-' then -n else n

/-- The text of an offset of whole minutes. -/
def offsetText (micros : Int) : String :=
  let minutes := micros.natAbs / 60000000
  (if micros < 0 then "-" else "+") ++ pad 2 (minutes / 60) ++ ":" ++ pad 2 (minutes % 60)

/-- The value of a date, which must be one of the calendar; an offset must be less than a day. -/
def dateValue (text : List Char) : Except YamlError Value :=
  match dateFields? text with
  | none => .error .malformed
  | some f =>
    let (year, month, day) := (natOf f.year, natOf f.month, natOf f.day)
    let ymd := pad 4 year ++ "-" ++ pad 2 month ++ "-" ++ pad 2 day
    match f.time with
    | none =>
      ((Time.Iso.Fields.instant ⟨year, month, day, 0, 0, 0, 0, none⟩).mapError .date).map fun _ => .date ymd
    | some (hour, minute, second, fraction, offset) =>
      let (h, m, s) := (natOf hour, natOf minute, natOf second)
      let micros := natOf ((fraction ++ List.replicate 6 '0').take 6)
      let zone := offset.map fun (sign, oh, om) => offsetMicros sign oh om
      if zone.any fun z => Time.microsPerDay ≤ z.natAbs then .error (.date (.offset (zone.getD 0)))
      else
        ((Time.Iso.Fields.instant ⟨year, month, day, h, m, s, micros, none⟩).mapError .date).map fun _ =>
          .date (ymd ++ " " ++ pad 2 h ++ ":" ++ pad 2 m ++ ":" ++ pad 2 s ++
            Time.Duration.fractionText micros ++ (zone.map offsetText).getD "")

/-- The value of a truth value, in any case. -/
def boolValue (text : List Char) : Except YamlError Value :=
  let word := String.ofList (text.map Char.toLower)
  if trueWords.contains word then .ok (.bool true)
  else if falseWords.contains word then .ok (.bool false)
  else .error .unknownWord

/-- The value of a scalar. -/
def scalarValue (kind : Kind) (text : List Char) : Except YamlError Value :=
  match kind with
  | .null => .ok .null
  | .bool => boolValue text
  | .int => wholeValue text
  | .float => floatValue text
  | .timestamp => dateValue text
  | .text => .ok (.string (String.ofList text))
  | _ => .error .malformed

/-- Whether a node is the name under which mappings are merged. -/
def isMerge : Node → Bool
  | .scalar kind _ | .sequence kind _ | .mapping kind _ => kind = .merge

/-- Members of a mapping, of which the names are values. -/
abbrev Members := List (Value × Value)

/-- The mapping of members. -/
def mappingValue (kind : Kind) (members : Members) : Except YamlError Value :=
  if !members.all fun m => m.1.isKey then .error .malformed
  else
    let fields := Entries.ofList (members.map fun m => (m.1.display, m.2))
    match kind with
    | .mapping => .ok (.object fields)
    | .set => .ok (.array (fields.map fun f => .string f.1))
    | _ => .error .malformed

mutual

/-- The value of a node. -/
def Node.value : Node → Except YamlError Value
  | .scalar kind text => scalarValue kind text
  | .sequence kind items => do
    let vs ← values items
    if kind = .sequence || kind = .pairs then return .array vs else throw .malformed
  | .mapping kind pairs => do
    let (merged, own) ← members pairs
    mappingValue kind (merged ++ own)

/-- The values of nodes. -/
def values : List Node → Except YamlError (List Value)
  | [] => .ok []
  | n :: ns => do
    let v ← n.value
    let vs ← values ns
    return v :: vs

/-- The members that a mapping merges, and its own ones. -/
def members : List (Node × Node) → Except YamlError (Members × Members)
  | [] => .ok ([], [])
  | (k, v) :: pairs =>
    if isMerge k then do
      let more ← merged v
      let (rest, own) ← members pairs
      return (more ++ rest, own)
    else do
      let name ← match k with
        | .scalar .default text => .ok (.string (String.ofList text))
        | k => k.value
      let value ← v.value
      let (rest, own) ← members pairs
      return (rest, (name, value) :: own)

/-- The members of a mapping or a list of mappings that is merged; of a list the first ones count. -/
def merged : Node → Except YamlError Members
  | .mapping _ pairs => (members pairs).map fun (a, b) => a ++ b
  | .sequence _ items => mergedAll items
  | .scalar _ _ => .error .malformed

/-- The members of mappings that are merged, the last ones in front. -/
def mergedAll : List Node → Except YamlError Members
  | [] => .ok []
  | .mapping _ pairs :: ns => do
    let (a, b) ← members pairs
    let rest ← mergedAll ns
    return rest ++ (a ++ b)
  | _ :: _ => .error .malformed

end

/-- Reads the value of a text; one without a document is null. -/
def read (text : String) : Except YamlError Value :=
  match tokens? (Text.plainLines text.toList) with
  | none => .error .malformed
  | some ts => match node? ts with
    | none => .error .malformed
    | some none => .ok .null
    | some (some n) => n.value

end ComplianceHistory.Yaml
