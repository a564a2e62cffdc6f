import ComplianceHistory.Decimal.Shortest

/-!
# The text of floating-point numbers

A number is written positionally, with at least one digit after the point, while the point stands close
to its digits, and else with an exponent of at least two digits.  What differs between outputs is
gathered in a `FloatStyle`.
-/

namespace ComplianceHistory.Decimal

/-- How floating-point numbers are written. -/
structure FloatStyle where
  notANumber : String
  infinity : String
  negativeInfinity : String
  /-- How many digits are kept; none for as few as read back. -/
  digits : Option Nat
  /-- Up to which place of the point a number is written positionally. -/
  positionalTo : Int
  /-- Whether a single digit in front of an exponent has a point and a zero behind it. -/
  pointAlways : Bool
  /-- Whether the negative zero shows its sign. -/
  signedZero : Bool

/-- The style of values shown in messages and fields. -/
def FloatStyle.plain : FloatStyle := ⟨"nan", "inf", "-inf", none, 16, false, true⟩

/-- The style of JSON texts. -/
def FloatStyle.json : FloatStyle := ⟨"NaN", "Infinity", "-Infinity", none, 16, false, true⟩

/-- The style of numbers kept in the text columns of a database.  The digits here are those of the number itself; an
engine that rounds what it has rounded before may come to another last digit. -/
def FloatStyle.column : FloatStyle := ⟨"", "Inf", "-Inf", some 15, 15, true, false⟩

/-- Digits with a point at the given place, and a zero where a side would be empty. -/
def Digits.positional (d : Digits) : List Char :=
  if d.point ≤ 0 then '0' :: '.' :: (List.replicate (-d.point).toNat '0' ++ d.digits)
  else
    let p := d.point.toNat
    let whole := d.digits.take p ++ List.replicate (p - d.digits.length) '0'
    let rest := d.digits.drop p
    whole ++ '.' :: (if rest.isEmpty then ['0'] else rest)

/-- One digit before the point and an exponent. -/
def Digits.scientific (pointAlways : Bool) (d : Digits) : List Char :=
  let e := d.point - 1
  let es := Nat.toDigits 10 e.natAbs
  let fraction := if d.digits.length ≤ 1 then (if pointAlways then ['.', '0'] else [])
    else '.' :: d.digits.drop 1
  d.digits.take 1 ++ fraction ++ 'e' :: (if e < 0 then '-' else '+') ::
    (List.replicate (2 - es.length) '0' ++ es)

/-- Positional from `10 ^ -4` on up to the bound of the style, else with an exponent. -/
def Digits.text (style : FloatStyle) (d : Digits) : List Char :=
  if -4 < d.point ∧ d.point ≤ style.positionalTo then d.positional
  else d.scientific style.pointAlways

/-- The digits of a positive number that a style shows. -/
def FloatStyle.decimal (style : FloatStyle) (b : Binary) : Digits :=
  match style.digits with
  | none => b.shortest
  | some n => b.rounded n

/-- The text of a floating-point number. -/
def floatText (style : FloatStyle) (x : Float) : String :=
  match Binary.ofFloat? x with
  | none => if x.isNaN then style.notANumber
    else if x < 0 then style.negativeInfinity else style.infinity
  | some b =>
    if b.mantissa = 0 then (if b.negative && style.signedZero then "-0.0" else "0.0")
    else
      let body := (style.decimal b).text style
      String.ofList (if b.negative then '-' :: body else body)

example : floatText .plain 0.1 = "0.1" := by decide +kernel
example : floatText .column 1e22 = "1.0e+22" := by decide +kernel

end ComplianceHistory.Decimal
