import ComplianceHistory.Decimal.Shortest
import ComplianceHistory.Text.Classes
import ComplianceHistory.Text.Quoted

/-!
# Numbers written in text

Digits are read to natural numbers, digits with an exponent to the nearest double.  The free-standing
numerals of configurations and options may have blanks around them, a sign, digits of any script, and
single underscores between digits.
-/

namespace ComplianceHistory.Decimal

open Text

/-- The number that decimal digits spell. -/
def natOf (ds : List Char) : Nat := ds.foldl (fun n c => n * 10 + (c.toNat - '0'.toNat)) 0

theorem foldl_digits (cs : List Char) (a : Nat) :
    cs.foldl (fun a c => a * 10 + (c.toNat - '0'.toNat)) a = Nat.ofDigitChars 10 cs a := by
  rw [Nat.ofDigitChars_eq_foldl]
  congr 1
  funext a c
  rw [Nat.mul_comm]

/-- The digits of a number spell it. -/
theorem natOf_toDigits (n : Nat) : natOf (Nat.toDigits 10 n) = n := by
  rw [natOf, foldl_digits, Nat.ofDigitChars_ten_toDigits]

/-- A number has no more digits than were read. -/
theorem natOf_lt {ds : List Char} (h : ∀ c ∈ ds, c.isDigit = true) : natOf ds < Nat.pow 10 ds.length := by
  suffices hfrom : ∀ a, ds.foldl (fun n c => n * 10 + (c.toNat - '0'.toNat)) a < (a + 1) * Nat.pow 10 ds.length by
    have hzero := hfrom 0
    rwa [Nat.zero_add, Nat.one_mul] at hzero
  induction ds with
  | nil =>
    intro a
    rw [List.foldl_nil, List.length_nil]
    exact Nat.lt_of_lt_of_eq (Nat.lt_succ_self a) (Nat.mul_one _).symm
  | cons c ds ih =>
    intro a
    have hc : c.toNat - '0'.toNat ≤ 9 := by
      have hdigit := h c List.mem_cons_self
      simp only [Char.isDigit, Bool.and_eq_true, decide_eq_true_eq, ge_iff_le, UInt32.le_iff_toNat_le] at hdigit
      have hle : c.toNat ≤ 57 := hdigit.2
      show c.toNat - 48 ≤ 9
      omega
    calc ds.foldl (fun n c => n * 10 + (c.toNat - '0'.toNat)) (a * 10 + (c.toNat - '0'.toNat))
        < (a * 10 + (c.toNat - '0'.toNat) + 1) * Nat.pow 10 ds.length :=
          ih (fun d hd => h d (List.mem_cons_of_mem c hd)) _
      _ ≤ ((a + 1) * 10) * Nat.pow 10 ds.length := Nat.mul_le_mul_right _ (by omega)
      _ = (a + 1) * Nat.pow 10 (c :: ds).length := by
        rw [Nat.mul_assoc, Nat.mul_comm 10]
        rfl

theorem length_toDigits_natOf {ds : List Char} {k : Nat} (h : ∀ c ∈ ds, c.isDigit = true) (hk : 0 < k)
    (hlength : ds.length ≤ k) : (Nat.toDigits 10 (natOf ds)).length ≤ k :=
  (Nat.length_toDigits_le_iff (by decide) hk).mpr
    (Nat.lt_of_lt_of_le (natOf_lt h) (Nat.pow_le_pow_right (by decide) hlength))

/-- The double nearest to `m · 10 ^ e`. -/
def scaled (m : Nat) (e : Int) : Float :=
  if m = 0 then 0
  else if digitCount m + e > 400 then 1 / 0
  else if digitCount m + e < -400 then 0
  else Float.ofScientific m (e < 0) e.natAbs

/-- The double nearest to digits with a point after the first ones and an exponent. -/
def floatOf (negative : Bool) (whole fraction : List Char) (exponent : Int) : Float :=
  let x := scaled (natOf (whole ++ fraction)) (exponent - fraction.length)
  if negative then -x else x

/-- Whole numbers of more digits than this are not converted. -/
def maxDigits : Nat := 4300

/-- Why a text or number was not converted. -/
inductive NumeralError where
  | notWhole (text : String)
  | notNumber (text : String)
  | tooManyDigits (count : Nat)
  | wholeOfNotANumber
  | wholeOfInfinity
  | floatOverflow
deriving DecidableEq, Repr

/-- The wording of a failed conversion; an unreadable whole number is shown cut to 200 characters. -/
def NumeralError.message : NumeralError → String
  | notWhole s => "invalid literal for int() with base 10: " ++ String.ofList ((quoted s).toList.take 200)
  | notNumber s => "could not convert string to float: " ++ quoted s
  | tooManyDigits n => "Exceeds the limit (" ++ toString maxDigits ++
      " digits) for integer string conversion: value has " ++ toString n ++
      " digits; use sys.set_int_max_str_digits() to increase the limit"
  | wholeOfNotANumber => "cannot convert float NaN to integer"
  | wholeOfInfinity => "cannot convert float infinity to integer"
  | floatOverflow => "int too large to convert to float"

/-- Blanks around a numeral: the blank characters but the information separators. -/
def isNumeralBlank (c : Char) : Bool := isBlank c && !(0x1C ≤ c.toNat && c.toNat ≤ 0x1F)

/-- A numeral without the blanks around it, its digits of other scripts replaced by `0` to `9`. -/
def plainNumeral (s : String) : List Char :=
  let cs := s.toList.map fun c =>
    if c.toNat < 127 then c else ((digitValue? c).map fun d => Char.ofNat ('0'.toNat + d)).getD c
  ((cs.dropWhile isNumeralBlank).reverse.dropWhile isNumeralBlank).reverse

/-- A sign, if there is one: whether it is a minus, and what follows. -/
def takeSign : List Char → Bool × List Char
  | '-' :: cs => (true, cs)
  | '+' :: cs => (false, cs)
  | cs => (false, cs)

/-- The text without underscores, if each of them stands between two digits. -/
def dropUnderscores (afterDigit : Bool) : List Char → Option (List Char)
  | [] => some []
  | '_' :: cs => match cs with
    | c :: _ => if afterDigit && c.isDigit then dropUnderscores false cs else none
    | [] => none
  | c :: cs => (dropUnderscores c.isDigit cs).map (c :: ·)

/-- Reads a whole number; too many digits are told before what may follow them. -/
def readInt (s : String) : Except NumeralError Int :=
  let (negative, body) := takeSign (plainNumeral s)
  let run := body.takeWhile fun c => c.isDigit || c = '_'
  match dropUnderscores false run with
  | some (d :: ds) =>
    if ds.length + 1 > maxDigits then .error (.tooManyDigits (ds.length + 1))
    else if run.length < body.length then .error (.notWhole s)
    else .ok (if negative then -natOf (d :: ds) else natOf (d :: ds))
  | _ => .error (.notWhole s)

/-- The exponent part of a numeral, which must be all that is left. -/
def readExponent : List Char → Option Int
  | [] => some 0
  | c :: cs =>
    if c = 'e' ∨ c = 'E' then
      let (negative, ds) := takeSign cs
      if ds.isEmpty || !ds.all Char.isDigit then none
      else some (if negative then -natOf ds else natOf ds)
    else none

/-- An unsigned number with an optional fraction and exponent. -/
def readUnsigned (negative : Bool) (cs : List Char) : Option Float :=
  let (whole, rest) := cs.span Char.isDigit
  let (fraction, rest) := match rest with
    | '.' :: r => r.span Char.isDigit
    | r => ([], r)
  if whole.isEmpty && fraction.isEmpty then none
  else (readExponent rest).map (floatOf negative whole fraction)

/-- Reads a floating-point number, or one of the words for infinity and the non-number. -/
def readFloat (s : String) : Except NumeralError Float :=
  let read := do
    let cs ← dropUnderscores false (plainNumeral s)
    let (negative, body) := takeSign cs
    let word := body.map Char.toLower
    if word = "inf".toList ∨ word = "infinity".toList then
      some (if negative then -(1 / 0) else 1 / 0)
    else if word = "nan".toList then some (0 / 0)
    else readUnsigned negative body
  match read with
  | some x => .ok x
  | none => .error (.notNumber s)

/-- The double nearest to an integer, which must not be beyond all doubles. -/
def floatOfInt (n : Int) : Except NumeralError Float :=
  let x := scaled n.natAbs 0
  if x.isInf then .error .floatOverflow else .ok (if n < 0 then -x else x)

/-- The whole part of a double. -/
def truncate (x : Float) : Except NumeralError Int :=
  match Binary.ofFloat? x with
  | some b => .ok b.truncate
  | none => .error (if x.isNaN then .wholeOfNotANumber else .wholeOfInfinity)

end ComplianceHistory.Decimal
