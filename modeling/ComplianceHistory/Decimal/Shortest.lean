import ComplianceHistory.Decimal.Binary

/-!
# The shortest decimal that reads back

Of all decimals that a reader rounds to a given double, the ones with the fewest digits are wanted, and
of those the nearest.  For each number of digits the two neighbours of the exact value on that decimal
grid are the only candidates: if any point of the grid reads back, one of them does.

Beside it stands the nearest decimal with a given number of digits.
-/

namespace ComplianceHistory.Decimal

/-- How many decimal digits a natural number has; zero has none. -/
def digitCount (n : Nat) : Nat := if n = 0 then 0 else (Nat.toDigits 10 n).length

/-- Where the decimal point stands: the value lies in `[10 ^ (point - 1), 10 ^ point)`. -/
def pointOf (num den : Nat) : Int :=
  if den ≤ num then digitCount (num / den) else 1 - digitCount ((den - 1) / num)

/-- The decimal `0.digits · 10 ^ point`, whose digits neither start nor end with a zero. -/
structure Digits where
  digits : List Char
  point : Int
deriving DecidableEq, Repr

namespace Binary

/--
The best decimal with `n` digits that reads back as the given positive number, as a multiple of
`10 ^ (point - n)`.  The interval of numbers that read back reaches half way to the two neighbouring
doubles, and the one below is nearer under a power of two.
-/
def candidate? (b : Binary) (point : Int) (n : Nat) : Option Nat :=
  let shift := n - point
  let unit := Nat.pow 2 b.exponent.toNat * Nat.pow 10 shift.toNat
  let den := Nat.pow 2 (-b.exponent).toNat * Nat.pow 10 (-shift).toNat
  let value := 4 * (b.mantissa * unit)
  let below := if b.mantissa = 0x10000000000000 ∧ b.exponent > -1074 then unit else 2 * unit
  let reads := fun d =>
    let x := 4 * (d * den)
    if b.mantissa % 2 = 0 then value - below ≤ x ∧ x ≤ value + 2 * unit
    else value - below < x ∧ x < value + 2 * unit
  let lo := b.mantissa * unit / den
  let hi := lo + 1
  let toLo := value - 4 * (lo * den)
  let toHi := 4 * (hi * den) - value
  match decide (reads lo), decide (reads hi) with
  | true, true => some (if toLo < toHi ∨ toLo = toHi ∧ lo % 2 = 0 then lo else hi)
  | true, false => some lo
  | false, true => some hi
  | false, false => none

/-- The decimal of a multiple of `10 ^ (point - n)`. -/
def decimalOf (point : Int) (n d : Nat) : Digits :=
  let ds := Nat.toDigits 10 d
  ⟨(ds.reverse.dropWhile (· = '0')).reverse, point + ds.length - n⟩

/-- The shortest decimal that reads back as the given positive number. -/
def shortest (b : Binary) : Digits :=
  let point := pointOf b.ratio.1 b.ratio.2
  match (List.range 17).findSome? fun k => (b.candidate? point (k + 1)).map (k + 1, ·) with
  | some (n, d) => decimalOf point n d
  | none => ⟨[], 0⟩

/-- The nearest decimal with `n` digits to the given positive number, a half going up. -/
def rounded (b : Binary) (n : Nat) : Digits :=
  let point := pointOf b.ratio.1 b.ratio.2
  let shift := n - point
  let num := b.ratio.1 * Nat.pow 10 shift.toNat
  let den := b.ratio.2 * Nat.pow 10 (-shift).toNat
  decimalOf point n ((2 * num + den) / (2 * den))

end Binary

end ComplianceHistory.Decimal
