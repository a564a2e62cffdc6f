/-!
# Floating-point numbers as integers times powers of two

A finite double is `± mantissa · 2 ^ exponent`, read off its bits.  Everything exact that is said about
doubles (their shortest decimal text, comparison with integers, splitting into whole and fraction) is
said about this form.
-/

namespace ComplianceHistory.Decimal

/-- The number `± mantissa · 2 ^ exponent`. -/
structure Binary where
  negative : Bool
  mantissa : Nat
  exponent : Int
deriving DecidableEq, Repr

namespace Binary

/-- The exact value of a finite double; infinities and the non-numbers have none. -/
def ofFloat? (x : Float) : Option Binary :=
  let bits : Nat := x.toBits.toNat
  let biased : Nat := bits / 0x10000000000000 % 0x800
  let fraction : Nat := bits % 0x10000000000000
  if biased = 2047 then none
  else if biased = 0 then some ⟨bits ≥ 0x8000000000000000, fraction, -1074⟩
  else some ⟨bits ≥ 0x8000000000000000, fraction + 0x10000000000000, (biased : Int) - 1075⟩

/-- The magnitude as a fraction of two natural numbers. -/
def ratio (b : Binary) : Nat × Nat :=
  (b.mantissa * Nat.pow 2 b.exponent.toNat, Nat.pow 2 (-b.exponent).toNat)

/-- The whole part of the magnitude. -/
def wholeNat (b : Binary) : Nat := b.ratio.1 / b.ratio.2

/-- The number without its fraction, toward zero. -/
def truncate (b : Binary) : Int := if b.negative then -b.wholeNat else b.wholeNat

/-- The nearest integer; of two equally near ones the even one. -/
def roundEven (b : Binary) : Int :=
  let (num, den) := b.ratio
  let q := num / den
  let twice := 2 * (num % den)
  let n := if twice < den ∨ twice = den ∧ q % 2 = 0 then q else q + 1
  if b.negative then -n else n

/-- Whether the number is the given integer. -/
def isInt (b : Binary) (n : Int) : Bool :=
  b.ratio.1 % b.ratio.2 == 0 && b.truncate == n

end Binary

end ComplianceHistory.Decimal
