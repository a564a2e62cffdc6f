/-!
# Blanks and digits

A set of characters is given by inclusive ranges of code points, in ascending order.  Two kinds of
characters of all scripts are told apart, as of version 14 of the Unicode character database.

A blank is a character of the white space property or one of the four information separators.  Texts are
trimmed of blanks, and blanks separate the words of a filter expression.

A decimal digit is a character of one of the runs of ten that have the general category `Nd`; its value
is its place in the run.
-/

namespace ComplianceHistory.Text

/-- Inclusive ranges of code points. -/
abbrev CodeSet := List (Nat × Nat)

/-- Whether a character lies in one of the ranges. -/
def CodeSet.contains (s : CodeSet) (c : Char) : Bool :=
  s.any fun r => r.1 ≤ c.toNat && c.toNat ≤ r.2

/-! ### Blanks -/

/-- The blank code points. -/
def blanks : CodeSet := [
  (0x0009, 0x000D), (0x001C, 0x0020), (0x0085, 0x0085), (0x00A0, 0x00A0), (0x1680, 0x1680),
  (0x2000, 0x200A), (0x2028, 0x2029), (0x202F, 0x202F), (0x205F, 0x205F), (0x3000, 0x3000)]

/-- Whether a character is blank. -/
def isBlank (c : Char) : Bool := blanks.contains c

/-- A text without the blanks at its start. -/
def trimLeft (cs : List Char) : List Char := cs.dropWhile isBlank

/-- A text without the blanks at its two ends. -/
def trim (cs : List Char) : List Char := ((trimLeft cs).reverse.dropWhile isBlank).reverse

theorem trim_blank {cs : List Char} (h : ∀ c ∈ cs, isBlank c = true) : trim cs = [] := by
  have hleft : trimLeft cs = [] := by
    have hall : (cs ++ []).dropWhile isBlank = [].dropWhile isBlank := List.dropWhile_append_of_pos h
    rwa [List.append_nil] at hall
  rw [trim, hleft]
  rfl

/-- The blanks around a text between characters that are not blank are trimmed. -/
theorem trim_between {first last : Char} (hfirst : isBlank first = false) (hlast : isBlank last = false)
    {gap behind : List Char} (hgap : ∀ c ∈ gap, isBlank c = true) (hbehind : ∀ c ∈ behind, isBlank c = true)
    (middle : List Char) :
    trim (gap ++ (first :: (middle ++ [last]) ++ behind)) = first :: (middle ++ [last]) := by
  have hleft : trimLeft (gap ++ (first :: (middle ++ [last]) ++ behind)) = first :: (middle ++ [last]) ++ behind := by
    rw [trimLeft, List.dropWhile_append_of_pos hgap]
    simp [hfirst]
  have hreversed : ∀ c ∈ behind.reverse, isBlank c = true := fun c hc => hbehind c (List.mem_reverse.mp hc)
  rw [trim, hleft, List.reverse_append, List.dropWhile_append_of_pos hreversed]
  simp [hlast]

/-- A text between characters that are not blank stays as it is. -/
theorem trim_of_ends {first last : Char} (hfirst : isBlank first = false) (hlast : isBlank last = false)
    (middle : List Char) : trim (first :: (middle ++ [last])) = first :: (middle ++ [last]) := by
  have hnone : ∀ c ∈ ([] : List Char), isBlank c = true := List.forall_mem_nil _
  simpa using trim_between hfirst hlast hnone hnone middle

example : isBlank '\u200b' = false := by decide

/-! ### Decimal digits -/

/-- The code points of the zeros; each starts a run of ten digits. -/
def digitZeros : List Nat := [
  0x0030, 0x0660, 0x06F0, 0x07C0, 0x0966, 0x09E6, 0x0A66, 0x0AE6, 0x0B66, 0x0BE6, 0x0C66, 0x0CE6,
  0x0D66, 0x0DE6, 0x0E50, 0x0ED0, 0x0F20, 0x1040, 0x1090, 0x17E0, 0x1810, 0x1946, 0x19D0, 0x1A80,
  0x1A90, 0x1B50, 0x1BB0, 0x1C40, 0x1C50, 0xA620, 0xA8D0, 0xA900, 0xA9D0, 0xA9F0, 0xAA50, 0xABF0,
  0xFF10, 0x104A0, 0x10D30, 0x11066, 0x110F0, 0x11136, 0x111D0, 0x112F0, 0x11450, 0x114D0,
  0x11650, 0x116C0, 0x11730, 0x118E0, 0x11950, 0x11C50, 0x11D50, 0x11DA0, 0x16A60, 0x16AC0,
  0x16B50, 0x1D7CE, 0x1D7D8, 0x1D7E2, 0x1D7EC, 0x1D7F6, 0x1E140, 0x1E2F0, 0x1E950, 0x1FBF0]

/-- The value of a decimal digit of any script. -/
def digitValue? (c : Char) : Option Nat :=
  (digitZeros.find? fun z => z ≤ c.toNat && c.toNat < z + 10).map (c.toNat - ·)

example : digitValue? '7' = some 7 := by decide
example : digitValue? 'x' = none := by decide

end ComplianceHistory.Text
