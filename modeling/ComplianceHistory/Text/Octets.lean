/-!
# Octets of texts

Octets are read as UTF-8.  Where they are none, the longest start of a character that they hold, or else
a single octet, is replaced by the replacement character.
-/

namespace ComplianceHistory.Text

/-- The octets of a text. -/
def octets (cs : List Char) : List UInt8 := cs.flatMap String.utf8EncodeChar

/-- What a first octet asks for: how many octets follow, and the least and greatest of the next one. -/
structure Lead where
  following : Nat
  least : UInt8
  greatest : UInt8

/-- What an octet asks for as the first one of a character of several octets. -/
def lead? (b : UInt8) : Option Lead :=
  if b < 0xC2 then none
  else if b < 0xE0 then some ⟨1, 0x80, 0xBF⟩
  else if b = 0xE0 then some ⟨2, 0xA0, 0xBF⟩
  else if b = 0xED then some ⟨2, 0x80, 0x9F⟩
  else if b < 0xF0 then some ⟨2, 0x80, 0xBF⟩
  else if b = 0xF0 then some ⟨3, 0x90, 0xBF⟩
  else if b < 0xF4 then some ⟨3, 0x80, 0xBF⟩
  else if b = 0xF4 then some ⟨3, 0x80, 0x8F⟩
  else none

/-- The octets at the start that can follow a first one. -/
def Lead.take (l : Lead) : List UInt8 → List UInt8
  | [] => []
  | b :: bs =>
    if l.least ≤ b && b ≤ l.greatest then
      b :: (bs.take (l.following - 1)).takeWhile fun b => 0x80 ≤ b && b ≤ 0xBF
    else []

/-- The replacement character. -/
def replacement : Char := '\ufffd'

/-- The character of a first octet and all those that follow it. -/
def charOf (l : Lead) (first : UInt8) (rest : List UInt8) : Char :=
  let start := first.toNat % Nat.pow 2 (6 - l.following)
  Char.ofNat (rest.foldl (fun n b => n * 64 + b.toNat % 64) start)

/-- The text of octets. -/
def ofOctets : List UInt8 → List Char
  | [] => []
  | b :: bs =>
    if b < 0x80 then Char.ofNat b.toNat :: ofOctets bs
    else match lead? b with
      | none => replacement :: ofOctets bs
      | some l =>
        let rest := l.take bs
        let c := if rest.length = l.following then charOf l b rest else replacement
        c :: ofOctets (bs.drop rest.length)
termination_by bs => bs.length
decreasing_by
  all_goals simp only [List.length_cons, List.length_drop]
  all_goals omega

example : ofOctets (octets ['é', '日', '😀']) = ['é', '日', '😀'] := by decide +kernel
example : ofOctets [0xE6, 0x97, 0x41, 0xFF] = [replacement, 'A', replacement] := by decide +kernel

end ComplianceHistory.Text
