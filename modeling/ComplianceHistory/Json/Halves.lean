import ComplianceHistory.Json.Reader
import ComplianceHistory.Json.Writer

/-!
# Halves of pairs

A character beyond the first 65536 is escaped by a pair of code units.  A JSON text may hold a half without its other
half, which is no character; it is read as its stand-in.  The stand-ins are characters as well, though for private use:
what a text was read from tells which of both they are.  A text that is paired (`isPaired`) holds no halves, so that
the characters read from it are themselves.  From a text that is not paired, stand-ins are taken for halves, and
JSON texts are written with these (`withHalves`).
-/

namespace ComplianceHistory.Json

open Text

/-- Whether all halves that are escaped in a JSON text have their other halves. -/
def isPaired : List Char → Bool
  | '\\' :: 'u' :: a :: b :: c :: d :: '\\' :: 'u' :: e :: f :: g :: h :: rest =>
    match codeUnit? a b c d, codeUnit? e f g h with
    | some n, some m =>
      if isHighHalf n && isLowHalf m then isPaired rest
      else !(isHighHalf n || isLowHalf n) && isPaired ('\\' :: 'u' :: e :: f :: g :: h :: rest)
    | _, _ => isPaired ('\\' :: 'u' :: e :: f :: g :: h :: rest)
  | '\\' :: 'u' :: a :: b :: c :: d :: rest =>
    !((codeUnit? a b c d).any fun n => isHighHalf n || isLowHalf n) && isPaired rest
  | '\\' :: _ :: rest => isPaired rest
  | _ :: rest => isPaired rest
  | [] => true

/-- The half that two escapes of code units stand for, if their character does. -/
def halfOfUnits? (a b c d e f g h : Char) : Option Nat := do
  let high ← codeUnit? a b c d
  let low ← codeUnit? e f g h
  if isHighHalf high && isLowHalf low then halfOf? (charOfPair high low) else none

/-- A JSON text with the halves that its stand-ins stand for. -/
def withHalves : List Char → List Char
  | '\\' :: 'u' :: a :: b :: c :: d :: '\\' :: 'u' :: e :: f :: g :: h :: rest =>
    match halfOfUnits? a b c d e f g h with
    | some n => codeEscape n ++ withHalves rest
    | none => '\\' :: 'u' :: a :: b :: c :: d :: withHalves ('\\' :: 'u' :: e :: f :: g :: h :: rest)
  | '\\' :: c :: rest => '\\' :: c :: withHalves rest
  | c :: rest => c :: withHalves rest
  | [] => []

/-- Whether a JSON text holds stand-ins. -/
def hasStandIn (text : List Char) : Bool := withHalves text ≠ text

end ComplianceHistory.Json
