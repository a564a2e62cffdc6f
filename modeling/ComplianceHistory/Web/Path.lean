import ComplianceHistory.Json.Reader
import ComplianceHistory.Text.Octets

/-!
# Paths of requests

A path ends where a query or a fragment starts.  Its parts for the same and the upper level are resolved
first, which clients do before they send a request; then octets that are written as two hexadecimal digits
after a percent sign are put in place.
-/

namespace ComplianceHistory.Web

/-- The path without a query and a fragment. -/
def bare (cs : List Char) : List Char := cs.takeWhile fun c => c ≠ '?' && c ≠ '#'

/-- The parts of a text between slashes. -/
def parts : List Char → List (List Char)
  | [] => [[]]
  | c :: cs => if c = '/' then [] :: parts cs
    else match parts cs with
      | [] => [[c]]
      | part :: rest => (c :: part) :: rest

/-- Parts with those for the same and the upper level resolved; `before` are the parts behind, in reverse. -/
def resolve (before : List (List Char)) : List (List Char) → List (List Char)
  | [] => before.reverse
  | ['.'] :: rest => resolve before rest
  | ['.', '.'] :: rest => resolve (if before = [[]] then before else before.tail) rest
  | part :: rest => resolve (part :: before) rest

/-- The octets of a text, with percent signs and two digits read as one octet. -/
def percentOctets : List Char → List UInt8
  | [] => []
  | '%' :: a :: b :: cs => match Json.hexValue? a, Json.hexValue? b with
    | some x, some y => UInt8.ofNat (x * 16 + y) :: percentOctets cs
    | _, _ => 0x25 :: percentOctets (a :: b :: cs)
  | c :: cs => String.utf8EncodeChar c ++ percentOctets cs

/-- The decoded path of a request. -/
def decodedPath (cs : List Char) : List Char :=
  Text.ofOctets (percentOctets (List.intercalate ['/'] (resolve [] (parts (bare cs)))))

/-- The path without slashes at its end, if it has some and something before them. -/
def withoutSlash? (path : List Char) : Option (List Char) :=
  let short := (path.reverse.dropWhile (· = '/')).reverse
  if short.isEmpty || short.length = path.length then none else some short

example : decodedPath "/a%20b/%C3%A9?x=1".toList = "/a b/é".toList := by decide +kernel
example : decodedPath "/a/./b/../c".toList = "/a/c".toList := by decide +kernel

end ComplianceHistory.Web
