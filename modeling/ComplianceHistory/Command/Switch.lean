import ComplianceHistory.Text.Classes

/-!
# Words of a command line

Switches have long names after two hyphens, most of them also a short one of a letter after a single
hyphen.  A value may be attached to a switch, to a long name after an equals sign, to a short one also
without it.  A long name may be cut short, as long as no other switch begins with what is left.  A lone
pair of hyphens takes the meaning from all hyphens behind it.
-/

namespace ComplianceHistory.Command

/-- The switches. -/
inductive Switch where
  | help
  | mode
  | filterFile
  | expression
  | stream
  | interval
  | anchor
  | now
  | timeout
  | strict
  | config
  | output
  | verbose
deriving DecidableEq, Repr

namespace Switch

/-- All switches, in the order in which they are listed. -/
def all : List Switch := [help, mode, filterFile, expression, stream, interval, anchor, now, timeout,
  strict, config, output, verbose]

/-- The letter of a switch. -/
def letter? : Switch → Option Char
  | help => some 'h'
  | mode => some 'm'
  | filterFile => some 'f'
  | expression => some 'e'
  | stream => some 's'
  | interval => some 'i'
  | config => some 'c'
  | output => some 'o'
  | verbose => some 'v'
  | anchor | now | timeout | strict => none

/-- The long name of a switch, without its hyphens. -/
def longName : Switch → String
  | help => "help"
  | mode => "mode"
  | filterFile => "filter-file"
  | expression => "expression"
  | stream => "stream"
  | interval => "interval"
  | anchor => "anchor"
  | now => "now"
  | timeout => "timeout"
  | strict => "strict"
  | config => "config"
  | output => "output"
  | verbose => "verbose"

/-- Whether a switch has a value. -/
def takesValue : Switch → Bool
  | help | strict | verbose => false
  | _ => true

/-- The names of a switch, as they are told in messages. -/
def title (s : Switch) : String :=
  let long := "--" ++ s.longName
  match s.letter? with
  | none => long
  | some c => String.ofList ['-', c] ++ "/" ++ long

/-- The switch of a letter. -/
def ofLetter? (c : Char) : Option Switch := all.find? fun s => s.letter? = some c

/-- The switches of which the long name begins with some characters. -/
def beginningWith (cs : List Char) : List Switch := all.filter fun s => cs.isPrefixOf s.longName.toList

/-- The switch of a long name. -/
def ofLongName? (cs : List Char) : Option Switch := all.find? fun s => s.longName.toList = cs

end Switch

/-- A value that is attached to a switch. -/
structure Attached where
  /-- Whether an equals sign stands in front of the value. -/
  afterEquals : Bool
  value : List Char
deriving DecidableEq, Repr

/-- The value attached by what follows the name of a switch. -/
def Attached.ofRest? : List Char → Option Attached
  | [] => none
  | '=' :: cs => some ⟨true, cs⟩
  | cs => some ⟨false, cs⟩

/-- The number of characters of an attached value. -/
def Attached.size : Option Attached → Nat
  | none => 0
  | some a => a.value.length

theorem Attached.size_ofRest?_le (cs : List Char) : Attached.size (Attached.ofRest? cs) ≤ cs.length := by
  unfold Attached.ofRest?
  split <;> simp [Attached.size]

/-- A word of a command line. -/
inductive Word where
  | plain (text : String)
  /-- The long name of a switch. -/
  | long (s : Switch) (attached : Option Attached)
  /-- The letter of a switch, behind which there may be more. -/
  | short (s : Switch) (attached : Option Attached)
  /-- A word that begins like a switch. -/
  | unknown (text : String)
  | separator
deriving DecidableEq, Repr

/-- A cut name that more than one switch begins with. -/
structure Ambiguity where
  word : String
  candidates : List Switch
deriving DecidableEq, Repr

/-- Whether characters are the digits of a number, of any script, with at most one point before the last. -/
def isUnsigned (cs : List Char) : Bool :=
  let isDigit := fun c => (Text.digitValue? c).isSome
  match cs.dropWhile isDigit with
  | [] => !cs.isEmpty
  | '.' :: fraction => !fraction.isEmpty && fraction.all isDigit
  | _ => false

/-- Whether characters are those of a number below zero, perhaps at the end of a line. -/
def isNegative : List Char → Bool
  | '-' :: cs => isUnsigned cs || (cs.getLast? = some '\n' && isUnsigned cs.dropLast)
  | _ => false

/-- What a word means that begins like a switch, but names none. -/
def Word.ofOther (cs : List Char) : Word :=
  if isNegative cs || cs.contains ' ' then .plain (String.ofList cs) else .unknown (String.ofList cs)

/-- Reads a word that begins with two hyphens. -/
def Word.ofLong (cs : List Char) : Except Ambiguity Word :=
  let name := cs.takeWhile (· ≠ '=')
  let attached := Attached.ofRest? (cs.drop name.length)
  match Switch.ofLongName? name with
  | some s => .ok (.long s attached)
  | none => match Switch.beginningWith name with
    | [] => .ok (.ofOther ('-' :: '-' :: cs))
    | [s] => .ok (.long s attached)
    | candidates => .error ⟨String.ofList ('-' :: '-' :: cs), candidates⟩

/-- Reads a word. -/
def Word.ofChars : List Char → Except Ambiguity Word
  | '-' :: '-' :: cs => Word.ofLong cs
  | '-' :: c :: cs => match Switch.ofLetter? c with
    | some s => .ok (.short s (Attached.ofRest? cs))
    | none => .ok (.ofOther ('-' :: c :: cs))
  | cs => .ok (.plain (String.ofList cs))

/-- Reads the words of a command line. -/
def Word.readAll : List String → Except Ambiguity (List Word)
  | [] => .ok []
  | "--" :: args => .ok (.separator :: args.map .plain)
  | arg :: args => match Word.ofChars arg.toList with
    | .error e => .error e
    | .ok w => (readAll args).map (w :: ·)

example : (Word.ofChars "-vi5".toList).toOption = some (.short .verbose (some ⟨false, ['i', '5']⟩)) := by
  decide +kernel
example : (Word.ofChars "--an=x".toList).toOption = some (.long .anchor (some ⟨true, ['x']⟩)) := by
  decide +kernel
example : (Word.ofChars "-5".toList).toOption = some (.plain "-5") := by decide +kernel

end ComplianceHistory.Command
