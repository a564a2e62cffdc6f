/-!
# Kinds of YAML nodes

A node has the kind that its tag names.  A plain scalar without a tag has the kind that its text looks
like, and is a text if it looks like nothing else.
-/

namespace ComplianceHistory.Yaml

/-- What a node stands for. -/
inductive Kind where
  | null
  | bool
  | int
  | float
  | timestamp
  | text
  | merge
  /-- A lone equals sign; it counts only as the name of a member. -/
  | default
  | sequence
  | pairs
  | mapping
  | set
  | unknown
deriving DecidableEq, Repr

/-- What the tags of the standard kinds have in common. -/
def standardTag : List Char := "tag:yaml.org,2002:".toList

/-- The kind of a tag. -/
def Kind.ofTag (tag : List Char) : Kind :=
  if !standardTag.isPrefixOf tag then .unknown
  else
    let name := String.ofList (tag.drop standardTag.length)
    let kinds : List (String × Kind) := [("null", .null), ("bool", .bool), ("int", .int),
      ("float", .float), ("timestamp", .timestamp), ("str", .text), ("merge", .merge),
      ("value", .default), ("seq", .sequence), ("omap", .pairs), ("pairs", .pairs), ("map", .mapping),
      ("set", .set)]
    (kinds.lookup name).getD .unknown

/-- The words that stand for null. -/
def nullWords : List String := ["", "~", "null", "Null", "NULL"]

/-- The words that stand for true. -/
def trueWords : List String := ["yes", "Yes", "YES", "true", "True", "TRUE", "on", "On", "ON"]

/-- The words that stand for false. -/
def falseWords : List String := ["no", "No", "NO", "false", "False", "FALSE", "off", "Off", "OFF"]

/-- Whether all characters of a text are of a class or underscores. -/
def allOrUnderscore (p : Char → Bool) (cs : List Char) : Bool := cs.all fun c => p c || c = '_'

/-- A text without its sign. -/
def withoutSign : List Char → List Char
  | c :: cs => if c = '+' || c = '-' then cs else c :: cs
  | [] => []

/-- The parts of a text between colons. -/
def colonParts : List Char → List (List Char)
  | [] => [[]]
  | c :: cs => if c = ':' then [] :: colonParts cs
    else match colonParts cs with
      | [] => [[c]]
      | part :: parts => (c :: part) :: parts

/-- Whether a text is a part of a number in sixties: one or two digits below 60. -/
def isSixtieth : List Char → Bool
  | [a] => a.isDigit
  | [a, b] => '0' ≤ a && a ≤ '5' && b.isDigit
  | _ => false

/-- Whether a text is digits and underscores that start with a digit. -/
def isDigits : List Char → Bool
  | c :: cs => c.isDigit && allOrUnderscore Char.isDigit cs
  | [] => false

/-- Whether a text is digits and underscores that start with a digit other than zero. -/
def isDigitsFromOne (cs : List Char) : Bool := isDigits cs && cs.head? ≠ some '0'

/-- Whether a text looks like a whole number. -/
def looksWhole (text : List Char) : Bool :=
  match withoutSign text with
  | [] => false
  | ['0'] => true
  | '0' :: c :: cs =>
    if c = 'b' then !cs.isEmpty && allOrUnderscore (fun d => d = '0' || d = '1') cs
    else if c = 'x' then
      !cs.isEmpty && allOrUnderscore (fun d => d.isDigit || ('a' ≤ d && d ≤ 'f') || ('A' ≤ d && d ≤ 'F')) cs
    else allOrUnderscore (fun d => '0' ≤ d && d ≤ '7') (c :: cs)
  | cs => match colonParts cs with
    | [whole] => isDigitsFromOne whole
    | whole :: parts => isDigitsFromOne whole && parts.all isSixtieth
    | [] => false

/-- Whether a text is an exponent with a sign, or nothing. -/
def isExponent : List Char → Bool
  | [] => true
  | e :: s :: ds => (e = 'e' || e = 'E') && (s = '+' || s = '-') && !ds.isEmpty && ds.all Char.isDigit
  | _ => false

/-- Whether a text is the part of a number behind its point. -/
def isFraction (cs : List Char) : Bool := isExponent (cs.dropWhile fun c => c.isDigit || c = '_')

/-- Whether a text looks like a number with a point. -/
def looksFloat (text : List Char) : Bool :=
  let body := withoutSign text
  let (whole, rest) := body.span (· ≠ '.')
  if ["inf", "Inf", "INF"].any fun w => body = '.' :: w.toList then true
  else if ["nan", "NaN", "NAN"].any fun w => text = '.' :: w.toList then true
  else match rest with
    | '.' :: fraction =>
      if whole.isEmpty then text = body && isDigits (fraction.take 1) && isFraction fraction
      else match colonParts whole with
        | [w] => isDigits w && isFraction fraction
        | w :: parts => isDigits w && parts.all isSixtieth && allOrUnderscore Char.isDigit fraction
        | [] => false
    | _ => false

/-- The fields of a date, or of a date and a time, of which the texts are given. -/
structure DateFields where
  year : List Char
  month : List Char
  day : List Char
  /-- Hours, minutes, seconds, the fraction and the offset with its sign; none for a date alone. -/
  time : Option (List Char × List Char × List Char × List Char × Option (Char × List Char × List Char))

/-- Reads between a least and a greatest number of digits. -/
def someDigits (least most : Nat) (cs : List Char) : Option (List Char × List Char) :=
  let ds := (cs.take most).takeWhile Char.isDigit
  if ds.length < least then none else some (ds, cs.drop ds.length)

/-- What is left of a text behind a character. -/
def afterChar (c : Char) : List Char → Option (List Char)
  | d :: cs => if d = c then some cs else none
  | [] => none

/-- Reads an offset at the end of a text. -/
def offset? (cs : List Char) : Option (Option (Char × List Char × List Char)) :=
  match cs.dropWhile fun c => c = ' ' || c = '\t' with
  | [] => if cs.isEmpty then some none else none
  | ['Z'] => some (some ('+', ['0'], []))
  | sign :: ds =>
    if sign = '+' || sign = '-' then do
      let (hour, rest) ← someDigits 1 2 ds
      match rest with
      | [] => return some (sign, hour, [])
      | rest =>
        let (minute, rest) ← someDigits 2 2 (← afterChar ':' rest)
        if rest.isEmpty then return some (sign, hour, minute) else none
    else none

/-- Reads a date, or a date and a time. -/
def dateFields? (text : List Char) : Option DateFields := do
  let (year, rest) ← someDigits 4 4 text
  let (month, rest) ← someDigits 1 2 (← afterChar '-' rest)
  let (day, rest) ← someDigits 1 2 (← afterChar '-' rest)
  match rest with
  | [] => if month.length = 2 && day.length = 2 then return ⟨year, month, day, none⟩ else none
  | c :: more =>
    let rest ←
      if c = 'T' || c = 't' then pure more
      else if c = ' ' || c = '\t' then pure (more.dropWhile fun d => d = ' ' || d = '\t')
      else none
    let (hour, rest) ← someDigits 1 2 rest
    let (minute, rest) ← someDigits 2 2 (← afterChar ':' rest)
    let (second, rest) ← someDigits 2 2 (← afterChar ':' rest)
    let (fraction, rest) := match rest with
      | '.' :: cs => cs.span Char.isDigit
      | cs => ([], cs)
    let offset ← offset? rest
    return ⟨year, month, day, some (hour, minute, second, fraction, offset)⟩

/-- The kind that a plain scalar looks like. -/
def Kind.ofPlain (text : List Char) : Kind :=
  let word := String.ofList text
  if trueWords.contains word || falseWords.contains word then .bool
  else if looksFloat text then .float
  else if looksWhole text then .int
  else if text = ['<', '<'] then .merge
  else if nullWords.contains word then .null
  else if (dateFields? text).isSome then .timestamp
  else if text = ['='] then .default
  else .text

end ComplianceHistory.Yaml
