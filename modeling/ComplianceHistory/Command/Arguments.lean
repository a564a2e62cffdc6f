import ComplianceHistory.Command.Switch
import ComplianceHistory.Decimal.Numeral
import ComplianceHistory.Settings

/-!
# Arguments of the command

The command reports on a file of records, or shows how a filter is compiled.  All words are read before
the first switch counts.  Of several values for a switch the last one counts, but each of them is checked,
in order; words that are left over are refused at the end.
-/

namespace ComplianceHistory.Command

/-- What the command does. -/
inductive Mode where
  | compliance
  | status
  | search
  | compile
deriving DecidableEq, Repr

/-- The name of a mode. -/
def Mode.name : Mode → String
  | compliance => "compliance"
  | status => "status"
  | search => "search"
  | compile => "compile"

/-- All modes, in the order in which they are told. -/
def Mode.all : List Mode := [compliance, status, search, compile]

/-- What the command was asked for. -/
structure Arguments where
  records : Option String := none
  mode : Mode := .compliance
  filterFile : Option String := none
  expression : Option String := none
  stream : Option String := none
  interval : Option Int := none
  anchor : Option Anchor := none
  now : Option String := none
  timeout : Option Float := none
  strict : Bool := false
  config : Option String := none
  output : Option String := none
  verbose : Bool := false

/-- Why arguments give the command nothing to do. -/
inductive UsageError where
  | helpWanted
  | ambiguous (e : Ambiguity)
  | noValue (s : Switch)
  /-- A value is attached to a switch that has none. -/
  | ignoredValue (s : Switch) (value : String)
  | notWhole (s : Switch) (value : String)
  | notNumber (s : Switch) (value : String)
  | notChoice (s : Switch) (value : String) (choices : List String)
  | leftOver (words : List String)
  | noRecords
deriving DecidableEq, Repr

namespace UsageError

/-- The wording about a switch. -/
def about (s : Switch) (message : String) : String := "argument " ++ s.title ++ ": " ++ message

/-- The wording of a refusal. -/
def message : UsageError → String
  | helpWanted => ""
  | ambiguous e => "ambiguous option: " ++ e.word ++ " could match " ++
      ", ".intercalate (e.candidates.map fun s => "--" ++ s.longName)
  | noValue s => about s "expected one argument"
  | ignoredValue s v => about s ("ignored explicit argument " ++ Text.quoted v)
  | notWhole s v => about s ("invalid int value: " ++ Text.quoted v)
  | notNumber s v => about s ("invalid float value: " ++ Text.quoted v)
  | notChoice s v choices => about s ("invalid choice: " ++ Text.quoted v ++ " (choose from " ++
      ", ".intercalate (choices.map Text.quoted) ++ ")")
  | leftOver words => "unrecognized arguments: " ++ " ".intercalate words
  | noRecords => "A records file is required unless --mode compile is used"

end UsageError

/-- The choice with a name. -/
def choose {α : Type} (s : Switch) (name : α → String) (choices : List α) (value : String) :
    Except UsageError α :=
  match choices.find? fun c => name c = value with
  | some c => .ok c
  | none => .error (.notChoice s value (choices.map name))

namespace Arguments

/-- Sets a switch without a value. -/
def setFlag (a : Arguments) : Switch → Except UsageError Arguments
  | .strict => .ok { a with strict := true }
  | .verbose => .ok { a with verbose := true }
  | .help => .error .helpWanted
  | _ => .ok a

/-- Sets a switch to a value. -/
def set (a : Arguments) (s : Switch) (value : String) : Except UsageError Arguments :=
  match s with
  | .mode => (choose s Mode.name Mode.all value).map fun m => { a with mode := m }
  | .filterFile => .ok { a with filterFile := value }
  | .expression => .ok { a with expression := value }
  | .stream => .ok { a with stream := value }
  | .interval => match Decimal.readInt value with
    | .ok n => .ok { a with interval := n }
    | .error _ => .error (.notWhole s value)
  | .anchor => (choose s Anchor.name [.now, .epoch] value).map fun x => { a with anchor := x }
  | .now => .ok { a with now := value }
  | .timeout => match Decimal.readFloat value with
    | .ok x => .ok { a with timeout := x }
    | .error _ => .error (.notNumber s value)
  | .config => .ok { a with config := value }
  | .output => .ok { a with output := value }
  | .help | .strict | .verbose => .ok a

end Arguments

/-- What a word with switches stands for. -/
structure Cluster where
  flags : List Switch
  /-- The switch that the value in the word belongs to. -/
  valued : Option (Switch × String)
  /-- The switch that waits for a value from the next word. -/
  waiting : Option Switch
  /-- What is left of the word, behind letters that are no switches. -/
  rest : Option String

/-- A further flag in front of a cluster. -/
def Cluster.cons (s : Switch) (c : Cluster) : Cluster := { c with flags := s :: c.flags }

/-- A switch with a long name. -/
def Cluster.ofLong (s : Switch) (attached : Option Attached) : Except UsageError Cluster :=
  match s.takesValue, attached with
  | true, none => .ok ⟨[], none, some s, none⟩
  | true, some a => .ok ⟨[], some (s, String.ofList a.value), none, none⟩
  | false, none => .ok ⟨[s], none, none, none⟩
  | false, some a => .error (.ignoredValue s (String.ofList a.value))

/-- A letter that names a switch, and the letters behind it. -/
def Cluster.ofLetters (s : Switch) (attached : Option Attached) : Except UsageError Cluster :=
  match s.takesValue, attached with
  | false, some ⟨afterEquals, c :: cs⟩ =>
    if afterEquals || c = '-' then .error (.ignoredValue s (String.ofList (c :: cs)))
    else match Switch.ofLetter? c with
      | none => .ok ⟨[s], none, none, some (String.ofList ('-' :: c :: cs))⟩
      | some next => (Cluster.ofLetters next (Attached.ofRest? cs)).map (Cluster.cons s)
  | _, _ => Cluster.ofLong s attached
termination_by Attached.size attached
decreasing_by
  have h := Attached.size_ofRest?_le cs
  simp only [Attached.size, List.length_cons] at h ⊢
  omega

/-- What has been read of the words so far. -/
structure Progress where
  arguments : Arguments := {}
  /-- Whether the file of records has been given. -/
  hasRecords : Bool := false
  /-- Whether the last word was the file of records. -/
  behindRecords : Bool := false
  /-- The switch whose value the next word has to be. -/
  waiting : Option Switch := none
  leftOver : List String := []

namespace Progress

/-- Leaves a word over. -/
def leave (p : Progress) (text : String) : Progress := { p with leftOver := p.leftOver ++ [text] }

/-- Takes a word for the file of records, unless there is one. -/
def plain (p : Progress) (text : String) : Progress :=
  if p.hasRecords then { p.leave text with behindRecords := false }
  else { p with arguments.records := text, hasRecords := true, behindRecords := true }

/-- Takes a separator, which is dropped before the file of records and right behind it. -/
def separator (p : Progress) : Progress :=
  let p' := if p.hasRecords && !p.behindRecords then p.leave "--" else p
  { p' with behindRecords := false }

/-- Sets a switch to a value. -/
def set (p : Progress) (s : Switch) (value : String) : Except UsageError Progress :=
  (p.arguments.set s value).map fun a => { p with arguments := a, waiting := none }

/-- Sets what a word with switches gives. -/
def cluster (p : Progress) (c : Cluster) : Except UsageError Progress := do
  let a ← c.flags.foldlM Arguments.setFlag p.arguments
  let p := { p with
    arguments := a, behindRecords := false, waiting := c.waiting
    leftOver := p.leftOver ++ c.rest.toList }
  match c.valued with
  | none => return p
  | some (s, value) => p.set s value

/-- Reads a word. -/
def step (p : Progress) (w : Word) : Except UsageError Progress :=
  match p.waiting, w with
  | some s, .plain text => p.set s text
  | some s, _ => .error (.noValue s)
  | none, .plain text => .ok (p.plain text)
  | none, .unknown text => .ok { p.leave text with behindRecords := false }
  | none, .separator => .ok p.separator
  | none, .long s attached => Cluster.ofLong s attached >>= p.cluster
  | none, .short s attached => Cluster.ofLetters s attached >>= p.cluster

/-- The arguments, if no word is missing or left over. -/
def finish (p : Progress) : Except UsageError Arguments :=
  match p.waiting with
  | some s => .error (.noValue s)
  | none =>
    if !p.leftOver.isEmpty then .error (.leftOver p.leftOver)
    else if p.arguments.mode ≠ .compile && (p.arguments.records.getD "").isEmpty then .error .noRecords
    else .ok p.arguments

end Progress

/-- Reads the words of a command line. -/
def Arguments.read (args : List String) : Except UsageError Arguments := do
  let words ← (Word.readAll args).mapError .ambiguous
  let p ← words.foldlM Progress.step {}
  p.finish

end ComplianceHistory.Command
