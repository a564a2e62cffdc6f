import ComplianceHistory.Files
import ComplianceHistory.Json.Reader
import ComplianceHistory.Record
import ComplianceHistory.Text.Classes

/-!
# Files of records

A file of records holds a list of objects, or one object on each line, with blank lines between them.
All documents are read before the first record is made, so a text that cannot be read comes before a
document that is no record.
-/

namespace ComplianceHistory

/-- Why a file gives no records. -/
inductive RecordFileError where
  | notFound (path : String)
  | file (e : FileError)
  | badList (e : Json.ReadError)
  | badLine (line : Nat) (e : Json.ReadError)
  | notObject (index : Nat)
  | record (index : Nat) (e : RecordError)
deriving DecidableEq, Repr

/-- Whether a failure says that a value is not valid, and not that a number is out of range. -/
def RecordError.isInvalid : RecordError → Bool
  | misuse _ => false
  | timestamp e => !e.isOutOfRange
  | _ => true

/-- The wording of a failure; only an invalid record is told by its number. -/
def RecordFileError.message? : RecordFileError → Option String
  | notFound path => some ("Input file not found: " ++ path)
  | file e => some e.message
  | badList (.tooManyDigits n) | badLine _ (.tooManyDigits n) => some (Json.ReadError.tooManyDigits n).message
  | badList e => some ("Invalid JSON array: " ++ e.message)
  | badLine n e => some ("Line " ++ toString n ++ ": Invalid JSON: " ++ e.message)
  | notObject i => some ("Record " ++ toString i ++ ": must be a JSON object")
  | record i e =>
    e.message?.map fun m => if e.isInvalid then "Record " ++ toString i ++ ": " ++ m else m

namespace RecordFile

/-- The documents on lines, numbered from a number on. -/
def lineDocuments (number : Nat) : List (List Char) → Except RecordFileError (List Value)
  | [] => .ok []
  | line :: lines => match Text.trim line with
    | [] => lineDocuments (number + 1) lines
    | cs => match Json.read (String.ofList cs) with
      | .error e => .error (.badLine number e)
      | .ok v => (lineDocuments (number + 1) lines).map (v :: ·)

/-- The documents of a text, in which ends of lines are line feeds. -/
def documents (text : List Char) : Except RecordFileError (List Value) :=
  match Text.trim text with
  | [] => .ok []
  | '[' :: cs => match Json.read (String.ofList ('[' :: cs)) with
    | .error e => .error (.badList e)
    | .ok (.array vs) => .ok vs
    | .ok _ => .ok []
  | cs => lineDocuments 1 (Text.splitLines cs)

/-- The records of documents, numbered from a number on. -/
def recordsFrom (index : Nat) : List Value → Except RecordFileError (List Record)
  | [] => .ok []
  | .object fields :: vs => match Record.ofFields fields with
    | .error e => .error (.record index e)
    | .ok r => (recordsFrom (index + 1) vs).map (r :: ·)
  | _ :: _ => .error (.notObject index)

/-- The records of a text. -/
def records (text : List Char) : Except RecordFileError (List Record) :=
  match documents text with
  | .error e => .error e
  | .ok vs => recordsFrom 0 vs

/-- The records of a file. -/
def load (fs : Files) (path : String) : Except RecordFileError (List Record) :=
  if !fs.has path then .error (.notFound path)
  else match fs.read path (plainPath path) with
    | .error e => .error (.file e)
    | .ok text => records text

end RecordFile

end ComplianceHistory
