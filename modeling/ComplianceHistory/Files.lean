import ComplianceHistory.Entries
import ComplianceHistory.Text.Lines
import ComplianceHistory.Text.Quoted

/-!
# Files of a directory

What a command sees of the file system: the texts of the files under the directory it runs in.  The
directories are those that the names of the files pass through, the upper ones, and those that are named.
-/

namespace ComplianceHistory

/-- The texts of files by their paths, of which the parts stand between slashes. -/
structure Files where
  texts : Entries String
  directories : List String := []

/-- Why a file was not read or written. -/
inductive FileError where
  | notFound (path : String)
  | isDirectory (path : String)
  | notDirectory (path : String)
deriving DecidableEq, Repr

/-- The wording of a failure. -/
def FileError.message : FileError → String
  | notFound p => "[Errno 2] No such file or directory: " ++ Text.quoted p
  | isDirectory p => "[Errno 21] Is a directory: " ++ Text.quoted p
  | notDirectory p => "[Errno 20] Not a directory: " ++ Text.quoted p

/-- The parts of a path between slashes, without empty ones and those for the directory itself. -/
def slashParts : List Char → List (List Char)
  | [] => []
  | c :: cs =>
    if c = '/' then slashParts cs
    else
      let part := (c :: cs).takeWhile (· ≠ '/')
      let rest := slashParts ((c :: cs).drop part.length)
      if part = ['.'] then rest else part :: rest
termination_by cs => cs.length
decreasing_by
  · simp
  · have h : c ≠ '/' := by assumption
    have h' : (c :: cs).takeWhile (· ≠ '/') = c :: cs.takeWhile (· ≠ '/') := by
      simp only [List.takeWhile_cons, ne_eq, h, not_false_eq_true, decide_true, if_true]
    simp only [h', List.length_cons, List.length_drop]
    omega

/-- A path from its parts. -/
def joinParts (absolute : Bool) (parts : List (List Char)) : String :=
  let body := List.intercalate ['/'] parts
  let text := if absolute then '/' :: body else body
  if text.isEmpty then "." else String.ofList text

/-- A path without superfluous slashes and parts. -/
def plainPath (path : String) : String :=
  joinParts (path.toList.head? = some '/') (slashParts path.toList)

/-- The path of the directory that a path is in. -/
def parentPath (path : String) : String :=
  joinParts (path.toList.head? = some '/') (slashParts path.toList).dropLast

namespace Files

/-- Whether a path is a directory. -/
def isDirectory (fs : Files) (path : String) : Bool :=
  let parts := slashParts path.toList
  parts.all (· = ['.', '.']) ||
    fs.directories.any (fun d => slashParts d.toList = parts) ||
    fs.texts.any fun f =>
      let own := slashParts f.1.toList
      parts.isPrefixOf own && parts.length < own.length

/-- The text of the file at a path. -/
def text? (fs : Files) (path : String) : Option String := fs.texts.get? (plainPath path)

/-- Whether a path passes through a file. -/
def passesFile (fs : Files) (path : String) : Bool :=
  let parts := slashParts path.toList
  fs.texts.any fun f =>
    let own := slashParts f.1.toList
    own.isPrefixOf parts && own.length < parts.length

/-- Whether there is a file or a directory at a path. -/
def has (fs : Files) (path : String) : Bool := fs.isDirectory path || (fs.text? path).isSome

/-- Reads a file, with every end of a line as a line feed; `shown` is its path in messages. -/
def read (fs : Files) (path shown : String) : Except FileError (List Char) :=
  match fs.text? path with
  | some t => .ok (Text.plainLines t.toList)
  | none =>
    if fs.isDirectory path then .error (.isDirectory shown)
    else if fs.passesFile path then .error (.notDirectory shown)
    else .error (.notFound shown)

/-- Checks that a file can be written; its directory must be there. -/
def checkWrite (fs : Files) (path : String) : Except FileError Unit :=
  let shown := plainPath path
  if fs.isDirectory path then .error (.isDirectory shown)
  else if fs.passesFile path then .error (.notDirectory shown)
  else if fs.isDirectory (parentPath path) then .ok ()
  else .error (.notFound shown)

end Files

end ComplianceHistory
