import ComplianceHistory.Command.Job
import Std.Time.DateTime.Timestamp

/-!
# The program

Hands the command its arguments, the files that they name and the present instant, and carries out what
it leaves behind.
-/

namespace ComplianceHistory.Program

/-- The name under which the program tells what is wrong with its arguments. -/
def name : String := "compliance-history"

/-- The variable that names the configuration. -/
def configVariable : String := "COMPLIANCE_ENGINE_CONFIG"

/-- Adds what stands at a path. -/
def look (files : Files) (path : String) : IO Files := do
  match ← (IO.FS.readFile path).toBaseIO with
  | .ok text => return { files with texts := files.texts.put (plainPath path) text }
  | .error (.inappropriateType ..) => return { files with directories := path :: files.directories }
  | .error _ => return files

/-- What stands at the paths that arguments name. -/
def lookAll (args : List String) (configured : Option String) : IO Files :=
  match Command.Arguments.read args with
  | .error _ => return { texts := [] }
  | .ok a => (a.paths configured).foldlM look { texts := [] }

/-- The present instant. -/
def present : IO Time.Instant := do
  let now ← Std.Time.Timestamp.now
  let nanos : Int := now.toNanosecondsSinceUnixEpoch.val
  return (Time.Instant.ofMicros? (nanos.fdiv 1000)).getD .epoch

/-- Writes a notice; lines of the log get the time. -/
def tell (now : Time.Instant) (notice : Command.Notice) : IO Unit :=
  match notice with
  | .log line => IO.eprintln (Command.stamp now ++ " - " ++ line.text)
  | n => IO.eprintln (n.text name)

/-- Runs the command, and gives its exit code. -/
def run (args : List String) : IO UInt32 := do
  let configured ← IO.getEnv configVariable
  let files ← lookAll args configured
  let now ← present
  match Command.run files configured now args with
  | .error e =>
    IO.eprintln (e.message?.getD "A value is of a wrong kind")
    return 1
  | .ok o =>
    for (path, text) in o.written do
      IO.FS.writeFile path text
    for n in o.notices do
      tell now n
    IO.print o.output
    return UInt32.ofNat o.exitCode

end ComplianceHistory.Program

/-- The program. -/
def main (args : List String) : IO UInt32 := ComplianceHistory.Program.run args
