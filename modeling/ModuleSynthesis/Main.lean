import ModuleSynthesis.Command.Run
import Std.Time.Format

/-!
# The command

The command line program: it reads the arguments, the manifest, the log setting and the clock,
and writes the report that they come to.
-/

namespace ModuleSynthesis

/-- How the command is called. -/
def usage : String :=
  "usage: modsynth [-v] match PATTERN NAME... [--json]\n" ++
    "       modsynth [-v] check [--manifest PATH] [--json]\n" ++
    "       modsynth [-v] resolve [--manifest PATH] REQUEST... [--json]\n" ++
    "       modsynth [-v] provenance [--manifest PATH] REQUEST... [--json]\n" ++
    "       modsynth --version"

/-- Why a file cannot be read, from the error of the system. -/
def ReadFault.ofSystem : IO.Error → ReadFault
  | .noFileOrDirectory _ _ _ => .notFound
  | .inappropriateType _ code _ => if code = 21 then .isFolder else .notFolder
  | .invalidArgument _ 36 _ => .nameTooLong
  | error => .other (toString error)

/-- The text of a file on the disk. -/
def readText (path : String) : IO (Except ReadFault String) := do
  try
    return decodeText (← IO.FS.readBinFile path)
  catch error =>
    return .error (.ofSystem error)

/-- The time in universal time, to the nanosecond. -/
def clock : IO String := do
  let now := Std.Time.PlainDateTime.ofWallTime
    ((← Std.Time.Timestamp.now).toWallTime Std.Time.TimeZone.UTC.offset)
  return toString now.date ++ "T" ++ toString now.time ++ "Z"

/-- Carries out what the arguments ask for. -/
def runCommand (arguments : List String) : IO UInt32 := do
  match Invocation.parse? arguments with
  | none =>
    IO.eprintln usage
    return 2
  | some invocation =>
    let content ← match invocation.manifest? with
      | some path => readText path
      | none => pure (.error .notFound)
    let report := invocation.report (← IO.getEnv "RUST_LOG") ⟨fun _ => content, ← clock⟩
    IO.print report.stdout
    IO.eprint report.stderr
    return report.exit.toUInt32

end ModuleSynthesis

/-- The entry point of the program. -/
def main (arguments : List String) : IO UInt32 :=
  ModuleSynthesis.runCommand arguments
