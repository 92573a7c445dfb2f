import ModuleSynthesis.Command.Folder
import ModuleSynthesis.Json
import ModuleSynthesis.Log.Filter
import ModuleSynthesis.Manifest.Document

/-!
# Reports

What a command comes to: the text that it writes, messages beside it, and an exit status. The
status is 1 when the input cannot be used, 2 when some request fails, and 101 when the command has
to stop.

* `Report`, `Diagnostic`: the report of a command and its messages.
* `Surroundings`: what commands read.
* `Surroundings.manifest`: the manifest under a path, or why it cannot be used.
-/

namespace ModuleSynthesis

/-- A message beside the text that a command writes. -/
inductive Diagnostic where
  /-- An error. -/
  | error (text : String)
  /-- A log message. -/
  | log (record : Log.Record)
deriving DecidableEq, Repr

/-- A message as it is written. -/
def Diagnostic.line : Diagnostic → String
  | .error text => "error: " ++ text
  | .log record => record.line

/-- What a command comes to. -/
structure Report where
  /-- The exit status. -/
  exit : Nat := 0
  /-- The text that is written. -/
  stdout : String := ""
  /-- The messages beside it, in order. -/
  diagnostics : List Diagnostic := []
deriving DecidableEq, Repr

namespace Report

/-- The exit status when the input cannot be used. -/
def inputError : Nat := 1

/-- The exit status when a request fails. -/
def generationError : Nat := 2

/-- The exit status when the command has to stop. -/
def stopped : Nat := 101

/-- The report of an input that cannot be used. -/
def refused (message : String) : Report :=
  { exit := inputError, diagnostics := [.error message] }

/-- Lines, each with its line feed. -/
def lines (texts : List String) : String :=
  String.join (texts.map (· ++ "\n"))

/-- The messages as they are written, each with its line feed. -/
def stderr (report : Report) : String :=
  lines (report.diagnostics.map Diagnostic.line)

/-- The report with the log messages that a filter lets through. -/
def filtered (report : Report) (filter : Log.Filter) : Report :=
  { report with
    diagnostics := report.diagnostics.filter fun
      | .error _ => true
      | .log record => filter.allows record }

/-- A JSON value with a line feed behind it. -/
def ofJson (json : Json) : String :=
  lines [json.pretty]

end Report

/-- What commands read. -/
structure Surroundings where
  /-- The text of the file under a path. -/
  read : String → Except ReadFault String
  /-- The time. -/
  now : String

/-- The manifest under a path, or why it cannot be used. -/
def Surroundings.manifest (surroundings : Surroundings) (path : String) :
    Except String Manifest :=
  match surroundings.read path with
  | .error fault => .error ("failed to read manifest " ++ path ++ ": " ++ fault.message)
  | .ok text =>
    match Manifest.read text with
    | .ok manifest => .ok manifest
    | .error .syntaxError => .error ("invalid toml at " ++ path ++ ": TOML parse error")
    | .error (.shape error) =>
      .error ("invalid toml at " ++ path ++ ": TOML parse error: " ++ error.message)
    | .error (.invalid error) => .error error.message

end ModuleSynthesis
