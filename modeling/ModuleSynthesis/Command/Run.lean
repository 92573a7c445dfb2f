import ModuleSynthesis.Command.Arguments
import ModuleSynthesis.Command.GlobTest
import ModuleSynthesis.Command.Inspection
import ModuleSynthesis.Command.Lineage

/-!
# Carrying out a command line

* `Command.report`: the report of a command.
* `logFilter`: the log messages that are written.
* `Invocation.report`: the report of what a command line asks for, without the log messages that
  the filter holds back.
-/

namespace ModuleSynthesis

/-- The report of a command. -/
def Command.report (command : Command) (json : Bool) (surroundings : Surroundings) : Report :=
  match command with
  | .testGlob pattern names => GlobTests.report pattern names json
  | .check manifest => Inspection.report manifest json surroundings
  | .resolve manifest requests => Resolution.report manifest requests json surroundings
  | .provenance manifest requests => Lineage.report manifest requests json surroundings

/-- The filter of log messages: the one that is set, if it is well formed, else one that more
messages pass when they are asked for. There is none where the setting cannot be cut into parts. -/
def logFilter (setting? : Option String) (verbose : Bool) : Option Log.Filter :=
  let usual := Log.Filter.atLevel (if verbose then .info else .warn)
  match setting? with
  | none => some usual
  | some setting =>
    match Log.Filter.parse setting with
    | .ok filter => some filter
    | .error .malformed => some usual
    | .error .brokenCharacter => none

/-- The report of what a command line asks for. -/
def Invocation.report (invocation : Invocation) (setting? : Option String)
    (surroundings : Surroundings) : Report :=
  match invocation with
  | .version => { stdout := "modsynth 0.1.0\n" }
  | .run command json verbose =>
    match logFilter setting? verbose with
    | some filter => (command.report json surroundings).filtered filter
    | none => { exit := Report.stopped }

end ModuleSynthesis
