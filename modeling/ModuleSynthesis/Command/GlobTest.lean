import ModuleSynthesis.Command.Report

/-!
# Testing names against a glob

* `GlobTest`: what became of one input.
* `GlobTests`: a glob and what became of its inputs, as JSON and as text.
* `GlobTests.report`: the report of the command.
-/

namespace ModuleSynthesis

/-- What became of one input. -/
structure GlobTest where
  /-- What was asked for. -/
  input : String
  /-- The name that was asked for. -/
  name : String
  /-- The captures, if the name matches. -/
  captures? : Option (List String)
deriving DecidableEq, Repr

namespace GlobTest

/-- The test of an input against a glob. -/
def of (glob : Glob) (input : String) : GlobTest :=
  let name := Name.ofRequest input
  ⟨input, name, glob.captures? name⟩

/-- The test in JSON. -/
def toJson (test : GlobTest) : Json :=
  .object [("input", .text test.input), ("name", .text test.name),
    ("matched", .boolean test.captures?.isSome),
    ("captures", match test.captures? with
      | some captures => .texts captures
      | none => .null)]

/-- The test on one line. -/
def line (test : GlobTest) : String :=
  "  " ++ test.name ++ ": " ++
    match test.captures? with
    | some [] => "match"
    | some captures => "match [" ++ ", ".intercalate captures ++ "]"
    | none => "no match"

end GlobTest

/-- A glob and what became of its inputs. -/
structure GlobTests where
  /-- The glob. -/
  glob : Glob
  /-- The tests, in the order of the inputs. -/
  tests : List GlobTest

namespace GlobTests

/-- The tests in JSON. -/
def toJson (result : GlobTests) : Json :=
  .object [("pattern", .text result.glob.text), ("wildcards", .number result.glob.wildcards),
    ("results", .array (result.tests.map GlobTest.toJson))]

/-- The tests as text. -/
def toText (result : GlobTests) : String :=
  Report.lines (("modsynth match " ++ result.glob.text) :: result.tests.map GlobTest.line)

/-- Tests inputs against a glob. -/
def report (pattern : String) (inputs : List String) (json : Bool) : Report :=
  match Glob.compile pattern with
  | .error error => .refused error.message
  | .ok glob =>
    let result : GlobTests := ⟨glob, inputs.map (GlobTest.of glob)⟩
    { stdout := if json then Report.ofJson result.toJson else result.toText }

end GlobTests

end ModuleSynthesis
