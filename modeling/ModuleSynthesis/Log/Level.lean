/-!
# Log levels

* `Level`: how important a message is, or has to be to be written.
* `Level.parse?`: the level that a word or a number denotes.
-/

namespace ModuleSynthesis.Log

/-- How important a message is, or has to be to be written. -/
inductive Level where
  /-- No message is written. -/
  | off
  /-- Errors. -/
  | error
  /-- Warnings. -/
  | warn
  /-- Notices. -/
  | info
  /-- Details for finding faults. -/
  | debug
  /-- Everything. -/
  | trace
deriving DecidableEq, Repr

namespace Level

/-- The levels, from the most important messages on. -/
def all : List Level := [.off, .error, .warn, .info, .debug, .trace]

/-- The place of a level among all. -/
def rank : Level → Nat
  | .off => 0
  | .error => 1
  | .warn => 2
  | .info => 3
  | .debug => 4
  | .trace => 5

/-- The word for a level. -/
def name : Level → String
  | .off => "off"
  | .error => "error"
  | .warn => "warn"
  | .info => "info"
  | .debug => "debug"
  | .trace => "trace"

/-- A level as it stands in front of a message, five characters wide. -/
def label : Level → String
  | .off => "  OFF"
  | .error => "ERROR"
  | .warn => " WARN"
  | .info => " INFO"
  | .debug => "DEBUG"
  | .trace => "TRACE"

/-- The level with a rank that is written in decimal digits, possibly behind a plus sign. -/
def ofNumber? (text : List Char) : Option Level :=
  let digits := match text with
    | '+' :: digits => digits
    | digits => digits
  if digits ≠ [] && digits.all Char.isDigit then
    all[digits.foldl (fun value c => 10 * value + (c.toNat - '0'.toNat)) 0]?
  else none

/-- The level that a number, or a word in any case of letters, denotes. -/
def parse? (text : List Char) : Option Level :=
  match ofNumber? text with
  | some level => some level
  | none => all.find? fun level => level.name.toList = text.map Char.toLower

end Level

end ModuleSynthesis.Log
