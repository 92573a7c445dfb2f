import ModuleSynthesis.Log.Level
import ModuleSynthesis.Text.Quoted

/-!
# Log messages

* `Record`: a message with its level, the part of the program that it comes from, and details.
* `Record.line`: the message as it is written.
-/

namespace ModuleSynthesis.Log

/-- A log message. -/
structure Record where
  /-- The level. -/
  level : Level
  /-- The part of the program that the message comes from. -/
  target : String
  /-- The wording. -/
  message : String
  /-- The details, each with its name. -/
  details : List (String × String) := []
deriving DecidableEq, Repr

namespace Record

/-- The names under which a message has something: its wording and its details. -/
def fields (record : Record) : List String :=
  "message" :: record.details.map (·.1)

/-- A character of a wording: those that could command a terminal are written as escapes. -/
def tamed (c : Char) : List Char :=
  if c = '\x1B' then ['\\', 'x', '1', 'b']
  else if c = '\x07' then ['\\', 'x', '0', '7']
  else if c = '\x08' then ['\\', 'x', '0', '8']
  else if c = '\x0C' then ['\\', 'x', '0', 'c']
  else if c = '\x7F' then ['\\', 'x', '7', 'f']
  else if 0x80 ≤ c.toNat ∧ c.toNat ≤ 0x9F then Text.codePointEscape c
  else [c]

/-- The message as it is written: the level, the part of the program, the wording, the details. -/
def line (record : Record) : String :=
  record.level.label ++ " " ++ record.target ++ ": " ++
    String.ofList (record.message.toList.flatMap tamed) ++
    String.join (record.details.map fun (name, value) => " " ++ name ++ "=" ++ value)

end Record

end ModuleSynthesis.Log
