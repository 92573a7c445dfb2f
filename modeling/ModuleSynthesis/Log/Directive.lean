import ModuleSynthesis.Log.Pattern
import ModuleSynthesis.Log.Record

/-!
# Directives of a log filter

A directive sets a level for messages. It may be limited to the parts of the program whose names
start in some way, and to messages with some field. One that is limited to spans, or to values of a
field, applies to no message, since no message of this program stands in a span.

Blanks around a directive are passed over when it is divided, but its parts are cut out of the
whole text at the places that were counted without the blanks in front. Where such a place lies
inside a character nothing can be cut out.

* `Directive`: a directive that applies to messages.
* `Directive.parse?`: the directive that a text denotes.
* `Directive.appliesTo`: whether a directive applies to a message.
-/

namespace ModuleSynthesis.Log

/-- Why a text is no filter. -/
inductive FilterFault where
  /-- The text is malformed. -/
  | malformed
  /-- A part of the text would start or end inside a character. -/
  | brokenCharacter
deriving DecidableEq, Repr

/-- A level for messages of some kind. -/
structure Directive where
  /-- How the names of the parts of the program start. -/
  target : List Char := []
  /-- The field that the messages have; empty for any message. -/
  field : List Char := []
  /-- The level. -/
  level : Level
deriving DecidableEq, Repr

namespace Directive

/-! ## Cutting by bytes -/

/-- The number of bytes of a text. -/
def bytes (text : List Char) : Nat :=
  text.foldl (fun count c => count + c.utf8Size) 0

/-- A text divided behind so many bytes. -/
def divide? : Nat → List Char → Option (List Char × List Char)
  | 0, text => some ([], text)
  | _ + 1, [] => none
  | count + 1, c :: rest =>
    if c.utf8Size ≤ count + 1 then
      (divide? (count + 1 - c.utf8Size) rest).map fun (front, back) => (c :: front, back)
    else none

/-- The part of a text between two places. -/
def part (start stop : Nat) (text : List Char) : Except FilterFault (List Char) :=
  match (divide? stop text).bind fun (front, _) => divide? start front with
  | some (_, part) => .ok part
  | none => .error .brokenCharacter

/-- The part of a text from a place on. -/
def partFrom (start : Nat) (text : List Char) : Except FilterFault (List Char) :=
  match divide? start text with
  | some (_, part) => .ok part
  | none => .error .brokenCharacter

/-! ## Reading -/

/-- The messages that brackets limit a directive to: the name of their field, or nothing when it
applies to none. -/
abbrev Limit := Option (List Char)

/-- The limit that a field in braces sets: one with a value applies to no message. -/
def limitOf (field : List Char) : Except FilterFault Limit :=
  let name := field.takeWhile (· != '=')
  match field.dropWhile (· != '=') with
  | [] => if field.isEmpty then .error .malformed else .ok (some name)
  | _ :: value =>
    if isValuePattern (value.takeWhile (· != '=')) then .ok none else .error .malformed

/-- Reads what stands in brackets. `text` is the whole text, and `behind` what stands behind the
opening bracket, `place` bytes from the start: the limit, the place behind the closing bracket, and
what stands there. -/
def brackets (text : List Char) (place : Nat) (behind : List Char) :
    Except FilterFault (Limit × Nat × List Char) := do
  let isNameChar (c : Char) := c != ']' && c != '{'
  let name := behind.takeWhile isNameChar
  let stop := place + bytes name
  match behind.dropWhile isNameChar with
  | [] => .error .malformed
  | ']' :: rest =>
    let _ ← part place stop text
    return (none, stop + 1, rest)
  | _ :: rest =>
    let span ← part place stop text
    let field := rest.takeWhile (· != '}')
    let close := stop + 1 + bytes field
    match rest.dropWhile (· != '}') with
    | [] => .error .malformed
    | _ :: rest =>
      let limit ← limitOf (← part (stop + 1) close text)
      match rest with
      | ']' :: rest => return (if span.isEmpty then limit else none, close + 2, rest)
      | _ => .error .malformed

/-- The level from a place of a text on; where nothing stands there, everything is written. -/
def levelFrom (place : Nat) (text : List Char) : Except FilterFault Level := do
  match ← partFrom place text with
  | [] => return .trace
  | word =>
    match Level.parse? word with
    | some level => return level
    | none => .error .malformed

/-- The directive with a target, behind which brackets open. -/
def limited (text target : List Char) (place : Nat) (behind : List Char) :
    Except FilterFault (Option Directive) := do
  let (limit, place, rest) ← brackets text place behind
  let level ← match rest with
    | [] => pure .trace
    | '=' :: _ => levelFrom (place + 1) text
    | _ => .error .malformed
  return limit.map fun field => { target, field, level }

/-- The directive that a text denotes: nothing where it applies to no message. -/
def parse? (text : List Char) : Except FilterFault (Option Directive) := do
  let isTargetChar (c : Char) := c != '=' && c != '['
  match Text.trim text with
  | [] => .error .malformed
  | '[' :: behind => limited text [] 1 behind
  | c :: rest =>
    if c != '-' && c != ':' && c != '_' && !Text.isAlphanumeric c then .error .malformed
    else
      let stop := bytes ((c :: rest).takeWhile isTargetChar)
      match (c :: rest).dropWhile isTargetChar with
      | [] =>
        match Level.parse? text with
        | some level => return some { level }
        | none => return some { target := text, level := .trace }
      | '=' :: _ =>
        let target ← part 0 stop text
        let level ← levelFrom (stop + 1) text
        return some { target, level }
      | _ :: behind =>
        let target ← part 0 stop text
        limited text target (stop + 1) behind

/-! ## Meaning -/

/-- Whether a directive applies to a message. -/
def appliesTo (directive : Directive) (record : Record) : Bool :=
  directive.target.isPrefixOf record.target.toList &&
    (directive.field.isEmpty || record.fields.contains (String.ofList directive.field))

/-- Whether a directive that applies to a message gives way to another one: to one with a longer
target, or with the same target and a field that comes later in the alphabet. -/
def givesWayTo (a b : Directive) : Bool :=
  a.target.length < b.target.length ||
    (a.target.length = b.target.length && String.ofList a.field ≤ String.ofList b.field)

end Directive

end ModuleSynthesis.Log
