import ModuleSynthesis.Log.Pattern.Bracketed
import ModuleSynthesis.Log.Pattern.Group

/-!
# Patterns of field values

A log filter may ask for a value of a field, by a number or by a regular expression. Here a regular
expression is only checked, not matched. It ends in front of the first closing brace of the filter,
so of the forms with braces none is complete.

* `Pattern.depth?`: the depth of a regular expression that can be searched for in a single pass.
* `Pattern.isWellFormed`: whether a text is such an expression, and not too deep.
* `isValuePattern`: whether a text may be asked for as a value.
-/

namespace ModuleSynthesis.Log

namespace Pattern

/-- A part of an expression. -/
structure Part where
  /-- Its depth. -/
  depth : Nat := 0
  /-- It may be repeated. -/
  repeatable : Bool := true

/-- An expression that is still open: one in a group, or the whole one. -/
structure OpenExpression where
  /-- How the rest of it is read. -/
  mode : Mode := {}
  /-- The depths of the alternatives in front of the last bar. -/
  alternatives : List Nat := []
  /-- The parts behind that bar, last first. -/
  parts : List Part := []

namespace OpenExpression

/-- The expression with a further part. -/
def add (expression : OpenExpression) (part : Part) : OpenExpression :=
  { expression with parts := part :: expression.parts }

/-- The expression with its last part repeated, which is one deeper. -/
def repeatLast? (expression : OpenExpression) : Option OpenExpression :=
  match expression.parts with
  | part :: parts =>
    if part.repeatable then
      some { expression with parts := { depth := part.depth + 1 } :: parts }
    else none
  | [] => none

/-- The depths of the alternatives, last first. -/
def depths (expression : OpenExpression) : List Nat :=
  sideBySide (expression.parts.map Part.depth) :: expression.alternatives

/-- The expression with a bar behind it. -/
def bar (expression : OpenExpression) : OpenExpression :=
  { expression with alternatives := expression.depths, parts := [] }

/-- The depth of what has been read. -/
def depth (expression : OpenExpression) : Nat :=
  sideBySide expression.depths

end OpenExpression

/-- Where the reading of an expression stands. -/
structure Progress where
  /-- The innermost expression. -/
  inner : OpenExpression := {}
  /-- The expressions around it, innermost first. -/
  outer : List OpenExpression := []
  /-- The names of groups. -/
  names : List (List Char) := []

namespace Progress

/-- Adds a part to the innermost expression. -/
def add (progress : Progress) (part : Part) : Progress :=
  { progress with inner := progress.inner.add part }

/-- Does what a parenthesis does; two groups may not have one name. -/
def open? (progress : Progress) : Opening → Option Progress
  | .setting mode =>
    some { progress with inner := { progress.inner.add { repeatable := false } with mode } }
  | .group mode =>
    some { progress with inner := { mode }, outer := progress.inner :: progress.outer }
  | .named name =>
    if progress.names.contains name then none
    else some {
      inner := { mode := progress.inner.mode }
      outer := progress.inner :: progress.outer
      names := name :: progress.names }

/-- Closes the innermost group, which is one deeper than what stands in it. -/
def close? (progress : Progress) : Option Progress :=
  match progress.outer with
  | around :: outer =>
    some { progress with inner := around.add { depth := progress.inner.depth + 1 }, outer }
  | [] => none

end Progress

/-- The part at the start of a text that opens or closes no group and repeats nothing, and what
stands behind it. -/
def part? (mode : Mode) : List Char → Option (Part × List Char)
  | [] | '\x7b' :: _ => none
  | '[' :: rest => (bracketed? mode rest).map fun (depth, rest) => ({ depth }, rest)
  | '\\' :: rest => (escape? mode rest).map fun (_, rest) => ({}, rest)
  | '.' :: rest => if mode.unicode then some ({}, rest) else none
  | _ :: rest => some ({}, rest)

/-- The depth of an expression of which some part has been read, in at most so many steps. -/
def depthFrom? : Nat → Progress → List Char → Option Nat
  | 0, _, _ => none
  | steps + 1, progress, text =>
    match dropSpaces progress.inner.mode text with
    | [] => if progress.outer.isEmpty then some progress.inner.depth else none
    | '(' :: rest =>
      (opening? progress.inner.mode rest).bind fun (opening, rest) =>
        (progress.open? opening).bind fun progress => depthFrom? steps progress rest
    | ')' :: rest => progress.close?.bind fun progress => depthFrom? steps progress rest
    | '|' :: rest => depthFrom? steps { progress with inner := progress.inner.bar } rest
    | '?' :: rest | '*' :: rest | '+' :: rest =>
      progress.inner.repeatLast?.bind fun inner =>
        depthFrom? steps { progress with inner } (if rest.head? = some '?' then rest.drop 1 else rest)
    | text =>
      (part? progress.inner.mode text).bind fun (part, rest) =>
        depthFrom? steps (progress.add part) rest

/-- The depth of a regular expression. -/
def depth? (text : List Char) : Option Nat :=
  depthFrom? (text.length + 1) {} text

/-- Whether a text is a regular expression that is not too deep. -/
def isWellFormed (text : List Char) : Bool :=
  match depth? text with
  | some depth => depth ≤ depthLimit
  | none => false

end Pattern

/-- Whether a text is a number without a sign, with a point or an exponent or without. -/
def isUnsigned (text : List Char) : Bool :=
  let mantissa := text.takeWhile fun c => c != 'e' && c != 'E'
  let front := mantissa.takeWhile (· != '.')
  let fraction := (mantissa.dropWhile (· != '.')).drop 1
  let isExponent : List Char → Bool
    | [] => true
    | _ :: '+' :: digits | _ :: '-' :: digits => !digits.isEmpty && digits.all Char.isDigit
    | _ :: digits => !digits.isEmpty && digits.all Char.isDigit
  (["inf", "infinity", "nan"].contains (String.ofList text).toLower) ||
    (!(front ++ fraction).isEmpty && (front ++ fraction).all Char.isDigit &&
      isExponent (text.dropWhile fun c => c != 'e' && c != 'E'))

/-- Whether a text may be asked for as a value: a number with a plus sign is no regular expression,
but may be. -/
def isValuePattern (text : List Char) : Bool :=
  match text with
  | '+' :: number => isUnsigned number
  | text => Pattern.isWellFormed text

end ModuleSynthesis.Log
