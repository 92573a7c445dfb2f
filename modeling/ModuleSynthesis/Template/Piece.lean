/-!
# Fragment templates

The text of a fragment with places for the name of the generated module and for the captures of
the glob that matched it. Braces are written twice to stand for themselves.

* `Piece`, `Template`: literal text, the name, or a capture counted from 1.
* `Template.render`: the text of a template for a name and captures. What is put in for a
  placeholder is not read again; a capture that does not exist is empty.
* `Template.maxCapture`: the greatest capture that a template mentions.
* `Template.source`: the way a template is written.
-/

namespace ModuleSynthesis

/-- A part of a template. -/
inductive Piece where
  /-- Text that stands for itself. -/
  | text (text : String)
  /-- The name of the generated module. -/
  | name
  /-- A capture, counted from 1. -/
  | capture (index : Nat)
deriving DecidableEq, Repr

/-- The parts of a fragment's text, in order. -/
structure Template where
  /-- The parts, in order. -/
  pieces : List Piece
deriving DecidableEq, Repr

/-- A capture by its number, counted from 1. -/
def captureAt? (captures : List String) (index : Nat) : Option String :=
  match index with
  | 0 => none
  | n + 1 => captures[n]?

namespace Piece

/-- What a part stands for, given a name and captures. -/
def render (name : String) (captures : List String) : Piece → String
  | .text literal => literal
  | .name => name
  | .capture index => (captureAt? captures index).getD ""

/-- The captures that a part mentions. -/
def captures : Piece → List Nat
  | .capture index => [index]
  | _ => []

/-- A literal character as it is written: braces are doubled. -/
def sourceOfChar (c : Char) : List Char :=
  if c = '{' ∨ c = '}' then [c, c] else [c]

/-- A part as it is written. -/
def source : Piece → List Char
  | .text literal => literal.toList.flatMap sourceOfChar
  | .name => ['{', 'n', 'a', 'm', 'e', '}']
  | .capture index => '{' :: (Nat.toDigits 10 index ++ ['}'])

end Piece

namespace Template

/-- The text of a template for a name and captures. -/
def render (template : Template) (name : String) (captures : List String) : String :=
  String.join (template.pieces.map (·.render name captures))

/-- The greatest capture that a template mentions, or 0. -/
def maxCapture (template : Template) : Nat :=
  (template.pieces.flatMap Piece.captures).foldl max 0

/-- The way a template is written. -/
def source (template : Template) : String :=
  String.ofList (template.pieces.flatMap Piece.source)

end Template

end ModuleSynthesis
