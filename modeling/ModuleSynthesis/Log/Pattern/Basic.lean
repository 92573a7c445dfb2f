import ModuleSynthesis.Text.Blank

/-!
# How expressions are read

* `Pattern.Mode`: how a part of a regular expression is read.
* `Pattern.dropSpaces`: what follows the blanks and comments that a mode skips.
* `Pattern.sideBySide`: the depth of parts that stand side by side, from the depths of the parts.
  An expression may not be deeper than `Pattern.depthLimit`.
-/

namespace ModuleSynthesis.Log

namespace Pattern

/-- How a part of an expression is read. -/
structure Mode where
  /-- Blanks and comments are skipped. -/
  spaced : Bool := false
  /-- Characters are code points, not bytes. -/
  unicode : Bool := true

/-- A text without the blanks and comments at its start, where they are skipped. -/
def dropSpaces (mode : Mode) (text : List Char) : List Char :=
  if mode.spaced then dropFrom false text else text
where
  /-- A text without the blanks at its start, or without the rest of a comment. -/
  dropFrom (inComment : Bool) : List Char → List Char
    | c :: rest =>
      if inComment then dropFrom (c != '\n') rest
      else if Text.isBlank c then dropFrom false rest
      else if c = '#' then dropFrom true rest
      else c :: rest
    | [] => []

/-- The depth of parts side by side: none have no depth, one has its own, and several are one
deeper than the deepest of them. -/
def sideBySide : List Nat → Nat
  | [] => 0
  | [depth] => depth
  | depths => depths.foldl max 0 + 1

/-- How deep an expression may be. -/
def depthLimit : Nat := 250

end Pattern

end ModuleSynthesis.Log
