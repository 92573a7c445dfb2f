import ModuleSynthesis.Glob.Token

/-!
# What a glob means

The names that a list of tokens describes, said without an algorithm. A name is read with a
delimiter in front of every segment; each token contributes a stretch of that text, and the
captures are what its wildcards stand for.

* `delimited`: a name with a delimiter in front of every segment.
* `Interleaves pieces gaps text`: `text` is the pieces with the gaps between them.
* `Token.Contributes token captures text`: `token` can stand for `text` with these captures.
* `Token.Fits tokens captures text`: the stretches of the tokens make up `text`.
-/

namespace ModuleSynthesis

open Text

/-- A name as it is read against tokens: with a delimiter in front of every segment. -/
def delimited (name : List Char) : List Char :=
  if name = [] then [] else delimiter ++ name

/-- A segment that a wildcard may stand for: not empty, and free of colons. -/
def isWhole (segment : List Char) : Bool :=
  !segment.isEmpty && !segment.contains ':'

/-- A text is made of pieces with gaps between neighbours, and no gap has a colon. -/
inductive Interleaves : List String → List (List Char) → List Char → Prop
  | last (piece : String) : Interleaves [piece] [] piece.toList
  | more {pieces : List String} {gaps : List (List Char)} {text : List Char} (piece : String)
      (gap : List Char) : ':' ∉ gap → Interleaves pieces gaps text →
      Interleaves (piece :: pieces) (gap :: gaps) (piece.toList ++ gap ++ text)

namespace Token

/-- A token stands for a text, and its wildcards for the captures. -/
inductive Contributes : Token → List (List Char) → List Char → Prop
  | literal (text : String) : Contributes (.literal text) [] (delimiter ++ text.toList)
  | one {capture : List Char} : isWhole capture →
      Contributes .one [capture] (delimiter ++ capture)
  | manyNone : Contributes .many [[]] []
  | manySome {run : List (List Char)} : run ≠ [] → (∀ segment ∈ run, isWhole segment) →
      Contributes .many [join run] (delimiter ++ join run)
  | pieced {pieces : List String} {gaps : List (List Char)} {text : List Char} :
      Interleaves pieces gaps text → Contributes (.pieced pieces) gaps (delimiter ++ text)

/-- The tokens stand, one after the other, for a text; their captures are in order. -/
inductive Fits : List Token → List (List Char) → List Char → Prop
  | nil : Fits [] [] []
  | cons {token : Token} {tokens : List Token} {captures later : List (List Char)}
      {text rest : List Char} : Contributes token captures text → Fits tokens later rest →
      Fits (token :: tokens) (captures ++ later) (text ++ rest)

end Token

end ModuleSynthesis
