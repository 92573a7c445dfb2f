import ModuleSynthesis.Glob.Meaning

/-!
# Acceptance by tables

Whether a list of tokens matches a name is told without a look at what its wildcards stand for. The
tokens are gone through from the last one to the first. For those behind a position of the glob, a
*mask* says of each suffix of the name whether they match it; one more token in front makes a new
mask out of it.

* `Mask.behindItem`, `Mask.behindRun`: exactly one item, or any number of items, in front of what a
  mask accepts.
* `acceptsSegment`: whether pieces with stars between them make up a segment.
* `Token.accepts`: whether a list of tokens matches a list of segments.
-/

namespace ModuleSynthesis

open Text

/-- For the suffixes of a list, whether they are accepted; the longest suffix comes first, the
empty one last. -/
abbrev Mask := List Bool

namespace Mask

variable {α : Type}

/-- Whether the longest suffix is accepted. -/
def first : Mask → Bool
  | accepted :: _ => accepted
  | [] => false

/-- The mask that accepts the empty suffix alone. -/
def final : List α → Mask
  | [] => [true]
  | _ :: items => false :: final items

/-- An admissible item in front of what a mask accepts. -/
def behindItem (admissible : α → Bool) : List α → Mask → Mask
  | item :: items, _ :: mask => (admissible item && first mask) :: behindItem admissible items mask
  | [], _ :: _ => [false]
  | _, [] => []

/-- Any number of admissible items, none included, in front of what a mask accepts. -/
def behindRun (admissible : α → Bool) : List α → Mask → Mask
  | item :: items, accepted :: mask =>
    let later := behindRun admissible items mask
    (accepted || admissible item && first later) :: later
  | [], accepted :: _ => [accepted]
  | _, [] => []

/-- A piece of text in front of what a mask accepts. -/
def behindPiece (text : List Char) : List Char → Mask → Mask
  | [], mask => mask
  | c :: piece, mask => behindItem (· == c) text (behindPiece text piece mask)

end Mask

/-- The mask of pieces with stars between neighbours, over the suffixes of a segment. -/
def piecesMask (segment : List Char) : List (List Char) → Mask
  | [] => Mask.final segment
  | [piece] => Mask.behindPiece segment piece (Mask.final segment)
  | piece :: pieces =>
    Mask.behindPiece segment piece
      (Mask.behindRun (· != ':') segment (piecesMask segment pieces))

/-- Whether pieces with stars between neighbours make up a segment. -/
def acceptsSegment (pieces : List (List Char)) (segment : List Char) : Bool :=
  Mask.first (piecesMask segment pieces)

namespace Token

/-- The mask of a token in front of what a mask accepts. -/
def mask (token : Token) (segments : List (List Char)) (behind : Mask) : Mask :=
  match token with
  | .literal text =>
    let text := text.toList
    Mask.behindItem (· == text) segments behind
  | .one => Mask.behindItem isWhole segments behind
  | .many => Mask.behindRun isWhole segments behind
  | .pieced pieces =>
    let pieces := pieces.map String.toList
    Mask.behindItem (acceptsSegment pieces) segments behind

/-- The mask of a list of tokens. -/
def maskOf (segments : List (List Char)) : List Token → Mask
  | [] => Mask.final segments
  | token :: tokens => token.mask segments (maskOf segments tokens)

/-- Whether a list of tokens matches a list of segments. -/
def accepts (tokens : List Token) (segments : List (List Char)) : Bool :=
  Mask.first (maskOf segments tokens)

end Token

end ModuleSynthesis
