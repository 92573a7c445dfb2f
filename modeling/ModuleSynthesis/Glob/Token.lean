import ModuleSynthesis.Text.Delimited

/-!
# Tokens of a glob

A glob describes module names segment by segment. Each of its segments is one token: a literal
text, `*` for any one segment, `**` for any number of segments, or a text with stars in it, each
of which stands for a part of one segment.

* `Token.text`: the way a token is written; `Token.textOf` joins a list of them with `::`.
* `Token.wildcards`: how many captures a token yields.
* `Token.ofSegment`: the token that a segment of a glob denotes.
* `Token.parse`: the tokens of a glob. The leftmost segment that denotes none is the error.
-/

namespace ModuleSynthesis

open Text

/-- One segment of a glob. -/
inductive Token where
  /-- Exactly this segment. -/
  | literal (text : String)
  /-- Any one segment. -/
  | one
  /-- Any number of whole segments, none included. -/
  | many
  /-- One segment made of these pieces with any text, possibly none, between neighbours. -/
  | pieced (pieces : List String)
deriving DecidableEq, Repr

/-- Why a segment of a glob denotes no token. -/
inductive SegmentFault where
  /-- It contains `**` but is longer than that. -/
  | doubleStar
  /-- It contains a `:` that is half a delimiter. -/
  | strayColon
deriving DecidableEq, Repr

/-- Why a text is no glob. -/
inductive GlobError where
  /-- The text is empty. -/
  | empty
  /-- The segment at this position is empty. -/
  | emptySegment (glob : String) (position : Nat)
  /-- A segment denotes no token. -/
  | invalidSegment (glob segment : String) (fault : SegmentFault)
  /-- The program of the glob is too large for the engine. -/
  | tooLarge (glob : String)
deriving DecidableEq, Repr

/-- The engine that matches globs refuses those whose programs have more bytes. -/
def programLimit : Nat := 10485760

/-! ## Error texts -/

/-- The wording of a fault. -/
def SegmentFault.message : SegmentFault → String
  | .doubleStar => "`**` must be a whole segment"
  | .strayColon => "stray `:` inside a segment"

namespace GlobError

/-- The wording of the size limit. -/
def sizeMessage : String :=
  "Compiled regex exceeds size limit of " ++ toString programLimit ++ " bytes."

/-- The wording of an error. -/
def message : GlobError → String
  | .empty => "empty pattern"
  | .emptySegment glob position =>
    "empty segment at position " ++ toString position ++ " in pattern `" ++ glob ++ "`"
  | .invalidSegment glob segment fault =>
    "invalid segment `" ++ segment ++ "` in pattern `" ++ glob ++ "`: " ++ fault.message
  | .tooLarge glob => "pattern `" ++ glob ++ "` did not compile: " ++ sizeMessage

/-- The wordings of the causes below an error, outermost first. -/
def sources : GlobError → List String
  | .tooLarge _ => [sizeMessage]
  | _ => []

end GlobError

namespace Token

/-! ## Printing -/

/-- Pieces with a star between neighbours. -/
def starred : List String → List Char
  | [] => []
  | [piece] => piece.toList
  | piece :: pieces => piece.toList ++ '*' :: starred pieces

/-- The way a token is written. -/
def chars : Token → List Char
  | .literal text => text.toList
  | .one => ['*']
  | .many => ['*', '*']
  | .pieced pieces => starred pieces

/-- The way a token is written. -/
def text (token : Token) : String :=
  String.ofList token.chars

/-- The way a list of tokens is written: with a delimiter between neighbours. -/
def textOf (tokens : List Token) : String :=
  String.ofList (join (tokens.map chars))

/-- The number of captures that a token yields. -/
def wildcards : Token → Nat
  | .literal _ => 0
  | .one | .many => 1
  | .pieced pieces => pieces.length - 1

/-- The number of captures that a list of tokens yields. -/
def wildcardsOf : List Token → Nat
  | [] => 0
  | token :: tokens => token.wildcards + wildcardsOf tokens

/-! ## Parsing -/

/-- The pieces of a text between its stars, at least one. -/
def splitStars : List Char → List (List Char)
  | [] => [[]]
  | c :: rest =>
    if c = '*' then [] :: splitStars rest
    else
      match splitStars rest with
      | piece :: pieces => (c :: piece) :: pieces
      | [] => [[c]]

/-- Whether two stars stand side by side. -/
def hasDoubleStar : List Char → Bool
  | '*' :: '*' :: _ => true
  | _ :: rest => hasDoubleStar rest
  | [] => false

/-- The token that a non-empty segment denotes. -/
def ofSegment (segment : List Char) : Except SegmentFault Token :=
  if segment = ['*'] then .ok .one
  else if segment = ['*', '*'] then .ok .many
  else if hasDoubleStar segment then .error .doubleStar
  else if ':' ∈ segment then .error .strayColon
  else if '*' ∈ segment then .ok (.pieced ((splitStars segment).map String.ofList))
  else .ok (.literal (String.ofList segment))

/-- The tokens of the segments of a glob from a position on. -/
def ofSegments (glob : String) : Nat → List (List Char) → Except GlobError (List Token)
  | _, [] => .ok []
  | position, segment :: segments =>
    if segment = [] then .error (.emptySegment glob position)
    else
      match ofSegment segment with
      | .error fault => .error (.invalidSegment glob (String.ofList segment) fault)
      | .ok token =>
        match ofSegments glob (position + 1) segments with
        | .error error => .error error
        | .ok tokens => .ok (token :: tokens)

/-- The tokens of a glob. -/
def parse (glob : String) : Except GlobError (List Token) :=
  if glob = "" then .error .empty else ofSegments glob 0 (split glob.toList)

end Token

end ModuleSynthesis
