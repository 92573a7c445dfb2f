import ModuleSynthesis.Glob.Meaning

/-!
# Matching by tables

A list of tokens is matched from its last token to its first. For the tokens behind a position of
the glob, a *row* says for each suffix of the name how they match it, if they do; one more token
in front makes a new row out of it. So the work is bounded by the number of tokens times the
length of the name, however many ways there are to share the name among the wildcards.

Among those ways the first wildcard takes as much as a match allows, then the second given the
first, and so on: a wildcard that may take several items prefers to take one more.

* `Row.longestRuns`: for each suffix, the longest run of items behind which a row has an answer.
* `gaps?`: what the stars of a pieced token stand for in one segment.
* `Token.capturesOf?`: the captures of a list of tokens in a list of segments.
-/

namespace ModuleSynthesis

open Text

/-- Answers for the suffixes of a list, the longest suffix first, the empty one last. -/
abbrev Row (α : Type) := List (Option α)

namespace Row

variable {α β : Type}

/-- The answer for the longest suffix. -/
def first (row : Row β) : Option β :=
  match row with
  | cell :: _ => cell
  | [] => none

/-- The row that has an answer for the empty suffix alone. -/
def final (items : List α) (answer : β) : Row β :=
  match items with
  | [] => [some answer]
  | _ :: rest => none :: final rest answer

/-- For each suffix, the longest run of admissible items at its start behind which the row has an
answer, with that answer. -/
def longestRuns (admissible : α → Bool) : List α → Row β → Row (List α × β)
  | item :: items, cell :: row =>
    let later := longestRuns admissible items row
    match if admissible item then first later else none with
    | some (run, answer) => some (item :: run, answer) :: later
    | none => cell.map ([], ·) :: later
  | [], cell :: _ => [cell.map ([], ·)]
  | _, [] => []

/-- The row of a piece of text in front of what a row answers. -/
def behindPiece (piece : List Char) : List Char → Row β → Row β
  | c :: text, cell :: row =>
    (if piece.isPrefixOf (c :: text) then first ((cell :: row).drop piece.length) else none) ::
      behindPiece piece text row
  | [], cell :: _ => [if piece.isEmpty then cell else none]
  | _, [] => []

/-- The row of a token that takes exactly one segment, in front of what a row answers. -/
def behindSegment (take? : List Char → Option (List β)) :
    List (List Char) → Row (List β) → Row (List β)
  | segment :: segments, _ :: row =>
    (match first row with
      | some later => (take? segment).map (· ++ later)
      | none => none) :: behindSegment take? segments row
  | [], _ :: _ => [none]
  | _, [] => []

end Row

/-! ## Stars inside a segment -/

/-- The row of pieces with stars between neighbours, over the suffixes of a segment. -/
def piecesRow (segment : List Char) : List (List Char) → Row (List (List Char))
  | [] => Row.final segment []
  | [piece] => Row.behindPiece piece segment (Row.final segment [])
  | piece :: pieces =>
    Row.behindPiece piece segment
      ((Row.longestRuns (· != ':') segment (piecesRow segment pieces)).map
        (Option.map fun (gap, gaps) => gap :: gaps))

/-- What the stars between pieces stand for in a segment, or nothing when it does not fit. -/
def gaps? (pieces : List (List Char)) (segment : List Char) : Option (List (List Char)) :=
  Row.first (piecesRow segment pieces)

/-! ## Tokens over the segments of a name -/

/-- What one wildcard stands for, as a run of segments. -/
abbrev Run := List (List Char)

namespace Token

/-- The row of a token in front of what a row answers. -/
def row (token : Token) (segments : List (List Char)) (behind : Row (List Run)) :
    Row (List Run) :=
  match token with
  | .literal text =>
    let text := text.toList
    Row.behindSegment (fun segment => if segment = text then some [] else none) segments behind
  | .one =>
    Row.behindSegment (fun segment => if isWhole segment then some [[segment]] else none)
      segments behind
  | .many =>
    (Row.longestRuns isWhole segments behind).map (Option.map fun (run, runs) => run :: runs)
  | .pieced pieces =>
    let pieces := pieces.map String.toList
    Row.behindSegment (fun segment => (gaps? pieces segment).map (·.map ([·]))) segments behind

/-- The row of a list of tokens. -/
def rowOf (segments : List (List Char)) : List Token → Row (List Run)
  | [] => Row.final segments []
  | token :: tokens => token.row segments (rowOf segments tokens)

/-- The captures of a list of tokens in a list of segments, or nothing when they do not match. -/
def capturesOf? (tokens : List Token) (segments : List (List Char)) :
    Option (List (List Char)) :=
  (Row.first (rowOf segments tokens)).map (·.map join)

end Token

end ModuleSynthesis
