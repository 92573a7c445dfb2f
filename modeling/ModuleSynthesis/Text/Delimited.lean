/-!
# Text delimited by `::`

A module name is a list of segments written with `::` between them. Delimiters are found from the
left and do not overlap, so `A:::B` has the segments `A` and `:B`. The last delimiter of a text,
on the other hand, is the one that starts furthest to the right: in `A:::B` it is followed by `B`.

* `split`: the segments of a text, at least one.
* `join`: the text with given segments.
* `splitLast?`: a text cut behind its last delimiter.
* `dropDelimiters`: a text without the delimiters at its start.
-/

namespace ModuleSynthesis.Text

/-- The text that stands between two segments. -/
def delimiter : List Char := [':', ':']

/-- The segments of a text. The empty text has one segment, which is empty. -/
def split : List Char → List (List Char)
  | ':' :: ':' :: rest => [] :: split rest
  | c :: rest =>
    match split rest with
    | segment :: segments => (c :: segment) :: segments
    | [] => [[c]]
  | [] => [[]]

/-- The text with given segments. -/
def join : List (List Char) → List Char
  | [] => []
  | [segment] => segment
  | segment :: segments => segment ++ delimiter ++ join segments

/-- A text cut behind its last delimiter, or nothing when it has none. -/
def splitLast? : List Char → Option (List Char × List Char)
  | [] => none
  | c :: rest =>
    match splitLast? rest with
    | some (front, leaf) => some (c :: front, leaf)
    | none =>
      match c, rest with
      | ':', ':' :: leaf => some (delimiter, leaf)
      | _, _ => none

/-- A text without the delimiters at its start. -/
def dropDelimiters : List Char → List Char
  | ':' :: ':' :: rest => dropDelimiters rest
  | text => text

end ModuleSynthesis.Text
