import Mathlib.Data.List.Infix
import ModuleSynthesis.Glob.Table

/-!
# The search behind the tables

A row lists the answers for the suffixes of a list, so each row is the table of a function on
lists, and each way to make a row out of another one is a way to make a function out of another
one. Read so, matching by tables is a search that recurses over the tokens.

* `Row.tabulate`: the table of a function.
* `Row.longestRuns_tabulate`, `Row.behindPiece_tabulate`, `Row.behindSegment_tabulate`: what the
  operations on rows do to tables.
* `gaps?_eq`, `Token.capturesOf?_eq`: stars in a segment, and tokens, are matched by search.
-/

namespace ModuleSynthesis

open Text

namespace Row

variable {α β γ : Type}

/-- The row that has the answers of a function. -/
def tabulate (answer : List α → Option β) (items : List α) : Row β :=
  items.tails.map answer

@[simp]
theorem tabulate_cons (answer : List α → Option β) (item : α) (items : List α) :
    tabulate answer (item :: items) = answer (item :: items) :: tabulate answer items := rfl

@[simp]
theorem first_tabulate (answer : List α → Option β) (items : List α) :
    first (tabulate answer items) = answer items := by
  cases items <;> rfl

theorem map_tabulate (change : Option β → Option γ) (answer : List α → Option β)
    (items : List α) :
    (tabulate answer items).map change = tabulate (fun rest => change (answer rest)) items := by
  simp [tabulate, Function.comp_def]

theorem first_drop_tabulate (answer : List α → Option β) (front back : List α) :
    first ((tabulate answer (front ++ back)).drop front.length) = answer back := by
  induction front with
  | nil => exact first_tabulate answer back
  | cons item front ih => exact ih

/-! ## Operations on rows -/

/-- The answer for the empty list alone. -/
def atEnd (answer : β) (items : List α) : Option β :=
  if items.isEmpty then some answer else none

theorem final_eq_tabulate (items : List α) (answer : β) :
    final items answer = tabulate (atEnd answer) items := by
  induction items with
  | nil => rfl
  | cons item items ih => rw [final, ih]; rfl

/-- The longest run of admissible items at the start of a list behind which there is an answer,
with that answer. -/
def longestRun (admissible : α → Bool) (answer : List α → Option β) :
    List α → Option (List α × β)
  | [] => (answer []).map ([], ·)
  | item :: items =>
    match if admissible item then longestRun admissible answer items else none with
    | some (run, found) => some (item :: run, found)
    | none => (answer (item :: items)).map ([], ·)

theorem longestRuns_tabulate (admissible : α → Bool) (answer : List α → Option β)
    (items : List α) :
    longestRuns admissible items (tabulate answer items) =
      tabulate (longestRun admissible answer) items := by
  induction items with
  | nil => rfl
  | cons item items ih =>
    simp only [tabulate_cons, longestRuns, ih, first_tabulate, longestRun]
    cases (if admissible item then longestRun admissible answer items else none) <;> rfl

/-- A piece at the start of a text, and an answer behind it. -/
def pieceThen (piece : List Char) (answer : List Char → Option β) (text : List Char) : Option β :=
  if piece.isPrefixOf text then answer (text.drop piece.length) else none

theorem behindPiece_tabulate (piece : List Char) (answer : List Char → Option β)
    (text : List Char) :
    behindPiece piece text (tabulate answer text) = tabulate (pieceThen piece answer) text := by
  induction text with
  | nil => cases piece <;> rfl
  | cons c text ih =>
    rw [tabulate_cons, behindPiece, ih, tabulate_cons, pieceThen]
    congr 1
    split
    · next h =>
      obtain ⟨back, h⟩ := List.isPrefixOf_iff_prefix.mp h
      rw [← tabulate_cons, ← h, first_drop_tabulate, List.drop_left]
    · rfl

/-- Exactly one segment, and an answer behind it. -/
def segmentThen (take? : List Char → Option (List β))
    (answer : List (List Char) → Option (List β)) : List (List Char) → Option (List β)
  | [] => none
  | segment :: segments =>
    match answer segments with
    | some later => (take? segment).map (· ++ later)
    | none => none

theorem behindSegment_tabulate (take? : List Char → Option (List β))
    (answer : List (List Char) → Option (List β)) (segments : List (List Char)) :
    behindSegment take? segments (tabulate answer segments) =
      tabulate (segmentThen take? answer) segments := by
  induction segments with
  | nil => rfl
  | cons segment segments ih =>
    rw [tabulate_cons, behindSegment, ih, first_tabulate]
    rfl

end Row

/-! ## Stars inside a segment -/

/-- What the stars between pieces stand for in a text, by search. -/
def gapSearch : List (List Char) → List Char → Option (List (List Char))
  | [] => Row.atEnd []
  | [piece] => Row.pieceThen piece (Row.atEnd [])
  | piece :: pieces =>
    Row.pieceThen piece fun rest =>
      (Row.longestRun (· != ':') (gapSearch pieces) rest).map fun (gap, gaps) => gap :: gaps

theorem piecesRow_eq_tabulate (segment : List Char) (pieces : List (List Char)) :
    piecesRow segment pieces = Row.tabulate (gapSearch pieces) segment := by
  fun_induction piecesRow segment pieces with
  | case1 => exact Row.final_eq_tabulate segment []
  | case2 piece =>
    rw [Row.final_eq_tabulate, Row.behindPiece_tabulate]
    rfl
  | case3 piece pieces hne ih =>
    rw [ih, Row.longestRuns_tabulate, Row.map_tabulate, Row.behindPiece_tabulate]
    rw [gapSearch]
    exact hne

theorem gaps?_eq (pieces : List (List Char)) (segment : List Char) :
    gaps? pieces segment = gapSearch pieces segment := by
  rw [gaps?, piecesRow_eq_tabulate, Row.first_tabulate]

/-! ## Tokens over segments -/

namespace Token

/-- What a token and an answer behind it come to. -/
def andThen (token : Token) (answer : List (List Char) → Option (List Run)) :
    List (List Char) → Option (List Run) :=
  match token with
  | .literal text =>
    Row.segmentThen (fun segment => if segment = text.toList then some [] else none) answer
  | .one =>
    Row.segmentThen (fun segment => if isWhole segment then some [[segment]] else none) answer
  | .many => fun segments =>
    (Row.longestRun isWhole answer segments).map fun (run, runs) => run :: runs
  | .pieced pieces =>
    Row.segmentThen
      (fun segment => (gapSearch (pieces.map String.toList) segment).map (·.map ([·]))) answer

/-- The runs that the wildcards of a list of tokens stand for, by search. -/
def search : List Token → List (List Char) → Option (List Run)
  | [] => Row.atEnd []
  | token :: tokens => token.andThen (search tokens)

theorem row_tabulate (token : Token) (answer : List (List Char) → Option (List Run))
    (segments : List (List Char)) :
    token.row segments (Row.tabulate answer segments) =
      Row.tabulate (token.andThen answer) segments := by
  cases token with
  | literal text => exact Row.behindSegment_tabulate _ answer segments
  | one => exact Row.behindSegment_tabulate _ answer segments
  | many =>
    rw [row, Row.longestRuns_tabulate, Row.map_tabulate]
    rfl
  | pieced pieces =>
    simp only [row, gaps?_eq]
    exact Row.behindSegment_tabulate _ answer segments

theorem rowOf_eq_tabulate (segments : List (List Char)) (tokens : List Token) :
    rowOf segments tokens = Row.tabulate (search tokens) segments := by
  induction tokens with
  | nil => exact Row.final_eq_tabulate segments []
  | cons token tokens ih => rw [rowOf, ih, row_tabulate]; rfl

theorem capturesOf?_eq (tokens : List Token) (segments : List (List Char)) :
    capturesOf? tokens segments = (search tokens segments).map (·.map join) := by
  rw [capturesOf?, rowOf_eq_tabulate, Row.first_tabulate]

end Token

end ModuleSynthesis
