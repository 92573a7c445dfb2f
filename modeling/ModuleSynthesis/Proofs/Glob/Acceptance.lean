import ModuleSynthesis.Glob
import ModuleSynthesis.Proofs.Glob.Search

/-!
# Acceptance and captures

The masks of a list of tokens and its rows are tables over the same suffixes of a name. A mask
accepts a suffix exactly where the row has an answer for it, so a name matches exactly if the
wildcards stand for something in it.

* `Mask.tabulate`: the table of a test.
* `Token.maskOf_eq_tabulate`: the masks of tokens are the tables of what their search finds.
* `Glob.isMatch_eq`: a name matches exactly if there are captures.
-/

namespace ModuleSynthesis

open Text

namespace Mask

variable {α β : Type}

/-- The mask that accepts what a test does. -/
def tabulate (accepts : List α → Bool) (items : List α) : Mask :=
  items.tails.map accepts

@[simp]
theorem tabulate_cons (accepts : List α → Bool) (item : α) (items : List α) :
    tabulate accepts (item :: items) = accepts (item :: items) :: tabulate accepts items := rfl

@[simp]
theorem first_tabulate (accepts : List α → Bool) (items : List α) :
    first (tabulate accepts items) = accepts items := by
  cases items <;> rfl

theorem final_eq_tabulate (items : List α) (answer : β) :
    final items = tabulate (fun rest => (Row.atEnd answer rest).isSome) items := by
  induction items with
  | nil => rfl
  | cons item items ih => rw [final, ih]; rfl

/-! ## Operations on masks -/

/-- An admissible item at the start of a list, and a test of what is behind it. -/
def itemThen (admissible : α → Bool) (accepts : List α → Bool) : List α → Bool
  | [] => false
  | item :: items => admissible item && accepts items

theorem behindItem_tabulate (admissible : α → Bool) (accepts : List α → Bool) (items : List α) :
    behindItem admissible items (tabulate accepts items) =
      tabulate (itemThen admissible accepts) items := by
  induction items with
  | nil => rfl
  | cons item items ih => rw [tabulate_cons, behindItem, ih, first_tabulate]; rfl

theorem behindRun_tabulate (admissible : α → Bool) (answer : List α → Option β)
    (items : List α) :
    behindRun admissible items (tabulate (fun rest => (answer rest).isSome) items) =
      tabulate (fun rest => (Row.longestRun admissible answer rest).isSome) items := by
  induction items with
  | nil => simp [tabulate, behindRun, Row.longestRun]
  | cons item items ih =>
    simp only [tabulate_cons, behindRun, ih, first_tabulate, Row.longestRun]
    congr 1
    cases admissible item with
    | false => simp
    | true => cases Row.longestRun admissible answer items <;> simp

theorem behindPiece_tabulate (text piece : List Char) (answer : List Char → Option β) :
    behindPiece text piece (tabulate (fun rest => (answer rest).isSome) text) =
      tabulate (fun rest => (Row.pieceThen piece answer rest).isSome) text := by
  induction piece with
  | nil => rfl
  | cons c piece ih =>
    rw [behindPiece, ih, behindItem_tabulate]
    congr 1
    funext rest
    cases rest with
    | nil => rfl
    | cons d rest =>
      rw [itemThen, Row.pieceThen, Row.pieceThen, List.isPrefixOf_cons_cons, BEq.comm]
      cases c == d <;> simp

end Mask

/-! ## Stars inside a segment -/

theorem piecesMask_eq_tabulate (segment : List Char) (pieces : List (List Char)) :
    piecesMask segment pieces =
      Mask.tabulate (fun rest => (gapSearch pieces rest).isSome) segment := by
  fun_induction piecesMask segment pieces with
  | case1 => exact Mask.final_eq_tabulate segment []
  | case2 piece =>
    rw [Mask.final_eq_tabulate segment [], Mask.behindPiece_tabulate]
    rfl
  | case3 piece pieces hne ih =>
    rw [ih, Mask.behindRun_tabulate, Mask.behindPiece_tabulate, gapSearch]
    · congr 1
      funext rest
      rw [Row.pieceThen, Row.pieceThen]
      split <;> simp
    · exact hne

theorem acceptsSegment_eq (pieces : List (List Char)) (segment : List Char) :
    acceptsSegment pieces segment = (gapSearch pieces segment).isSome := by
  rw [acceptsSegment, piecesMask_eq_tabulate, Mask.first_tabulate]

/-! ## Tokens over segments -/

namespace Token

/-- A token of one segment accepts where it takes the segment and there is an answer behind it. -/
theorem itemThen_eq {admissible : List Char → Bool} {take? : List Char → Option (List Run)}
    (h : ∀ segment, admissible segment = (take? segment).isSome)
    (answer : List (List Char) → Option (List Run)) (segments : List (List Char)) :
    Mask.itemThen admissible (fun rest => (answer rest).isSome) segments =
      (Row.segmentThen take? answer segments).isSome := by
  cases segments with
  | nil => rfl
  | cons segment segments =>
    rw [Mask.itemThen, Row.segmentThen, h]
    cases answer segments <;> simp

theorem mask_tabulate (token : Token) (answer : List (List Char) → Option (List Run))
    (segments : List (List Char)) :
    token.mask segments (Mask.tabulate (fun rest => (answer rest).isSome) segments) =
      Mask.tabulate (fun rest => (token.andThen answer rest).isSome) segments := by
  cases token with
  | literal | one =>
    rw [mask, Mask.behindItem_tabulate]
    congr 1
    funext rest
    exact itemThen_eq (fun segment => by split <;> simp [*]) answer rest
  | many =>
    rw [mask, Mask.behindRun_tabulate]
    congr 1
    funext rest
    exact (Option.isSome_map ..).symm
  | pieced pieces =>
    rw [mask, Mask.behindItem_tabulate]
    congr 1
    funext rest
    exact itemThen_eq (fun segment => by rw [acceptsSegment_eq, Option.isSome_map]) answer rest

/-- The masks of tokens are the tables of what their search finds. -/
theorem maskOf_eq_tabulate (segments : List (List Char)) (tokens : List Token) :
    maskOf segments tokens = Mask.tabulate (fun rest => (search tokens rest).isSome) segments := by
  induction tokens with
  | nil => exact Mask.final_eq_tabulate segments []
  | cons token tokens ih => rw [maskOf, ih, mask_tabulate]; rfl

end Token

/-- A name matches exactly if there are captures. -/
theorem Glob.isMatch_eq (glob : Glob) (name : String) :
    glob.isMatch name = (glob.captures? name).isSome := by
  rw [isMatch, Token.accepts, Token.maskOf_eq_tabulate, Mask.first_tabulate, captures?,
    Token.capturesOf?_eq, Option.isSome_map, Option.isSome_map]

end ModuleSynthesis
