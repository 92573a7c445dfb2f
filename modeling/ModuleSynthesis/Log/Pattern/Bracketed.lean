import ModuleSynthesis.Log.Pattern.Escape

/-!
# Classes in brackets

A class in brackets has characters, ranges, escapes, named classes and further classes as its
members, and operators between groups of members. At its start dashes stand for themselves, and so
does a closing bracket without dashes in front of it.

* `Pattern.OpenClass`: what has been read of a class.
* `Pattern.bracketed?`: the depth of the class behind an opening bracket, and what stands behind it.
-/

namespace ModuleSynthesis.Log

namespace Pattern

/-! ## Members -/

/-- The names of classes in double brackets. -/
def classNames : List String :=
  ["alnum", "alpha", "ascii", "blank", "cntrl", "digit", "graph", "lower", "print", "punct",
    "space", "upper", "word", "xdigit"]

/-- What stands behind a named class, with its bracket already read: whether it is negated. -/
def namedClass? : List Char → Option (Bool × List Char)
  | ':' :: rest =>
    let (negated, rest) := match rest with
      | '^' :: rest => (true, rest)
      | rest => (false, rest)
    match rest.dropWhile (· != ':') with
    | ':' :: ']' :: after =>
      if classNames.contains (String.ofList (rest.takeWhile (· != ':'))) then
        some (negated, after)
      else none
    | _ => none
  | _ => none

/-- A member of a class: a character, or an escape. A character beyond ASCII is no byte. -/
def member? (mode : Mode) (text : List Char) : Option (Escape × List Char) :=
  match text with
  | '\\' :: rest => (escape? mode rest).filter fun (escape, _) => isAllowed escape
  | c :: rest => if isAllowed (.character c) then some (.character c, rest) else none
  | [] => none
where
  /-- Whether a class may have this member. -/
  isAllowed : Escape → Bool
    | .character c => mode.unicode || c.toNat < 0x80
    | .kind _ => true
    | .position => false

/-- The character that tells whether a dash makes a range. Blanks in front of it do not count where
they are skipped, nor does the sign that opens a comment; what the comment says does. -/
def behindDash? (mode : Mode) (text : List Char) : Option Char :=
  if mode.spaced then
    match text.dropWhile Text.isBlank with
    | '#' :: comment => (comment.dropWhile Text.isBlank).head?
    | rest => rest.head?
  else text.head?

/-- What stands behind a member of a class, or behind a range of characters. -/
def range? (mode : Mode) (text : List Char) : Option (List Char) :=
  (member? mode text).bind fun (first, rest) =>
    match dropSpaces mode rest with
    | '-' :: rest =>
      if behindDash? mode rest = some ']' || behindDash? mode rest = some '-' then
        some ('-' :: rest)
      else
        match first, member? mode (dropSpaces mode rest) with
        | .character low, some (.character high, rest) => if low ≤ high then some rest else none
        | _, _ => none
    | rest => some rest

/-! ## Classes -/

/-- A class in brackets that is still open. -/
structure OpenClass where
  /-- Nothing but dashes has been read. -/
  atStart : Bool := true
  /-- The depth of what stands in front of the last operator. -/
  left? : Option Nat := none
  /-- The depths of the members behind it, last first. -/
  members : List Nat := []

namespace OpenClass

/-- The class with a further member of some depth. -/
def add (c : OpenClass) (depth : Nat) : OpenClass :=
  { c with atStart := false, members := depth :: c.members }

/-- The depth of what has been read: an operator is one deeper than its sides. -/
def depth (c : OpenClass) : Nat :=
  match c.left? with
  | some left => max left (sideBySide c.members) + 1
  | none => sideBySide c.members

/-- The class with an operator behind it. -/
def operator (c : OpenClass) : OpenClass where
  atStart := false
  left? := some c.depth
  members := []

end OpenClass

/-- What stands behind the caret of a class, with its bracket already read. All bytes but some are
not only ASCII. -/
def afterCaret? (mode : Mode) (text : List Char) : Option (List Char) :=
  match dropSpaces mode text with
  | '^' :: rest => if mode.unicode then some rest else none
  | rest => some rest

/-- The depth of a class of which some part has been read, and what stands behind it, in at most so
many steps. `outer` are the classes around it, innermost first. -/
def closeClass? (mode : Mode) :
    Nat → List OpenClass → OpenClass → List Char → Option (Nat × List Char)
  | 0, _, _, _ => none
  | steps + 1, outer, c, text =>
    let text := dropSpaces mode text
    if c.atStart && text.head? = some '-' then
      closeClass? mode steps outer { c with members := 0 :: c.members } (text.drop 1)
    else if c.atStart && c.members.isEmpty && text.head? = some ']' then
      closeClass? mode steps outer (c.add 0) (text.drop 1)
    else
      match text with
      | '[' :: rest =>
        match namedClass? rest with
        | some (negated, rest) =>
          if negated && !mode.unicode then none else closeClass? mode steps outer (c.add 0) rest
        | none => (afterCaret? mode rest).bind (closeClass? mode steps (c :: outer) {})
      | ']' :: rest =>
        match outer with
        | [] => some (c.depth + 1, rest)
        | around :: outer => closeClass? mode steps outer (around.add (c.depth + 1)) rest
      | '&' :: '&' :: rest | '-' :: '-' :: rest | '~' :: '~' :: rest =>
        closeClass? mode steps outer c.operator rest
      | text => (range? mode text).bind (closeClass? mode steps outer (c.add 0))

/-- The depth of a class, with its bracket already read, and what stands behind it. -/
def bracketed? (mode : Mode) (text : List Char) : Option (Nat × List Char) :=
  (afterCaret? mode text).bind (closeClass? mode (text.length + 1) [] {})

end Pattern

end ModuleSynthesis.Log
