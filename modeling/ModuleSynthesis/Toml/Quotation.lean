/-!
# Quoted text in TOML

The four ways to quote a text: between double quotes, with escapes, or between single quotes, as it
is; and each of them on one line or, between three quotes, on several. Every reader takes the text
behind the opening quotes and returns the content and what stands behind the closing ones.

* `isPlain`: the characters that may stand in a quoted text or a comment.
* `basic?`, `literal?`: texts on one line.
* `basicLines?`, `literalLines?`: texts on several lines.
* `quotation?`: any quoted text, from its first quote on.
-/

namespace ModuleSynthesis.Toml

/-- What a reader finds, and the text behind it; nothing where the text is malformed. -/
abbrev Found (α : Type) := Option (α × List Char)

/-- Puts a character in front of a text that was found. -/
def Found.push (c : Char) : Found (List Char) → Found (List Char)
  | some (text, rest) => some (c :: text, rest)
  | none => none

/-- Whether a character may stand for itself: it is a tab or no control character. -/
def isPlain (c : Char) : Bool :=
  c == '\t' || (0x20 ≤ c.toNat && c != '\x7F')

/-- Whether a character is a space or a tab. -/
def isSpace (c : Char) : Bool :=
  c == ' ' || c == '\t'

/-! ## Escapes -/

/-- The character that a backslash and a letter stand for. -/
def escaped? : Char → Option Char
  | 'b' => some '\x08'
  | 't' => some '\t'
  | 'n' => some '\n'
  | 'f' => some '\x0C'
  | 'r' => some '\r'
  | '"' => some '"'
  | '\\' => some '\\'
  | _ => none

/-- The value of a hexadecimal digit. -/
def hexValue? (c : Char) : Option Nat :=
  if c.isDigit then some (c.toNat - '0'.toNat)
  else if 'a' ≤ c ∧ c ≤ 'f' then some (c.toNat - 'a'.toNat + 10)
  else if 'A' ≤ c ∧ c ≤ 'F' then some (c.toNat - 'A'.toNat + 10)
  else none

/-- The value of hexadecimal digits. -/
def hexNumber? (digits : List Char) : Option Nat :=
  digits.foldlM (fun value c => (hexValue? c).map (16 * value + ·)) 0

/-- The character with a code point in hexadecimal, where there is one. -/
def codePoint? (digits : List Char) : Option Char :=
  match hexNumber? digits with
  | some n => if h : n.isValidChar then some (Char.ofNatAux n h) else none
  | none => none

/-! ## Texts on one line -/

/-- A text up to a double quote. -/
def basic? : List Char → Found (List Char)
  | '"' :: rest => some ([], rest)
  | '\\' :: 'u' :: a :: b :: c :: d :: rest =>
    match codePoint? [a, b, c, d] with
    | some char => (basic? rest).push char
    | none => none
  | '\\' :: 'U' :: a :: b :: c :: d :: e :: f :: g :: h :: rest =>
    match codePoint? [a, b, c, d, e, f, g, h] with
    | some char => (basic? rest).push char
    | none => none
  | '\\' :: letter :: rest =>
    match escaped? letter with
    | some char => (basic? rest).push char
    | none => none
  | c :: rest => if isPlain c then (basic? rest).push c else none
  | [] => none

/-- A text up to a single quote. -/
def literal? : List Char → Found (List Char)
  | '\'' :: rest => some ([], rest)
  | c :: rest => if isPlain c then (literal? rest).push c else none
  | [] => none

/-! ## Texts on several lines -/

/-- A text without a line break at its start. -/
def dropNewline : List Char → List Char
  | '\n' :: rest => rest
  | '\r' :: '\n' :: rest => rest
  | text => text

/-- Where in a text on several lines a reader is. -/
inductive Place where
  /-- In the text itself. -/
  | text
  /-- Behind a backslash that a line break has to follow. -/
  | lineEnd
  /-- Among the blanks and line breaks behind such a line break. -/
  | blanks
deriving DecidableEq

/-- A text up to three double quotes. Up to two quotes in front of them belong to the text. A
backslash at the end of a line takes the line break and all blanks behind it away. -/
def basicLines? : Place → List Char → Found (List Char)
  | .lineEnd, '\n' :: rest => basicLines? .blanks rest
  | .lineEnd, '\r' :: '\n' :: rest => basicLines? .blanks rest
  | .lineEnd, c :: rest => if isSpace c then basicLines? .lineEnd rest else none
  | .blanks, '\n' :: rest => basicLines? .blanks rest
  | .blanks, '\r' :: '\n' :: rest => basicLines? .blanks rest
  | .blanks, ' ' :: rest => basicLines? .blanks rest
  | .blanks, '\t' :: rest => basicLines? .blanks rest
  | _, '"' :: '"' :: '"' :: '"' :: '"' :: rest => some (['"', '"'], rest)
  | _, '"' :: '"' :: '"' :: '"' :: rest => some (['"'], rest)
  | _, '"' :: '"' :: '"' :: rest => some ([], rest)
  | _, '\\' :: 'u' :: a :: b :: c :: d :: rest =>
    match codePoint? [a, b, c, d] with
    | some char => (basicLines? .text rest).push char
    | none => none
  | _, '\\' :: 'U' :: a :: b :: c :: d :: e :: f :: g :: h :: rest =>
    match codePoint? [a, b, c, d, e, f, g, h] with
    | some char => (basicLines? .text rest).push char
    | none => none
  | _, '\\' :: letter :: rest =>
    if letter = '\n' then basicLines? .blanks rest
    else if isSpace letter || letter = '\r' then
      match letter, rest with
      | '\r', '\n' :: rest => basicLines? .blanks rest
      | '\r', _ => none
      | _, rest => basicLines? .lineEnd rest
    else
      match escaped? letter with
      | some char => (basicLines? .text rest).push char
      | none => none
  | _, '\r' :: '\n' :: rest => (basicLines? .text rest).push '\n'
  | _, c :: rest => if isPlain c || c = '\n' then (basicLines? .text rest).push c else none
  | _, [] => none

/-- A text up to three single quotes. Up to two quotes in front of them belong to the text. -/
def literalLines? : List Char → Found (List Char)
  | '\'' :: '\'' :: '\'' :: '\'' :: '\'' :: rest => some (['\'', '\''], rest)
  | '\'' :: '\'' :: '\'' :: '\'' :: rest => some (['\''], rest)
  | '\'' :: '\'' :: '\'' :: rest => some ([], rest)
  | '\r' :: '\n' :: rest => (literalLines? rest).push '\n'
  | c :: rest => if isPlain c || c = '\n' then (literalLines? rest).push c else none
  | [] => none

/-- A quoted text, from its first quote on. -/
def quotation? : List Char → Found String
  | '"' :: '"' :: '"' :: rest => (basicLines? .text (dropNewline rest)).map asString
  | '\'' :: '\'' :: '\'' :: rest => (literalLines? (dropNewline rest)).map asString
  | '"' :: rest => (basic? rest).map asString
  | '\'' :: rest => (literal? rest).map asString
  | _ => none
where
  /-- The content as a string. -/
  asString : List Char × List Char → String × List Char
    | (text, rest) => (String.ofList text, rest)

end ModuleSynthesis.Toml
