import ModuleSynthesis.Log.Pattern.Basic

/-!
# Escapes of expressions

* `Pattern.Escape`: what stands behind a backslash: a character, a class of characters, or a place.
* `Pattern.escape?`: the escape at the start of a text.
-/

namespace ModuleSynthesis.Log

namespace Pattern

/-- What an escape stands for. -/
inductive Escape where
  /-- A character. -/
  | character (c : Char)
  /-- A class of characters, or all others. -/
  | kind (negated : Bool)
  /-- A place. -/
  | position

/-- The value of a hexadecimal digit. -/
def hexValue? (c : Char) : Option Nat :=
  if '0' ≤ c && c ≤ '9' then some (c.toNat - '0'.toNat)
  else if 'a' ≤ c && c ≤ 'f' then some (c.toNat - 'a'.toNat + 10)
  else if 'A' ≤ c && c ≤ 'F' then some (c.toNat - 'A'.toNat + 10)
  else none

/-- The number in so many hexadecimal digits, behind digits of some value. Spaces between the digits
are skipped as elsewhere. -/
def hexNumber? (mode : Mode) : Nat → Nat → List Char → Option (Nat × List Char)
  | 0, value, text => some (value, text)
  | count + 1, value, text =>
    match dropSpaces mode text with
    | c :: rest => (hexValue? c).bind fun digit => hexNumber? mode count (16 * value + digit) rest
    | [] => none

/-- The character of a code point in so many hexadecimal digits; a byte beyond ASCII is none. -/
def hexEscape? (mode : Mode) (count : Nat) (text : List Char) : Option (Escape × List Char) :=
  match hexNumber? mode count 0 text with
  | some (value, rest) =>
    if !value.isValidChar || (count = 2 && !mode.unicode && 0x80 ≤ value) then none
    else some (.character (Char.ofNat value), rest)
  | none => none

/-- The escape behind a backslash. Ends of words are known among bytes only. -/
def escape? (mode : Mode) : List Char → Option (Escape × List Char)
  | [] => none
  | c :: rest =>
    match c with
    | 'x' => hexEscape? mode 2 rest
    | 'u' => hexEscape? mode 4 rest
    | 'U' => hexEscape? mode 8 rest
    | 'd' | 's' | 'w' => some (.kind false, rest)
    | 'D' | 'S' | 'W' => if mode.unicode then some (.kind true, rest) else none
    | 'p' | 'P' =>
      match dropSpaces mode rest with
      | letter :: rest =>
        if mode.unicode && "clmnpszCLMNPSZ".toList.contains letter then
          some (.kind (c == 'P'), dropSpaces mode rest)
        else none
      | [] => none
    | 'a' => some (.character '\x07', rest)
    | 'f' => some (.character '\x0C', rest)
    | 't' => some (.character '\t', rest)
    | 'n' => some (.character '\n', rest)
    | 'r' => some (.character '\r', rest)
    | 'v' => some (.character '\x0B', rest)
    | 'A' | 'z' => some (.position, rest)
    | 'b' => if mode.unicode || rest.head? = some '\x7b' then none else some (.position, rest)
    | 'B' | '<' | '>' => if mode.unicode then none else some (.position, rest)
    | _ => if c.toNat < 0x80 && !c.isAlphanum then some (.character c, rest) else none

end Pattern

end ModuleSynthesis.Log
