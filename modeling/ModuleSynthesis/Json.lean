import ModuleSynthesis.Text.Character

/-!
# JSON

JSON values and the way they are written: one entry on a line, two spaces for each level, objects
in the order of their keys, and empty arrays and objects closed at once.

* `Json.object`: an object from its entries, which are put in order.
* `Json.pretty`: a value as it is written.
-/

namespace ModuleSynthesis

/-- A JSON value. -/
inductive Json where
  /-- Nothing. -/
  | null
  /-- A truth value. -/
  | boolean (value : Bool)
  /-- A natural number. -/
  | number (value : Nat)
  /-- A text. -/
  | text (value : String)
  /-- Values in a row. -/
  | array (items : List Json)
  /-- Values under keys, which are written in this order. -/
  | record (fields : List (String × Json))
deriving Inhabited

namespace Json

/-- An object from its entries, which are put in the order of their keys. -/
def object (entries : List (String × Json)) : Json :=
  .record (entries.mergeSort fun a b => a.1 ≤ b.1)

/-- Texts in a row. -/
def texts (values : List String) : Json :=
  .array (values.map .text)

/-- A text, or nothing. -/
def text? : Option String → Json
  | some value => .text value
  | none => .null

/-! ## Writing -/

/-- A character as it stands in a quoted text. -/
def escaped (c : Char) : List Char :=
  if c = '"' then ['\\', '"']
  else if c = '\\' then ['\\', '\\']
  else if c = '\n' then ['\\', 'n']
  else if c = '\r' then ['\\', 'r']
  else if c = '\t' then ['\\', 't']
  else if c = '\x08' then ['\\', 'b']
  else if c = '\x0C' then ['\\', 'f']
  else if c.toNat < 0x20 then '\\' :: 'u' :: Text.hexDigits 4 c.toNat
  else [c]

/-- A text with its quotes. -/
def quoted (value : String) : String :=
  String.ofList ('"' :: (value.toList.flatMap escaped ++ ['"']))

/-- A line break and the blanks of a level. -/
def lineBreak (level : Nat) : String :=
  String.ofList ('\n' :: List.replicate (2 * level) ' ')

mutual

/-- A value as it is written at some level. -/
def prettyAt (level : Nat) : Json → String
  | .null => "null"
  | .boolean value => toString value
  | .number value => toString value
  | .text value => quoted value
  | .array [] => "[]"
  | .array items =>
    "[" ++ ",".intercalate (prettyItems (level + 1) items) ++ lineBreak level ++ "]"
  | .record [] => "\x7b\x7d"
  | .record fields =>
    "\x7b" ++ ",".intercalate (prettyFields (level + 1) fields) ++ lineBreak level ++ "\x7d"

/-- Items, each on a line of its own. -/
def prettyItems (level : Nat) : List Json → List String
  | [] => []
  | item :: items => (lineBreak level ++ item.prettyAt level) :: prettyItems level items

/-- Keys and values, each pair on a line of its own. -/
def prettyFields (level : Nat) : List (String × Json) → List String
  | [] => []
  | (key, value) :: fields =>
    (lineBreak level ++ quoted key ++ ": " ++ value.prettyAt level) :: prettyFields level fields

end

/-- A value as it is written. -/
def pretty (json : Json) : String :=
  json.prettyAt 0

end Json

end ModuleSynthesis
