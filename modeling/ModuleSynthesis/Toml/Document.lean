import ModuleSynthesis.Toml.Scalar
import ModuleSynthesis.Toml.Tree

/-!
# TOML documents

A document is a list of lines; each names a table, adds an element to an array of tables, or puts
a value under a key. The lines are read one after another, and then said to the table that is
being built.

* `key?`: a key with its dots.
* `value?`: a value; arrays may run over several lines, inline tables may not.
* `statements?`: the lines of a document.
* `read?`: the entries of a document, or nothing when it is malformed.
-/

namespace ModuleSynthesis.Toml

/-- How deeply keys, arrays and inline tables may nest. -/
def nestingLimit : Nat := 80

/-! ## Blanks and comments -/

/-- A text without the spaces and tabs at its start. -/
def dropSpaces (text : List Char) : List Char :=
  text.dropWhile isSpace

/-- What stands behind the rest of a line on which nothing but a comment may stand. -/
def lineEnd? (inComment : Bool) : List Char → Option (List Char)
  | [] => some []
  | '\n' :: rest => some rest
  | '\r' :: '\n' :: rest => some rest
  | c :: rest =>
    if inComment then if isPlain c then lineEnd? true rest else none
    else if c = '#' then lineEnd? true rest
    else if isSpace c then lineEnd? false rest
    else none

/-- What stands behind blanks, line breaks and comments. -/
def dropBlankLines? (inComment : Bool) : List Char → Option (List Char)
  | [] => some []
  | '\n' :: rest => dropBlankLines? false rest
  | '\r' :: '\n' :: rest => dropBlankLines? false rest
  | c :: rest =>
    if inComment then if isPlain c then dropBlankLines? true rest else none
    else if c = '#' then dropBlankLines? true rest
    else if isSpace c then dropBlankLines? false rest
    else some (c :: rest)

/-! ## Keys -/

/-- Whether a character may stand in an unquoted key. -/
def isKeyChar (c : Char) : Bool :=
  c.isAlphanum || c == '_' || c == '-'

/-- A key without dots. -/
def simpleKey? (text : List Char) : Found String :=
  match text with
  | '"' :: rest => (basic? rest).map fun (key, rest) => (String.ofList key, rest)
  | '\'' :: rest => (literal? rest).map fun (key, rest) => (String.ofList key, rest)
  | _ =>
    match text.takeWhile isKeyChar with
    | [] => none
    | key => some (String.ofList key, text.dropWhile isKeyChar)

/-- The parts of a key, with the spaces around each of them, in at most so many steps. -/
def keyParts? : Nat → List Char → Found (List String)
  | 0, _ => none
  | steps + 1, text =>
    match simpleKey? (dropSpaces text) with
    | none => none
    | some (part, rest) =>
      match dropSpaces rest with
      | '.' :: rest => (keyParts? steps rest).map fun (parts, rest) => (part :: parts, rest)
      | rest => some ([part], rest)

/-- A key, as the parts in front of the last dot and the part behind it. -/
def key? (text : List Char) : Found (List String × String) :=
  match keyParts? (nestingLimit - 1) text with
  | none => none
  | some (parts, rest) =>
    match parts.getLast? with
    | some last => some ((parts.dropLast, last), rest)
    | none => none

/-! ## Values -/

mutual

/-- A value at the start of a text, in at most so many steps and at some depth. -/
def valueAt? : Nat → Nat → List Char → Found Value
  | 0, _, _ => none
  | steps + 1, depth, text =>
    match text with
    | '[' :: rest =>
      if depth + 1 < nestingLimit then
        (itemsAt? steps (depth + 1) rest).map fun (items, rest) => (.array items, rest)
      else none
    | '{' :: rest =>
      if depth + 1 < nestingLimit then
        match dropSpaces rest with
        | '}' :: rest => some (.table [], rest)
        | rest =>
          (pairsAt? steps (depth + 1) .nil rest).map fun (entries, rest) =>
            (.table entries.toValues, rest)
      else none
    | '"' :: _ | '\'' :: _ => (quotation? text).map fun (text, rest) => (.string text, rest)
    | _ => scalar? text

/-- The items of an array, up to its closing bracket. -/
def itemsAt? : Nat → Nat → List Char → Found (List Value)
  | 0, _, _ => none
  | steps + 1, depth, text =>
    match dropBlankLines? false text with
    | none => none
    | some (']' :: rest) => some ([], rest)
    | some text =>
      match valueAt? steps depth text with
      | none => none
      | some (item, rest) =>
        match dropBlankLines? false rest with
        | some (',' :: rest) =>
          (itemsAt? steps depth rest).map fun (items, rest) => (item :: items, rest)
        | some (']' :: rest) => some ([item], rest)
        | _ => none

/-- The entries of an inline table behind entries read before, up to its closing brace. -/
def pairsAt? : Nat → Nat → Entries → List Char → Found Entries
  | 0, _, _, _ => none
  | steps + 1, depth, entries, text =>
    match key? text with
    | some ((path, key), '=' :: rest) =>
      match valueAt? steps depth (dropSpaces rest) with
      | none => none
      | some (value, rest) =>
        match entries.assign path key value .header with
        | none => none
        | some entries =>
          match dropSpaces rest with
          | ',' :: rest => pairsAt? steps depth entries rest
          | '}' :: rest => some (entries, rest)
          | _ => none
    | _ => none

end

/-- A value at the start of a text. -/
def value? (text : List Char) : Found Value :=
  valueAt? (2 * text.length + 2) 0 text

/-! ## Lines -/

/-- What a line says. -/
inductive Statement where
  /-- A table is named. -/
  | table (path : List String) (key : String)
  /-- An element is added to an array of tables. -/
  | element (path : List String) (key : String)
  /-- A value is put under a key. -/
  | assignment (path : List String) (key : String) (value : Value)

/-- A line that says something. -/
def statement? (text : List Char) : Found Statement :=
  match text with
  | '[' :: '[' :: rest =>
    match key? rest with
    | some ((path, key), ']' :: ']' :: rest) =>
      (lineEnd? false rest).map (.element path key, ·)
    | _ => none
  | '[' :: rest =>
    match key? rest with
    | some ((path, key), ']' :: rest) => (lineEnd? false rest).map (.table path key, ·)
    | _ => none
  | _ =>
    match key? text with
    | some ((path, key), '=' :: rest) =>
      match value? (dropSpaces rest) with
      | some (value, rest) => (lineEnd? false rest).map (.assignment path key value, ·)
      | none => none
    | _ => none

/-- The lines of a document, in at most so many steps. -/
def statements? : Nat → List Char → Option (List Statement)
  | 0, _ => none
  | steps + 1, text =>
    match dropBlankLines? false text with
    | none => none
    | some [] => some []
    | some text =>
      match statement? text with
      | none => none
      | some (statement, rest) => (statements? steps rest).map (statement :: ·)

/-! ## Documents -/

/-- A document under construction. -/
structure Progress where
  /-- What has been built. -/
  root : Entries := .nil
  /-- The keys of the table that the latest header names. -/
  current : List String := []

/-- What a statement makes of a document. -/
def Statement.apply? (progress : Progress) : Statement → Option Progress
  | .table path key =>
    (progress.root.openTable path key).map fun root => ⟨root, path ++ [key]⟩
  | .element path key =>
    (progress.root.openElement path key).map fun root => ⟨root, path ++ [key]⟩
  | .assignment path key value =>
    (progress.root.descend false (Entries.assign path key value) progress.current .header).map
      fun root => { progress with root }

/-- A text without the byte order mark at its start. -/
def dropMark : List Char → List Char
  | '\uFEFF' :: rest => rest
  | text => text

/-- The entries of a document, or nothing when it is malformed. -/
def read? (text : String) : Option (List (String × Value)) :=
  let text := dropMark text.toList
  match statements? (text.length + 1) text with
  | none => none
  | some statements =>
    (statements.foldlM Statement.apply? {}).map fun progress => progress.root.toValues

end ModuleSynthesis.Toml
