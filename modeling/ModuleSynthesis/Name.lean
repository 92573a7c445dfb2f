import ModuleSynthesis.Text.Blank
import ModuleSynthesis.Text.Delimited

/-!
# Module names, requests and request paths

A module is asked for by a *request*: a path with slashes or backslashes, or a name with `::`,
possibly with a file extension, a leading `./` or blanks around it. All spellings of one module
have the same *name*, whose segments are delimited by `::`. A name is written back as a *request
path* by putting a slash for every delimiter and adding an extension.

* `Name.ofRequest`: the name that a request asks for.
* `Name.toPath`: the request path of a name.
* `Name.segments`, `Name.leaf`: the parts of a name.
* `Name.isWellFormed`: no segment is empty.
-/

namespace ModuleSynthesis.Name

open Text

/-! ## Names from requests -/

/-- A text without the `./` at its start, however often it is repeated. -/
def dropHere : List Char → List Char
  | '.' :: '/' :: rest => dropHere rest
  | text => text

/-- A path separator is a delimiter; every other character stands for itself. -/
def ofPathChar (c : Char) : List Char :=
  if c = '/' ∨ c = '\\' then delimiter else [c]

/-- The text before the last dot, or nothing when there is no dot. -/
def beforeLastDot? : List Char → Option (List Char)
  | [] => none
  | c :: rest =>
    match beforeLastDot? rest with
    | some stem => some (c :: stem)
    | none => if c = '.' then some [] else none

/-- A segment without its extension. A dot that starts the segment starts no extension. -/
def stem (segment : List Char) : List Char :=
  match beforeLastDot? segment with
  | some (c :: rest) => c :: rest
  | _ => segment

/-- A name without the extension of its last segment. -/
def stripExtension (name : List Char) : List Char :=
  match splitLast? name with
  | some (front, leaf) => front ++ stem leaf
  | none => stem name

/-- The name that a request asks for: blanks around the request and any `./` in front go, path
separators become delimiters, delimiters in front go, and so does the extension of the leaf. -/
def ofRequestChars (request : List Char) : List Char :=
  stripExtension (dropDelimiters ((dropHere (trim request)).flatMap ofPathChar))

/-- The name that a request asks for. -/
def ofRequest (request : String) : String :=
  String.ofList (ofRequestChars request.toList)

/-! ## Parts of a name -/

/-- The segments of a name. -/
def segments (name : String) : List String :=
  (split name.toList).map String.ofList

/-- The last segment of a name. -/
def leaf (name : String) : String :=
  ((segments name).getLast?).getD ""

/-- A name is well formed when it has no empty segment. -/
def isWellFormed (name : String) : Bool :=
  (split name.toList).all (!·.isEmpty)

/-! ## Request paths -/

/-- The extension of request paths where none is chosen. -/
def defaultExtension : String := "pm"

/-- The segments of a name with slashes between them. -/
def slashed : List (List Char) → List Char
  | [] => []
  | [segment] => segment
  | segment :: segments => segment ++ '/' :: slashed segments

/-- The request path of a name: slashes for delimiters, and a dot and the extension behind it
unless the extension is empty. -/
def toPathChars (name extension : List Char) : List Char :=
  let path := slashed (split name)
  if extension.isEmpty then path else path ++ '.' :: extension

/-- The request path of a name. -/
def toPath (name extension : String) : String :=
  String.ofList (toPathChars name.toList extension.toList)

end ModuleSynthesis.Name
