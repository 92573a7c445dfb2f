import ModuleSynthesis.Digest

/-!
# Source units

A generated module is a text: a header line with the name, the fragments in the order in which
they were collected, and a trailer line. Each of them ends its line, whether or not it is written
with a line feed at its end.

* `Style`: the header and the trailer.
* `Style.render`: the text of a unit.
* `SourceUnit`: a generated module with what is known of its making.
-/

namespace ModuleSynthesis

/-- The lines around the fragments of a unit. -/
structure Style where
  /-- The first line; the placeholder for the name may stand in it any number of times. -/
  header : String := "package {name};"
  /-- The last line. -/
  trailer : String := "1;"
deriving DecidableEq, Repr

namespace Style

/-- A header with a name in every place of its placeholder. -/
def fillName (name : List Char) : List Char → List Char
  | '{' :: 'n' :: 'a' :: 'm' :: 'e' :: '}' :: rest => name ++ fillName name rest
  | c :: rest => c :: fillName name rest
  | [] => []

/-- A text that ends with a line feed; one is added where none is. -/
def line (text : List Char) : List Char :=
  if text.getLast? = some '\n' then text else text ++ ['\n']

/-- The text of a unit. -/
def renderChars (style : Style) (name : String) (fragments : List String) : List Char :=
  line (fillName name.toList style.header.toList) ++
    (fragments.flatMap (line ·.toList) ++ line style.trailer.toList)

/-- The text of a unit. -/
def render (style : Style) (name : String) (fragments : List String) : String :=
  String.ofList (style.renderChars name fragments)

end Style

/-- A generated module. -/
structure SourceUnit where
  /-- The name of the module. -/
  name : String
  /-- The id of the loader that generated it. -/
  loader : String
  /-- The glob of the rule that finished it. -/
  pattern : String
  /-- The fragments, in order. -/
  fragments : List String
  /-- The text. -/
  source : String
deriving DecidableEq, Repr

namespace SourceUnit

/-- The unit that a style makes of fragments. -/
def assemble (style : Style) (name loader pattern : String) (fragments : List String) :
    SourceUnit :=
  { name, loader, pattern, fragments, source := style.render name fragments }

/-- The digest of the text. -/
def digest (unit : SourceUnit) : String :=
  ModuleSynthesis.digest unit.source

end SourceUnit

end ModuleSynthesis
