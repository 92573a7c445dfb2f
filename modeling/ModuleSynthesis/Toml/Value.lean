import ModuleSynthesis.Decimal.Shortest
import ModuleSynthesis.Text.Quoted

/-!
# TOML values

What a TOML 1.0 document holds. Tables keep the order in which their keys first occur. Numbers
with a fraction are rounded to 64 bits; dates and times are kept as they are written.

* `Value`: a value.
* `Value.describe`: what a value is, for messages.
-/

namespace ModuleSynthesis.Toml

/-- A value of a document. -/
inductive Value where
  /-- A text. -/
  | string (text : String)
  /-- A whole number. -/
  | integer (value : Int)
  /-- A number with a fraction. -/
  | float (value : Binary64)
  /-- A truth value. -/
  | boolean (value : Bool)
  /-- A date, a time or both, as they are written. -/
  | datetime (text : String)
  /-- Values in a row. -/
  | array (items : List Value)
  /-- Tables in a row, each with a header of its own. -/
  | tables (items : List Value)
  /-- Values under keys. -/
  | table (entries : List (String × Value))
deriving Repr, Inhabited

/-- What a value is, for messages. -/
def Value.describe : Value → String
  | .string text => "string " ++ Text.quoted text
  | .integer value => "integer `" ++ toString value ++ "`"
  | .float value => "floating point `" ++ value.written ++ "`"
  | .boolean value => "boolean `" ++ toString value ++ "`"
  | .datetime _ | .table _ => "map"
  | .array _ | .tables _ => "sequence"

end ModuleSynthesis.Toml
