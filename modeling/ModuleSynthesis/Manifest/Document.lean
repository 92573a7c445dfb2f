import ModuleSynthesis.Manifest.Compile
import ModuleSynthesis.Toml.Document

/-!
# Manifests in TOML

A manifest is written as a TOML document. Unknown keys are errors, and so are values of the wrong
kind; the first fault in the order of the document is reported.

* `ShapeError`: how a document differs from a manifest.
* `Manifest.ofToml?`: the manifest that the entries of a document denote.
* `Manifest.read`: the manifest that a text denotes, if its loaders compile.
-/

namespace ModuleSynthesis

open Toml (Value)

/-- How a document differs from a manifest. -/
inductive ShapeError where
  /-- A table has a key that means nothing. -/
  | unknownField (field : String) (known : List String)
  /-- A word is none of those that may stand there. -/
  | unknownVariant (variant : String) (known : List String)
  /-- A table lacks a key. -/
  | missingField (field : String)
  /-- A value is of the wrong kind. -/
  | invalidType (found : Value) (expected : String)
  /-- A value is neither a glob nor a list of globs. -/
  | noGlobChoice
  /-- An array that stands for a table is too short. -/
  | invalidLength (length : Nat) (expected : String)
  /-- A value that stands for a word is malformed. -/
  | invalidVariant (fault : String)

namespace ShapeError

/-- The wording of what may stand somewhere. -/
def expected : List String → String
  | [] => "there are no fields"
  | [a] => "expected `" ++ a ++ "`"
  | [a, b] => "expected `" ++ a ++ "` or `" ++ b ++ "`"
  | known => "expected one of " ++ ", ".intercalate (known.map fun k => "`" ++ k ++ "`")

/-- The wording of an error. -/
def message : ShapeError → String
  | .unknownField field known => "unknown field `" ++ field ++ "`, " ++ expected known
  | .unknownVariant variant known => "unknown variant `" ++ variant ++ "`, " ++ expected known
  | .missingField field => "missing field `" ++ field ++ "`"
  | .invalidType found expected =>
    "invalid type: " ++ found.describe ++ ", expected " ++ expected
  | .noGlobChoice => "data did not match any variant of untagged enum OneOrMany"
  | .invalidLength length expected =>
    "invalid length " ++ toString length ++ ", expected " ++ expected
  | .invalidVariant fault => fault

end ShapeError

/-! ## Values -/

/-- What a value denotes. -/
abbrev Decoded (α : Type) := Except ShapeError α

namespace Decode

/-- A text. -/
def text : Value → Decoded String
  | .string text => .ok text
  | value => .error (.invalidType value "a string")

/-- All values of a list. -/
def all {α : Type} (decode : Value → Decoded α) : List Value → Decoded (List α)
  | [] => .ok []
  | value :: values => do
    let item ← decode value
    let items ← all decode values
    return item :: items

/-- An array. -/
def list {α : Type} (decode : Value → Decoded α) : Value → Decoded (List α)
  | .array items | .tables items => all decode items
  | value => .error (.invalidType value "a sequence")

/-- One of some words. A table with one key stands for the key if there is nothing under it. -/
def word {α : Type} (known : List (String × α)) (value : Value) : Decoded α :=
  let find (word : String) : Decoded α :=
    match known.find? (·.1 = word) with
    | some (_, meaning) => .ok meaning
    | none => .error (.unknownVariant word (known.map (·.1)))
  match value with
  | .string word => find word
  | .table [] => .error (.invalidVariant "wanted exactly 1 element, found 0 elements")
  | .table [(key, inner)] =>
    match find key, inner with
    | .error error, _ => .error error
    | .ok meaning, .table [] | .ok meaning, .array [] => .ok meaning
    | .ok _, .table _ | .ok _, .array _ => .error (.invalidVariant "expected empty table")
    | .ok _, .tables _ => .error (.invalidVariant "expected empty array")
    | .ok _, .string _ => .error (.invalidVariant "expected table, found string")
    | .ok _, .integer _ => .error (.invalidVariant "expected table, found integer")
    | .ok _, .float _ => .error (.invalidVariant "expected table, found float")
    | .ok _, .boolean _ => .error (.invalidVariant "expected table, found boolean")
    | .ok _, .datetime _ => .error (.invalidVariant "expected table, found datetime")
  | .table _ => .error (.invalidVariant "wanted exactly 1 element, more than 1 element")
  | _ => .error (.invalidVariant "wanted string or table")

/-- One glob, or a list of them. -/
def globChoice : Value → Decoded GlobChoice
  | .string glob => .ok (.one glob)
  | value =>
    match list text value with
    | .ok globs => .ok (.many globs)
    | .error _ => .error .noGlobChoice

/-- The key under which a date or a time stands where it is taken for a table. -/
def dateKey : String := "$__toml_private_datetime"

/-- The entries of a table with known keys. An array stands for a table: its items are under the
keys in their order. A date or a time stands for a table with a key of its own. -/
def fields (title : String) (known : List String) (required : Nat) :
    Value → Decoded (List (String × Value))
  | .table entries => .ok entries
  | .datetime _ => .error (.unknownField dateKey known)
  | .array items | .tables items =>
    if items.length < required then
      .error (.invalidLength items.length
        ("struct " ++ title ++ " with " ++ toString known.length ++ " elements"))
    else .ok (known.zip items)
  | value => .error (.invalidType value ("struct " ++ title))

/-! ## Tables -/

/-- The keys of a style. -/
def styleKeys : List String := ["header", "trailer"]

/-- A style, one entry after another. -/
def style (value : Value) : Decoded Style := do
  (← fields "EmitStyle" styleKeys 0 value).foldlM (fun style (key, value) =>
    match key with
    | "header" => return { style with header := ← text value }
    | "trailer" => return { style with trailer := ← text value }
    | _ => .error (.unknownField key styleKeys)) {}

/-- The keys of a registry. -/
def registryKeys : List String := ["policy"]

/-- The policy of a registry. -/
def registry (value : Value) : Decoded RegistryPolicy := do
  (← fields "RegistrySection" registryKeys 0 value).foldlM (fun _ (key, value) =>
    match key with
    | "policy" => word (RegistryPolicy.all.map fun policy => (policy.name, policy)) value
    | _ => .error (.unknownField key registryKeys)) .firstWriterWins

/-- The keys of a rule. -/
def ruleKeys : List String := ["pattern", "action", "fragments", "message"]

/-- A rule, one entry after another; its glob is there once its key has occurred. -/
def rule (value : Value) : Decoded RuleEntry := do
  let start : Option String × RuleEntry := (none, { pattern := "" })
  let (pattern?, rule) ← (← fields "RuleDecl" ruleKeys 1 value).foldlM
    (fun (pattern?, rule) (key, value) =>
      match key with
      | "pattern" => return (some (← text value), rule)
      | "action" =>
        return (pattern?, { rule with
          action := ← word (RuleAction.all.map fun action => (action.name, action)) value })
      | "fragments" => return (pattern?, { rule with fragments := ← list text value })
      | "message" => return (pattern?, { rule with message? := some (← text value) })
      | _ => .error (.unknownField key ruleKeys)) start
  match pattern? with
  | some pattern => return { rule with pattern }
  | none => .error (.missingField "pattern")

/-- The keys of a loader. -/
def loaderKeys : List String := ["id", "match_only", "fragment_policy", "rule"]

/-- A loader, one entry after another. -/
def loader (value : Value) : Decoded LoaderEntry := do
  (← fields "LoaderDecl" loaderKeys 0 value).foldlM (fun loader (key, value) =>
    match key with
    | "id" => return { loader with id? := some (← text value) }
    | "match_only" => return { loader with matchOnly? := some (← globChoice value) }
    | "fragment_policy" =>
      return { loader with
        fragmentPolicy :=
          ← word (FragmentPolicy.all.map fun policy => (policy.name, policy)) value }
    | "rule" => return { loader with rules := ← list rule value }
    | _ => .error (.unknownField key loaderKeys)) {}

/-- The keys of a manifest. -/
def manifestKeys : List String := ["emit", "registry", "loader"]

end Decode

/-! ## Manifests -/

/-- Why a text is no manifest. -/
inductive ReadError where
  /-- The text is no TOML. -/
  | syntaxError
  /-- The document is no manifest. -/
  | shape (error : ShapeError)
  /-- The loaders of the manifest do not compile. -/
  | invalid (error : ManifestError)

namespace Manifest

/-- The manifest that the entries of a document denote. -/
def ofToml? (entries : List (String × Value)) : Decoded Manifest :=
  entries.foldlM (fun manifest (key, value) =>
    match key with
    | "emit" => return { manifest with style := ← Decode.style value }
    | "registry" => return { manifest with policy := ← Decode.registry value }
    | "loader" => return { manifest with loaders := ← Decode.list Decode.loader value }
    | _ => .error (.unknownField key Decode.manifestKeys)) {}

/-- The manifest that a text denotes, if its loaders compile. -/
def read (text : String) : Except ReadError Manifest :=
  match Toml.read? text with
  | none => .error .syntaxError
  | some entries =>
    match ofToml? entries with
    | .error error => .error (.shape error)
    | .ok manifest =>
      match manifest.compile (.own 0) (σ := Unit) with
      | .error error => .error (.invalid error)
      | .ok _ => .ok manifest

end Manifest

end ModuleSynthesis
