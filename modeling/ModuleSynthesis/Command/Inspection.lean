import ModuleSynthesis.Command.Journal

/-!
# Listing the loaders of a manifest

* `Inspection`: a manifest that was accepted, as JSON and as text.
* `Inspection.report`: the report of the command.
-/

namespace ModuleSynthesis

/-- A style in JSON. -/
def Style.toJson (style : Style) : Json :=
  .object [("header", .text style.header), ("trailer", .text style.trailer)]

/-- A rule of a manifest in JSON. -/
def RuleEntry.toJson (rule : RuleEntry) : Json :=
  .object [("pattern", .text rule.pattern), ("action", .text rule.action.name),
    ("fragments", .texts rule.fragments), ("message", .text? rule.message?)]

/-- A rule of a manifest on one line. -/
def RuleEntry.line (rule : RuleEntry) : String :=
  "      " ++ rule.pattern ++ " -> " ++ rule.action.title ++ " (" ++
    toString rule.fragments.length ++ " fragment(s))"

/-- A loader of a manifest in JSON. -/
def LoaderEntry.toJson (entry : LoaderEntry) (id : String) : Json :=
  .object [("id", .text id),
    ("matchOnly", match entry.matchOnly? with
      | some choice => .texts choice.globs
      | none => .null),
    ("fragmentPolicy", .text entry.fragmentPolicy.name),
    ("rules", .array (entry.rules.map RuleEntry.toJson))]

/-- A loader of a manifest on several lines. -/
def LoaderEntry.lines (entry : LoaderEntry) (id : String) : List String :=
  let matchOnly := match entry.matchOnly? with
    | some choice => ["      match_only: " ++ ", ".intercalate choice.globs]
    | none => []
  ("  - " ++ id) :: (matchOnly ++ entry.rules.map RuleEntry.line)

/-- A manifest that was accepted. -/
structure Inspection where
  /-- Where the manifest was found. -/
  path : String
  /-- The manifest. -/
  manifest : Manifest
deriving DecidableEq, Repr

namespace Inspection

/-- The loaders with their ids. -/
def loaders (inspection : Inspection) : List (LoaderEntry × String) :=
  inspection.manifest.loaders.zip inspection.manifest.loaderIds

/-- The listing in JSON. -/
def toJson (inspection : Inspection) : Json :=
  .object [("manifest", .text inspection.path), ("result", .text "accepted"),
    ("registryPolicy", .text inspection.manifest.policy.name),
    ("emit", inspection.manifest.style.toJson),
    ("loaders", .array (inspection.loaders.map fun (entry, id) => entry.toJson id))]

/-- The listing as text. -/
def toText (inspection : Inspection) : String :=
  Report.lines (["modsynth check " ++ inspection.path,
    "  Registry policy: " ++ inspection.manifest.policy.title,
    "  Loaders: " ++ toString inspection.manifest.loaders.length] ++
    inspection.loaders.flatMap fun (entry, id) => entry.lines id)

/-- Lists the loaders of the manifest under a path. -/
def report (path : String) (json : Bool) (surroundings : Surroundings) : Report :=
  match surroundings.manifest path with
  | .error message => .refused message
  | .ok manifest =>
    let inspection : Inspection := ⟨path, manifest⟩
    { stdout := if json then Report.ofJson inspection.toJson else inspection.toText
      diagnostics := [.log (loadedRecord path manifest)] }

end Inspection

end ModuleSynthesis
